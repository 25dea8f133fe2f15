import DriveReach.Discovery.Resolve
import DriveReach.Proofs.Controller.Queries
import DriveReach.Proofs.Discovery.Ambiguity
import DriveReach.Proofs.Discovery.Opening
import DriveReach.Proofs.Inventory.Survey
/-!
# The address that the RAID sets give

When the expected identity is all that is known of a device, its address is looked for in the RAID
sets. The scan keeps the first address that a drive with the identity is reported at, and gives up
at another one. Whether the address is usable is asked at the end, of the one that was kept.

* `decides_mergeMatches`: what the drives of one set decide.
* `scanned_scanSets`, `scanned_scanRaid`: what all sets decide, when the driver answers for them.
* `RefusesRaid.ne_ambiguous`: the driver's own faults are others than that of two addresses.
* `scanned_addresses`: the scan by the addresses that were reported.
-/

set_option autoImplicit false

namespace DriveReach

open Csmi Dialogue Inventory

variable {c : Controller} {xs : List Exchange} {fault : Fault}

/-! ## Refusals -/

namespace Inventory

variable {room : Nat} {indices : List UInt32} {family : Driver.Family}

/-- What ends the questions for RAID sets is a call that does not go through. -/
theorem BreaksSets.fault_eq (h : BreaksSets c room indices xs fault) :
    ∃ reason, fault = .transport reason := by
  induction h with
  | @broken index _ _ _ hc hdeclined =>
    have himage : (Controller.Query.raidConfig index room).imageLength < UInt32.size := by
      change 0 < UInt32.size
      decide
    rcases (Controller.Query.raidConfig index room).fault_of_course himage hc with
      htransport | hyes
    · exact htransport
    · rw [hdeclined] at hyes
      cases hyes
  | answered _ _ ih => exact ih
  | declined _ _ _ ih => exact ih

/-- The RAID questions end with a fault of the driver. -/
theorem RefusesRaid.ne_ambiguous (h : RefusesRaid c family xs fault) (text : String) :
    fault ≠ .ambiguous text := by
  rintro rfl
  cases h with
  | info hc _ =>
    rcases Controller.Query.raidInfo.fault_of_course (by decide) hc with ⟨_, h⟩ | h
    · cases h
    · cases h
  | sets _ hb =>
    obtain ⟨_, h⟩ := hb.fault_eq
    cases h

end Inventory

namespace Discovery

variable {identity : Identity} {r : Except Fault (Option SasAddress)}

/-! ## The drives of a set -/

/-- The addresses of the drives that have the expected identity. -/
def addressesOf (identity : Identity) (drives : List RaidDrive) : List SasAddress :=
  (drives.filter fun d => identity.accepts d.model d.serialNumber).map (·.sasAddress)

theorem addressesOf_nil : addressesOf identity [] = [] := rfl

theorem addressesOf_append {drives others : List RaidDrive} :
    addressesOf identity (drives ++ others) =
      addressesOf identity drives ++ addressesOf identity others := by
  rw [addressesOf, List.filter_append, List.map_append]
  rfl

theorem addressesOf_cons_of_accepts {drive : RaidDrive} {drives : List RaidDrive}
    (h : identity.accepts drive.model drive.serialNumber = true) :
    addressesOf identity (drive :: drives) = drive.sasAddress :: addressesOf identity drives := by
  simp only [addressesOf, List.filter_cons, h, if_true, List.map_cons]

theorem addressesOf_cons_of_not_accepts {drive : RaidDrive} {drives : List RaidDrive}
    (h : ¬ identity.accepts drive.model drive.serialNumber = true) :
    addressesOf identity (drive :: drives) = addressesOf identity drives := by
  simp only [addressesOf, List.filter_cons, if_neg h]

theorem mem_addressesOf {drives : List RaidDrive} {a : SasAddress} :
    a ∈ addressesOf identity drives ↔ ∃ d ∈ drives,
      identity.accepts d.model d.serialNumber = true ∧ d.sasAddress = a := by
  simp only [addressesOf, List.mem_map, List.mem_filter, and_assoc]

namespace Search

/-- The drives of a list decide by their addresses, behind the one that was found before. -/
theorem decides_mergeMatches (found : Option SasAddress) (drives : List RaidDrive) :
    Decides id (found.toList ++ addressesOf identity drives)
      (mergeMatches identity found drives) := by
  induction drives generalizing found with
  | nil =>
    rw [addressesOf_nil, List.append_nil]
    exact .found found
  | cons drive drives ih =>
    unfold mergeMatches
    by_cases haccepts : identity.accepts drive.model drive.serialNumber = true
    · rw [addressesOf_cons_of_accepts haccepts, if_pos haccepts]
      cases found with
      | none => exact ih (some drive.sasAddress)
      | some address =>
        dsimp only
        split
        · rename_i heq
          exact .cons_same heq.symm (ih (some address))
        · rename_i hne
          exact .cons_other (Ne.symm hne) _
    · rw [addressesOf_cons_of_not_accepts haccepts, if_neg haccepts]
      exact ih found

/-! ## All sets -/

/-- The end of a scan that has met some addresses. `answered` says that the driver dealt with all
questions, and `broken` with which fault it did not deal with one. -/
inductive Scanned (addresses : List SasAddress) (answered : Prop) (broken : Fault → Prop) :
    Except Fault (Option SasAddress) → Prop
  | all : SameMark id addresses → answered → Scanned addresses answered broken (.ok addresses.head?)
  | rivals (text : String) :
    ¬ SameMark id addresses → Scanned addresses answered broken (.error (.ambiguous text))
  | broken {fault : Fault} :
    SameMark id addresses → broken fault → Scanned addresses answered broken (.error fault)

namespace Scanned

variable {addresses : List SasAddress} {answered answered' : Prop} {broken broken' : Fault → Prop}

theorem mono (hanswered : answered → answered') (hbroken : ∀ fault, broken fault → broken' fault)
    (h : Scanned addresses answered broken r) : Scanned addresses answered' broken' r := by
  cases h with
  | all hsame ha => exact .all hsame (hanswered ha)
  | rivals text hother => exact .rivals text hother
  | broken hsame hb => exact .broken hsame (hbroken _ hb)

theorem all_of_toList {found : Option SasAddress} (h : answered) :
    Scanned found.toList answered broken (.ok found) := by
  have hall : Scanned found.toList answered broken (.ok found.toList.head?) :=
    .all (sameMark_toList found) h
  rwa [Option.head?_toList] at hall

/-- A scan that goes on from the first of some addresses goes on from all of them. -/
theorem of_first {first rest : List SasAddress} (hfirst : SameMark id first)
    (h : Scanned (first.head?.toList ++ rest) answered broken r) :
    Scanned (first ++ rest) answered broken r := by
  cases h with
  | all hsame ha =>
    rw [head?_toList_append]
    exact .all ((sameMark_append_iff hfirst).1 hsame) ha
  | rivals text hother =>
    exact .rivals text fun hsame => hother ((sameMark_append_iff hfirst).2 hsame)
  | broken hsame hb => exact .broken ((sameMark_append_iff hfirst).1 hsame) hb

end Scanned

variable {s : Search}

/-- The sets from an index on decide by the addresses in them, behind the one that was found before;
of those found before, the first stands for all. -/
theorem scanned_scanSets {info : RaidInfo} {count : Nat} {index : UInt32}
    {found : Option SasAddress} (hbound : index.toNat + count < UInt32.size)
    (h : (s.scanSets identity info count index found).run.Course xs r) :
    Scanned (found.toList ++ addressesOf identity (drivesInUse xs))
      (∃ sets, AnswersSets s.controller info.maxDrivesPerSet.toNat
        ((List.range' index.toNat count).map UInt32.ofNat) xs sets)
      (BreaksSets s.controller info.maxDrivesPerSet.toNat
        ((List.range' index.toNat count).map UInt32.ofNat) xs) r := by
  -- as in a survey, the number of sets counts down as the index goes up
  induction count generalizing index found xs with
  | zero =>
    obtain ⟨rfl, rfl⟩ := h
    rw [drivesInUse_nil, addressesOf_nil, List.append_nil]
    exact .all_of_toList ⟨[], .nil⟩
  | succ count ih =>
    have hnext : (index + 1).toNat = index.toNat + 1 := toNat_succ_of_lt (by omega)
    rw [indices_succ (by omega)]
    rw [scanSets] at h
    rcases Attempt.course_run_bind.1 h with
      ⟨fault, rfl, hq⟩ | ⟨ys, zs, answer, rfl, hq, hrest⟩
    · obtain ⟨hd, hc⟩ := Attempt.course_run_unlessDeclined_error.1 hq
      have hnone := drivesInUse_of_raidConfig hc
      obtain ⟨x, rfl, -⟩ := Controller.course_raidConfig hc
      rw [hnone, addressesOf_nil, List.append_nil]
      exact .broken (sameMark_toList found) (.broken hc hd)
    · cases answer with
      | none =>
        obtain ⟨fault, hd, hc⟩ := Attempt.course_run_unlessDeclined_none.1 hq
        have hnone := drivesInUse_of_raidConfig hc
        obtain ⟨x, rfl, -⟩ := Controller.course_raidConfig hc
        rw [drivesInUse_append, hnone, List.nil_append]
        refine (ih (by omega) hrest).mono ?_ fun _ => ?_
        · rintro ⟨sets, ha⟩
          exact ⟨sets, .declined hc hd ha⟩
        · exact .declined hc hd
      | some set =>
        have hc := Attempt.course_run_unlessDeclined_some.1 hq
        have hsome := drivesInUse_of_raidConfig hc
        obtain ⟨x, rfl, -⟩ := Controller.course_raidConfig hc
        rw [drivesInUse_append, hsome, addressesOf_append, ← List.append_assoc]
        replace hrest := Attempt.course_run_ofExcept_bind.1 hrest
        rcases decides_mergeMatches found set.countableDrives with
          ⟨hsame, hmerged⟩ | ⟨hother, text, hmerged⟩
        · rw [hmerged] at hrest
          refine .of_first hsame ((ih (by omega) hrest).mono ?_ fun _ => ?_)
          · rintro ⟨sets, ha⟩
            exact ⟨set :: sets, .answered hc ha⟩
          · exact .answered hc
        · rw [hmerged] at hrest
          obtain ⟨rfl, rfl⟩ := hrest
          refine .rivals text ?_
          rw [drivesInUse_nil, addressesOf_nil, List.append_nil]
          exact hother

/-- What the scan ends with comes of the end of its questions by leaving out an address that is not
usable. -/
theorem scanned_scanRaid (s : Search) (family : Driver.Family) (htraits : s.traits = family.traits)
    (h : (s.scanRaid identity).run.Course xs r) :
    ∃ q, Scanned (addressesOf identity (drivesInUse xs))
        (∃ raid, AnswersRaid s.controller ⟨0⟩ family xs raid)
        (RefusesRaid s.controller family xs) q ∧
      r = q.map (·.filter s.isUsable) := by
  rw [scanRaid] at h
  rcases Attempt.course_run_bind.1 h with ⟨fault, -, hq⟩ | ⟨ys, zs, answer, rfl, hq, hrest⟩
  · obtain ⟨_, hv, -⟩ := Attempt.course_run_lift.1 hq
    cases hv
  replace hq := Attempt.course_run_lift_ok.1 hq
  have hno := drivesInUse_of_raidInfo hq
  obtain ⟨x, rfl, -⟩ := Controller.course_ask hq
  cases answer with
  | error fault =>
    dsimp only at hrest
    split at hrest
    · rename_i hn
      obtain ⟨code, rfl⟩ := (isNotSupported_raidInfo hq).1 hn
      obtain ⟨rfl, rfl⟩ := hrest
      refine ⟨.ok none, ?_, rfl⟩
      rw [List.append_nil, hno]
      exact .all sameMark_nil ⟨none, .unsupported hq⟩
    · rename_i hn
      obtain ⟨rfl, rfl⟩ := hrest
      refine ⟨.error fault, ?_, rfl⟩
      rw [List.append_nil, hno]
      refine .broken sameMark_nil (.info hq fun code he => hn ?_)
      rw [he]
      rfl
  | ok info =>
    rw [htraits] at hrest
    let first := family.traits.firstRaidSet
    have behind {q : Except Fault (Option SasAddress)} {us : List Exchange}
        (hs : (s.scanSets identity info (info.setCount first) first none).run.Course us q) :
        Scanned (addressesOf identity (drivesInUse ([x] ++ us)))
          (∃ raid, AnswersRaid s.controller ⟨0⟩ family ([x] ++ us) raid)
          (RefusesRaid s.controller family ([x] ++ us)) q := by
      have hscan := scanned_scanSets (lastIndex_lt first info) hs
      rw [← setIndices_eq] at hscan
      rw [drivesInUse_append, hno, List.nil_append]
      refine hscan.mono ?_ fun _ => ?_
      · rintro ⟨sets, ha⟩
        exact ⟨_, .sets hq ha⟩
      · exact .sets hq
    rcases Attempt.course_run_bind.1 hrest with
      ⟨fault, rfl, hs⟩ | ⟨us, vs, found, rfl, hs, rfl, rfl⟩
    · exact ⟨.error fault, behind hs, rfl⟩
    · rw [List.append_nil]
      exact ⟨.ok found, behind hs, rfl⟩

/-! ## Usable addresses -/

/-- The only address that may not be usable is zero. -/
theorem eq_zero_of_not_isUsable {a : SasAddress} (h : ¬ s.isUsable a = true) : a = .zero := by
  rw [isUsable, Bool.not_eq_true, Bool.or_eq_false_iff, Bool.not_eq_false'] at h
  exact eq_of_beq h.1

/-- Of two different addresses, one is usable. -/
theorem not_sameMark_id_iff (s : Search) {addresses : List SasAddress} :
    ¬ SameMark id addresses ↔
      (∃ a ∈ addresses, ∃ b ∈ addresses, a ≠ b ∧ s.isUsable a = true ∧ s.isUsable b = true) ∨
        ∃ a ∈ addresses, ∃ b ∈ addresses, s.isUsable a = true ∧ s.isUsable b = false := by
  rw [not_sameMark_iff]
  constructor
  · rintro ⟨a, ha, b, hb, hne⟩
    by_cases hua : s.isUsable a = true
    · by_cases hub : s.isUsable b = true
      · exact .inl ⟨a, ha, b, hb, hne, hua, hub⟩
      · exact .inr ⟨a, ha, b, hb, hua, Bool.eq_false_iff.2 hub⟩
    · have hzero : a = .zero := eq_zero_of_not_isUsable hua
      have hub : s.isUsable b = true := Decidable.byContradiction fun hub =>
        hne (hzero.trans (eq_zero_of_not_isUsable hub).symm)
      exact .inr ⟨b, hb, a, ha, hub, Bool.eq_false_iff.2 hua⟩
  · rintro (⟨a, ha, b, hb, hne, -⟩ | ⟨a, ha, b, hb, hua, hub⟩)
    · exact ⟨a, ha, b, hb, hne⟩
    · refine ⟨a, ha, b, hb, ?_⟩
      rintro (rfl : a = b)
      rw [hua] at hub
      cases hub

/-- The first of some addresses, if it is usable, is the usable one among them when they are all the
same. -/
theorem filter_head?_eq_some_iff {addresses : List SasAddress} {a : SasAddress}
    (h : SameMark id addresses) :
    addresses.head?.filter s.isUsable = some a ↔ a ∈ addresses ∧ s.isUsable a = true := by
  rw [Option.filter_eq_some_iff]
  refine and_congr_left fun _ => ?_
  cases addresses with
  | nil => simp
  | cons first rest =>
    rw [List.head?_cons, Option.some.injEq]
    constructor
    · rintro rfl
      exact List.mem_cons_self
    · intro ha
      exact h first List.mem_cons_self a ha

/-- **A RAID scan compares all addresses that it meets.** The drives with the expected identity can
not be told apart when two of them are at different usable addresses, and also when one is at a
usable address and another at one that is not. Otherwise the scan yields the usable address at which
they all are, if there is one, after the driver dealt with all RAID questions; or it ends with the
fault with which the driver did not. -/
theorem scanned_addresses {σ : Type} (w : Surroundings σ) (s : Search) (family : Driver.Family)
    (identity : Identity) (st : σ) :
    let s : Search := { s with traits := family.traits }
    let xs := (s.scanRaid identity).run.exchanges w st
    let result := (s.scanRaid identity).result w st
    let addresses := addressesOf identity (drivesInUse xs)
    ((∃ text, result = .error (.ambiguous text)) ↔
        (∃ a ∈ addresses, ∃ b ∈ addresses, a ≠ b ∧ s.isUsable a = true ∧ s.isUsable b = true) ∨
          ∃ a ∈ addresses, ∃ b ∈ addresses, s.isUsable a = true ∧ s.isUsable b = false) ∧
      (∀ found, result = .ok found → (∃ raid, AnswersRaid s.controller ⟨0⟩ family xs raid) ∧
        ∀ a, found = some a ↔ a ∈ addresses ∧ s.isUsable a = true) ∧
      ∀ fault, result = .error fault →
        (∃ text, fault = .ambiguous text) ∨ RefusesRaid s.controller family xs fault := by
  intro s xs result addresses
  obtain ⟨q, hscanned, hresult⟩ :=
    scanned_scanRaid s family rfl (course_run w (s.scanRaid identity).run st)
  replace hresult : result = q.map (·.filter s.isUsable) := hresult
  rw [hresult, ← not_sameMark_id_iff]
  cases hscanned with
  | all hsame hanswers =>
    refine ⟨iff_of_false ?_ fun hother => hother hsame, fun found hfound => ?_,
      fun fault hfault => ?_⟩
    · rintro ⟨text, htext⟩
      cases htext
    · cases hfound
      exact ⟨hanswers, fun a => filter_head?_eq_some_iff hsame⟩
    · cases hfault
  | rivals text hother =>
    refine ⟨iff_of_true ⟨text, rfl⟩ hother, fun found hfound => ?_, fun fault hfault => ?_⟩
    · cases hfound
    · cases hfault
      exact .inl ⟨text, rfl⟩
  | broken hsame hrefuses =>
    refine ⟨iff_of_false ?_ fun hother => hother hsame, fun found hfound => ?_,
      fun fault hfault => ?_⟩
    · rintro ⟨text, htext⟩
      cases htext
      exact hrefuses.ne_ambiguous text rfl
    · cases hfound
    · cases hfault
      exact .inr hrefuses

end Search

end Discovery

/-- A driver with one RAID set of two drives with the serial number `S1`, the first at the zero
address. -/
def Script.halfAddressed : ControlCode → List Script.Patch
  | .raidInfo => [(0, [1]), (4, [2])]
  | .raidConfig => [(15, [2]), (84, [0x53, 0x31]), (141, [1]), (144, [3]), (220, [0x53, 0x31]),
    (260, [0x50, 0, 0, 0, 0, 0, 0, 1]), (277, [1]), (280, [3])]
  | _ => []

namespace Discovery.Search

/-- **An address that is not usable is a rival of one that is**: of two entries of a drive, one of
which holds no address, the scan makes two drives. -/
theorem unusable_address_rivals :
    let w := Script.steadyDriver Script.halfAddressed
    let s : Search := ⟨⟨⟨0⟩, 0, .off⟩, .ofAddress (.ofPhy 0 0 0 0) (some ⟨"", "S1"⟩), .passthrough,
      Driver.Family.unknown.traits, .full⟩
    let addresses := addressesOf ⟨"", "S1"⟩ (drivesInUse
      ((s.scanRaid ⟨"", "S1"⟩).run.exchanges w ()))
    addresses = [.zero, .ofNumber 0x5000000000000001] ∧
      addresses.filter s.isUsable = [.ofNumber 0x5000000000000001] ∧
      ∃ text, (s.scanRaid ⟨"", "S1"⟩).result w () = .error (.ambiguous text) := by
  intro w s addresses
  have haddresses : addresses = [.zero, .ofNumber 0x5000000000000001] := by decide +kernel
  refine ⟨haddresses, ?_, ?_⟩
  · rw [haddresses]
    decide +kernel
  · obtain ⟨q, hscanned, hresult⟩ :=
      scanned_scanRaid s .unknown rfl (course_run w (s.scanRaid ⟨"", "S1"⟩).run ())
    have hother : ¬ SameMark id addresses := by
      rw [haddresses, sameMark_cons_iff]
      decide +kernel
    cases hscanned with
    | rivals text _ => exact ⟨text, hresult⟩
    | all hsame _ => exact absurd hsame hother
    | broken hsame _ => exact absurd hsame hother

end Discovery.Search

end DriveReach
