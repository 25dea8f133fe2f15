import DriveReach.Inventory.Survey
import DriveReach.Proofs.Text
import Mathlib.Data.Finset.Card
import Mathlib.Data.List.Dedup
/-!
# The drives that RAID sets name

A survey takes up the drives of all sets one by one. What it knows afterwards is told here of the
list of drives as a whole: the first drive of each name is found, and the drives without a name are
counted.

* `driveName_eq`: how a drive is named does not depend on the traits of the driver.
* `leaders`: the first drive of each name; there are as many as there are names
  (`length_leaders`), and no two of them share one (`pairwise_leaders`).
* `foldl_add`: what is known after a list of drives.
-/

set_option autoImplicit false

namespace DriveReach.Inventory

open Csmi

/-! ## Names -/

/-- What tells a drive from others: its serial number without the blanks around it, or else its
address unless that is zero. -/
def nameOf (d : RaidDrive) : Option DriveName :=
  if Text.trim d.serialNumber ≠ "" then some (.serial (Text.trim d.serialNumber))
  else if d.sasAddress.isZero then none
  else some (.address d.sasAddress)

/-- The address of a drive unless it is zero. -/
def addressOf (d : RaidDrive) : Option SasAddress :=
  if d.sasAddress.isZero then none else some d.sasAddress

theorem filter_driveAddress (traits : Driver.Traits) (d : RaidDrive) :
    (driveAddress traits d).filter (!·.isZero) = addressOf d := by
  unfold driveAddress addressOf
  cases hz : d.sasAddress.isZero <;> cases traits.zeroAddressValid <;> simp [hz]

theorem driveIdentity_eq_none_iff {d : RaidDrive} :
    driveIdentity d = none ↔ Text.trim d.serialNumber = "" := by
  unfold driveIdentity
  dsimp only
  rw [← String.isEmpty_iff]
  split <;> simp_all

theorem serial_of_driveIdentity {d : RaidDrive} {identity : Identity}
    (h : driveIdentity d = some identity) : identity.serial = Text.trim d.serialNumber := by
  unfold driveIdentity at h
  dsimp only at h
  split at h
  · cases h
  · cases h
    rfl

theorem driveName_eq (traits : Driver.Traits) (d : RaidDrive) : driveName traits d = nameOf d := by
  unfold driveName nameOf
  rw [filter_driveAddress]
  cases hid : driveIdentity d with
  | none =>
    rw [if_neg (not_not_intro (driveIdentity_eq_none_iff.1 hid)), addressOf]
    cases d.sasAddress.isZero <;> rfl
  | some identity =>
    have hne : Text.trim d.serialNumber ≠ "" := fun he =>
      nomatch hid.symm.trans (driveIdentity_eq_none_iff.2 he)
    have hserial := serial_of_driveIdentity hid
    rw [if_pos hne]
    exact congrArg (fun s => some (DriveName.serial s)) hserial

/-- The identity of a drive accepts no serial number but that of the drive. -/
theorem serial_of_accepts {d : RaidDrive} {identity : Identity} {model serial : String}
    (hd : driveIdentity d = some identity) (h : identity.accepts model serial = true) :
    Text.trim d.serialNumber ≠ "" ∧ Text.trim d.serialNumber = Text.trim serial := by
  have hne : Text.trim d.serialNumber ≠ "" := fun he =>
    nomatch hd.symm.trans (driveIdentity_eq_none_iff.2 he)
  have hserial : identity.serial = Text.trim d.serialNumber := serial_of_driveIdentity hd
  rw [Identity.accepts, hserial, Text.trim_trim, Bool.and_eq_true, Bool.and_eq_true,
    beq_iff_eq] at h
  exact ⟨hne, h.1.2⟩

theorem nameOf_of_accepts {d : RaidDrive} {identity : Identity} {model serial : String}
    (hd : driveIdentity d = some identity) (h : identity.accepts model serial = true) :
    nameOf d = some (.serial (Text.trim serial)) := by
  obtain ⟨hne, heq⟩ := serial_of_accepts hd h
  rw [nameOf, if_pos hne, heq]

/-- A drive that has the identity of another one has its name. -/
theorem nameOf_eq_of_accepts {d e : RaidDrive} {identity : Identity}
    (hd : driveIdentity d = some identity)
    (h : identity.accepts e.model e.serialNumber = true) : nameOf e = nameOf d := by
  obtain ⟨hne, heq⟩ := serial_of_accepts hd h
  rw [nameOf, nameOf, ← heq, if_pos hne, if_pos hne]

/-! ## The first drive of each name -/

/-- The drives whose name no earlier drive has, in order. -/
def leaders : List RaidDrive → List RaidDrive
  | [] => []
  | d :: ds =>
    if nameOf d = none then leaders ds else d :: (leaders ds).filter (nameOf · ≠ nameOf d)

theorem leaders_sublist (ds : List RaidDrive) : (leaders ds).Sublist ds := by
  induction ds with
  | nil => exact .slnil
  | cons d ds ih =>
    unfold leaders
    split
    · exact ih.cons d
    · exact (List.filter_sublist.trans ih).cons_cons d

theorem nameOf_ne_none_of_mem_leaders {ds : List RaidDrive} {d : RaidDrive}
    (h : d ∈ leaders ds) : nameOf d ≠ none := by
  induction ds with
  | nil => cases h
  | cons e ds ih =>
    unfold leaders at h
    split at h
    · exact ih h
    · rename_i hn
      rcases List.mem_cons.1 h with rfl | h
      · exact hn
      · exact ih (List.mem_filter.1 h).1

theorem pairwise_leaders (ds : List RaidDrive) :
    (leaders ds).Pairwise fun d e => nameOf d ≠ nameOf e := by
  induction ds with
  | nil => exact .nil
  | cons d ds ih =>
    unfold leaders
    split
    · exact ih
    · refine List.pairwise_cons.2 ⟨fun e he => ?_, ih.filter _⟩
      exact (of_decide_eq_true (List.mem_filter.1 he).2).symm

theorem exists_leader {ds : List RaidDrive} {d : RaidDrive} (h : d ∈ ds) (hn : nameOf d ≠ none) :
    ∃ e ∈ leaders ds, nameOf e = nameOf d := by
  induction ds with
  | nil => cases h
  | cons c ds ih =>
    unfold leaders
    rcases List.mem_cons.1 h with rfl | h
    · rw [if_neg hn]
      exact ⟨d, List.mem_cons_self, rfl⟩
    · obtain ⟨e, he, hne⟩ := ih h
      split
      · exact ⟨e, he, hne⟩
      · by_cases hc : nameOf e = nameOf c
        · exact ⟨c, List.mem_cons_self, hc.symm.trans hne⟩
        · exact ⟨e, List.mem_cons_of_mem _ (List.mem_filter.2 ⟨he, decide_eq_true hc⟩), hne⟩

theorem length_leaders (ds : List RaidDrive) :
    (leaders ds).length = (ds.filterMap nameOf).toFinset.card := by
  have hlen : ((leaders ds).filterMap nameOf).length = (leaders ds).length := by
    rw [List.length_filterMap_eq_countP, List.countP_eq_length]
    exact fun d hd => Option.isSome_iff_ne_none.2 (nameOf_ne_none_of_mem_leaders hd)
  have hnodup : ((leaders ds).filterMap nameOf).Nodup := by
    rw [List.nodup_iff_pairwise_ne, List.pairwise_filterMap]
    refine (pairwise_leaders ds).imp fun {d e} hne n hn m hm he => hne ?_
    rw [hn, hm, he]
  have hset : ((leaders ds).filterMap nameOf).toFinset = (ds.filterMap nameOf).toFinset := by
    ext n
    simp only [List.mem_toFinset, List.mem_filterMap]
    constructor
    · rintro ⟨d, hd, hn⟩
      exact ⟨d, (leaders_sublist ds).subset hd, hn⟩
    · rintro ⟨d, hd, hn⟩
      obtain ⟨e, he, hne⟩ := exists_leader hd (Option.isSome_iff_ne_none.1 (hn ▸ rfl))
      exact ⟨e, he, hne.trans hn⟩
  rw [← hset, List.toFinset_card_of_nodup hnodup, hlen]

/-! ## Taking up drives -/

/-- What a survey keeps of a drive. -/
def foundOf (traits : Driver.Traits) (d : RaidDrive) : Found :=
  ⟨.unplaced, driveAddress traits d, driveIdentity d⟩

namespace Drives

variable {traits : Driver.Traits}

/-- `ds` with more drives found. -/
def extend (ds : Drives) (traits : Driver.Traits) (more : List RaidDrive) : Drives :=
  { ds with
    found := ds.found ++ more.map (foundOf traits)
    names := ds.names ++ more.filterMap nameOf
    addresses := ds.addresses ++ more.filterMap addressOf }

/-- The drive has a name that is not taken. -/
def isNew (ds : Drives) (d : RaidDrive) : Bool := (nameOf d).all fun n => !ds.names.contains n

theorem add_of_unnamed (ds : Drives) {d : RaidDrive} (h : nameOf d = none) :
    ds.add traits d = { ds with unnamed := ds.unnamed + 1 } := by
  rw [add, driveName_eq, h]

theorem add_of_named (ds : Drives) {d : RaidDrive} (h : nameOf d ≠ none) :
    ds.add traits d = if ds.isNew d then ds.extend traits [d] else ds := by
  obtain ⟨n, hn⟩ := Option.ne_none_iff_exists'.1 h
  have hnew : ds.isNew d = !ds.names.contains n := by rw [isNew, hn, Option.all_some]
  rw [add, driveName_eq, hn, hnew]
  dsimp only
  rw [record, filter_driveAddress]
  cases ds.names.contains n with
  | true => rfl
  | false =>
    have haddr : [d].filterMap addressOf = (addressOf d).toList := by
      cases ha : addressOf d <;> simp [ha]
    simp [extend, foundOf, hn, haddr]

theorem extend_append (ds : Drives) (more others : List RaidDrive) :
    ds.extend traits (more ++ others) = (ds.extend traits more).extend traits others := by
  simp [extend]

theorem isNew_extend (ds : Drives) {d : RaidDrive} (hd : nameOf d ≠ none) (e : RaidDrive) :
    (ds.extend traits [d]).isNew e = (ds.isNew e && decide (nameOf e ≠ nameOf d)) := by
  obtain ⟨n, hn⟩ := Option.ne_none_iff_exists'.1 hd
  unfold isNew extend
  cases he : nameOf e with
  | none => simp [hn]
  | some m => simp [hn, Bool.decide_or, Bool.not_or]

theorem foldl_add (drives : List RaidDrive) (ds : Drives) :
    drives.foldl (fun ds d => ds.add traits d) ds =
      { ds.extend traits ((leaders drives).filter ds.isNew) with
        unnamed := ds.unnamed + drives.countP (nameOf · = none) } := by
  induction drives generalizing ds with
  | nil => simp [leaders, extend]
  | cons d drives ih =>
    rw [List.foldl_cons, leaders]
    by_cases hd : nameOf d = none
    · have hcount : (d :: drives).countP (nameOf · = none) =
          drives.countP (nameOf · = none) + 1 := List.countP_cons_of_pos (decide_eq_true hd)
      rw [add_of_unnamed ds hd, ih, if_pos hd, hcount]
      simp only [extend, Nat.add_assoc, Nat.add_comm 1]
      rfl
    · have hcount : (d :: drives).countP (nameOf · = none) = drives.countP (nameOf · = none) :=
        List.countP_cons_of_neg (by simpa using hd)
      rw [add_of_named ds hd, if_neg hd, hcount, List.filter_cons, List.filter_filter]
      split
      · have hfilter : (leaders drives).filter
            (fun e => ds.isNew e && decide (nameOf e ≠ nameOf d)) =
              (leaders drives).filter (ds.extend traits [d]).isNew :=
          List.filter_congr fun e _ => (isNew_extend ds hd e).symm
        have hextend := @extend_append traits ds [d]
          ((leaders drives).filter (ds.extend traits [d]).isNew)
        rw [List.singleton_append] at hextend
        rw [ih, hfilter, hextend]
        rfl
      · rename_i hold
        -- the name of `d` is taken, so no drive with a new name has it
        have hfilter : (leaders drives).filter
            (fun e => ds.isNew e && decide (nameOf e ≠ nameOf d)) =
              (leaders drives).filter ds.isNew := by
          refine List.filter_congr fun e _ => ?_
          cases hnew : ds.isNew e with
          | false => rfl
          | true =>
            have hne : nameOf e ≠ nameOf d := fun he => hold (by rw [isNew, ← he]; exact hnew)
            simp [hne]
        rw [ih, hfilter]

/-- What is known after the drives of all sets. -/
def ofDrives (traits : Driver.Traits) (drives : List RaidDrive) : Drives where
  found := (leaders drives).map (foundOf traits)
  names := (leaders drives).filterMap nameOf
  addresses := (leaders drives).filterMap addressOf
  unnamed := drives.countP (nameOf · = none)

theorem foldl_add_empty (drives : List RaidDrive) :
    drives.foldl (fun ds d => ds.add traits d) {} = ofDrives traits drives := by
  have hnew : ∀ d ∈ leaders drives, ({} : Drives).isNew d = true := fun d _ => by
    cases hn : nameOf d <;> simp [isNew, hn]
  rw [foldl_add, List.filter_eq_self.2 hnew]
  simp [extend, ofDrives]

end Drives

end DriveReach.Inventory
