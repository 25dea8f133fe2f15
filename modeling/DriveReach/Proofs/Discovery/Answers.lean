import DriveReach.Proofs.Discovery.Ambiguity
import DriveReach.Proofs.Discovery.Opening
import DriveReach.Proofs.Discovery.Place
import DriveReach.Proofs.Steady
/-!
# What the answers to probes decide

Steady surroundings give one answer to a probe, whenever it is made. So the phys that answer to an
identity are fixed before any of them is asked (`Search.answers`), and they alone decide where the
device is placed.

* `result_askPhys_cons`: one phy is asked.
* `decides_askPhys`: asking phys in turn comes to what those that answer decide by their ports, with
  the one found so far in front.
* `head?_askingOrder`: the order of asking puts the phy that the target names first.
* `placed_by_answers`: how a device is placed without an address.
-/

set_option autoImplicit false

namespace DriveReach

open Csmi Dialogue

theorem Attempt.result_lift {α σ : Type} (w : Surroundings σ) (d : Dialogue α) (st : σ) :
    Attempt.result (ExceptT.lift d) w st = .ok (d.run w st).value :=
  value_bind w d (fun a => Dialogue.done (Except.ok a)) st

namespace Discovery.Search

variable {σ : Type} {w : Surroundings σ} {s : Search} {st : σ} {identity : Identity}

/-- The device at a phy answers to the identity. One whose probe fails, for whatever reason, does
not. -/
def answers (s : Search) (w : Surroundings σ) (st : σ) (identity : Identity) (p : Phy) : Bool :=
  match (s.probe p).result w st with
  | .ok reported => identity.accepts reported.model reported.serial
  | .error _ => false

theorem value_answers? {p : Phy} {silent : Fault → String} :
    ((s.answers? identity (s.endpointAt p) p.attached.target.reachesAta silent).run w st).value =
      some true ↔ s.answers w st identity p = true := by
  have hprobe : ((s.identify (s.endpointAt p) p.attached.target.reachesAta).run.run w st).value =
      (s.probe p).result w st := rfl
  rw [Search.answers?, value_bind, hprobe, answers]
  cases (s.probe p).result w st with
  | ok reported =>
    show some (identity.accepts reported.model reported.serial) = some true ↔ _
    rw [Option.some.injEq]
  | error fault =>
    show (none : Option Bool) = some true ↔ false = true
    simp

/-! ## Asking in turn -/

/-- The fault of two phys at different ports that both answer. -/
def rivals (identity : Identity) (earlier p : Phy) : Fault :=
  .ambiguous <| s!"serial {identity.serial} answers on phys " ++
    s!"{earlier.identifier.toNat} and {p.identifier.toNat}"

/-- A phy is asked, and then the others, unless it answers from another port than the one found. -/
theorem result_askPhys_cons (hw : w.Steady) {found : Option Phy} {p : Phy} {phys : List Phy} :
    (s.askPhys identity found (p :: phys)).result w st =
      if s.answers w st identity p = true then
        match found with
        | none => (s.askPhys identity (some p) phys).result w st
        | some earlier =>
          if earlier.port = p.port then (s.askPhys identity found phys).result w st
          else .error (rivals identity earlier p)
      else (s.askPhys identity found phys).result w st := by
  rw [askPhys.eq_def]
  dsimp only
  rw [hw.result_bind, Attempt.result_lift]
  show Attempt.result (if _ then _ else _) w st = _
  by_cases ha : s.answers w st identity p = true
  · rw [if_pos (value_answers?.2 ha), if_pos ha]
    cases found with
    | none => rfl
    | some earlier =>
      dsimp only
      split
      · rfl
      · rfl
  · rw [if_neg (fun hyes => ha (value_answers?.1 hyes)), if_neg ha]

/-- **Asking phys in turn** comes to what those that answer decide, by their ports. -/
theorem decides_askPhys (hw : w.Steady) (found : Option Phy) (phys : List Phy) :
    Decides Phy.port (found.toList ++ phys.filter (s.answers w st identity))
      ((s.askPhys identity found phys).result w st) := by
  induction phys generalizing found with
  | nil =>
    rw [List.filter_nil, List.append_nil]
    exact .found found
  | cons p phys ih =>
    rw [result_askPhys_cons hw]
    by_cases ha : s.answers w st identity p = true
    · rw [if_pos ha, List.filter_cons_of_pos ha]
      cases found with
      | none =>
        have hrest := ih (some p)
        rw [Option.toList_some, List.singleton_append] at hrest
        rw [Option.toList_none, List.nil_append]
        exact hrest
      | some earlier =>
        have hrest := ih (some earlier)
        rw [Option.toList_some, List.singleton_append] at hrest ⊢
        dsimp only
        by_cases hport : earlier.port = p.port
        · rw [if_pos hport]
          exact .cons_same hport.symm hrest
        · rw [if_neg hport]
          exact .cons_other (Ne.symm hport) _
    · rw [if_neg ha, List.filter_cons_of_neg ha]
      exact ih found

/-! ## The order of asking -/

theorem filter_askingOrder (f : Phy → Bool) (phys : List Phy) :
    (s.askingOrder phys).filter f = s.askingOrder (phys.filter f) := by
  simp only [askingOrder, List.filter_append, List.filter_filter, Bool.and_comm]

theorem sameMark_askingOrder {phys : List Phy} :
    SameMark Phy.port (s.askingOrder phys) ↔ SameMark Phy.port phys := by
  simp only [SameMark, mem_askingOrder]

/-- The first to be asked is the first phy that the target names, or else the first of all. -/
theorem head?_askingOrder (phys : List Phy) :
    (s.askingOrder phys).head? = (phys.find? s.isNamed).or phys.head? := by
  rw [askingOrder, List.head?_append, List.head?_filter, List.head?_filter]
  cases hnamed : phys.find? s.isNamed with
  | some p => rfl
  | none =>
    cases phys with
    | nil => rfl
    | cons p phys =>
      have hp : s.isNamed p = false := by
        simpa using List.find?_eq_none.1 hnamed p List.mem_cons_self
      simp [hp]

/-! ## Placing without an address -/

/-- The place of a device is decided by the phys that answer. -/
theorem decides_placeByIdentity (hw : w.Steady) (hid : s.target.identity = some identity)
    (hpass : s.access.allowsPassthrough = true) (phys : List Phy) (st : σ) :
    ∃ found, Decides Phy.port (s.askingOrder (phys.filter (s.answers w st identity))) found ∧
      (s.placeByIdentity phys).result w st = found.bind fun p =>
        match p with
        | some p => .ok (.ofPhy p .liveIdentity)
        | none => .error .noMatch := by
  refine ⟨(s.askPhys identity none (s.askingOrder phys)).result w st, ?_, ?_⟩
  · rw [← filter_askingOrder]
    exact decides_askPhys hw none (s.askingOrder phys)
  · rw [placeByIdentity, hid]
    simp only [hpass, Bool.not_true, Bool.false_eq_true, if_false]
    rw [hw.result_bind]
    congr 1
    funext p
    cases p <;> rfl

/-- The phy that answers, the one that the target names first. -/
def chosen? (s : Search) (answering : List Phy) : Option Phy :=
  (answering.find? s.isNamed).or answering.head?

theorem chosen?_eq_none {answering : List Phy} : s.chosen? answering = none ↔ answering = [] := by
  cases answering with
  | nil => exact ⟨fun _ => rfl, fun _ => rfl⟩
  | cons p answering => simp [chosen?]

/-- **Without an address, a device is placed by the answers to live probes.** Two end devices at
different ports that answer to the identity can not be told apart; where none answers there is no
match; and else the device is at the first phy that answers under the identifier that the target
names, or at the first that answers at all. -/
theorem placed_by_answers (w : Surroundings σ) (hw : w.Steady) (s : Search) (identity : Identity)
    (hid : s.target.identity = some identity) (hpass : s.access.allowsPassthrough = true)
    (table : PhyTable) (st : σ) :
    let answering := table.endDevices.filter (s.answers w st identity)
    let result := (s.place table .unresolved).result w st
    ((∃ text, result = .error (.ambiguous text)) ↔
        ∃ p ∈ answering, ∃ q ∈ answering, p.port ≠ q.port) ∧
      (result = .error .noMatch ↔ answering = []) ∧
      ∀ placement, result = .ok placement ↔
        (∀ p ∈ answering, ∀ q ∈ answering, p.port = q.port) ∧
          ∃ p, (answering.find? fun p => s.target.phy? == some p.identifier).or answering.head? =
            some p ∧ placement = .ofPhy p .liveIdentity := by
  intro answering result
  obtain ⟨found, hfound, hresult⟩ := decides_placeByIdentity hw hid hpass table.endDevices st
  have hplace : s.place table .unresolved = s.placeByIdentity table.endDevices := by
    unfold place
    rw [hid]
  rw [← hplace] at hresult
  rw [← not_sameMark_iff]
  rcases hfound with ⟨hone, rfl⟩ | ⟨hseveral, text, rfl⟩
  · replace hone : SameMark Phy.port answering := sameMark_askingOrder.1 hone
    rw [head?_askingOrder] at hresult
    cases hchosen : s.chosen? answering with
    | none =>
      have hnone : answering = [] := chosen?_eq_none.1 hchosen
      have hnoMatch : result = .error .noMatch := by
        rw [chosen?] at hchosen
        rw [hchosen] at hresult
        exact hresult
      simp [hnoMatch, hnone, SameMark]
    | some p =>
      have hne : answering ≠ [] := by
        intro hnil
        rw [chosen?_eq_none.2 hnil] at hchosen
        cases hchosen
      have hok : result = .ok (.ofPhy p .liveIdentity) := by
        rw [chosen?] at hchosen
        rw [hchosen] at hresult
        exact hresult
      rw [hok]
      refine ⟨iff_of_false ?_ fun hseveral => hseveral hone, iff_of_false ?_ hne,
        fun placement => ?_⟩
      · rintro ⟨text, htext⟩
        cases htext
      · intro hnoMatch
        cases hnoMatch
      · rw [Except.ok.injEq]
        constructor
        · rintro rfl
          exact ⟨hone, p, hchosen, rfl⟩
        · rintro ⟨-, q, hq, rfl⟩
          have hpq : p = q := Option.some.inj (hchosen.symm.trans hq)
          rw [hpq]
  · replace hseveral : ¬ SameMark Phy.port answering :=
      fun hone => hseveral (sameMark_askingOrder.2 hone)
    have hambiguous : result = .error (.ambiguous text) := hresult
    have hne : answering ≠ [] := by
      intro hnil
      rw [hnil] at hseveral
      exact hseveral sameMark_nil
    rw [hambiguous]
    refine ⟨iff_of_true ⟨text, rfl⟩ hseveral, iff_of_false ?_ hne,
      fun placement => iff_of_false ?_ fun hone => hseveral hone.1⟩
    · intro hnoMatch
      cases hnoMatch
    · intro hplacement
      cases hplacement

end Discovery.Search

/-- A driver whose SATA disks all have the serial number `S1`, and whose other devices have none. -/
def Script.namedDisks : ControlCode → List Script.Patch
  | .stpPassthrough => [(48, [0x34, 0, 0x50]), (132, [0, 2]), (156, [0x31, 0x53])]
  | _ => []

/-- A phy with an end device that speaks some protocols. -/
def Script.endDevice (phy port protocols : UInt8) : Phy :=
  .decode 0 (Script.overlay (Bytes.zeros Phy.length)
    [(20, [phy]), (28, [port]), (36, [0x10, 0, 0, protocols])])

/-- A SAS device at phy 0, and SATA disks at the phys 1 and 2. -/
def Script.threePhys (port : UInt8) : PhyTable :=
  ⟨3, [endDevice 0 0 0x08, endDevice 1 1 0x01, endDevice 2 port 0x01]⟩

namespace Discovery.Search

/-- With both disks at one port, the one at the phy of the handle is taken, which is not the first
that answers. At two ports they can not be told apart. -/
theorem placed_by_answers_threePhys :
    let w := Script.steadyDriver Script.namedDisks
    let s : Search := ⟨⟨⟨0⟩, 0, .off⟩, .ofAddress (.ofPhy 0 1 2 0) (some ⟨"", "S1"⟩), .passthrough,
      {}, .full⟩
    w.Steady ∧ s.target.identity = some ⟨"", "S1"⟩ ∧ s.access.allowsPassthrough = true ∧
      (s.place (Script.threePhys 1) .unresolved).result w () =
        .ok (.ofPhy (Script.endDevice 2 1 0x01) .liveIdentity) ∧
      ∃ text,
        (s.place (Script.threePhys 2) .unresolved).result w () = .error (.ambiguous text) := by
  intro w s
  have hanswers (port : UInt8) (h : port = 1 ∨ port = 2) :
      (Script.threePhys port).endDevices.filter (s.answers w () ⟨"", "S1"⟩) =
        [Script.endDevice 1 1 0x01, Script.endDevice 2 port 0x01] := by
    rcases h with rfl | rfl <;> decide +kernel
  have hplaced (port : UInt8) := placed_by_answers w (steady_steadyDriver _) s ⟨"", "S1"⟩ rfl rfl
    (Script.threePhys port) ()
  refine ⟨steady_steadyDriver _, rfl, rfl, ?_, ?_⟩
  · refine ((hplaced 1).2.2 _).2 ?_
    rw [hanswers 1 (.inl rfl)]
    exact ⟨by decide +kernel, _, by decide +kernel, rfl⟩
  · refine (hplaced 2).1.2 ?_
    rw [hanswers 2 (.inr rfl)]
    decide +kernel

end Discovery.Search

end DriveReach
