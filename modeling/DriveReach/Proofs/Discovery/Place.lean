import DriveReach.Discovery.Discover
import DriveReach.Proofs.Course
/-!
# How a device is placed

`Search.Placed` has one case for each way in which discovery can come to a place in the phy table,
and `Search.Singled` says what probing the candidates must have shown.

* `course_askPhys`: every candidate is asked, and the one found is at the port of all that answered
  to the identity, by induction on the candidates.
* `placeByAddress_cases`: what an address comes to, by the phys that the table has at it.
* `course_place`, `course_confirmNvme`: every placement is one of the cases.
-/

set_option autoImplicit false

namespace DriveReach.Discovery.Search

open Csmi

variable {s : Search} {xs ys : List Exchange} {identity : Identity}

/-! ## Probes -/

/-- What the device at a phy reports about itself. -/
def probe (s : Search) (p : Phy) : Attempt Reported :=
  s.identify (s.endpointAt p) p.attached.target.reachesAta

/-- An attempt was recorded in which a device reported the model and serial number expected. -/
def Confirms (xs : List Exchange) (identity : Identity) (attempt : Attempt Reported) : Prop :=
  ∃ reported, Recorded xs attempt.run (.ok reported) ∧
    identity.accepts reported.model reported.serial = true

theorem Confirms.mono {attempt : Attempt Reported} (h : Confirms ys identity attempt)
    (hi : ys <:+: xs) : Confirms xs identity attempt :=
  let ⟨reported, hr, ha⟩ := h
  ⟨reported, hr.mono hi, ha⟩

/-- The phy was asked, and only an answer at the given port was the one expected. -/
def Asked (s : Search) (xs : List Exchange) (identity : Identity) (port : UInt8) (q : Phy) : Prop :=
  ∃ answer, Recorded xs (s.probe q).run answer ∧
    ∀ reported, answer = .ok reported →
      identity.accepts reported.model reported.serial = true → q.port = port

theorem Asked.mono {port : UInt8} {q : Phy} (h : s.Asked ys identity port q) (hi : ys <:+: xs) :
    s.Asked xs identity port q :=
  let ⟨answer, hr, ha⟩ := h
  ⟨answer, hr.mono hi, ha⟩

/-- Asking all of the phys singled out one of them: it answers to the identity, and those at other
ports do not. -/
structure Singled (s : Search) (xs : List Exchange) (identity : Identity) (phys : List Phy)
    (p : Phy) : Prop where
  mem : p ∈ phys
  confirmed : Confirms xs identity (s.probe p)
  asked : ∀ q ∈ phys, s.Asked xs identity p.port q

theorem Singled.mono {phys : List Phy} {p : Phy} (h : s.Singled ys identity phys p)
    (hi : ys <:+: xs) : s.Singled xs identity phys p :=
  ⟨h.mem, h.confirmed.mono hi, fun q hq => (h.asked q hq).mono hi⟩

theorem course_answers? {ep : Endpoint} {ata : Bool} {silent : Fault → String}
    {answer : Option Bool} (h : (s.answers? identity ep ata silent).Course xs answer) :
    ∃ result, (s.identify ep ata).run.Course xs result ∧
      (answer = some true ↔ ∃ reported, result = .ok reported ∧
        identity.accepts reported.model reported.serial = true) := by
  obtain ⟨ys, zs, result, rfl, hc, hf⟩ := Dialogue.course_bind.1 h
  cases result with
  | error fault =>
    obtain ⟨rfl, rfl⟩ := Dialogue.course_notes_bind.1 hf
    rw [List.append_nil]
    exact ⟨_, hc, by simp⟩
  | ok reported =>
    obtain ⟨rfl, rfl⟩ := hf
    rw [List.append_nil]
    exact ⟨_, hc, by simp⟩

theorem confirms_of_answers? {ep : Endpoint} {ata : Bool} {silent : Fault → String}
    (h : (s.answers? identity ep ata silent).Course xs (some true)) :
    Confirms xs identity (s.identify ep ata) := by
  obtain ⟨result, hc, hiff⟩ := course_answers? h
  obtain ⟨reported, rfl, hacc⟩ := hiff.1 rfl
  exact ⟨reported, .of_course hc, hacc⟩

/-- Asking phys in turn asks each of them. The one found is the earlier one, if there is one, or one
of the phys that answered; and all that answered are at its port. -/
theorem course_askPhys {found r : Option Phy} {phys : List Phy}
    (h : (s.askPhys identity found phys).run.Course xs (.ok r)) :
    (∀ p, found = some p → r = some p) ∧
      (∀ p, r = some p → found = some p ∨ p ∈ phys ∧ Confirms xs identity (s.probe p)) ∧
      ∀ p, r = some p → ∀ q ∈ phys, s.Asked xs identity p.port q := by
  induction phys generalizing found xs with
  | nil =>
    cases h.2
    exact ⟨fun _ h => h, fun _ h => .inl h, fun _ _ _ hq => nomatch hq⟩
  | cons q phys ih =>
    unfold askPhys at h
    rw [Attempt.course_run_bind_ok] at h
    obtain ⟨ys, zs, answer, rfl, ha, h⟩ := h
    obtain ⟨result, hc, hiff⟩ := course_answers? (Attempt.course_run_lift_ok.1 ha)
    have hzs : zs <:+: ys ++ zs := (List.suffix_append ys zs).isInfix
    have hrec : Recorded (ys ++ zs) (s.probe q).run result := (Recorded.of_course hc).append_left
    split at h
    · rename_i hyes
      obtain ⟨reported, rfl, hacc⟩ := hiff.1 hyes
      have hconf : Confirms (ys ++ zs) identity (s.probe q) := ⟨reported, hrec, hacc⟩
      cases found with
      | none =>
        obtain ⟨hkeep, hfrom, hall⟩ := ih h
        have hr : r = some q := hkeep q rfl
        refine ⟨fun _ hn => (nomatch hn), fun p hp => .inr ?_,
          fun p hp => List.forall_mem_cons.2 ⟨?_, ?_⟩⟩
        · obtain rfl : q = p := Option.some.inj (hr.symm.trans hp)
          exact ⟨List.mem_cons_self, hconf⟩
        · obtain rfl : q = p := Option.some.inj (hr.symm.trans hp)
          exact ⟨_, hrec, fun _ _ _ => rfl⟩
        · exact fun q' hq' => (hall p hp q' hq').mono hzs
      | some earlier =>
        dsimp only at h
        split at h
        · rename_i hport
          obtain ⟨hkeep, hfrom, hall⟩ := ih h
          have hr : r = some earlier := hkeep earlier rfl
          refine ⟨hkeep, fun p hp => .inl (hr.symm.trans hp),
            fun p hp => List.forall_mem_cons.2 ⟨?_, fun q' hq' => (hall p hp q' hq').mono hzs⟩⟩
          obtain rfl : earlier = p := Option.some.inj (hr.symm.trans hp)
          exact ⟨_, hrec, fun _ _ _ => hport.symm⟩
        · cases h.2
    · rename_i hno
      obtain ⟨hkeep, hfrom, hall⟩ := ih h
      refine ⟨hkeep, fun p hp => ?_, fun p hp => List.forall_mem_cons.2 ⟨⟨result, hrec, ?_⟩, ?_⟩⟩
      · exact (hfrom p hp).imp_right fun ⟨hm, hconf⟩ => ⟨List.mem_cons_of_mem _ hm, hconf.mono hzs⟩
      · exact fun reported hr hacc => absurd (hiff.2 ⟨reported, hr, hacc⟩) hno
      · exact fun q' hq' => (hall p hp q' hq').mono hzs

theorem mem_askingOrder {phys : List Phy} {p : Phy} : p ∈ s.askingOrder phys ↔ p ∈ phys := by
  rw [askingOrder, List.mem_append, List.mem_filter, List.mem_filter]
  cases hn : s.isNamed p <;> simp

theorem course_placeByIdentity {phys : List Phy} {placement : Placement}
    (h : (s.placeByIdentity phys).run.Course xs (.ok placement)) :
    ∃ identity p, s.target.identity = some identity ∧ s.Singled xs identity phys p ∧
      placement = .ofPhy p .liveIdentity := by
  unfold placeByIdentity at h
  split at h
  · rename_i identity hid
    split at h
    · cases (Attempt.course_run_note_bind.1 h).2
    · rw [Attempt.course_run_bind_ok] at h
      obtain ⟨ys, zs, r, rfl, hq, h⟩ := h
      cases r with
      | none => cases h.2
      | some p =>
        obtain ⟨rfl, h⟩ := h
        cases h
        rw [List.append_nil]
        obtain ⟨-, hfrom, hall⟩ := course_askPhys hq
        rcases hfrom p rfl with hn | ⟨hm, hconf⟩
        · cases hn
        · exact ⟨identity, p, hid, ⟨mem_askingOrder.1 hm, hconf,
            fun q hq => hall p rfl q (mem_askingOrder.2 hq)⟩, rfl⟩
  · cases h.2

/-! ## Places -/

/-- How discovery came to a place in a phy table. -/
inductive Placed (s : Search) (table : PhyTable) (xs : List Exchange) :
    Resolution → Placement → Prop
  | byAddress {a : SasAddress} {p : Phy} :
    p ∈ table.attachedAt a → (∀ q ∈ table.attachedAt a, q.port = p.port) →
    Placed s table xs (.address a) (.ofPhy p .driverAddress)
  /-- The candidates are all end devices, or those whose address is zero. -/
  | byIdentity {resolution : Resolution} {identity : Identity} {phys : List Phy} {p : Phy} :
    s.target.identity = some identity →
    (phys = table.endDevices ∨ phys = table.attachedAt .zero) →
    s.Singled xs identity phys p →
    Placed s table xs resolution (.ofPhy p .liveIdentity)
  | byHandle {phy : UInt8} {p : Phy} :
    s.target.identity = none → s.target.phy? = some phy → table.phy? phy = some p →
    p.hasEndDevice = true →
    Placed s table xs .unresolved (.ofPhy p .phyOnly)

theorem Placed.mono {table : PhyTable} {resolution : Resolution} {placement : Placement}
    (h : s.Placed table ys resolution placement) (hi : ys <:+: xs) :
    s.Placed table xs resolution placement := by
  cases h with
  | byAddress hm hp => exact .byAddress hm hp
  | byIdentity hid hc hs => exact .byIdentity hid hc (hs.mono hi)
  | byHandle hid hphy hat he => exact .byHandle hid hphy hat he

/-- The phys are all of one port. -/
def OnePort (phys : List Phy) : Prop := ∀ p ∈ phys, ∀ q ∈ phys, p.port = q.port

instance (phys : List Phy) : Decidable (OnePort phys) :=
  inferInstanceAs (Decidable (∀ p ∈ phys, ∀ q ∈ phys, p.port = q.port))

theorem onePort_cons_iff {p : Phy} {phys : List Phy} :
    OnePort (p :: phys) ↔ phys.all (·.port == p.port) = true := by
  rw [List.all_eq_true]
  constructor
  · intro h q hq
    exact beq_iff_eq.2 (h q (List.mem_cons_of_mem _ hq) p List.mem_cons_self)
  · intro h
    have hport : ∀ q ∈ p :: phys, q.port = p.port :=
      List.forall_mem_cons.2 ⟨rfl, fun q hq => beq_iff_eq.1 (h q hq)⟩
    exact fun q hq r hr => (hport q hq).trans (hport r hr).symm

/-- An address places the device by what the table has there: nothing, phys of one port, or phys of
several ports, as only the zero address may have. -/
theorem placeByAddress_cases {table : PhyTable} {a : SasAddress} {placement : Placement}
    (h : (s.placeByAddress table a).run.Course xs (.ok placement)) :
    (table.attachedAt a = [] ∧
        (s.placeByIdentity table.endDevices).run.Course xs (.ok placement)) ∨
      (OnePort (table.attachedAt a) ∧
        ∃ p ∈ table.attachedAt a, placement = .ofPhy p .driverAddress) ∨
      (¬ OnePort (table.attachedAt a) ∧ a = .zero ∧
        (s.placeByIdentity (table.attachedAt a)).run.Course xs (.ok placement)) := by
  unfold placeByAddress at h
  split at h
  · rename_i hat
    exact .inl ⟨hat, h⟩
  · rename_i first others hat
    rw [hat]
    split at h
    · rename_i hports
      cases h.2
      have hmem : ((first :: others).find? s.isNamed).getD first ∈ first :: others := by
        cases hf : (first :: others).find? s.isNamed with
        | none => exact List.mem_cons_self
        | some p => exact List.mem_of_find?_eq_some hf
      exact .inr (.inl ⟨onePort_cons_iff.2 hports, _, hmem, rfl⟩)
    · rename_i hports
      split at h
      · rename_i hzero
        exact .inr (.inr ⟨fun hone => hports (onePort_cons_iff.1 hone), beq_iff_eq.1 hzero, h⟩)
      · cases h.2

theorem course_placeByAddress {table : PhyTable} {a : SasAddress} {placement : Placement}
    (h : (s.placeByAddress table a).run.Course xs (.ok placement)) :
    s.Placed table xs (.address a) placement := by
  rcases placeByAddress_cases h with ⟨-, h⟩ | ⟨hone, p, hm, rfl⟩ | ⟨-, rfl, h⟩
  · obtain ⟨identity, p, hid, hp, rfl⟩ := course_placeByIdentity h
    exact .byIdentity hid (.inl rfl) hp
  · exact .byAddress hm fun q hq => hone q hq p hm
  · obtain ⟨identity, p, hid, hp, rfl⟩ := course_placeByIdentity h
    exact .byIdentity hid (.inr rfl) hp

theorem course_placeByHandle {table : PhyTable} {placement : Placement}
    (hid : s.target.identity = none)
    (h : (s.placeByHandle table).run.Course xs (.ok placement)) :
    s.Placed table xs .unresolved placement := by
  unfold placeByHandle at h
  split at h
  · cases h.2
  · rename_i p hp
    cases (Attempt.course_run_note_bind.1 h).2
    obtain ⟨hb, he⟩ := Option.filter_eq_some_iff.1 hp
    obtain ⟨phy, hphy, hat⟩ := Option.bind_eq_some_iff.1 hb
    exact .byHandle hid hphy hat he

/-- Every place in a phy table was come to in one of the ways of `Placed`, when the device is not an
NVMe device behind a packed address. -/
theorem course_place {table : PhyTable} {resolution : Resolution} {placement : Placement}
    (hn : ∀ confirmed, resolution ≠ .nvme confirmed)
    (h : (s.place table resolution).run.Course xs (.ok placement)) :
    s.Placed table xs resolution placement := by
  cases resolution with
  | address a => exact course_placeByAddress h
  | nvme confirmed => exact absurd rfl (hn confirmed)
  | unresolved =>
    unfold place at h
    cases hid : s.target.identity with
    | none =>
      rw [hid] at h
      exact course_placeByHandle hid h
    | some identity =>
      rw [hid] at h
      obtain ⟨identity, p, hid, hp, rfl⟩ := course_placeByIdentity h
      exact .byIdentity hid (.inl rfl) hp

/-! ## NVMe devices -/

/-- How surely an NVMe device was found, and by what. -/
inductive Assured (s : Search) (packed : SasAddress) (xs : List Exchange) (confirmed : Bool) :
    Confidence → Prop
  | reported : confirmed = true → Assured s packed xs confirmed .driverAddress
  | answered {identity : Identity} :
    s.target.identity = some identity →
    Confirms xs identity (s.identify (s.nvmeEndpoint packed) false) →
    Assured s packed xs confirmed .liveIdentity
  | unasked :
    confirmed = false → s.target.identity = none ∨ s.access.allowsPassthrough = false →
    Assured s packed xs confirmed .phyOnly

theorem Assured.mono {packed : SasAddress} {confirmed : Bool} {confidence : Confidence}
    (h : s.Assured packed ys confirmed confidence) (hi : ys <:+: xs) :
    s.Assured packed xs confirmed confidence := by
  cases h with
  | reported hc => exact .reported hc
  | answered hid ha => exact .answered hid (ha.mono hi)
  | unasked hc hn => exact .unasked hc hn

-- The probe at hand is a closed computation but for the controller; it is not to be unfolded.
attribute [local irreducible] answers? in
theorem course_confirmNvme {packed : SasAddress} {confirmed : Bool} {confidence : Confidence}
    (h : (s.confirmNvme packed confirmed).run.Course xs (.ok confidence)) :
    s.Assured packed xs confirmed confidence := by
  unfold confirmNvme at h
  split at h
  · rename_i hc
    cases h.2
    exact .reported hc
  rename_i hc
  split at h
  · rename_i identity hid
    split at h
    · rename_i hpass
      cases h.2
      exact .unasked (by simpa using hc) (.inr ((Bool.not_eq_true' _).mp hpass))
    · rw [Attempt.course_run_bind_ok] at h
      obtain ⟨ys, zs, answer, rfl, ha, h⟩ := h
      rw [Attempt.course_run_lift_ok] at ha
      split at h
      · rename_i hyes
        obtain ⟨rfl, h⟩ := h
        cases h
        rw [List.append_nil]
        subst hyes
        exact .answered hid (confirms_of_answers? ha)
      · cases h.2
  · rename_i hid
    cases h.2
    exact .unasked (by simpa using hc) (.inl (Option.eq_none_iff_forall_ne_some.2 hid))

end DriveReach.Discovery.Search
