import DriveReach.Inventory.Listing
import DriveReach.Proofs.Inventory.Tally
import DriveReach.Proofs.Steady
/-!
# Counts and lists agree

Counting and listing are two passes over the same candidates. When the other side is steady, both
are told the same about each controller, and every device that the count finds is either listed or a
failure of the list, as far as the capacity goes.

* `Listing.Within`: the invariant that the two passes keep, controller by controller.
* `list_agrees`: the two passes agree on the number of devices and failures.
-/

set_option autoImplicit false

namespace DriveReach

namespace Inventory

open Csmi Dialogue

variable {σ : Type} {w : Surroundings σ} {plan : Plan} {base : Option String}

/-! ## What the two passes keep -/

/-- A listing holds no more devices than were counted, and unless it was cut off, each of them is
listed or has failed. -/
structure Listing.Within (l : Listing) (t : Tally) : Prop where
  devices : l.devices.length ≤ t.devices
  balance : l.truncated = false → l.devices.length + l.failures = t.devices + t.failures

namespace Listing.Within

variable {l : Listing} {t t' : Tally}

/-- Nothing more is listed once the capacity is used up, whatever is still counted. -/
theorem of_truncated (h : l.Within t) (ht : l.truncated = true) (hle : t.devices ≤ t'.devices) :
    l.Within t' :=
  ⟨h.devices.trans hle, fun hf => nomatch ht.symm.trans hf⟩

theorem truncate (h : l.Within t) (hle : t.devices ≤ t'.devices) : l.truncate.Within t' :=
  of_truncated ⟨h.devices, fun hf => nomatch hf⟩ rfl hle

theorem withDevice (h : l.Within t) (d : Device) :
    (l.withDevice d).Within { t with devices := t.devices + 1 } := by
  have hlen : (l.withDevice d).devices.length = l.devices.length + 1 := by
    simp [Listing.withDevice]
  refine ⟨?_, fun hf => ?_⟩
  · rw [hlen]
    exact Nat.succ_le_succ h.devices
  · have := h.balance hf
    rw [hlen]
    change l.devices.length + 1 + l.failures = t.devices + 1 + t.failures
    omega

/-- A device that can not be opened is counted all the same. -/
theorem withFailedDevice (h : l.Within t) :
    l.withFailure.Within { t with devices := t.devices + 1 } :=
  ⟨h.devices.trans (Nat.le_succ _), fun hf => by
    have := h.balance hf
    change l.devices.length + (l.failures + 1) = t.devices + 1 + t.failures
    omega⟩

/-- A controller that can not be surveyed is a failure of both passes. -/
theorem withFailedController (h : l.Within t) :
    l.withFailure.Within { t with failures := t.failures + 1 } :=
  ⟨h.devices, fun hf => by
    have := h.balance hf
    change l.devices.length + (l.failures + 1) = t.devices + (t.failures + 1)
    omega⟩

end Listing.Within

/-! ## Devices of one controller -/

theorem listFound_within (w : Surroundings σ) (plan : Plan) (base : Option String)
    (number : UInt32) (found : List Found) {l : Listing} {t : Tally} (h : l.Within t) (s : σ) :
    ((listFound plan base number found l).run w s).value.Within
      { t with devices := t.devices + found.length } := by
  induction found generalizing l t s with
  | nil => exact h
  | cons f found ih =>
    have hcount : ({ t with devices := t.devices + (f :: found).length } : Tally) =
        { t with devices := t.devices + 1 + found.length } := by
      rw [List.length_cons, Nat.add_assoc, Nat.add_comm 1]
    rw [hcount, listFound]
    split
    · exact h.truncate (by dsimp only; omega)
    · rw [value_bind]
      cases ((Device.openTarget (f.target base number) plan.options
        plan.collaborators).run.run w s).value with
      | ok device => exact ih (h.withDevice device) _
      | error fault =>
        dsimp only
        rw [value_notes_bind]
        exact ih h.withFailedDevice _

/-! ## Controllers -/

theorem le_countControllers (w : Surroundings σ) (base : Option String) (filter : Filter)
    (numbers : List UInt32) (t : Tally) (s : σ) :
    t.devices ≤ ((countControllers base filter numbers t).run w s).value.devices := by
  obtain ⟨_, _, -, -, -, ht⟩ := went_countControllers (went_run w _ s)
  rw [ht]
  exact Nat.le_add_right _ _

theorem le_countCandidates (w : Surroundings σ) (filter : Filter) (candidates : List Candidate)
    (t : Tally) (s : σ) :
    t.devices ≤ ((countCandidates filter candidates t).run w s).value.devices := by
  obtain ⟨_, _, -, -, -, ht⟩ := went_countCandidates (went_run w _ s)
  rw [ht]
  exact Nat.le_add_right _ _

theorem listControllers_within (hw : w.Steady) (plan : Plan) (base : Option String)
    (numbers : List UInt32) {l : Listing} {t : Tally} (h : l.Within t) (s s' : σ) :
    ((listControllers plan base numbers l).run w s).value.Within
      ((countControllers base plan.filter numbers t).run w s').value := by
  induction numbers generalizing l t s s' with
  | nil => exact h
  | cons number numbers ih =>
    -- both passes come to the same survey, though from different states
    rw [listControllers, countControllers, value_bind, value_bind,
      hw.value_eq (surveyController base number plan.filter).run s s']
    cases ((surveyController base number plan.filter).run.run w s').value with
    | ok found =>
      dsimp only
      rw [value_bind]
      have hfound := listFound_within w plan base number found h
        ((surveyController base number plan.filter).run.run w s).state
      split
      · exact hfound.of_truncated ‹_› (le_countControllers w base plan.filter numbers _ _)
      · exact ih hfound _ _
    | error fault =>
      dsimp only
      rw [value_notes_bind, value_notes_bind]
      exact ih h.withFailedController _ _

theorem listCandidates_within (hw : w.Steady) (plan : Plan) (candidates : List Candidate)
    {l : Listing} {t : Tally} (h : l.Within t) (s s' : σ) :
    ((listCandidates plan candidates l).run w s).value.1.Within
      ((countCandidates plan.filter candidates t).run w s').value.toTally := by
  induction candidates generalizing l t s s' with
  | nil => exact h
  | cons candidate candidates ih =>
    rw [listCandidates]
    split
    · exact h.truncate (le_countCandidates w plan.filter _ t s')
    · rw [countCandidates, value_bind, value_bind]
      have hcontrollers :=
        listControllers_within hw plan candidate.base candidate.controllers h s s'
      split
      · exact hcontrollers.of_truncated ‹_› (le_countCandidates w plan.filter candidates _ _)
      · exact ih hcontrollers _ _

/-! ## All candidates -/

theorem value_count (w : Surroundings σ) (candidates : List Candidate) (filter : Filter) (s : σ) :
    ((count candidates filter).run w s).value =
      ((countCandidates filter candidates {}).run w s).value := by
  rw [count, value_bind]
  split
  · rw [value_notes_bind, value_notes_bind]
    rfl
  · rw [value_notes_bind]
    rfl

theorem value_list (w : Surroundings σ) (candidates : List Candidate)
    (hversion : plan.options.contextVersion = contextVersion) (s : σ) :
    ((list plan candidates).run w s).value =
      (.ok ((listCandidates plan candidates {}).run w s).value.1,
        ((listCandidates plan candidates {}).run w s).value.2) := by
  have hcheck : plan.options.checkVersion = .ok () := if_pos hversion
  rw [list, hcheck]
  dsimp only
  rw [value_bind]
  split
  · rw [value_notes_bind, value_notes_bind]
    rfl
  · rw [value_notes_bind]
    rfl

/-- **A count and a list agree** when the other side is steady: a list that is not cut off by its
capacity has a device or a failure for every device and failure of the count, and at every capacity
it holds at most as many devices as the count. -/
theorem list_agrees (w : Surroundings σ) (hw : w.Steady) (plan : Plan)
    (hversion : plan.options.contextVersion = contextVersion) (candidates : List Candidate)
    (s s' : σ) :
    ∃ l left, ((list plan candidates).run w s).value = (.ok l, left) ∧
      (l.truncated = false → l.devices.length + l.failures =
        ((count candidates plan.filter).run w s').value.devices +
          ((count candidates plan.filter).run w s').value.failures) ∧
      l.devices.length ≤ ((count candidates plan.filter).run w s').value.devices := by
  have hwithin : Listing.Within {} {} := ⟨Nat.le_refl 0, fun _ => rfl⟩
  have h := listCandidates_within hw plan candidates hwithin s s'
  refine ⟨_, _, value_list w candidates hversion s, ?_⟩
  rw [value_count]
  exact ⟨h.balance, h.devices⟩

/-- Two controllers with two devices each, and just as much room. -/
theorem list_agrees_mixedSet :
    (Script.steadyDriver mixedSet).Steady ∧
    ((count [⟨none, [0, 1]⟩] ⟨0⟩).run (Script.steadyDriver mixedSet) ()).value = ⟨⟨4, 0⟩, []⟩ ∧
    ∃ l left, ((list ⟨4, ⟨0⟩, {}, {}⟩ [⟨none, [0, 1]⟩]).run (Script.steadyDriver mixedSet)
        ()).value = (.ok l, left) ∧ l.truncated = false ∧
      (l.truncated = false → l.devices.length + l.failures =
        ((count [⟨none, [0, 1]⟩] ⟨0⟩).run (Script.steadyDriver mixedSet) ()).value.devices +
          ((count [⟨none, [0, 1]⟩] ⟨0⟩).run (Script.steadyDriver mixedSet) ()).value.failures) ∧
      l.devices.length ≤
        ((count [⟨none, [0, 1]⟩] ⟨0⟩).run (Script.steadyDriver mixedSet) ()).value.devices := by
  have hlist : ((list ⟨4, ⟨0⟩, {}, {}⟩ [⟨none, [0, 1]⟩]).run (Script.steadyDriver mixedSet)
      ()).value.1.toOption.map (·.truncated) = some false := by decide +kernel
  have hsteady := steady_steadyDriver mixedSet
  obtain ⟨l, left, hv, hbalance, hle⟩ :=
    list_agrees _ hsteady ⟨4, ⟨0⟩, {}, {}⟩ rfl [⟨none, [0, 1]⟩] () ()
  rw [hv] at hlist
  dsimp only at hbalance hle
  exact ⟨hsteady, by decide +kernel, l, left, hv, Option.some.inj hlist, hbalance, hle⟩

end Inventory

end DriveReach
