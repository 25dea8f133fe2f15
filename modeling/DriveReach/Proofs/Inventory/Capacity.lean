import DriveReach.Proofs.Discovery.Attachments
import DriveReach.Proofs.Inventory.Agreement
/-!
# Lists and their capacity

A list takes candidates one by one and opens what it finds, as long as there is room.

* `Listing.Fits`: the invariant of the loops. A listing never outgrows the capacity, and one that is
  cut off fills it.
* `listCandidates_taken`: the candidates that are left could as well not have been there.
* `devices_listCandidates`: against steady surroundings a list holds the first of the devices that
  can be opened at all (`openable`), so that the capacity decides only how many there are.
* `list_capacity`: all of this for a whole list.
-/

set_option autoImplicit false

namespace DriveReach.Inventory

open Csmi Dialogue

variable {σ : Type} {plan : Plan} {base : Option String}

/-! ## Room -/

/-- There are no more devices than the capacity, and just as many when the listing was cut off. -/
structure Listing.Fits (l : Listing) (capacity : Nat) : Prop where
  room : l.devices.length ≤ capacity
  full : l.truncated = true → l.devices.length = capacity

namespace Listing

variable {l : Listing} {capacity : Nat}

theorem isFull_iff : l.isFull plan = true ↔ plan.capacity ≤ l.devices.length := by
  rw [isFull, decide_eq_true_eq]

theorem length_withDevice (d : Device) :
    (l.withDevice d).devices.length = l.devices.length + 1 := by
  rw [withDevice, List.length_append, List.length_singleton]

theorem Fits.truncate (h : l.Fits plan.capacity) (hf : l.isFull plan = true) :
    l.truncate.Fits plan.capacity :=
  ⟨h.room, fun _ => Nat.le_antisymm h.room (isFull_iff.1 hf)⟩

/-- There is room for a device while the listing is not full. It can not have been cut off then. -/
theorem Fits.withDevice (h : l.Fits plan.capacity) (hf : ¬ l.isFull plan = true) (d : Device) :
    (l.withDevice d).Fits plan.capacity := by
  have hlt : l.devices.length < plan.capacity := Nat.lt_of_not_le fun hle => hf (isFull_iff.2 hle)
  refine ⟨by rw [length_withDevice]; exact hlt, fun ht => ?_⟩
  exact absurd (h.full ht) (Nat.ne_of_lt hlt)

theorem Fits.withFailure (h : l.Fits capacity) : l.withFailure.Fits capacity := ⟨h.room, h.full⟩

end Listing

section
variable (w : Surroundings σ)

theorem listFound_fits (plan : Plan) (base : Option String) (number : UInt32) (found : List Found)
    {l : Listing} (h : l.Fits plan.capacity) (s : σ) :
    ((listFound plan base number found l).run w s).value.Fits plan.capacity := by
  induction found generalizing l s with
  | nil => exact h
  | cons f found ih =>
    rw [listFound]
    split
    · exact h.truncate ‹_›
    · rw [value_bind]
      cases ((Device.openTarget (f.target base number) plan.options
        plan.collaborators).run.run w s).value with
      | ok device => exact ih (h.withDevice ‹_› device) _
      | error fault =>
        dsimp only
        rw [value_notes_bind]
        exact ih h.withFailure _

theorem listControllers_fits (plan : Plan) (base : Option String) (numbers : List UInt32)
    {l : Listing} (h : l.Fits plan.capacity) (s : σ) :
    ((listControllers plan base numbers l).run w s).value.Fits plan.capacity := by
  induction numbers generalizing l s with
  | nil => exact h
  | cons number numbers ih =>
    rw [listControllers, value_bind]
    cases ((surveyController base number plan.filter).run.run w s).value with
    | ok found =>
      dsimp only
      rw [value_bind]
      have hfound := listFound_fits w plan base number found h
        ((surveyController base number plan.filter).run.run w s).state
      split
      · exact hfound
      · exact ih hfound _
    | error fault =>
      dsimp only
      rw [value_notes_bind]
      exact ih h.withFailure _

/-- Candidates are left only by a listing that was cut off. -/
theorem listCandidates_fits (plan : Plan) (candidates : List Candidate) {l : Listing}
    (h : l.Fits plan.capacity) (s : σ) :
    ((listCandidates plan candidates l).run w s).value.1.Fits plan.capacity ∧
      (((listCandidates plan candidates l).run w s).value.2 ≠ [] →
        ((listCandidates plan candidates l).run w s).value.1.truncated = true) := by
  induction candidates generalizing l s with
  | nil => exact ⟨h, fun hn => absurd rfl hn⟩
  | cons candidate candidates ih =>
    rw [listCandidates]
    split
    · exact ⟨h.truncate ‹_›, fun _ => rfl⟩
    · rw [value_bind]
      have hcontrollers :=
        listControllers_fits w plan candidate.base candidate.controllers h s
      split
      · exact ⟨hcontrollers, fun _ => ‹_›⟩
      · exact ih hcontrollers _

/-! ## Candidates that are left -/

/-- A list attaches and calls as it would have if only the candidates it took had been there. -/
theorem listCandidates_taken (plan : Plan) (candidates : List Candidate) (l : Listing) (s : σ) :
    ∃ taken, candidates = taken ++ ((listCandidates plan candidates l).run w s).value.2 ∧
      (listCandidates plan candidates l).turns w s = (listCandidates plan taken l).turns w s := by
  induction candidates generalizing l s with
  | nil => exact ⟨[], rfl, rfl⟩
  | cons candidate candidates ih =>
    by_cases hf : l.isFull plan = true
    · have hnone : listCandidates plan (candidate :: candidates) l =
          .done (l.truncate, candidate :: candidates) := by rw [listCandidates, if_pos hf]; rfl
      rw [hnone]
      exact ⟨[], rfl, rfl⟩
    · -- the first candidate is taken; whether others are depends on the room that it leaves
      have hfirst : ∀ rest, listCandidates plan (candidate :: rest) l =
          listControllers plan candidate.base candidate.controllers l >>= fun l =>
            if l.truncated then return (l, rest) else listCandidates plan rest l :=
        fun rest => by rw [listCandidates, if_neg hf]
      rw [hfirst, value_bind, turns_bind]
      split
      · refine ⟨[candidate], rfl, ?_⟩
        rw [hfirst, turns_bind, if_pos ‹_›]
        rfl
      · obtain ⟨taken, htaken, hturns⟩ := ih
          ((listControllers plan candidate.base candidate.controllers l).run w s).value
          ((listControllers plan candidate.base candidate.controllers l).run w s).state
        refine ⟨candidate :: taken, ?_, ?_⟩
        · rw [List.cons_append, ← htaken]
        · rw [hfirst, turns_bind, if_neg ‹_›, hturns]

theorem turns_list (plan : Plan) (candidates : List Candidate)
    (hversion : plan.options.contextVersion = contextVersion) (s : σ) :
    (list plan candidates).turns w s = (listCandidates plan candidates {}).turns w s := by
  have hcheck : plan.options.checkVersion = .ok () := if_pos hversion
  rw [list, hcheck]
  dsimp only
  rw [turns_bind]
  split
  · rw [turns_notes_bind, turns_notes_bind]
    exact List.append_nil _
  · rw [turns_notes_bind]
    exact List.append_nil _

end

/-! ## Attachments -/

theorem attachesTo_listFound {number : UInt32} {found : List Found} {l : Listing} :
    (listFound plan base number found l).AttachesTo fun b n => (b, n) = (base, number) := by
  induction found generalizing l with
  | nil => exact trivial
  | cons f found ih =>
    rw [listFound]
    split
    · exact trivial
    refine attachesTo_bind Device.attachesTo_openTarget fun r => ?_
    cases r with
    | ok device => exact ih
    | error fault => exact attachesTo_bind stays_notes.attachesTo fun _ => ih

theorem attachesTo_surveyController {number : UInt32} {filter : Filter} :
    (surveyController base number filter).run.AttachesTo fun b n => (b, n) = (base, number) := by
  refine attachesTo_attach_bind fun answer => ?_
  cases answer with
  | error fault => exact trivial
  | ok channel => exact stays_survey

theorem attachesTo_listControllers {numbers : List UInt32} {l : Listing} :
    (listControllers plan base numbers l).AttachesTo fun b n => b = base ∧ n ∈ numbers := by
  induction numbers generalizing l with
  | nil => exact trivial
  | cons number numbers ih =>
    have hrest {l : Listing} : (listControllers plan base numbers l).AttachesTo fun b n =>
        b = base ∧ n ∈ number :: numbers :=
      ih.mono fun _ _ h => ⟨h.1, List.mem_cons_of_mem _ h.2⟩
    have hhere : ∀ (b : Option String) (n : UInt32), (b, n) = (base, number) →
        b = base ∧ n ∈ number :: numbers := by
      rintro b n ⟨⟩
      exact ⟨rfl, List.mem_cons_self⟩
    refine attachesTo_bind (attachesTo_surveyController.mono hhere) fun r => ?_
    cases r with
    | error fault => exact attachesTo_bind stays_notes.attachesTo fun _ => hrest
    | ok found =>
      refine attachesTo_bind (attachesTo_listFound.mono hhere) fun l => ?_
      split
      · exact trivial
      · exact hrest

theorem attachesTo_listCandidates {candidates : List Candidate} {l : Listing} :
    (listCandidates plan candidates l).AttachesTo fun b n =>
      ∃ c ∈ candidates, b = c.base ∧ n ∈ c.controllers := by
  induction candidates generalizing l with
  | nil => exact trivial
  | cons candidate candidates ih =>
    rw [listCandidates]
    split
    · exact trivial
    refine attachesTo_bind (attachesTo_listControllers.mono ?_) fun l => ?_
    · exact fun _ _ h => ⟨candidate, List.mem_cons_self, h⟩
    split
    · exact trivial
    · refine ih.mono ?_
      rintro _ _ ⟨c, hc, h⟩
      exact ⟨c, List.mem_cons_of_mem _ hc, h⟩

/-! ## Steady surroundings -/

/-- The device that was found, when it can be opened. -/
def opened? (w : Surroundings σ) (plan : Plan) (s : σ) (base : Option String) (number : UInt32)
    (f : Found) : Option Device :=
  ((Device.openTarget (f.target base number) plan.options plan.collaborators).result w s).toOption

/-- The devices behind a controller that can be opened, however many there are. -/
def openableAt (w : Surroundings σ) (plan : Plan) (s : σ) (base : Option String)
    (number : UInt32) : List Device :=
  match (surveyController base number plan.filter).result w s with
  | .error _ => []
  | .ok found => found.filterMap (opened? w plan s base number)

/-- The devices behind candidates that can be opened. -/
def openable (w : Surroundings σ) (plan : Plan) (s : σ) (candidates : List Candidate) :
    List Device :=
  candidates.flatMap fun c => c.controllers.flatMap (openableAt w plan s c.base)

section
variable {w : Surroundings σ}

/-- A listing that was cut off holds the first of all devices, whatever could still be opened. -/
theorem Listing.Fits.take_of_truncated {l : Listing} {capacity : Nat} (h : l.Fits capacity)
    (ht : l.truncated = true) (more : List Device) :
    l.devices = (l.devices ++ more).take capacity :=
  (List.take_left' (h.full ht)).symm

/-- Elements beyond the first `n` do not matter to what the first `n` are. -/
theorem take_append_take {α : Type} (n : Nat) (xs ys : List α) :
    (xs.take n ++ ys).take n = (xs ++ ys).take n := by
  rw [List.take_append, List.take_append, List.take_take, Nat.min_self, List.length_take]
  congr 2
  omega

theorem devices_listFound (hw : w.Steady) (plan : Plan) (base : Option String) (number : UInt32)
    (found : List Found) {l : Listing} (h : l.Fits plan.capacity) (s s' : σ) :
    ((listFound plan base number found l).run w s').value.devices =
      (l.devices ++ found.filterMap (opened? w plan s base number)).take plan.capacity := by
  induction found generalizing l s' with
  | nil =>
    rw [List.filterMap_nil, List.append_nil, List.take_of_length_le h.room]
    rfl
  | cons f found ih =>
    rw [listFound]
    split
    · exact (h.truncate ‹_›).take_of_truncated rfl _
    · rw [value_bind, hw.value_eq _ s' s, List.filterMap_cons, opened?, Attempt.result]
      cases ((Device.openTarget (f.target base number) plan.options
        plan.collaborators).run.run w s).value with
      | ok device =>
        rw [ih (h.withDevice ‹_› device), Listing.withDevice, List.append_assoc]
        rfl
      | error fault =>
        dsimp only
        rw [value_notes_bind, ih h.withFailure]
        rfl

theorem devices_listControllers (hw : w.Steady) (plan : Plan) (base : Option String)
    (numbers : List UInt32) {l : Listing} (h : l.Fits plan.capacity) (s s' : σ) :
    ((listControllers plan base numbers l).run w s').value.devices =
      (l.devices ++ numbers.flatMap (openableAt w plan s base)).take plan.capacity := by
  induction numbers generalizing l s' with
  | nil =>
    rw [List.flatMap_nil, List.append_nil, List.take_of_length_le h.room]
    rfl
  | cons number numbers ih =>
    rw [listControllers, value_bind, hw.value_eq _ s' s, List.flatMap_cons, openableAt,
      Attempt.result]
    cases ((surveyController base number plan.filter).run.run w s).value with
    | error fault =>
      dsimp only
      rw [value_notes_bind, ih h.withFailure]
      rfl
    | ok found =>
      dsimp only
      rw [value_bind]
      have hfits := listFound_fits w plan base number found h
        ((surveyController base number plan.filter).run.run w s').state
      rw [← List.append_assoc, ← take_append_take,
        ← devices_listFound hw plan base number found h s
          ((surveyController base number plan.filter).run.run w s').state]
      split
      · exact hfits.take_of_truncated ‹_› _
      · exact ih hfits _

theorem devices_listCandidates (hw : w.Steady) (plan : Plan) (candidates : List Candidate)
    {l : Listing} (h : l.Fits plan.capacity) (s s' : σ) :
    ((listCandidates plan candidates l).run w s').value.1.devices =
      (l.devices ++ openable w plan s candidates).take plan.capacity := by
  induction candidates generalizing l s' with
  | nil =>
    rw [openable, List.flatMap_nil, List.append_nil, List.take_of_length_le h.room]
    rfl
  | cons candidate candidates ih =>
    rw [listCandidates]
    split
    · exact (h.truncate ‹_›).take_of_truncated rfl _
    · rw [value_bind, openable, List.flatMap_cons]
      have hfits := listControllers_fits w plan candidate.base candidate.controllers h s'
      rw [← List.append_assoc, ← take_append_take,
        ← devices_listControllers hw plan candidate.base candidate.controllers h s s']
      split
      · exact hfits.take_of_truncated ‹_› _
      · exact ih hfits _

end

/-! ## Whole lists -/

/-- The candidates `left` behind `taken` were not touched: the list attaches and calls as it does
without them, and attaches to controllers of the others alone. -/
structure Untouched (w : Surroundings σ) (plan : Plan) (s : σ) (taken left : List Candidate) :
    Prop where
  turns : ((list plan (taken ++ left)).run w s).events.filter Event.isTurn =
    ((list plan taken).run w s).events.filter Event.isTurn
  attached : ∀ base number,
    .attached base number ∈ ((list plan (taken ++ left)).run w s).events →
      ∃ c ∈ taken, base = c.base ∧ number ∈ c.controllers

theorem untouched_of_turns {w : Surroundings σ} {s : σ} {taken left : List Candidate}
    (hversion : plan.options.contextVersion = contextVersion)
    (h : (listCandidates plan (taken ++ left) {}).turns w s =
      (listCandidates plan taken {}).turns w s) : Untouched w plan s taken left := by
  have hturns : ((list plan (taken ++ left)).run w s).events.filter Event.isTurn =
      ((listCandidates plan taken {}).run w s).events.filter Event.isTurn := by
    rw [events_eq_turns, events_eq_turns, turns_list w plan _ hversion, h]
  refine ⟨?_, fun base number hm => ?_⟩
  · rw [hturns, events_eq_turns, events_eq_turns, turns_list w plan _ hversion]
  · have hturn := List.mem_filter.2 ⟨hm, (rfl : Event.isTurn (.attached base number) = true)⟩
    rw [hturns] at hturn
    exact attachesTo_listCandidates.event w s (List.mem_filter.1 hturn).1

theorem fits_empty (capacity : Nat) : Listing.Fits {} capacity :=
  ⟨Nat.zero_le _, fun ht => nomatch ht⟩

/-- A caller of another version gets a fault, and nothing is done. -/
theorem list_of_otherVersion (w : Surroundings σ) (plan : Plan) (candidates : List Candidate)
    (s : σ) (hversion : plan.options.contextVersion ≠ contextVersion) :
    (list plan candidates).run w s =
      ⟨(.error (.versionMismatch contextVersion plan.options.contextVersion), candidates), s,
        []⟩ := by
  have hcheck : plan.options.checkVersion = .error _ := if_neg hversion
  rw [list, hcheck]
  rfl

/-- What a list comes to is a listing that fits, and candidates that were not touched. -/
theorem list_fits (w : Surroundings σ) (plan : Plan) (candidates : List Candidate) (s : σ)
    {l : Listing} {left : List Candidate}
    (h : ((list plan candidates).run w s).value = (.ok l, left)) :
    l.Fits plan.capacity ∧ (left ≠ [] → l.truncated = true) ∧
      ∃ taken, candidates = taken ++ left ∧ Untouched w plan s taken left := by
  have hversion : plan.options.contextVersion = contextVersion := by
    by_contra hne
    rw [list_of_otherVersion w plan candidates s hne] at h
    cases h
  have hvalue := value_list w candidates hversion s
  rw [h] at hvalue
  cases hvalue
  obtain ⟨hfits, hcut⟩ := listCandidates_fits w plan candidates (fits_empty plan.capacity) s
  obtain ⟨taken, htaken, hturns⟩ := listCandidates_taken w plan candidates {} s
  refine ⟨hfits, hcut, taken, htaken, untouched_of_turns hversion ?_⟩
  rw [← htaken, hturns]

/-- Against steady surroundings a list holds the first of the devices that can be opened. -/
theorem devices_list {w : Surroundings σ} (hw : w.Steady) (plan : Plan)
    (hversion : plan.options.contextVersion = contextVersion) (candidates : List Candidate)
    (s : σ) :
    ∃ l left, ((list plan candidates).run w s).value = (.ok l, left) ∧
      l.devices = (openable w plan s candidates).take plan.capacity :=
  ⟨_, _, value_list w candidates hversion s,
    devices_listCandidates hw plan candidates (fits_empty plan.capacity) s s⟩

/-- With room for more than can be opened, a list holds it all. -/
theorem devices_list_unlimited {w : Surroundings σ} (hw : w.Steady) (plan : Plan)
    (hversion : plan.options.contextVersion = contextVersion) (candidates : List Candidate)
    (s : σ) (hroom : (openable w plan s candidates).length < plan.capacity) :
    ∃ l, ((list plan candidates).run w s).value = (.ok l, []) ∧
      l.devices = openable w plan s candidates ∧ l.truncated = false := by
  obtain ⟨l, left, hvalue, hdevices⟩ := devices_list hw plan hversion candidates s
  rw [List.take_of_length_le (Nat.le_of_lt hroom)] at hdevices
  obtain ⟨hfits, hcut, -⟩ := list_fits w plan candidates s hvalue
  have hwhole : l.truncated ≠ true := by
    intro ht
    have hfull := hfits.full ht
    rw [hdevices] at hfull
    omega
  have hleft : left = [] := by
    by_contra hne
    exact hwhole (hcut hne)
  rw [hleft] at hvalue
  exact ⟨l, hvalue, hdevices, by simpa using hwhole⟩

/-- **A list keeps to its capacity.** It never holds more devices, and it leaves a suffix of its
candidates untouched. Some are left only when it was cut off, and it is cut off only when it holds
as many devices as it may. For a caller of another version it does nothing at all. Against steady
surroundings its devices are the first ones of the list without a limit. -/
theorem list_capacity (w : Surroundings σ) (plan : Plan) (candidates : List Candidate) (s : σ) :
    (∀ l left, ((list plan candidates).run w s).value = (.ok l, left) →
      l.devices.length ≤ plan.capacity ∧
      (l.truncated = true → l.devices.length = plan.capacity) ∧
      (left ≠ [] → l.truncated = true) ∧
      ∃ taken, candidates = taken ++ left ∧ Untouched w plan s taken left) ∧
    (∀ fault left, ((list plan candidates).run w s).value = (.error fault, left) →
      fault = .versionMismatch contextVersion plan.options.contextVersion ∧ left = candidates ∧
      ((list plan candidates).run w s).events = []) ∧
    (w.Steady → plan.options.contextVersion = contextVersion → ∃ all : List Device,
      (∀ capacity, all.length < capacity → ∃ l,
        ((list { plan with capacity := capacity } candidates).run w s).value = (.ok l, []) ∧
        l.devices = all ∧ l.truncated = false) ∧
      ∀ capacity, ∃ l left,
        ((list { plan with capacity := capacity } candidates).run w s).value = (.ok l, left) ∧
        l.devices = all.take (min capacity all.length)) := by
  refine ⟨fun l left h => ?_, fun fault left h => ?_, fun hw hversion => ?_⟩
  · obtain ⟨hfits, hcut, htaken⟩ := list_fits w plan candidates s h
    exact ⟨hfits.room, hfits.full, hcut, htaken⟩
  · by_cases hversion : plan.options.contextVersion = contextVersion
    · rw [value_list w candidates hversion s] at h
      cases h
    · rw [list_of_otherVersion w plan candidates s hversion] at h ⊢
      cases h
      exact ⟨rfl, rfl, rfl⟩
  · -- what can be opened does not depend on the capacity
    refine ⟨openable w plan s candidates, fun capacity hlt => ?_, fun capacity => ?_⟩
    · exact devices_list_unlimited hw { plan with capacity := capacity } hversion candidates s hlt
    · obtain ⟨l, left, hvalue, hdevices⟩ :=
        devices_list hw { plan with capacity := capacity } hversion candidates s
      exact ⟨l, left, hvalue, hdevices.trans List.take_eq_take_min⟩

/-- A list that comes to devices and leaves candidates, given by what is seen of both. -/
theorem exists_listing_left {α : Type} {r : Except Fault Listing × List Candidate}
    {f : Listing → α} {v : α} {left : List Candidate}
    (h : Prod.map (fun result : Except Fault Listing => result.toOption.map f) id r =
      (some v, left)) : ∃ l, r = (.ok l, left) ∧ f l = v := by
  obtain ⟨result, rest⟩ := r
  obtain ⟨hresult, rfl⟩ := Prod.mk.inj h
  obtain ⟨l, rfl, hv⟩ := Except.exists_of_toOption_map hresult
  exact ⟨l, rfl, hv⟩

/-- Three candidates with one controller of two devices each. -/
def threeNodes : List Candidate := [⟨none, [0]⟩, ⟨none, [1]⟩, ⟨none, [2]⟩]

/-- Room for three devices is used up within the second candidate, and the third one is left. -/
theorem list_capacity_threeNodes :
    (∃ l taken, ((list ⟨3, ⟨0⟩, {}, {}⟩ threeNodes).run (Script.steadyDriver mixedSet) ()).value =
        (.ok l, [⟨none, [2]⟩]) ∧ l.truncated = true ∧ l.devices.length = 3 ∧
      threeNodes = taken ++ [⟨none, [2]⟩] ∧
      Untouched (Script.steadyDriver mixedSet) ⟨3, ⟨0⟩, {}, {}⟩ () taken [⟨none, [2]⟩]) ∧
    ((list ⟨3, ⟨0⟩, { contextVersion := 2 }, {}⟩ threeNodes).run (Script.steadyDriver mixedSet)
      ()).events = [] ∧
    ∃ all : List Device, ∀ capacity, ∃ l left,
      ((list ⟨capacity, ⟨0⟩, {}, {}⟩ threeNodes).run (Script.steadyDriver mixedSet) ()).value =
        (.ok l, left) ∧ l.devices = all.take (min capacity all.length) := by
  obtain ⟨hlisted, -, hsteady⟩ :=
    list_capacity (Script.steadyDriver mixedSet) ⟨3, ⟨0⟩, {}, {}⟩ threeNodes ()
  obtain ⟨-, hother, -⟩ := list_capacity (Script.steadyDriver mixedSet)
    ⟨3, ⟨0⟩, { contextVersion := 2 }, {}⟩ threeNodes ()
  refine ⟨?_, (hother _ _ rfl).2.2, ?_⟩
  · obtain ⟨l, hvalue, ht⟩ : ∃ l : Listing, ((list ⟨3, ⟨0⟩, {}, {}⟩ threeNodes).run
        (Script.steadyDriver mixedSet) ()).value = (.ok l, [⟨none, [2]⟩]) ∧ l.truncated = true :=
      exists_listing_left (by decide +kernel)
    obtain ⟨-, hfull, -, taken, htaken, huntouched⟩ := hlisted l _ hvalue
    exact ⟨l, taken, hvalue, ht, hfull ht, htaken, huntouched⟩
  · obtain ⟨all, -, hall⟩ := hsteady (steady_steadyDriver mixedSet) rfl
    exact ⟨all, hall⟩

end DriveReach.Inventory
