import DriveReach.Inventory.Count
import DriveReach.Proofs.Inventory.Survey
import DriveReach.Proofs.Transcript
/-!
# Visits to controllers

A pass over candidates visits their controllers one after the other. A `Visit` is what such a visit
shows from outside: the node and the number, what attaching came to, and the exchanges.

* `Visit.Yields`: what a visit comes to, by its exchanges.
* `went_surveyController`: attaching and surveying is a visit.
* `went_countCandidates`: counting candidates is one visit to each of their controllers, in order,
  and adds up what the visits come to.
-/

set_option autoImplicit false

namespace DriveReach.Inventory

open Csmi Dialogue

/-- A visit to a controller, as it is seen from outside. -/
structure Visit where
  base : Option String
  number : UInt32
  opening : Except Fault Channel
  exchanges : List Exchange

namespace Visit

/-- Where the visit goes. -/
def place (v : Visit) : Option String × UInt32 := (v.base, v.number)

/-- The turns of a visit. -/
def turns (v : Visit) : List Turn :=
  .attach v.base v.number v.opening :: v.exchanges.map .call

/-- A visit surveys the controller, unless it can not be attached to. -/
def Yields (filter : Filter) (v : Visit) (result : Except Fault (List Found)) : Prop :=
  match v.opening with
  | .error fault => v.exchanges = [] ∧ result = .error fault
  | .ok channel => Surveyed { channel := channel, number := v.number } filter v.exchanges result

theorem filterMap_exchange?_turns (v : Visit) :
    v.turns.filterMap Turn.exchange? = v.exchanges := by
  rw [turns, List.filterMap_cons_none rfl, List.filterMap_map]
  exact List.filterMap_some

end Visit

/-- The controllers of a candidate, with the node to reach them. -/
def Candidate.places (candidate : Candidate) : List (Option String × UInt32) :=
  candidate.controllers.map fun number => (candidate.base, number)

/-! ## One visit -/

section
variable {c : Controller} {filter : Filter}

theorem stays_surveySets {traits : Driver.Traits} {info : RaidInfo} {count : Nat}
    {index : UInt32} {ds : Drives} :
    (surveySets c filter traits info count index ds).run.Stays := by
  induction count generalizing index ds with
  | zero => exact trivial
  | succ count ih =>
    exact Attempt.stays_bind (Attempt.stays_unlessDeclined (c.stays_raidConfig _ _)) fun _ => ih

theorem stays_surveyRaid {traits : Driver.Traits} : (surveyRaid c filter traits).run.Stays := by
  refine Attempt.stays_bind (Attempt.stays_outcome Controller.stays_ask) fun answer => ?_
  cases answer with
  | error fault =>
    dsimp only
    split
    · exact Attempt.stays_bind Attempt.stays_note fun _ => trivial
    · exact trivial
  | ok info => exact Attempt.stays_bind stays_surveySets fun _ => trivial

theorem stays_survey : (survey c filter).run.Stays := by
  refine Attempt.stays_bind Controller.stays_ask fun driver => ?_
  refine Attempt.stays_bind stays_surveyRaid fun (ds, shortfall) => ?_
  dsimp only
  split
  · exact trivial
  split
  · exact Attempt.stays_bind Attempt.stays_note fun _ => trivial
  · exact Attempt.stays_bind Controller.stays_ask fun _ => trivial

end

theorem went_surveyController {base : Option String} {number : UInt32} {filter : Filter}
    {ts : List Turn} {r : Except Fault (List Found)}
    (h : (surveyController base number filter).run.Went ts r) :
    ∃ v : Visit, v.place = (base, number) ∧ ts = v.turns ∧ v.Yields filter r := by
  obtain ⟨answer, us, rfl, hs⟩ := went_attach_bind.1 h
  cases answer with
  | error fault =>
    obtain ⟨rfl, rfl⟩ := hs
    exact ⟨⟨base, number, .error fault, []⟩, rfl, rfl, rfl, rfl⟩
  | ok channel =>
    obtain ⟨xs, rfl, hc⟩ := stays_survey.went hs
    exact ⟨⟨base, number, .ok channel, xs⟩, rfl, rfl, course_survey hc⟩

/-! ## Counting -/

/-- The tally of controllers, given the number of devices of each that could be surveyed. -/
def Tally.ofOutcomes (outcomes : List (Option Nat)) : Tally where
  devices := (outcomes.filterMap id).sum
  failures := outcomes.count none

/-- The number of devices found. -/
def outcomeOf (result : Except Fault (List Found)) : Option Nat := result.toOption.map List.length

/-- A tally with another one added. -/
def Tally.add (t u : Tally) : Tally := ⟨t.devices + u.devices, t.failures + u.failures⟩

theorem Tally.add_ofOutcomes_cons (t : Tally) (outcome : Option Nat)
    (outcomes : List (Option Nat)) :
    t.add (ofOutcomes (outcome :: outcomes)) =
      (t.add (ofOutcomes [outcome])).add (ofOutcomes outcomes) := by
  cases outcome <;> simp [add, ofOutcomes] <;> omega

theorem Tally.add_ofOutcomes_append (t : Tally) (outcomes others : List (Option Nat)) :
    t.add (ofOutcomes (outcomes ++ others)) =
      (t.add (ofOutcomes outcomes)).add (ofOutcomes others) := by
  simp [add, ofOutcomes]
  omega

theorem went_countControllers {base : Option String} {filter : Filter} {numbers : List UInt32}
    {t t' : Tally} {ts : List Turn} (h : (countControllers base filter numbers t).Went ts t') :
    ∃ visits results, visits.map Visit.place = numbers.map (fun number => (base, number)) ∧
      ts = visits.flatMap Visit.turns ∧ List.Forall₂ (Visit.Yields filter) visits results ∧
      t' = t.add (.ofOutcomes (results.map outcomeOf)) := by
  -- what was counted before is the tally at the start, so it varies with the controllers
  induction numbers generalizing t ts with
  | nil =>
    obtain ⟨rfl, rfl⟩ := h
    exact ⟨[], [], rfl, rfl, .nil, rfl⟩
  | cons number numbers ih =>
    rw [countControllers] at h
    obtain ⟨us, vs, r, rfl, hs, hnext⟩ := went_bind.1 h
    obtain ⟨v, hplace, rfl, hv⟩ := went_surveyController hs
    have hrest : (countControllers base filter numbers
        (t.add (.ofOutcomes [outcomeOf r]))).Went vs t' := by
      cases r with
      | ok found => exact hnext
      | error fault => exact went_notes_bind.1 hnext
    obtain ⟨visits, results, hplaces, rfl, hvs, rfl⟩ := ih hrest
    refine ⟨v :: visits, r :: results, ?_, rfl, .cons hv hvs, ?_⟩
    · rw [List.map_cons, List.map_cons, hplace, hplaces]
    · rw [List.map_cons, ← Tally.add_ofOutcomes_cons]

/-- Counting ends when no candidate is left. -/
theorem went_countCandidates {filter : Filter} {candidates : List Candidate} {t : Tally}
    {counted : Counted} {ts : List Turn}
    (h : (countCandidates filter candidates t).Went ts counted) :
    ∃ visits results, visits.map Visit.place = candidates.flatMap Candidate.places ∧
      ts = visits.flatMap Visit.turns ∧ List.Forall₂ (Visit.Yields filter) visits results ∧
      counted = ⟨t.add (.ofOutcomes (results.map outcomeOf)), []⟩ := by
  induction candidates generalizing t ts with
  | nil =>
    obtain ⟨rfl, rfl⟩ := h
    exact ⟨[], [], rfl, rfl, .nil, rfl⟩
  | cons candidate candidates ih =>
    rw [countCandidates] at h
    obtain ⟨us, vs, u, rfl, hc, hnext⟩ := went_bind.1 h
    obtain ⟨visits, results, hplaces, rfl, hvs, rfl⟩ := went_countControllers hc
    obtain ⟨visits', results', hplaces', rfl, hvs', rfl⟩ := ih hnext
    refine ⟨visits ++ visits', results ++ results', ?_, ?_, List.rel_append hvs hvs', ?_⟩
    · rw [List.map_append, hplaces, hplaces', List.flatMap_cons, Candidate.places]
    · rw [List.flatMap_append]
    · rw [List.map_append, Tally.add_ofOutcomes_append]

end DriveReach.Inventory
