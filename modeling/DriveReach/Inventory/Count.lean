import DriveReach.Inventory.Survey
/-!
# Counting devices

The devices behind a list of candidates, found but not opened. Every controller of every candidate
is surveyed once; one that cannot be is a failure. A candidate is taken when its controllers come to
be surveyed.
-/

namespace DriveReach.Inventory

/-- A node and the controllers reached through it. -/
structure Candidate where
  /-- The node, or the default one of each controller. -/
  base : Option String
  controllers : List UInt32
  deriving DecidableEq, Repr

/-- What a pass over candidates came to. -/
inductive Verdict where
  /-- Nothing failed. -/
  | success
  /-- Something failed, but there are devices. -/
  | partialSuccess
  /-- Something failed and there is no device. -/
  | failure
  deriving DecidableEq, Repr

namespace Verdict

/-- The verdict on a number of devices and failures. -/
def ofCounts (devices failures : Nat) : Verdict :=
  if failures = 0 then success
  else if devices = 0 then failure
  else partialSuccess

def name : Verdict → String
  | success => "Success"
  | partialSuccess => "PartialSuccess"
  | failure => "Failure"

end Verdict

/-- Devices and failures. -/
structure Tally where
  devices : Nat := 0
  failures : Nat := 0
  deriving DecidableEq, Repr

def Tally.verdict (t : Tally) : Verdict := .ofCounts t.devices t.failures

/-- What a count came to. -/
structure Counted extends Tally where
  /-- The candidates that were not taken. -/
  left : List Candidate
  deriving DecidableEq, Repr

/-- Count the devices of controllers reached through one node. -/
def countControllers (base : Option String) (filter : Filter) :
    List UInt32 → Tally → Dialogue Tally
  | [], t => return t
  | number :: numbers, t => do
    match ← (surveyController base number filter).run with
    | .ok found =>
      countControllers base filter numbers { t with devices := t.devices + found.length }
    | .error fault =>
      Dialogue.notes [⟨.warn, s!"controller {number.toNat}: probe failed: {fault.message}"⟩]
      countControllers base filter numbers { t with failures := t.failures + 1 }

/-- Count the devices of candidates, which are taken one by one. -/
def countCandidates (filter : Filter) : List Candidate → Tally → Dialogue Counted
  | [], t => return ⟨t, []⟩
  | candidate :: candidates, t => do
    countCandidates filter candidates
      (← countControllers candidate.base filter candidate.controllers t)

/-- Count all devices behind the candidates. -/
def count (candidates : List Candidate) (filter : Filter) : Dialogue Counted := do
  let t ← countCandidates filter candidates {}
  if t.verdict = .partialSuccess then
    Dialogue.notes [⟨.warn, s!"counted {t.devices} devices, {t.failures} controllers failed"⟩]
  Dialogue.notes [⟨.info, s!"count pass: {t.devices} devices ({t.verdict.name})"⟩]
  return t

end DriveReach.Inventory
