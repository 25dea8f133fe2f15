import DriveReach.Device.Basic
import DriveReach.Inventory.Count
/-!
# Listing devices

The devices behind a list of candidates, found and opened, up to a capacity. Candidates are taken
one by one; when the capacity is used up, the rest of them stay untouched.
-/

namespace DriveReach.Inventory

/-- How a listing is made. -/
structure Plan where
  capacity : Nat
  filter : Filter
  options : OpenOptions
  collaborators : Collaborators

/-- The devices listed so far. -/
structure Listing where
  devices : List Device := []
  failures : Nat := 0
  /-- The capacity ran out before the candidates did. -/
  truncated : Bool := false

namespace Listing

def verdict (l : Listing) : Verdict := .ofCounts l.devices.length l.failures

/-- There is no room for another device. -/
def isFull (l : Listing) (plan : Plan) : Bool := plan.capacity ≤ l.devices.length

def withDevice (l : Listing) (d : Device) : Listing := { l with devices := l.devices ++ [d] }

def withFailure (l : Listing) : Listing := { l with failures := l.failures + 1 }

def truncate (l : Listing) : Listing := { l with truncated := true }

end Listing

/-- The target of a device that a survey found. -/
def Found.target (f : Found) (base : Option String) (number : UInt32) : Discovery.Target where
  controller := number
  base := base
  form := f.form
  lun := 0
  identity := f.identity
  knownAddress := f.knownAddress

/-- Open the devices found behind a controller, as long as there is room. -/
def listFound (plan : Plan) (base : Option String) (number : UInt32) :
    List Found → Listing → Dialogue Listing
  | [], l => return l
  | found :: rest, l => do
    if l.isFull plan then return l.truncate
    let opening := Device.openTarget (found.target base number) plan.options plan.collaborators
    match ← opening.run with
    | .ok device => listFound plan base number rest (l.withDevice device)
    | .error fault =>
      Dialogue.notes [⟨.warn, s!"controller {number.toNat}: device open failed: {fault.message}"⟩]
      listFound plan base number rest l.withFailure

/-- List the devices of controllers reached through one node. -/
def listControllers (plan : Plan) (base : Option String) :
    List UInt32 → Listing → Dialogue Listing
  | [], l => return l
  | number :: numbers, l => do
    match ← (surveyController base number plan.filter).run with
    | .ok found =>
      let l ← listFound plan base number found l
      if l.truncated then return l else listControllers plan base numbers l
    | .error fault =>
      Dialogue.notes [⟨.warn, s!"controller {number.toNat}: probe failed: {fault.message}"⟩]
      listControllers plan base numbers l.withFailure

/-- List the devices of candidates. The second part holds the candidates that were not taken. -/
def listCandidates (plan : Plan) :
    List Candidate → Listing → Dialogue (Listing × List Candidate)
  | [], l => return (l, [])
  | candidate :: candidates, l => do
    if l.isFull plan then return (l.truncate, candidate :: candidates)
    let l ← listControllers plan candidate.base candidate.controllers l
    if l.truncated then return (l, candidates) else listCandidates plan candidates l

/-- List the devices behind the candidates. The second part holds the candidates that were not
taken: all of them when the caller is built for another version. -/
def list (plan : Plan) (candidates : List Candidate) :
    Dialogue (Except Fault Listing × List Candidate) := do
  match plan.options.checkVersion with
  | .error fault => return (.error fault, candidates)
  | .ok () =>
    let (l, left) ← listCandidates plan candidates {}
    if l.verdict = .partialSuccess then
      Dialogue.notes [⟨.warn, s!"listed {l.devices.length} devices, {l.failures} failures"⟩]
    let mark := if l.truncated then ", truncated" else ""
    Dialogue.notes [⟨.info, s!"list pass: {l.devices.length} devices ({l.verdict.name}{mark})"⟩]
    return (.ok l, left)

end DriveReach.Inventory
