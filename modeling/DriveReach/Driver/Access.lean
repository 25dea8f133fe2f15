/-!
# Access levels

What the system lets callers do through a driver. Each level allows what the level before it allows.
-/

namespace DriveReach.Driver

/-- How far callers may go. -/
inductive Access where
  | none
  /-- Information queries. -/
  | limited
  /-- Also passthrough commands and counter resets. -/
  | restricted
  /-- Also firmware download. -/
  | full
  deriving DecidableEq, Repr

namespace Access

/-- The position of a level, 0 for no access. -/
def rank : Access → Nat
  | none => 0
  | limited => 1
  | restricted => 2
  | full => 3

def name : Access → String
  | none => "None"
  | limited => "Limited"
  | restricted => "Restricted"
  | full => "Full"

def ofName? (name : String) : Option Access :=
  [none, limited, restricted, full].find? (·.name == name)

/-- The level allows everything that `other` allows. -/
def atLeast (a other : Access) : Bool := other.rank ≤ a.rank

def allowsInfo (a : Access) : Bool := a.atLeast limited

def allowsPassthrough (a : Access) : Bool := a.atLeast restricted

def allowsFirmware (a : Access) : Bool := a.atLeast full

end Access

end DriveReach.Driver
