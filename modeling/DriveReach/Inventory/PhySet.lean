/-!
# Sets of phys

A set of the phy identifiers below 32, as the bits of a word. Identifiers of 32 and above are never
members.
-/

namespace DriveReach.Inventory

/-- A set of phy identifiers. -/
structure PhySet where
  word : UInt32
  deriving DecidableEq, Repr

namespace PhySet

def empty : PhySet := ⟨0⟩

/-- The bit of an identifier below 32. -/
def bit (phy : UInt8) : UInt32 := 1 <<< phy.toUInt32

def contains (s : PhySet) (phy : UInt8) : Bool := phy < 32 && s.word &&& bit phy != 0

/-- Add an identifier. The first part says whether it is new: a member, or one that cannot be, is
not. -/
def claim (s : PhySet) (phy : UInt8) : Bool × PhySet :=
  if phy < 32 && !s.contains phy then (true, ⟨s.word ||| bit phy⟩) else (false, s)

/-- The number of members. -/
def size (s : PhySet) : Nat := ((List.range 32).filter fun i => s.contains (UInt8.ofNat i)).length

end PhySet

end DriveReach.Inventory
