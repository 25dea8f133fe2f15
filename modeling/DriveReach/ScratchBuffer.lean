import DriveReach.Fault
/-!
# Scratch buffers

Zeroed storage of a length that is chosen when it is made. A length that memory cannot be addressed
for is refused.
-/

namespace DriveReach

/-- Zeroed storage that may be written to. -/
structure ScratchBuffer where
  bytes : Bytes
  deriving DecidableEq, Repr

namespace ScratchBuffer

/-- The least length that no buffer has. -/
def lengthLimit : Nat := 0x8000000000000000

/-- Storage of `length` zero bytes. -/
def zeroed (length : Nat) : Except Fault ScratchBuffer :=
  if length < lengthLimit then .ok ⟨Bytes.zeros length⟩ else .error .outOfMemory

def length (b : ScratchBuffer) : Nat := b.bytes.length

def isEmpty (b : ScratchBuffer) : Bool := b.bytes.isEmpty

/-- The storage with bytes written over it; what falls past the end is dropped. -/
def write (b : ScratchBuffer) (offset : Nat) (content : Bytes) : ScratchBuffer :=
  ⟨b.bytes.put offset content⟩

/-- One line that shows the length. -/
def summary (b : ScratchBuffer) : String := s!"AlignedBuffer \x7b len: {b.length} \x7d"

end ScratchBuffer

end DriveReach
