import DriveReach.Bytes
/-!
# Data of one command

Which way a command moves data, and the caller's buffer for it.

An inbound buffer comes back holding exactly what the device delivered and zeros behind it
(`DataBuffer.receive`), so no byte of its former content outlives the command.
-/

namespace DriveReach

/-- The direction of a data phase. -/
inductive Direction where
  | none
  | inbound
  | outbound
  deriving DecidableEq, Repr

def Direction.name : Direction → String
  | none => "None"
  | inbound => "In"
  | outbound => "Out"

def Direction.ofName? (name : String) : Option Direction :=
  [Direction.none, inbound, outbound].find? (·.name == name)

/-- The caller's data buffer for one command. -/
inductive DataBuffer where
  | none
  /-- A buffer to fill, with what it holds before. -/
  | inbound (room : Bytes)
  /-- Bytes to send. -/
  | outbound (content : Bytes)
  deriving DecidableEq, Repr

namespace DataBuffer

/-- The buffer's bytes. -/
def bytes : DataBuffer → Bytes
  | .none => []
  | .inbound room => room
  | .outbound content => content

/-- The number of bytes to move. -/
def size (d : DataBuffer) : Nat := d.bytes.length

/-- No byte moves. -/
def isEmpty (d : DataBuffer) : Bool := d.size == 0

/-- The direction of the data phase. -/
def direction : DataBuffer → Direction
  | .none => .none
  | .inbound _ => .inbound
  | .outbound _ => .outbound

/-- The data area of a request: the bytes to send, or zeros to be filled. -/
def staged : DataBuffer → Bytes
  | .outbound content => content
  | d => Bytes.zeros d.size

/-- The buffer after the device delivered `count` bytes in `area`. -/
def receive (d : DataBuffer) (area : Bytes) (count : Nat) : DataBuffer :=
  match d with
  | .inbound room => .inbound ((Bytes.zeros room.length).put 0 (area.take count))
  | d => d

end DataBuffer

end DriveReach
