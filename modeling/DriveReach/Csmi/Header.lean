import DriveReach.Csmi.ControlCode
import DriveReach.Csmi.ReturnCode
/-!
# Call headers

A call's buffer opens with a header, for which two layouts exist. Numbers are little-endian and
`length` counts the payload only.

| field             | `srb` (28 bytes) | `compact` (20 bytes) |
|-------------------|------------------|----------------------|
| header length     | 0                |                      |
| signature         | 4 (8 bytes)      |                      |
| control code      | 16               |                      |
| controller number |                  | 0                    |
| timeout           | 12               | 12                   |
| return code       | 20               | 8                    |
| length            | 24               | 4                    |
| direction         |                  | 16 (2 bytes)         |

The calls of this library use the compact layout.
-/

namespace DriveReach.Csmi

/-- What the caller says in a header. -/
structure HeaderFields where
  code : ControlCode
  signature : Signature
  timeout : Timeout
  payloadLength : UInt32
  controller : UInt32
  direction : CallDirection

inductive HeaderLayout where
  /-- The one behind a SCSI port driver's I/O control. -/
  | srb
  /-- The one of a plain device node. -/
  | compact
  deriving DecidableEq, Repr

namespace HeaderLayout

def length : HeaderLayout → Nat
  | srb => 28
  | compact => 20

def returnCodeOffset : HeaderLayout → Nat
  | srb => 20
  | compact => 8

def lengthOffset : HeaderLayout → Nat
  | srb => 24
  | compact => 4

/-- The time limit as the header carries it: whole seconds, in 32 bits. -/
def timeoutField (t : Timeout) : Bytes := Bytes.toLE 4 t.seconds

/-- A buffer with the caller's fields written; all other bytes stay as they are. -/
def write (layout : HeaderLayout) (buffer : Bytes) (f : HeaderFields) : Bytes :=
  match layout with
  | srb =>
    let buffer := buffer.put 0 (Bytes.toLE 4 28)
    let buffer := Bytes.put buffer 4 f.signature.bytes.toList
    let buffer := Bytes.put buffer 12 (timeoutField f.timeout)
    let buffer := Bytes.put buffer 16 (Bytes.toLE 4 f.code.code.toNat)
    Bytes.put buffer 24 (Bytes.toLE 4 f.payloadLength.toNat)
  | compact =>
    let buffer := buffer.put 0 (Bytes.toLE 4 f.controller.toNat)
    let buffer := Bytes.put buffer 4 (Bytes.toLE 4 f.payloadLength.toNat)
    let buffer := Bytes.put buffer 12 (timeoutField f.timeout)
    Bytes.put buffer 16 (Bytes.toLE 2 f.direction.code.toNat)

/-- The return code in a buffer. -/
def returnCode (layout : HeaderLayout) (buffer : Bytes) : ReturnCode :=
  ⟨buffer.le32 layout.returnCodeOffset⟩

/-- A buffer with another return code. -/
def setReturnCode (layout : HeaderLayout) (buffer : Bytes) (code : ReturnCode) : Bytes :=
  buffer.put layout.returnCodeOffset (Bytes.toLE 4 code.value.toNat)

/-- The payload length in a buffer. -/
def payloadLength (layout : HeaderLayout) (buffer : Bytes) : UInt32 :=
  buffer.le32 layout.lengthOffset

/-- A buffer with another payload length. -/
def setPayloadLength (layout : HeaderLayout) (buffer : Bytes) (length : UInt32) : Bytes :=
  buffer.put layout.lengthOffset (Bytes.toLE 4 length.toNat)

end HeaderLayout

/-- The length of the header in front of every call. -/
def headerLength : Nat := HeaderLayout.compact.length

end DriveReach.Csmi
