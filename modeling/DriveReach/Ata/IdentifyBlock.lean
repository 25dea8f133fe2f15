import DriveReach.Ata.Frame
import DriveReach.Text
/-!
# IDENTIFY data

The block of 256 little-endian words that IDENTIFY DEVICE returns. A text in it holds two characters
per word, the first one in the high byte; `IdentifyBlock.text` reads such a text and
`IdentifyBlock.putText?` writes one.
-/

namespace DriveReach.Ata

/-- A block of 512 bytes. -/
structure IdentifyBlock where
  bytes : Vector UInt8 512
  deriving DecidableEq

namespace IdentifyBlock

def length : Nat := 512

/-- The block at the front of a buffer. -/
def parse (b : Bytes) : Except FrameFault IdentifyBlock :=
  if b.length < length then .error (.tooShort length b.length) else .ok ⟨b.fixed 512 0⟩

/-- The word at an index of the block, zero outside. -/
def word (d : IdentifyBlock) (i : Nat) : UInt16 := Bytes.le16 d.bytes.toList (2 * i)

/-- The word at an index, for an index that may lie outside. -/
def word? (d : IdentifyBlock) (i : Nat) : Option UInt16 := if i < 256 then some (d.word i) else none

/-! ## Texts -/

/-- A character a text of the block may show: printable ASCII. -/
def isShown (c : Char) : Bool := ' ' ≤ c && c ≤ '~'

/-- The characters of a range of words that are printable, in reading order. -/
def characters (d : IdentifyBlock) (first : Nat) : Nat → List Char
  | 0 => []
  | words + 1 =>
    let w := (d.word first).toNat
    ([Char.ofNat (w / 256), Char.ofNat (w % 256)].filter isShown) ++
      d.characters (first + 1) words

/-- The text in a range of words, without the blanks around it. -/
def text (d : IdentifyBlock) (first words : Nat) : String :=
  String.ofList (Text.trimBy Text.isBlank (d.characters first words))

/-- Words 10 to 19. -/
def serialNumber (d : IdentifyBlock) : String := d.text 10 10

/-- Words 23 to 26. -/
def firmwareRevision (d : IdentifyBlock) : String := d.text 23 4

/-- Words 27 to 46. -/
def modelNumber (d : IdentifyBlock) : String := d.text 27 20

/-- The bytes of a text cut or filled up with spaces to `n`. -/
def padded (n : Nat) (text : Bytes) : Bytes :=
  text.take n ++ List.replicate (n - text.length) 0x20

/-- A byte string with the bytes of each pair exchanged. -/
def swapPairs : Bytes → Bytes
  | a :: b :: rest => b :: a :: swapPairs rest
  | rest => rest

/-- A buffer with a text written into a range of words, or nothing when the range does not lie
inside the buffer. -/
def putText? (block : Bytes) (first words : Nat) (text : Bytes) : Option Bytes :=
  if words = 0 ∨ 2 * (first + words) ≤ block.length then
    some (block.put (2 * first) (swapPairs (padded (2 * words) text)))
  else none

/-! ## Properties -/

/-- The device takes packet commands. -/
def isPacketDevice (d : IdentifyBlock) : Bool := d.word 0 &&& 0x8000 != 0

/-- The device has 48-bit addressing. -/
def supportsLba48 (d : IdentifyBlock) : Bool := d.word 83 &&& 0x0400 != 0

/-- The number of addressable sectors. -/
def maxLba (d : IdentifyBlock) : UInt64 :=
  if d.supportsLba48 then Bytes.le64 d.bytes.toList 200
  else UInt64.ofNat (Bytes.le32 d.bytes.toList 120).toNat

/-- One line that names the device. -/
def summary (d : IdentifyBlock) : String :=
  "IdentifyData \x7b model: " ++ Text.quote d.modelNumber ++ ", serial: " ++
    Text.quote d.serialNumber ++ ", firmware: " ++ Text.quote d.firmwareRevision ++ " \x7d"

end IdentifyBlock

end DriveReach.Ata
