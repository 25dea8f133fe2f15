import DriveReach.Text.Hex
/-!
# SAS addresses

Eight bytes, big-endian, shown as upper-case pairs with colons between them.
-/

namespace DriveReach

/-- The address of a port in a SAS domain. -/
structure SasAddress where
  bytes : Vector UInt8 8
  deriving DecidableEq, Repr

/-- A logical unit number as SCSI carries it. -/
abbrev Lun := Vector UInt8 8

namespace SasAddress

/-- The address of all zeros, which stands for "none". -/
def zero : SasAddress := ⟨Vector.replicate 8 0⟩

/-- The address in the first eight bytes of a buffer that has as many. -/
def ofBytes? (b : Bytes) : Option SasAddress :=
  if 8 ≤ b.length then some ⟨b.fixed 8 0⟩ else none

/-- The address at an offset of a structure. -/
def read (b : Bytes) (off : Nat) : SasAddress := ⟨b.fixed 8 off⟩

/-- The address with a number as its big-endian bytes. -/
def ofNumber (n : UInt64) : SasAddress := ⟨Bytes.fixed 8 (Bytes.toBE 8 n.toNat) 0⟩

/-- The number that the bytes spell. -/
def toNumber (a : SasAddress) : UInt64 := UInt64.ofNat (Bytes.ofBE a.bytes.toList)

/-- All bytes are zero. -/
def isZero (a : SasAddress) : Bool := a == zero

/-- The shown form, such as `50:00:C5:00:00:00:00:01`. -/
def text (a : SasAddress) : String := String.intercalate ":" (a.bytes.toList.map Hex.upperByte)

/-- The address under which a RAID driver hides an NVMe device: its path, target and unit in the
last three bytes. -/
def packedNvme (path target lun : UInt8) : SasAddress := ⟨#v[0, 0, 0, 0, 0, path, target, lun]⟩

end SasAddress

end DriveReach
