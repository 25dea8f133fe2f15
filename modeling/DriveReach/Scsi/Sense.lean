import DriveReach.Scsi.Status
import DriveReach.Bytes
/-!
# Sense data

Sense data come in a fixed format (70h, 71h) and in a descriptor format (72h, 73h), where
descriptors follow an 8-byte header. `SenseSummary` is what both say; `descriptors` lists the
descriptors that lie whole inside the declared length.
-/

namespace DriveReach.Scsi

/-! ## Formats -/

/-- The two formats of sense data. -/
inductive SenseFormat where
  | fixed
  | descriptor
  deriving DecidableEq, Repr

/-- Sense data in fixed format, 18 bytes at least. -/
structure FixedSense where
  responseCode : UInt8
  /-- The byte with the sense key in its low half. -/
  keyByte : UInt8
  information : Vector UInt8 4
  additionalLength : UInt8
  commandInformation : Vector UInt8 4
  asc : UInt8
  ascq : UInt8
  deriving DecidableEq, Repr

namespace FixedSense

/-- The fixed-format reading of a buffer, whatever its response code. -/
def parse? (b : Bytes) : Option FixedSense :=
  if b.length < 18 then none
  else some {
    responseCode := b.byteAt 0
    keyByte := b.byteAt 2
    information := b.fixed 4 3
    additionalLength := b.byteAt 7
    commandInformation := b.fixed 4 8
    asc := b.byteAt 12
    ascq := b.byteAt 13 }

def key (s : FixedSense) : SenseKey := .ofByte s.keyByte

end FixedSense

/-- The header of sense data in descriptor format. -/
structure DescriptorHeader where
  responseCode : UInt8
  /-- The byte with the sense key in its low half. -/
  keyByte : UInt8
  asc : UInt8
  ascq : UInt8
  /-- The number of bytes behind the header. -/
  additionalLength : UInt8
  deriving DecidableEq, Repr

namespace DescriptorHeader

def length : Nat := 8

/-- The descriptor-format reading of a buffer, whatever its response code. -/
def parse? (b : Bytes) : Option DescriptorHeader :=
  if b.length < length then none
  else some {
    responseCode := b.byteAt 0
    keyByte := b.byteAt 1
    asc := b.byteAt 2
    ascq := b.byteAt 3
    additionalLength := b.byteAt 7 }

def key (s : DescriptorHeader) : SenseKey := .ofByte s.keyByte

end DescriptorHeader

/-! ## Descriptors -/

/-- A descriptor: a code, a length byte, and as many bytes as that says. -/
structure Descriptor where
  code : UInt8
  /-- All bytes, code and length byte included. -/
  bytes : Bytes
  deriving DecidableEq, Repr

namespace Descriptor

def informationCode : UInt8 := 0x00
def ataStatusCode : UInt8 := 0x09
/-- The length byte of an ATA status descriptor. -/
def ataStatusLength : UInt8 := 0x0C

/-- The descriptors at the front of a byte string, up to the first that is not there whole. -/
def split : Bytes → List Descriptor
  | code :: length :: rest =>
    if length.toNat ≤ rest.length then
      ⟨code, code :: length :: rest.take length.toNat⟩ :: split (rest.drop length.toNat)
    else []
  | _ => []
termination_by b => b.length
decreasing_by simp only [List.length_cons, List.length_drop]; omega

end Descriptor

/-- The bytes behind the header that the sense data declare and hold. -/
def descriptorArea (b : Bytes) : Bytes :=
  match DescriptorHeader.parse? b with
  | some header => (b.take (DescriptorHeader.length + header.additionalLength.toNat)).drop
      DescriptorHeader.length
  | none => []

/-- The descriptors of sense data in descriptor format. -/
def descriptors (b : Bytes) : List Descriptor := Descriptor.split (descriptorArea b)

/-! ## Summary -/

/-- Sense key and additional codes, whatever the format. -/
structure SenseSummary where
  format : SenseFormat
  key : SenseKey
  asc : UInt8
  ascq : UInt8
  deriving DecidableEq, Repr

namespace SenseSummary

/-- The summary of sense data in a known format. -/
def parse? (b : Bytes) : Option SenseSummary :=
  match b with
  | [] => none
  | first :: _ =>
    let code := first &&& 0x7F
    if code = 0x70 ∨ code = 0x71 then
      (FixedSense.parse? b).map fun s => ⟨.fixed, s.key, s.asc, s.ascq⟩
    else if code = 0x72 ∨ code = 0x73 then
      (DescriptorHeader.parse? b).map fun s => ⟨.descriptor, s.key, s.asc, s.ascq⟩
    else none

/-- The device does not know the operation code. -/
def isInvalidOpcode (s : SenseSummary) : Bool :=
  s.key == .illegalRequest && s.asc == SenseCode.invalidOpcode && s.ascq == SenseQualifier.none

/-- The sense data carry the registers of an ATA command. -/
def isAtaInfo (s : SenseSummary) : Bool :=
  s.asc == SenseCode.noAdditionalSense && s.ascq == SenseQualifier.ataPassThroughInfo

end SenseSummary

end DriveReach.Scsi
