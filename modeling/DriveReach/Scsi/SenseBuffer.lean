import DriveReach.Ata.Registers
import DriveReach.Scsi.Sense
/-!
# Sense buffers and ATA results in sense data

`SenseBuffer` is the storage of a request for sense data. `ataStatusReturn` writes the registers of
an ATA command as sense data with one ATA status descriptor; `parseAtaStatusReturn?` reads registers
from sense data in either format.
-/

namespace DriveReach.Scsi

/-- The capacity of a sense buffer. -/
def maxSenseLength : Nat := 252

/-- Storage for sense data, of which the first `size` bytes are valid. -/
structure SenseBuffer where
  raw : Vector UInt8 252
  size : Nat
  deriving DecidableEq

namespace SenseBuffer

/-- The buffer with no valid byte and all storage zero. -/
def empty : SenseBuffer := ⟨Vector.replicate 252 0, 0⟩

/-- The buffer emptied. -/
def clear (_ : SenseBuffer) : SenseBuffer := empty

/-- The buffer emptied and filled with the first 252 bytes of `data`. -/
def set (s : SenseBuffer) (data : Bytes) : SenseBuffer :=
  let kept := data.take maxSenseLength
  ⟨(Bytes.put s.clear.raw.toList 0 kept).fixed 252 0, kept.length⟩

/-- The buffer that holds `data`. -/
def ofBytes (data : Bytes) : SenseBuffer := empty.set data

/-- The valid bytes. -/
def valid (s : SenseBuffer) : Bytes := s.raw.toList.take s.size

def isEmpty (s : SenseBuffer) : Bool := s.size == 0

/-- The summary of the valid bytes. -/
def summary? (s : SenseBuffer) : Option SenseSummary := SenseSummary.parse? s.valid

end SenseBuffer

/-! ## ATA status return -/

/-- The registers of an ATA command as sense data: a header and one ATA status descriptor. The upper
bytes and the mark of a 48-bit command are filled in only when `extended` is set. -/
def ataStatusReturn (r : Ata.Registers) (extended : Bool) : SenseBuffer :=
  let upper (b : UInt8) : UInt8 := if extended then b else 0
  let key : SenseKey := if r.isError then .abortedCommand else .recoveredError
  .ofBytes [0x72, key.code, SenseCode.noAdditionalSense, SenseQualifier.ataPassThroughInfo,
    0, 0, 0, 14,
    Descriptor.ataStatusCode, Descriptor.ataStatusLength,
    upper 0x01, r.error,
    upper r.countExt, r.count,
    upper r.lbaLowExt, r.lbaLow,
    upper r.lbaMidExt, r.lbaMid,
    upper r.lbaHighExt, r.lbaHigh,
    r.device, r.status]

/-- The registers in an ATA status descriptor. -/
def Descriptor.ataRegisters (d : Descriptor) : Ata.Registers :=
  let extended := d.bytes.byteAt 2 &&& 0x01 != 0
  let upper (b : UInt8) : UInt8 := if extended then b else 0
  { error := d.bytes.byteAt 3
    countExt := upper (d.bytes.byteAt 4)
    count := d.bytes.byteAt 5
    lbaLowExt := upper (d.bytes.byteAt 6)
    lbaLow := d.bytes.byteAt 7
    lbaMidExt := upper (d.bytes.byteAt 8)
    lbaMid := d.bytes.byteAt 9
    lbaHighExt := upper (d.bytes.byteAt 10)
    lbaHigh := d.bytes.byteAt 11
    device := d.bytes.byteAt 12
    status := d.bytes.byteAt 13 }

/-- A whole ATA status descriptor. -/
def Descriptor.isAtaStatus (d : Descriptor) : Bool :=
  d.code == Descriptor.ataStatusCode && 14 ≤ d.bytes.length

/-- The registers in fixed-format sense data that announce them. -/
def FixedSense.ataRegisters (s : FixedSense) : Ata.Registers :=
  { Ata.Registers.zero with
    error := Bytes.nth s.information 0
    status := Bytes.nth s.information 1
    device := Bytes.nth s.information 2
    count := Bytes.nth s.information 3
    lbaLow := Bytes.nth s.commandInformation 1
    lbaMid := Bytes.nth s.commandInformation 2
    lbaHigh := Bytes.nth s.commandInformation 3 }

/-- The registers of an ATA command that sense data carry: in the first whole ATA status descriptor,
or in the fixed fields when the codes announce them. -/
def parseAtaStatusReturn? (b : Bytes) : Option Ata.Registers := do
  let summary ← SenseSummary.parse? b
  match summary.format with
  | .descriptor => ((descriptors b).find? (·.isAtaStatus)).map (·.ataRegisters)
  | .fixed =>
    if summary.isAtaInfo then (FixedSense.parse? b).map (·.ataRegisters) else none

/-- The registers that the valid bytes carry. -/
def SenseBuffer.ataRegisters? (s : SenseBuffer) : Option Ata.Registers :=
  parseAtaStatusReturn? s.valid

end DriveReach.Scsi
