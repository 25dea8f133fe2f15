import DriveReach.Ata.DeviceFrame
import DriveReach.Flags
/-!
# Result registers

The register set a command completes with, whichever frame brought it back.
-/

namespace DriveReach.Ata

/-- The registers of a completed command; the `Ext` bytes are the upper ones of a 48-bit command. -/
structure Registers where
  status : UInt8
  error : UInt8
  device : UInt8
  lbaLow : UInt8
  lbaMid : UInt8
  lbaHigh : UInt8
  lbaLowExt : UInt8
  lbaMidExt : UInt8
  lbaHighExt : UInt8
  count : UInt8
  countExt : UInt8
  deriving DecidableEq, Repr

/-- The named bits of the status register. -/
def statusFlags : List Flag :=
  [⟨0x01, "ERR"⟩, ⟨0x02, "SENSE"⟩, ⟨0x04, "ALIGN"⟩, ⟨0x08, "DRQ"⟩, ⟨0x10, "DEFERRED"⟩,
    ⟨0x20, "DF"⟩, ⟨0x40, "DRDY"⟩, ⟨0x80, "BSY"⟩]

/-- The named bits of the error register. -/
def errorFlags : List Flag :=
  [⟨0x01, "CCTO"⟩, ⟨0x02, "EOM"⟩, ⟨0x04, "ABRT"⟩, ⟨0x10, "IDNF"⟩, ⟨0x40, "UNC"⟩, ⟨0x80, "ICRC"⟩]

namespace Registers

/-- All registers zero. -/
def zero : Registers := ⟨0, 0, 0, 0, 0, 0, 0, 0, 0, 0, 0⟩

/-- Registers from whole numbers: an LBA of 48 bits and a count of 16. -/
def ofParts (status error device : UInt8) (lba : UInt64) (count : UInt16) : Registers where
  status := status
  error := error
  device := device
  lbaLow := octet 0 lba.toNat
  lbaMid := octet 1 lba.toNat
  lbaHigh := octet 2 lba.toNat
  lbaLowExt := octet 3 lba.toNat
  lbaMidExt := octet 4 lba.toNat
  lbaHighExt := octet 5 lba.toNat
  count := octet 0 count.toNat
  countExt := octet 1 count.toNat

/-- The 48-bit LBA. -/
def lba (r : Registers) : UInt64 :=
  UInt64.ofNat
    (Bytes.ofLE [r.lbaLow, r.lbaMid, r.lbaHigh, r.lbaLowExt, r.lbaMidExt, r.lbaHighExt])

/-- The 16-bit count. -/
def sectorCount (r : Registers) : UInt16 := UInt16.ofNat (Bytes.ofLE [r.count, r.countExt])

/-- The command failed: error or device fault is set. -/
def isError (r : Registers) : Bool := r.status &&& 0x21 != 0

/-- The registers with the upper bytes of a 48-bit command cleared. -/
def narrow (r : Registers) : Registers :=
  { r with lbaLowExt := 0, lbaMidExt := 0, lbaHighExt := 0, countExt := 0 }

end Registers

/-- The registers a status frame reports; PIO Setup reports its ending status. -/
def StatusFrame.registers : StatusFrame → Registers
  | .register f => .ofParts f.status f.error f.device f.lba f.count
  | .pioSetup f => .ofParts f.endStatus f.error f.device f.lba f.count

end DriveReach.Ata
