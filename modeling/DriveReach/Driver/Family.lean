import DriveReach.Flags
import DriveReach.Text
/-!
# Driver families

Controller drivers differ in which calls they answer, and how. A driver is classified once by its
name, and its family decides its traits.
-/

namespace DriveReach.Driver

/-- A family of controller drivers. -/
inductive Family where
  | intelVroc
  | intelRst
  | intelGeneric
  | amdRcRaid
  | hpCiss
  | hpSamd
  | arcSas
  | unknown
  deriving DecidableEq, Repr

/-- What a driver does differently from others. -/
structure Traits where
  /-- Asking for the device behind an OS address hangs and is not tried. -/
  skipsDeviceAddress : Bool := false
  /-- Members of a RAID set may report the all-zero address as theirs. -/
  zeroAddressValid : Bool := false
  /-- NVMe devices behind RAID carry path, target and unit in their SAS address. -/
  packsNvmeAddress : Bool := false
  /-- The index of the first RAID set. -/
  firstRaidSet : UInt32 := 0
  deriving DecidableEq, Repr

/-- The text that lists all traits. -/
def Traits.describe (t : Traits) : String :=
  "DriverQuirks \x7b skip_device_address_query: " ++ toString t.skipsDeviceAddress ++
    ", zero_sas_address_valid: " ++ toString t.zeroAddressValid ++
    ", nvme_address_in_sas_address: " ++ toString t.packsNvmeAddress ++
    ", raid_set_index_base: " ++ toString t.firstRaidSet.toNat ++ " \x7d"

/-- Vendor extensions. -/
structure Capabilities where
  bits : UInt32
  deriving DecidableEq, Repr

namespace Capabilities

def flags : List Flag := [⟨0x01, "INTEL_NVME_PASSTHROUGH"⟩, ⟨0x02, "FIRMWARE_DOWNLOAD"⟩]

def empty : Capabilities := ⟨0⟩

def intelNvme : Capabilities := ⟨0x01⟩

/-- With firmware download added. -/
def withFirmware (c : Capabilities) : Capabilities := ⟨c.bits ||| 0x02⟩

def hasFirmware (c : Capabilities) : Bool := c.bits &&& 0x02 != 0

end Capabilities

namespace Family

/-- Names that driver names of a family contain; the first entry that fits decides, so a longer
name stands before the one it contains. -/
def table : List (String × Family) :=
  [("iaVROC", intelVroc), ("iaStorVD", intelVroc), ("iaStorAC", intelRst), ("iaStorAV", intelRst),
    ("iaStorA", intelRst), ("iaStorE", intelRst), ("iaStor", intelGeneric), ("rcraid", amdRcRaid),
    ("HpCISSs", hpCiss), ("HpSAMD", hpSamd), ("arcsas", arcSas)]

/-- The family of a driver name. -/
def classify (driverName : String) : Family :=
  match table.find? fun entry => Text.occurs entry.1.toList driverName.toList with
  | some entry => entry.2
  | none => unknown

def name : Family → String
  | intelVroc => "IntelVroc"
  | intelRst => "IntelRst"
  | intelGeneric => "IntelGeneric"
  | amdRcRaid => "AmdRcRaid"
  | hpCiss => "HpCiss"
  | hpSamd => "HpSamd"
  | arcSas => "ArcSas"
  | unknown => "Unknown"

def isIntel : Family → Bool
  | intelVroc | intelRst | intelGeneric => true
  | _ => false

/-- The traits of a family. -/
def traits : Family → Traits
  | intelVroc | intelRst => { zeroAddressValid := true, packsNvmeAddress := true }
  | intelGeneric => { zeroAddressValid := true }
  | hpCiss => { skipsDeviceAddress := true }
  | amdRcRaid => { firstRaidSet := 1 }
  | _ => {}

/-- The extensions that come with a family. -/
def capabilities : Family → Capabilities
  | intelVroc | intelRst => .intelNvme
  | _ => .empty

end Family

end DriveReach.Driver
