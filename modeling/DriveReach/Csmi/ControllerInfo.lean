import DriveReach.Fault
import DriveReach.Flags
import DriveReach.Text
/-!
# What a controller says about itself

The driver's name and version, the controller's configuration, and its status.
-/

namespace DriveReach.Csmi

/-- A version of four parts. -/
structure Version where
  major : UInt16
  minor : UInt16
  build : UInt16
  release : UInt16
  deriving DecidableEq, Repr

/-- The version at an offset. -/
def Version.read (b : Bytes) (off : Nat) : Version :=
  ⟨b.le16 off, b.le16 (off + 2), b.le16 (off + 4), b.le16 (off + 6)⟩

/-! ## Driver -/

/-- The width of a name field. -/
def nameWidth : Nat := 81

/-- The identification of a driver. -/
structure DriverInfo where
  name : String
  description : String
  version : Version
  /-- The revision of the interface: major and minor. -/
  revisionMajor : UInt16
  revisionMinor : UInt16
  deriving DecidableEq, Repr

/-- The driver identification at the front of a buffer. -/
def DriverInfo.decode (b : Bytes) : Except Fault DriverInfo := do
  Layout.driverInfo.require b
  return {
    name := Text.field (b.slice 0 nameWidth)
    description := Text.field (b.slice 81 nameWidth)
    version := .read b 162
    revisionMajor := b.le16 170
    revisionMinor := b.le16 172 }

/-! ## Configuration -/

/-- What a controller is and can do. -/
structure ControllerFlags where
  bits : UInt32
  deriving DecidableEq, Repr

namespace ControllerFlags

def flags : List Flag :=
  [⟨0x00000001, "SAS_HBA"⟩, ⟨0x00000002, "SAS_RAID"⟩, ⟨0x00000004, "SATA_HBA"⟩,
    ⟨0x00000008, "SATA_RAID"⟩, ⟨0x00000010, "SMART_ARRAY"⟩, ⟨0x00010000, "FWD_SUPPORT"⟩,
    ⟨0x00020000, "FWD_ONLINE"⟩, ⟨0x00040000, "FWD_SRESET"⟩, ⟨0x00080000, "FWD_HRESET"⟩,
    ⟨0x00100000, "FWD_RROM"⟩]

/-- The controller takes firmware downloads. -/
def takesFirmware (f : ControllerFlags) : Bool := f.bits &&& 0x00010000 != 0

end ControllerFlags

/-- A place on the PCI bus. -/
structure PciAddress where
  bus : UInt8
  device : UInt8
  function : UInt8
  deriving DecidableEq, Repr

/-- The number of the PCI bus among the bus types. -/
def pciBusType : UInt8 := 3

/-- The configuration of a controller. -/
structure ControllerConfig where
  baseIoAddress : UInt32
  baseMemoryAddress : UInt64
  /-- Vendor and device. -/
  boardId : UInt32
  slotNumber : UInt16
  controllerClass : UInt8
  busType : UInt8
  /-- Present on a PCI bus. -/
  pci : Option PciAddress
  serialNumber : String
  revision : Version
  biosRevision : Version
  flags : ControllerFlags
  romRevision : Version
  romBiosRevision : Version
  deriving DecidableEq, Repr

/-- The configuration at the front of a buffer. -/
def ControllerConfig.decode (b : Bytes) : Except Fault ControllerConfig := do
  Layout.controllerConfig.require b
  return {
    baseIoAddress := b.le32 0
    baseMemoryAddress := b.le64 4
    boardId := b.le32 12
    slotNumber := b.le16 16
    controllerClass := b.byteAt 18
    busType := b.byteAt 19
    pci := if b.byteAt 19 = pciBusType then some ⟨b.byteAt 20, b.byteAt 21, b.byteAt 22⟩ else none
    serialNumber := Text.field (b.slice 52 nameWidth)
    revision := .read b 134
    biosRevision := .read b 142
    flags := ⟨b.le32 152⟩
    romRevision := .read b 156
    romBiosRevision := .read b 164 }

/-! ## Status -/

structure ControllerStatus where
  state : ControllerState
  /-- Why the controller is offline, when it is. -/
  offlineReason : UInt32
  deriving DecidableEq, Repr

namespace ControllerStatus

/-- The status at the front of a buffer. -/
def decode (b : Bytes) : Except Fault ControllerStatus := do
  Layout.controllerStatus.require b
  return { state := .ofWord (b.le32 0), offlineReason := b.le32 4 }

def isGood (s : ControllerStatus) : Bool := s.state == .good

end ControllerStatus

end DriveReach.Csmi
