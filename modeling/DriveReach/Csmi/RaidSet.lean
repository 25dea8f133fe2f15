import DriveReach.Fault
import DriveReach.Flags
import DriveReach.Log
import DriveReach.Sas.Address
import DriveReach.Text
/-!
# RAID sets

The RAID capability summary, the configuration of one set, and the RAID features.

A set is 36 bytes followed by drives of 136 bytes. How many drives it holds is never taken from the
driver's count alone: `RaidConfig.driveCount` is also bounded by the bytes that came back and by the
room that was offered.
-/

namespace DriveReach.Csmi

/-! ## Summary -/

/-- What the controller can hold and holds. -/
structure RaidInfo where
  raidSets : UInt32
  maxDrivesPerSet : UInt32
  maxRaidSets : UInt32
  maxRaidTypes : UInt8
  minSetBlocks : UInt64
  maxSetBlocks : UInt64
  maxPhysicalDrives : UInt32
  maxExtents : UInt32
  maxModules : UInt32
  maxTransformationMemory : UInt32
  changeCount : UInt32
  deriving DecidableEq, Repr

namespace RaidInfo

/-- The summary at the front of a buffer. -/
def decode (b : Bytes) : Except Fault RaidInfo := do
  Layout.raidInfo.require b
  return {
    raidSets := b.le32 0
    maxDrivesPerSet := b.le32 4
    maxRaidSets := b.le32 8
    maxRaidTypes := b.byteAt 12
    minSetBlocks := b.le64 20
    maxSetBlocks := b.le64 28
    maxPhysicalDrives := b.le32 36
    maxExtents := b.le32 40
    maxModules := b.le32 44
    maxTransformationMemory := b.le32 48
    changeCount := b.le32 52 }

/-- The number of set indices to ask for: the sets there are, at most the sets there can be, and no
index beyond 32 bits when the first one is `first`. -/
def setCount (info : RaidInfo) (first : UInt32) : Nat :=
  let sets := if info.maxRaidSets = 0 then info.raidSets.toNat
    else min info.raidSets.toNat info.maxRaidSets.toNat
  min sets (UInt32.size - 1 - first.toNat)

end RaidInfo

/-! ## Drives -/

/-- The part a drive plays in its set. -/
inductive DriveUsage where
  | notUsed
  | member
  | spare
  | spareActive
  | srtCache
  | srtData
  | unknown (value : UInt8)
  deriving DecidableEq, Repr

namespace DriveUsage

/-- The usage a byte stands for. -/
def ofByte (b : UInt8) : DriveUsage :=
  if b = 0 then notUsed
  else if b = 1 then member
  else if b = 2 then spare
  else if b = 3 then spareActive
  else if b = 4 then srtCache
  else if b = 5 then srtData
  else unknown b

def name : DriveUsage → String
  | notUsed => "NotUsed"
  | member => "Member"
  | spare => "Spare"
  | spareActive => "SpareActive"
  | srtCache => "SrtCache"
  | srtData => "SrtData"
  | unknown value => s!"Unknown({value.toNat})"

/-- The drive is in use, so it counts as a device. -/
def isCountable : DriveUsage → Bool
  | notUsed | unknown _ => false
  | _ => true

end DriveUsage

/-- The interface of a drive. -/
inductive DriveType where
  | unknown
  | singleSas
  | dualSas
  | sata
  | sataPortSelector
  | other (value : UInt8)
  deriving DecidableEq, Repr

namespace DriveType

/-- The type a byte stands for. -/
def ofByte (b : UInt8) : DriveType :=
  if b = 0 then unknown
  else if b = 1 then singleSas
  else if b = 2 then dualSas
  else if b = 3 then sata
  else if b = 4 then sataPortSelector
  else other b

def name : DriveType → String
  | unknown => "Unknown"
  | singleSas => "SingleSas"
  | dualSas => "DualSas"
  | sata => "Sata"
  | sataPortSelector => "SataPortSelector"
  | other value => s!"Other({value.toNat})"

def isSata : DriveType → Bool
  | sata | sataPortSelector => true
  | _ => false

end DriveType

/-- A drive of a set. -/
structure RaidDrive where
  model : String
  firmware : String
  serialNumber : String
  /-- All zero on some drives attached by SATA. -/
  sasAddress : SasAddress
  sasLun : Lun
  status : UInt8
  usage : DriveUsage
  blockSize : UInt16
  driveType : DriveType
  driveIndex : UInt32
  totalUserBlocks : UInt64
  deriving DecidableEq, Repr

namespace RaidDrive

def length : Nat := 136

/-- The drive in an entry. -/
def decode (e : Bytes) : RaidDrive where
  model := Text.field (e.slice 0 40)
  firmware := Text.field (e.slice 40 8)
  serialNumber := Text.field (e.slice 48 40)
  sasAddress := .read e 88
  sasLun := e.fixed 8 96
  status := e.byteAt 104
  usage := .ofByte (e.byteAt 105)
  blockSize := e.le16 106
  driveType := .ofByte (e.byteAt 108)
  driveIndex := e.le32 124
  totalUserBlocks := e.le64 128

/-- The entry says enough to find the drive: an address, a model or a serial number. -/
def isIdentifiable (d : RaidDrive) : Bool :=
  !d.sasAddress.isZero || !(d.model.isEmpty && d.serialNumber.isEmpty)

end RaidDrive

/-! ## Sets -/

/-- A RAID set. -/
structure RaidConfig where
  index : UInt32
  /-- In megabytes. -/
  capacity : UInt32
  /-- In kilobytes. -/
  stripeSize : UInt32
  raidType : UInt8
  status : UInt8
  information : UInt8
  /-- The number of drives as the driver gives it. -/
  reportedDrives : UInt8
  dataType : UInt8
  failureCode : UInt32
  changeCount : UInt32
  drives : List RaidDrive
  deriving DecidableEq, Repr

namespace RaidConfig

/-- The driver counts drives in one byte. -/
def maxDrives : Nat := 255

/-- The payload length with room for a number of drives, 255 at most. -/
def payloadLength (drives : Nat) : Nat :=
  Layout.raidConfig.size + min drives maxDrives * RaidDrive.length

/-- A payload that asks for the set with an index. -/
def putRequest (payload : Bytes) (index : UInt32) : Bytes :=
  payload.put 0 (Bytes.toLE 4 index.toNat)

/-- `putRequest` for a payload of any length. -/
def putRequest? (payload : Bytes) (index : UInt32) : Option Bytes :=
  payload.within 4 (putRequest · index)

/-- The number of drives to read: what the driver counts, what came back whole, and the room
there was. -/
def driveCount (b : Bytes) (returned capacity : Nat) : Nat :=
  min (min (b.byteAt 15).toNat ((min returned b.length - Layout.raidConfig.size) /
    RaidDrive.length)) capacity

/-- The set in a buffer of which `returned` bytes came back, with room for `capacity` drives. -/
def decode (b : Bytes) (returned capacity : Nat) : Except Fault RaidConfig := do
  Layout.raidConfig.require b
  return {
    index := b.le32 0
    capacity := b.le32 4
    stripeSize := b.le32 8
    raidType := b.byteAt 12
    status := b.byteAt 13
    information := b.byteAt 14
    reportedDrives := b.byteAt 15
    dataType := b.byteAt 16
    failureCode := b.le32 28
    changeCount := b.le32 32
    drives := (Bytes.chunks RaidDrive.length (driveCount b returned capacity)
      (b.drop Layout.raidConfig.size)).map RaidDrive.decode }

/-- The line that reports a set with fewer drives than its driver counts. -/
def shortfall? (config : RaidConfig) : Option LogLine :=
  if config.drives.length < config.reportedDrives.toNat then
    some ⟨.debug, s!"raid set {config.index.toNat}: driver reported " ++
      s!"{config.reportedDrives.toNat} drives, decoding {config.drives.length}"⟩
  else none

/-- The drives that count as devices. -/
def countableDrives (config : RaidConfig) : List RaidDrive :=
  config.drives.filter (·.usage.isCountable)

end RaidConfig

/-! ## Features -/

/-- What the RAID engine can do. -/
structure RaidFeatureFlags where
  bits : UInt32
  deriving DecidableEq, Repr

def RaidFeatureFlags.flags : List Flag :=
  [⟨0x01, "TRANSFORMATION"⟩, ⟨0x02, "REBUILD"⟩, ⟨0x04, "SPLIT_MIRROR"⟩, ⟨0x08, "MERGE_MIRROR"⟩,
    ⟨0x10, "LUN_RENUMBER"⟩, ⟨0x20, "SURFACE_SCAN"⟩, ⟨0x40, "SPARES_SHARED"⟩]

/-- A RAID level that the controller offers. -/
structure RaidType where
  raidType : UInt8
  /-- Bit n stands for stripes of 2^n kilobytes. -/
  stripeSizes : UInt32
  deriving DecidableEq, Repr

/-- The RAID features of a controller. -/
structure RaidFeatures where
  features : RaidFeatureFlags
  defaultTransformPriority : UInt8
  transformPriority : UInt8
  defaultRebuildPriority : UInt8
  rebuildPriority : UInt8
  defaultSurfaceScanPriority : UInt8
  surfaceScanPriority : UInt8
  transformationRules : UInt32
  raidTypes : List RaidType
  deriving DecidableEq, Repr

namespace RaidFeatures

/-- The table of levels holds 24 entries of 108 bytes from offset 60; FFh ends it early. -/
def typesOffset : Nat := 60
def typeLength : Nat := 108
def typeSlots : Nat := 24
def typesEnd : UInt8 := 0xFF

/-- The features at the front of a buffer. -/
def decode (b : Bytes) : Except Fault RaidFeatures := do
  Layout.raidFeatures.require b
  return {
    features := ⟨b.le32 0⟩
    defaultTransformPriority := b.byteAt 4
    transformPriority := b.byteAt 5
    defaultRebuildPriority := b.byteAt 6
    rebuildPriority := b.byteAt 7
    defaultSurfaceScanPriority := b.byteAt 8
    surfaceScanPriority := b.byteAt 9
    transformationRules := b.le32 12
    raidTypes := ((Bytes.chunks typeLength typeSlots (b.drop typesOffset)).takeWhile
      fun t => t.byteAt 0 ≠ typesEnd).map fun t => ⟨t.byteAt 0, Bytes.le32 t 8⟩ }

end RaidFeatures

end DriveReach.Csmi
