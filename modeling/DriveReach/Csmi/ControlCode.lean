import DriveReach.Bytes
/-!
# Control codes

The calls a controller driver answers. A code belongs to one sub-API, named by its signature, and
has a time limit and a direction of its own.
-/

namespace DriveReach.Csmi

/-- A time limit. -/
structure Timeout where
  milliseconds : Nat
  deriving DecidableEq, Repr

namespace Timeout

def ofSeconds (s : Nat) : Timeout := ⟨1000 * s⟩

/-- The whole seconds of the limit. -/
def seconds (t : Timeout) : Nat := t.milliseconds / 1000

/-- The limit of an information query. -/
def info : Timeout := ofSeconds 60

/-- The limit of a passthrough command, unless the caller sets another. -/
def passthrough : Timeout := ofSeconds 15

/-- The limit of a firmware download. -/
def firmware : Timeout := ofSeconds 300

end Timeout

/-! ## Signatures -/

/-- The name of a sub-API: eight bytes, ended by a NUL. -/
structure Signature where
  bytes : Vector UInt8 8
  deriving DecidableEq, Repr

namespace Signature

/-- Calls every driver answers: `CSMIALL`. -/
def all : Signature := ⟨#v[0x43, 0x53, 0x4D, 0x49, 0x41, 0x4C, 0x4C, 0]⟩

/-- RAID calls: `CSMIARY`. -/
def raid : Signature := ⟨#v[0x43, 0x53, 0x4D, 0x49, 0x41, 0x52, 0x59, 0]⟩

/-- SAS calls: `CSMISAS`. -/
def sas : Signature := ⟨#v[0x43, 0x53, 0x4D, 0x49, 0x53, 0x41, 0x53, 0]⟩

/-- Phy control: `CSMIPHY`. -/
def phy : Signature := ⟨#v[0x43, 0x53, 0x4D, 0x49, 0x50, 0x48, 0x59, 0]⟩

/-- The text before the NUL, or a question mark when it is not UTF-8. -/
def text (s : Signature) : String :=
  (String.fromUTF8? ⟨(s.bytes.toList.takeWhile (· ≠ 0)).toArray⟩).getD "?"

/-- The text with its type. -/
def describe (s : Signature) : String := "Signature(" ++ s.text ++ ")"

end Signature

/-! ## Codes -/

/-- Who fills the buffer of a call. -/
inductive CallDirection where
  /-- The driver does. -/
  | read
  /-- The caller does. -/
  | write
  deriving DecidableEq, Repr

/-- The number of a direction in the header. -/
def CallDirection.code : CallDirection → UInt16
  | read => 0
  | write => 1

def CallDirection.name : CallDirection → String
  | read => "Read"
  | write => "Write"

def CallDirection.ofName? (name : String) : Option CallDirection :=
  [read, write].find? (·.name == name)

/-- A call to a controller driver. -/
inductive ControlCode where
  | driverInfo
  | controllerConfig
  | controllerStatus
  | firmwareDownload
  | raidInfo
  | raidConfig
  | raidFeatures
  | phyInfo
  | linkErrors
  | sspPassthrough
  | stpPassthrough
  | sataSignature
  /-- From a SAS address to an OS address. -/
  | scsiAddress
  /-- From an OS address to a SAS address. -/
  | deviceAddress
  | connectorInfo
  deriving DecidableEq, Repr

namespace ControlCode

def all : List ControlCode :=
  [driverInfo, controllerConfig, controllerStatus, firmwareDownload, raidInfo, raidConfig,
    raidFeatures, phyInfo, linkErrors, sspPassthrough, stpPassthrough, sataSignature, scsiAddress,
    deviceAddress, connectorInfo]

def code : ControlCode → UInt32
  | driverInfo => 1
  | controllerConfig => 2
  | controllerStatus => 3
  | firmwareDownload => 4
  | raidInfo => 10
  | raidConfig => 11
  | raidFeatures => 12
  | phyInfo => 20
  | linkErrors => 22
  | sspPassthrough => 24
  | stpPassthrough => 25
  | sataSignature => 26
  | scsiAddress => 27
  | deviceAddress => 28
  | connectorInfo => 30

/-- The call with a number. -/
def ofCode? (code : UInt32) : Option ControlCode := all.find? (·.code == code)

def name : ControlCode → String
  | driverInfo => "DriverInfo"
  | controllerConfig => "ControllerConfig"
  | controllerStatus => "ControllerStatus"
  | firmwareDownload => "FirmwareDownload"
  | raidInfo => "RaidInfo"
  | raidConfig => "RaidConfig"
  | raidFeatures => "RaidFeatures"
  | phyInfo => "PhyInfo"
  | linkErrors => "LinkErrors"
  | sspPassthrough => "SspPassthru"
  | stpPassthrough => "StpPassthru"
  | sataSignature => "SataSignature"
  | scsiAddress => "ScsiAddress"
  | deviceAddress => "DeviceAddress"
  | connectorInfo => "ConnectorInfo"

/-- The sub-API a call belongs to. -/
def signature : ControlCode → Signature
  | driverInfo | controllerConfig | controllerStatus | firmwareDownload => .all
  | raidInfo | raidConfig | raidFeatures => .raid
  | _ => .sas

/-- The time limit of a call. -/
def timeout : ControlCode → Timeout
  | firmwareDownload => .firmware
  | sspPassthrough | stpPassthrough => .passthrough
  | _ => .info

/-- Who fills the buffer of a call. -/
def direction : ControlCode → CallDirection
  | firmwareDownload | sspPassthrough | stpPassthrough => .write
  | _ => .read

end ControlCode

end DriveReach.Csmi
