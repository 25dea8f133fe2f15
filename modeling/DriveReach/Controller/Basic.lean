import DriveReach.Controller.Call
import DriveReach.Csmi.AddressMap
import DriveReach.Csmi.ControllerInfo
import DriveReach.Csmi.Firmware
import DriveReach.Csmi.PhyTable
import DriveReach.Csmi.RaidSet
/-!
# Controllers

One operation per call: it asks with a zeroed payload and its request fields, turns a return code
other than success into a fault, and decodes the payload that came back.
-/

namespace DriveReach

open Csmi

/-- A controller that has been attached to. -/
structure Controller where
  channel : Channel
  number : UInt32
  /-- Calls are dumped when this admits traces. -/
  verbosity : Verbosity := .off
  deriving DecidableEq, Repr

/-- A data length as the 32-bit fields carry it. -/
def dataLength (n : Nat) : Except Fault UInt32 :=
  if n < UInt32.size then .ok (UInt32.ofNat n)
  else .error (.badParameter s!"transfer of {n} bytes")

namespace Controller

/-- Issue a call; the return code is not looked at. -/
def send (c : Controller) (code : ControlCode) (payload : Bytes) (timeout : Timeout) :
    Attempt Reply :=
  Call.issue { Call.ofPayload code payload with
    timeout := timeout, controller := c.number, verbosity := c.verbosity } c.channel

/-- Issue a call that must succeed. -/
def query (c : Controller) (code : ControlCode) (payload : Bytes) : Attempt Reply := do
  let reply ← c.send code payload code.timeout
  Attempt.ofExcept reply.code.check
  return reply

/-- Issue a call that must succeed and decode what came back. -/
def ask {α : Type} (c : Controller) (code : ControlCode) (payload : Bytes)
    (decode : Bytes → Except Fault α) : Attempt α := do
  let reply ← c.query code payload
  Attempt.ofExcept (decode reply.payload)

/-! ## The controller itself -/

def driverInfo (c : Controller) : Attempt DriverInfo :=
  c.ask .driverInfo (Bytes.zeros Layout.driverInfo.size) DriverInfo.decode

def config (c : Controller) : Attempt ControllerConfig :=
  c.ask .controllerConfig (Bytes.zeros Layout.controllerConfig.size) ControllerConfig.decode

def status (c : Controller) : Attempt ControllerStatus :=
  c.ask .controllerStatus (Bytes.zeros Layout.controllerStatus.size) ControllerStatus.decode

/-- Send a firmware image. -/
def downloadFirmware (c : Controller) (image : Bytes) (flags : FirmwareFlags) :
    Attempt FirmwareReport := do
  let length ← Attempt.ofExcept (dataLength image.length)
  Attempt.note .info <| s!"controller {c.number.toNat}: firmware download of {image.length} " ++
    s!"bytes ({flags.describe})"
  c.ask .firmwareDownload
    (FirmwareReport.putRequest (Bytes.zeros Layout.firmwareDownload.size ++ image) length flags)
    FirmwareReport.decode

/-! ## RAID -/

def raidInfo (c : Controller) : Attempt RaidInfo :=
  c.ask .raidInfo (Bytes.zeros Layout.raidInfo.size) RaidInfo.decode

/-- One RAID set, with room for `maxDrives` drives, 255 at most. -/
def raidConfig (c : Controller) (index : UInt32) (maxDrives : Nat) : Attempt RaidConfig := do
  let room := min maxDrives RaidConfig.maxDrives
  let reply ← c.query .raidConfig
    (RaidConfig.putRequest (Bytes.zeros (RaidConfig.payloadLength room)) index)
  let config ← Attempt.ofExcept (RaidConfig.decode reply.payload reply.returned room)
  ExceptT.lift (Dialogue.notes config.shortfall?.toList)
  return config

def raidFeatures (c : Controller) : Attempt RaidFeatures :=
  c.ask .raidFeatures (Bytes.zeros Layout.raidFeatures.size) RaidFeatures.decode

/-! ## Phys and addresses -/

/-- The phy table; room is added behind it, and what a driver writes there is ignored. -/
def phyTable (c : Controller) : Attempt PhyTable :=
  c.ask .phyInfo (Bytes.zeros (Layout.phyInfo.size + PhyTable.slack))
    fun payload => PhyTable.decode (payload.take Layout.phyInfo.size)

/-- The error counters of a phy, which `reset` clears. -/
def linkErrors (c : Controller) (phy : UInt8) (reset : Bool) : Attempt LinkErrors :=
  c.ask .linkErrors (LinkErrors.putRequest (Bytes.zeros Layout.linkErrors.size) phy reset)
    LinkErrors.decode

def sataSignature (c : Controller) (phy : UInt8) : Attempt SataSignature :=
  c.ask .sataSignature (SataSignature.putRequest (Bytes.zeros Layout.sataSignature.size) phy)
    SataSignature.decode

/-- The operating system's address of a SAS device. -/
def scsiAddress (c : Controller) (device : SasLocation) : Attempt ScsiAddress :=
  c.ask .scsiAddress (ScsiAddress.putRequest (Bytes.zeros Layout.scsiAddress.size) device)
    ScsiAddress.decode

/-- The SAS address of a device of the operating system. -/
def deviceAddress (c : Controller) (device : ScsiAddress) : Attempt SasLocation :=
  c.ask .deviceAddress (SasLocation.putRequest (Bytes.zeros Layout.deviceAddress.size) device)
    SasLocation.decode

def connectors (c : Controller) : Attempt (List Connector) :=
  c.ask .connectorInfo (Bytes.zeros Layout.connectorInfo.size) Connector.decodeTable

end Controller

end DriveReach
