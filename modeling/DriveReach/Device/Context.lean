import DriveReach.Device.Identity
import DriveReach.Driver.Family
import DriveReach.LogicalAddress
import DriveReach.Passthrough.Request
/-!
# Device contexts

What is asked when a device is opened, and what is known about it once it is open.
-/

namespace DriveReach

open Csmi

/-- The version of the context that callers are built for. -/
def contextVersion : UInt32 := 1

/-- How to open a device. -/
structure OpenOptions where
  /-- What the device must answer to. -/
  identity : Option Identity := none
  contextVersion : UInt32 := DriveReach.contextVersion
  verbosity : Verbosity := .off
  /-- The time limit of identity probes. -/
  timeout : Timeout := .passthrough
  /-- Read the signature of ATA devices. -/
  fetchSignature : Bool := true

/-- The caller must be built for this version of the context. -/
def OpenOptions.checkVersion (o : OpenOptions) : Except Fault Unit :=
  if o.contextVersion = DriveReach.contextVersion then .ok ()
  else .error (.versionMismatch DriveReach.contextVersion o.contextVersion)

/-- How surely the device is the one that was meant, weakest first. -/
inductive Confidence where
  /-- Taken from the phy table. -/
  | phyOnly
  /-- The device answered to the expected identity. -/
  | liveIdentity
  /-- The driver gave the device's address. -/
  | driverAddress
  deriving DecidableEq, Repr

def Confidence.name : Confidence → String
  | phyOnly => "PhyInfoOnly"
  | liveIdentity => "LiveIdentify"
  | driverAddress => "RaidConfigAddress"

/-- What carries commands to a device. -/
inductive Binding where
  /-- ATA commands by STP, or along the chain from there. -/
  | stp
  /-- SCSI commands over SSP; ATA commands inside them. -/
  | ssp
  /-- SCSI commands served by ATA commands. -/
  | softwareSat
  /-- SCSI commands over SSP to the address of an NVMe device. -/
  | vendorNvme
  deriving DecidableEq, Repr

def Binding.name : Binding → String
  | stp => "Stp"
  | ssp => "Ssp"
  | softwareSat => "SoftwareSat"
  | vendorNvme => "VendorNvme"

/-- What is known about an open device. -/
structure Context where
  controller : Controller
  /-- The address under which the device is found again. -/
  address : LogicalAddress
  port : UInt8
  phy : UInt8
  protocol : Sas.PortProtocol
  sasAddress : SasAddress
  sasLun : Lun
  scsiAddress : Option ScsiAddress
  signature : Option SataSignature
  pmPort : UInt8
  driverName : String
  family : Driver.Family
  traits : Driver.Traits
  access : Driver.Access
  capabilities : Driver.Capabilities
  confidence : Confidence
  binding : Binding
  deriving DecidableEq

/-- The endpoint of a device, with the first route its binding allows. -/
def Context.endpoint (c : Context) : Endpoint :=
  { Endpoint.at c.phy c.port c.sasAddress with
    lun := c.sasLun
    pmPort := c.pmPort
    route := if c.binding = .ssp then .satOverSsp else .stp }

end DriveReach
