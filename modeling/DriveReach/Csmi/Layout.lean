/-!
# Wire structures

The structures of the calls with their lengths, and the names under which messages mention them.
-/

namespace DriveReach.Csmi

/-- A structure with a least length. -/
inductive Layout where
  | driverInfo
  | controllerConfig
  | controllerStatus
  | raidInfo
  /-- The part of a RAID set before its drives. -/
  | raidConfig
  | raidFeatures
  | phyInfo
  | linkErrors
  | sataSignature
  | connectorInfo
  | scsiAddress
  | deviceAddress
  | firmwareDownload
  | sspParameters
  | sspStatus
  | stpParameters
  | stpStatus
  /-- The header of a call. -/
  | header
  deriving DecidableEq, Repr

namespace Layout

/-- The length in bytes. -/
def size : Layout → Nat
  | driverInfo => 174
  | controllerConfig => 180
  | controllerStatus => 36
  | raidInfo => 100
  | raidConfig => 36
  | raidFeatures => 2916
  | phyInfo => 2052
  | linkErrors => 20
  | sataSignature => 24
  | connectorInfo => 1152
  | scsiAddress => 20
  | deviceAddress => 20
  | firmwareDownload => 44
  | sspParameters => 72
  | sspStatus => 268
  | stpParameters => 44
  | stpStatus => 92
  | header => 20

def name : Layout → String
  | driverInfo => "driver info"
  | controllerConfig => "controller config"
  | controllerStatus => "controller status"
  | raidInfo => "raid info"
  | raidConfig => "raid config"
  | raidFeatures => "raid features"
  | phyInfo => "phy info"
  | linkErrors => "link errors"
  | sataSignature => "sata signature"
  | connectorInfo => "connector info"
  | scsiAddress => "scsi address"
  | deviceAddress => "device address"
  | firmwareDownload => "firmware download"
  | sspParameters => "ssp parameters"
  | sspStatus => "ssp status"
  | stpParameters => "stp parameters"
  | stpStatus => "stp status"
  | header => "ioctl buffer"

end Layout

end DriveReach.Csmi
