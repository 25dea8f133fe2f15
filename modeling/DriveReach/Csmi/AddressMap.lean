import DriveReach.Fault
import DriveReach.Sas.Address
/-!
# Addresses of the operating system and of SAS

The driver maps both ways: `scsiAddress` from a SAS address to the operating system's address,
`deviceAddress` back.
-/

namespace DriveReach.Csmi

/-- The address of a device in the operating system. -/
structure ScsiAddress where
  host : UInt8
  path : UInt8
  target : UInt8
  lun : UInt8
  deriving DecidableEq, Repr

/-- A device in a SAS domain. -/
structure SasLocation where
  address : SasAddress
  lun : Lun
  deriving DecidableEq, Repr

namespace ScsiAddress

/-- The four numbers with colons between them. -/
def text (a : ScsiAddress) : String :=
  s!"{a.host.toNat}:{a.path.toNat}:{a.target.toNat}:{a.lun.toNat}"

/-- A payload that asks for the operating system's address of a SAS device. -/
def putRequest (payload : Bytes) (device : SasLocation) : Bytes :=
  Bytes.put (payload.put 0 device.address.bytes.toList) 8 device.lun.toList

/-- `putRequest` for a payload of any length. -/
def putRequest? (payload : Bytes) (device : SasLocation) : Option Bytes :=
  payload.within 16 (putRequest · device)

/-- The answer at the front of a buffer. -/
def decode (b : Bytes) : Except Fault ScsiAddress := do
  Layout.scsiAddress.require b
  return ⟨b.byteAt 16, b.byteAt 17, b.byteAt 18, b.byteAt 19⟩

end ScsiAddress

namespace SasLocation

/-- A payload that asks for the SAS address of a device of the operating system. -/
def putRequest (payload : Bytes) (device : ScsiAddress) : Bytes :=
  payload.put 0 [device.host, device.path, device.target, device.lun]

/-- `putRequest` for a payload of any length. -/
def putRequest? (payload : Bytes) (device : ScsiAddress) : Option Bytes :=
  payload.within 4 (putRequest · device)

/-- The answer at the front of a buffer. -/
def decode (b : Bytes) : Except Fault SasLocation := do
  Layout.deviceAddress.require b
  return ⟨.read b 4, b.fixed 8 12⟩

end SasLocation

end DriveReach.Csmi
