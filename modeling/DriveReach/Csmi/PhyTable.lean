import DriveReach.Ata.Frame
import DriveReach.Fault
import DriveReach.Sas.Address
import DriveReach.Sas.Link
import DriveReach.Text
/-!
# Phys

The phy table of a controller with what is attached at each phy, and what can be asked of one phy:
its link errors, the signature of its SATA device, its connector.
-/

namespace DriveReach.Csmi

/-- In place of a phy: address the port. -/
def usePortIdentifier : UInt8 := 0xFF

/-- In place of a port: the driver chooses. -/
def ignorePort : UInt8 := 0x7F

/-! ## Phy table -/

/-- How a port introduces itself on a link. -/
structure SasIdentify where
  deviceType : Sas.DeviceType
  initiator : Sas.PortProtocol
  target : Sas.PortProtocol
  sasAddress : SasAddress
  phy : UInt8
  signalClass : UInt8
  deriving DecidableEq, Repr

def SasIdentify.length : Nat := 28

/-- The introduction at an offset. -/
def SasIdentify.read (b : Bytes) (off : Nat) : SasIdentify where
  deviceType := .ofIdentifyByte (b.byteAt off)
  initiator := ⟨b.byteAt (off + 2)⟩
  target := ⟨b.byteAt (off + 3)⟩
  sasAddress := .read b (off + 12)
  phy := b.byteAt (off + 20)
  signalClass := b.byteAt (off + 21)

/-- A phy of the controller. -/
structure Phy where
  /-- The place in the table. -/
  index : Nat
  identify : SasIdentify
  port : UInt8
  rate : Sas.LinkRate
  minimumRate : UInt8
  maximumRate : UInt8
  changeCount : UInt8
  autoDiscover : UInt8
  features : UInt8
  /-- The device at the other end. -/
  attached : SasIdentify
  deriving DecidableEq, Repr

namespace Phy

def length : Nat := 64

/-- The phy in an entry. -/
def decode (index : Nat) (e : Bytes) : Phy where
  index := index
  identify := .read e 0
  port := e.byteAt 28
  rate := .ofByte (e.byteAt 29)
  minimumRate := e.byteAt 30
  maximumRate := e.byteAt 31
  changeCount := e.byteAt 32
  autoDiscover := e.byteAt 33
  features := e.byteAt 34
  attached := .read e 36

/-- The phy's own identifier. -/
def identifier (p : Phy) : UInt8 := p.identify.phy

/-- An end device is attached. -/
def hasEndDevice (p : Phy) : Bool := p.attached.deviceType == .endDevice

end Phy

/-- The phys of a controller. -/
structure PhyTable where
  /-- The number of phys as the driver gives it. -/
  reported : UInt8
  phys : List Phy
  deriving DecidableEq, Repr

namespace PhyTable

/-- The table has 32 entries. -/
def slots : Nat := 32

/-- Some drivers write past the table, so this much room is added behind it. -/
def slack : Nat := 4096

/-- The table at the front of a buffer. -/
def decode (b : Bytes) : Except Fault PhyTable := do
  Layout.phyInfo.require b
  let reported := b.byteAt 0
  return {
    reported := reported
    phys := (Bytes.chunks Phy.length (min reported.toNat slots) (b.drop 4)).mapIdx Phy.decode }

/-- The phys at which an end device is attached. -/
def endDevices (t : PhyTable) : List Phy := t.phys.filter (·.hasEndDevice)

/-- The phys at which an end device with an address is attached. -/
def attachedAt (t : PhyTable) (address : SasAddress) : List Phy :=
  t.phys.filter fun p => p.hasEndDevice && p.attached.sasAddress == address

/-- The first phy with an identifier. -/
def phy? (t : PhyTable) (identifier : UInt8) : Option Phy :=
  t.phys.find? (·.identifier == identifier)

end PhyTable

/-! ## One phy -/

/-- The error counters of a phy. -/
structure LinkErrors where
  phy : UInt8
  invalidDwords : UInt32
  disparityErrors : UInt32
  syncLosses : UInt32
  resetProblems : UInt32
  deriving DecidableEq, Repr

namespace LinkErrors

/-- A payload that asks for the counters of a phy, and to clear them when `reset` is set. -/
def putRequest (payload : Bytes) (phy : UInt8) (reset : Bool) : Bytes :=
  payload.put 0 [phy, if reset then 1 else 0]

/-- `putRequest` for a payload of any length. -/
def putRequest? (payload : Bytes) (phy : UInt8) (reset : Bool) : Option Bytes :=
  payload.within 2 (putRequest · phy reset)

/-- The counters at the front of a buffer. -/
def decode (b : Bytes) : Except Fault LinkErrors := do
  Layout.linkErrors.require b
  return {
    phy := b.byteAt 0
    invalidDwords := b.le32 4
    disparityErrors := b.le32 8
    syncLosses := b.le32 12
    resetProblems := b.le32 16 }

end LinkErrors

/-- The frame a SATA device sent after its reset. -/
structure SataSignature where
  phy : UInt8
  frame : Vector UInt8 20
  deriving DecidableEq, Repr

namespace SataSignature

/-- A payload that asks for the signature at a phy. -/
def putRequest (payload : Bytes) (phy : UInt8) : Bytes := payload.put 0 [phy]

/-- The signature at the front of a buffer. -/
def decode (b : Bytes) : Except Fault SataSignature := do
  Layout.sataSignature.require b
  return { phy := b.byteAt 0, frame := b.fixed 20 4 }

/-- The port multiplier port the device sits at. -/
def pmPort (s : SataSignature) : UInt8 := Ata.pmPortOf (Bytes.nth s.frame 1)

/-- The device takes packet commands. -/
def isPacketDevice (s : SataSignature) : Bool :=
  Bytes.nth s.frame 5 == 0x14 && Bytes.nth s.frame 6 == 0xEB

end SataSignature

/-! ## Connectors -/

/-- Where a connector is. -/
structure ConnectorLocation where
  bits : UInt8
  deriving DecidableEq, Repr

def ConnectorLocation.flags : List Flag :=
  [⟨0x02, "INTERNAL"⟩, ⟨0x04, "EXTERNAL"⟩, ⟨0x08, "SWITCHABLE"⟩, ⟨0x10, "AUTO"⟩,
    ⟨0x20, "NOT_PRESENT"⟩, ⟨0x80, "NOT_CONNECTED"⟩]

/-- A connector of the controller. -/
structure Connector where
  pinout : UInt32
  name : String
  location : ConnectorLocation
  deriving DecidableEq, Repr

namespace Connector

def length : Nat := 36

/-- The connector table has 32 entries. -/
def slots : Nat := 32

/-- The connector in an entry. -/
def decode (e : Bytes) : Connector where
  pinout := e.le32 0
  name := Text.field (e.slice 4 16)
  location := ⟨e.byteAt 20⟩

/-- The entry says something. -/
def isUsed (c : Connector) : Bool := c.pinout != 0 || !c.name.isEmpty || c.location.bits != 0

/-- The connectors in the table at the front of a buffer; entries that say nothing are left out. -/
def decodeTable (b : Bytes) : Except Fault (List Connector) := do
  Layout.connectorInfo.require b
  return ((Bytes.chunks length slots b).map decode).filter (·.isUsed)

end Connector

end DriveReach.Csmi
