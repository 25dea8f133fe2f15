import DriveReach.Flags
/-!
# SAS links

What is attached at a phy, how fast the link runs and which protocols a port speaks.
-/

namespace DriveReach.Sas

/-- What is attached at a phy. -/
inductive DeviceType where
  | noDevice
  | endDevice
  | edgeExpander
  | fanoutExpander
  deriving DecidableEq, Repr

namespace DeviceType

/-- The type in bits 6:4 of an identify byte. -/
def ofIdentifyByte (b : UInt8) : DeviceType :=
  match (b >>> 4) &&& 0x07 with
  | 1 => endDevice
  | 2 => edgeExpander
  | 3 => fanoutExpander
  | _ => noDevice

def code : DeviceType → UInt8
  | noDevice => 0
  | endDevice => 1
  | edgeExpander => 2
  | fanoutExpander => 3

def name : DeviceType → String
  | noDevice => "NoDevice"
  | endDevice => "EndDevice"
  | edgeExpander => "EdgeExpander"
  | fanoutExpander => "FanoutExpander"

/-- The identify byte that carries the type. -/
def toIdentifyByte (t : DeviceType) : UInt8 := t.code <<< 4

end DeviceType

/-- The state or speed of a link. -/
inductive LinkRate where
  | unknown
  | disabled
  | resetProblem
  | spinupHold
  | portSelector
  | gbps1_5
  | gbps3_0
  | gbps6_0
  | gbps12_0
  | gbps22_5
  deriving DecidableEq, Repr

namespace LinkRate

/-- The rate in the low half of a byte. -/
def ofByte (b : UInt8) : LinkRate :=
  match b &&& 0x0F with
  | 1 => disabled
  | 2 => resetProblem
  | 3 => spinupHold
  | 4 => portSelector
  | 8 => gbps1_5
  | 9 => gbps3_0
  | 10 => gbps6_0
  | 11 => gbps12_0
  | 12 => gbps22_5
  | _ => unknown

def code : LinkRate → UInt8
  | unknown => 0
  | disabled => 1
  | resetProblem => 2
  | spinupHold => 3
  | portSelector => 4
  | gbps1_5 => 8
  | gbps3_0 => 9
  | gbps6_0 => 10
  | gbps12_0 => 11
  | gbps22_5 => 12

def name : LinkRate → String
  | unknown => "Unknown"
  | disabled => "Disabled"
  | resetProblem => "ResetProblem"
  | spinupHold => "SpinupHold"
  | portSelector => "PortSelector"
  | gbps1_5 => "Rate1_5"
  | gbps3_0 => "Rate3_0"
  | gbps6_0 => "Rate6_0"
  | gbps12_0 => "Rate12_0"
  | gbps22_5 => "Rate22_5"

/-- Megabits per second, zero for a link that does not run. -/
def mbps : LinkRate → UInt32
  | gbps1_5 => 1500
  | gbps3_0 => 3000
  | gbps6_0 => 6000
  | gbps12_0 => 12000
  | gbps22_5 => 22500
  | _ => 0

end LinkRate

structure PortProtocol where
  bits : UInt8
  deriving DecidableEq, Repr

namespace PortProtocol

/-- The named protocols. -/
def flags : List Flag := [⟨0x01, "SATA"⟩, ⟨0x02, "SMP"⟩, ⟨0x04, "STP"⟩, ⟨0x08, "SSP"⟩]

/-- SSP alone. -/
def ssp : PortProtocol := ⟨0x08⟩

/-- ATA commands reach the port: it speaks SATA or STP. -/
def reachesAta (p : PortProtocol) : Bool := p.bits &&& 0x05 != 0

end PortProtocol

end DriveReach.Sas
