import DriveReach.Ata.Command
import DriveReach.Fault
import DriveReach.Flags
import DriveReach.Sas.Address
/-!
# STP exchanges

The payload of an STP call: 44 bytes of parameters, 92 bytes of status, and the data.
-/

namespace DriveReach.Csmi

/-- Protocol and direction of an ATA command. -/
structure StpFlags where
  bits : UInt32
  deriving DecidableEq, Repr

namespace StpFlags

def flags : List Flag :=
  [⟨0x01, "READ"⟩, ⟨0x02, "WRITE"⟩, ⟨0x04, "UNSPECIFIED"⟩, ⟨0x10, "PIO"⟩, ⟨0x20, "DMA"⟩,
    ⟨0x40, "PACKET"⟩, ⟨0x80, "DMA_QUEUED"⟩, ⟨0x100, "EXECUTE_DIAG"⟩, ⟨0x200, "RESET_DEVICE"⟩]

def protocolBits : Ata.Protocol → UInt32
  | .nonData => 0
  | .pioIn | .pioOut => 0x10
  | .dma => 0x20
  | .dmaQueued | .fpdma => 0x80
  | .packet => 0x40
  | .deviceDiagnostic => 0x100
  | .deviceReset => 0x200

def directionBits : Direction → UInt32
  | .inbound => 0x01
  | .outbound => 0x02
  | .none => 0x04

/-- The flags of a protocol with a direction. -/
def ofCommand (protocol : Ata.Protocol) (direction : Direction) : StpFlags :=
  ⟨protocolBits protocol ||| directionBits direction⟩

end StpFlags

/-- What an STP call asks for. -/
structure StpParameters where
  phy : UInt8
  port : UInt8
  rate : UInt8
  destination : SasAddress
  frame : Vector UInt8 20
  flags : StpFlags
  dataLength : UInt32
  deriving DecidableEq, Repr

/-- A payload with the parameters written; all other bytes stay. -/
def StpParameters.encode (p : StpParameters) (payload : Bytes) : Except Fault Bytes := do
  Layout.stpParameters.require payload
  let payload := payload.put 0 [p.phy, p.port, p.rate]
  let payload := Bytes.put payload 4 p.destination.bytes.toList
  let payload := Bytes.put payload 16 p.frame.toList
  let payload := Bytes.put payload 36 (Bytes.toLE 4 p.flags.bits.toNat)
  return Bytes.put payload 40 (Bytes.toLE 4 p.dataLength.toNat)

/-- The number of SATA control registers that an STP call brings back. -/
def scrCount : Nat := 16

/-- How an STP call ended. -/
structure StpStatus where
  connectionStatus : UInt8
  /-- The frame with which the device reported. -/
  frame : Vector UInt8 20
  /-- The SATA status and control registers. -/
  scr : Vector UInt32 16
  /-- The number of data bytes moved. -/
  dataBytes : UInt32
  deriving DecidableEq, Repr

/-- The status block at the front of a buffer. -/
def StpStatus.decode (s : Bytes) : Except Fault StpStatus := do
  Layout.stpStatus.require s
  return {
    connectionStatus := s.byteAt 0
    frame := s.fixed 20 4
    scr := Vector.ofFn fun i => s.le32 (24 + 4 * i)
    dataBytes := s.le32 88 }

/-- The payload in front of the data. -/
def stpFixedLength : Nat := Layout.stpParameters.size + Layout.stpStatus.size

end DriveReach.Csmi
