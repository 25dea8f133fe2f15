import DriveReach.Ata.HostFrame
import DriveReach.Transfer
/-!
# ATA commands

A task file, the protocol class that decides how the command is carried, and the command's frame.
Without 48-bit addressing a command reaches LBA 27:0 only, and bits 27:24 travel in the low half of
the device register.
-/

namespace DriveReach.Ata

/-! ## Opcodes -/

namespace Opcode

def deviceReset : UInt8 := 0x08
def readSectors : UInt8 := 0x20
def readSectorsExt : UInt8 := 0x24
def readDmaExt : UInt8 := 0x25
def readLogExt : UInt8 := 0x2F
def writeSectors : UInt8 := 0x30
def writeSectorsExt : UInt8 := 0x34
def writeDmaExt : UInt8 := 0x35
def readVerifySectors : UInt8 := 0x40
def readFpdmaQueued : UInt8 := 0x60
def writeFpdmaQueued : UInt8 := 0x61
def executeDeviceDiagnostic : UInt8 := 0x90
def downloadMicrocode : UInt8 := 0x92
def packet : UInt8 := 0xA0
def identifyPacketDevice : UInt8 := 0xA1
def smart : UInt8 := 0xB0
def readDma : UInt8 := 0xC8
def writeDma : UInt8 := 0xCA
def checkPowerMode : UInt8 := 0xE5
def flushCache : UInt8 := 0xE7
def flushCacheExt : UInt8 := 0xEA
def identifyDevice : UInt8 := 0xEC
def setFeatures : UInt8 := 0xEF

end Opcode

/-- The LBA mode bit of the device register. -/
def deviceLba : UInt8 := 0x40

/-! ## Commands -/

/-- The protocol class of a command. -/
inductive Protocol where
  | nonData
  | pioIn
  | pioOut
  | dma
  | dmaQueued
  /-- First-party DMA. -/
  | fpdma
  | packet
  | deviceDiagnostic
  | deviceReset
  deriving DecidableEq, Repr

/-- The protocol has a data phase. -/
def Protocol.hasData : Protocol → Bool
  | nonData | deviceDiagnostic | deviceReset => false
  | _ => true

def Protocol.all : List Protocol :=
  [nonData, pioIn, pioOut, dma, dmaQueued, fpdma, packet, deviceDiagnostic, deviceReset]

def Protocol.name : Protocol → String
  | nonData => "NonData"
  | pioIn => "PioIn"
  | pioOut => "PioOut"
  | dma => "Dma"
  | dmaQueued => "DmaQueued"
  | fpdma => "Fpdma"
  | packet => "Packet"
  | deviceDiagnostic => "DeviceDiagnostic"
  | deviceReset => "DeviceReset"

def Protocol.ofName? (name : String) : Option Protocol := all.find? (·.name == name)

/-- What goes into the registers of the device. -/
structure TaskFile where
  command : UInt8
  features : UInt16 := 0
  count : UInt16 := 0
  lba : UInt64 := 0
  device : UInt8 := 0
  icc : UInt8 := 0
  control : UInt8 := 0
  auxiliary : UInt32 := 0
  deriving DecidableEq, Repr

/-- An ATA command. -/
structure Command where
  taskFile : TaskFile
  protocol : Protocol
  direction : Direction
  /-- The command uses 48-bit addressing. -/
  extended : Bool := false
  pmPort : UInt8 := 0
  deriving DecidableEq, Repr

namespace Command

/-- A command in LBA mode, all other registers zero. -/
def ofOpcode (opcode : UInt8) (protocol : Protocol) (direction : Direction) : Command where
  taskFile := { command := opcode, device := deviceLba }
  protocol := protocol
  direction := direction

/-- IDENTIFY DEVICE, which returns one block of 512 bytes. -/
def identify : Command where
  taskFile := { command := Opcode.identifyDevice, count := 1 }
  protocol := .pioIn
  direction := .inbound

/-- IDENTIFY PACKET DEVICE. -/
def identifyPacket : Command where
  taskFile := { command := Opcode.identifyPacketDevice, count := 1 }
  protocol := .pioIn
  direction := .inbound

def checkPowerMode : Command := .ofOpcode Opcode.checkPowerMode .nonData .none

def readDmaExt (lba : UInt64) (blocks : UInt16) : Command where
  taskFile := { command := Opcode.readDmaExt, count := blocks, lba := lba, device := deviceLba }
  protocol := .dma
  direction := .inbound
  extended := true

def writeDmaExt (lba : UInt64) (blocks : UInt16) : Command where
  taskFile := { command := Opcode.writeDmaExt, count := blocks, lba := lba, device := deviceLba }
  protocol := .dma
  direction := .outbound
  extended := true

/-- The device register of a 28-bit command, with LBA 27:24 in its low half. -/
def foldedDevice (tf : TaskFile) : UInt8 :=
  (tf.device &&& 0xF0) ||| (octet 3 tf.lba.toNat &&& 0x0F)

/-- The command as a frame. -/
def toFrame (c : Command) : HostFrame :=
  let tf := c.taskFile
  let frame := ((((HostFrame.blank.setPmPort c.pmPort).setCommand tf.command).setIcc
    tf.icc).setControl tf.control).setAuxiliary tf.auxiliary
  if c.extended then
    (((frame.setFeatures tf.features).setCount tf.count).setLba tf.lba).setDevice tf.device
  else
    (((frame.setFeatures (tf.features &&& 0xFF)).setCount (tf.count &&& 0xFF)).setLba
      (tf.lba &&& 0xFFFFFF)).setDevice (foldedDevice tf)

end Command

end DriveReach.Ata
