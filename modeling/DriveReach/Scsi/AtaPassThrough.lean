import DriveReach.Ata.Command
import DriveReach.Scsi.Cdb
/-!
# ATA commands inside SCSI commands

ATA PASS-THROUGH (16) carries a task file with 48-bit addressing. ATA PASS-THROUGH (12) reaches
28-bit commands only; it is what older SAT layers know.

| field          | (16), low and high byte | (12)    |
|----------------|-------------------------|---------|
| protocol       | 1, bits 4:1             | 1       |
| 48-bit command | 1, bit 0                |         |
| transfer flags | 2                       | 2       |
| features       | 4, 3                    | 3       |
| count          | 6, 5                    | 4       |
| LBA            | 8, 10, 12, 7, 9, 11     | 5, 6, 7 |
| device         | 13                      | 8       |
| command        | 14                      | 9       |
| control        | 15                      | 11      |
-/

namespace DriveReach.Scsi.AtaPassThrough

open Ata (Command Protocol)

/-! ## Fields -/

namespace ProtocolField

def hardReset : UInt8 := 0
def softReset : UInt8 := 1
def nonData : UInt8 := 3
def pioDataIn : UInt8 := 4
def pioDataOut : UInt8 := 5
def dma : UInt8 := 6
def dmaQueued : UInt8 := 7
def deviceDiagnostic : UInt8 := 8
def deviceReset : UInt8 := 9
def fpdma : UInt8 := 12

end ProtocolField

/-- The protocol field; a packet command goes by its direction. -/
def protocolField (protocol : Protocol) (direction : Direction) : UInt8 :=
  match protocol with
  | .nonData => ProtocolField.nonData
  | .pioIn => ProtocolField.pioDataIn
  | .pioOut => ProtocolField.pioDataOut
  | .dma => ProtocolField.dma
  | .dmaQueued => ProtocolField.dmaQueued
  | .fpdma => ProtocolField.fpdma
  | .deviceDiagnostic => ProtocolField.deviceDiagnostic
  | .deviceReset => ProtocolField.deviceReset
  | .packet => match direction with
    | .inbound => ProtocolField.pioDataIn
    | .outbound => ProtocolField.pioDataOut
    | .none => ProtocolField.nonData

/-- The transfer flags: without data, ask for the registers (20h); with data, the length is in
blocks (04h) in the count field (02h), and 08h marks data towards the host. -/
def transferFlags (c : Command) : UInt8 :=
  if !c.protocol.hasData || c.direction == .none then 0x20
  else if c.direction == .inbound then 0x0E
  else 0x06

/-! ## Commands -/

/-- The bytes that hold the upper half of a register, zero without 48-bit addressing. -/
def upper (c : Command) (b : UInt8) : UInt8 := if c.extended then b else 0

/-- ATA PASS-THROUGH (16). -/
def cdb16 (c : Command) : Cdb :=
  let tf := c.taskFile
  let lba := tf.lba.toNat
  ⟨[Opcode.ataPassThrough16,
    (protocolField c.protocol c.direction <<< 1) ||| upper c 0x01,
    transferFlags c,
    upper c (octet 1 tf.features.toNat), octet 0 tf.features.toNat,
    upper c (octet 1 tf.count.toNat), octet 0 tf.count.toNat,
    upper c (octet 3 lba), octet 0 lba,
    upper c (octet 4 lba), octet 1 lba,
    upper c (octet 5 lba), octet 2 lba,
    if c.extended then tf.device else Command.foldedDevice tf,
    tf.command,
    tf.control], by simp [maxCdbLength]⟩

/-- ATA PASS-THROUGH (12), for 28-bit commands. -/
def cdb12 (c : Command) : Except Fault Cdb :=
  let tf := c.taskFile
  let lba := tf.lba.toNat
  if c.extended then .error (.needsExtendedCdb tf.command)
  else .ok ⟨[Opcode.ataPassThrough12,
    protocolField c.protocol c.direction <<< 1,
    transferFlags c,
    octet 0 tf.features.toNat,
    octet 0 tf.count.toNat,
    octet 0 lba, octet 1 lba, octet 2 lba,
    Command.foldedDevice tf,
    tf.command,
    0,
    tf.control], by simp [maxCdbLength]⟩

end DriveReach.Scsi.AtaPassThrough
