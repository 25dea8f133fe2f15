import DriveReach.Proofs.Ata.HostFrame
import DriveReach.Scsi.AtaPassThrough
/-!
# Three carriers of a command

An ATA command travels as a frame, inside ATA PASS-THROUGH (16), or inside ATA PASS-THROUGH (12).
`SentRegisters` is what a device finds in its registers, and each carrier is read by its own layout:
`HostFrame.registers`, `AtaPassThrough.registers16`, `AtaPassThrough.registers12`. What should be
found is `Command.sent`.

* `Command.registers_toFrame`, `registers16_cdb16`, `registers12_cdb12`: each carrier brings what
  should be found.
* `Command.narrow_sent`, `Command.wide_sent`: what that is, with 28-bit and with 48-bit addressing.
* `carriers_agree`: so a command that is sent again on another route reaches the same sectors.
-/

set_option autoImplicit false

namespace DriveReach

namespace Bytes

theorem octet_succ (k x : Nat) : octet (k + 1) x = octet k (x / 256) := by
  rw [octet, octet, Nat.mul_add, Nat.add_comm, Nat.shiftRight_add, Nat.shiftRight_eq_div_pow x]

theorem toLE_eq_octets : ∀ k x : Nat, toLE k x = (List.range k).map (octet · x)
  | 0, _ => rfl
  | k + 1, x => by
    rw [toLE, toLE_eq_octets k, List.range_succ_eq_map, List.map_cons, List.map_map]
    congr 1
    exact List.map_congr_left fun i _ => (octet_succ i x).symm

/-- The lowest bytes of a number give it back, as far as they hold it. -/
theorem ofLE_octets (k x : Nat) : ofLE ((List.range k).map (octet · x)) = x % Nat.pow 256 k := by
  rw [← toLE_eq_octets, ofLE_toLE]

/-- Both bytes of a 16-bit number give it back. -/
theorem ofLE_octets16 (x : UInt16) :
    UInt16.ofNat (ofLE [octet 0 x.toNat, octet 1 x.toNat]) = x := by
  change UInt16.ofNat (ofLE ((List.range 2).map (octet · x.toNat))) = x
  rw [ofLE_octets]
  exact UInt16.toNat_inj.1 (by simp)

/-- The lowest six bytes of a number give its lowest 48 bits back. -/
theorem ofLE_octets48 (x : UInt64) :
    UInt64.ofNat (ofLE [octet 0 x.toNat, octet 1 x.toNat, octet 2 x.toNat, octet 3 x.toNat,
      octet 4 x.toNat, octet 5 x.toNat]) = x % 0x1000000000000 := by
  change UInt64.ofNat (ofLE ((List.range 6).map (octet · x.toNat))) = _
  rw [ofLE_octets]
  exact UInt64.toNat_inj.1 (by simp; omega)

theorem ofLE_zeros (k : Nat) : ofLE (zeros k) = 0 := by
  induction k with
  | zero => rfl
  | succ k ih => rw [show zeros (k + 1) = 0 :: zeros k from rfl, ofLE, ih]; rfl

theorem ofLE_append_zeros (b : Bytes) (k : Nat) : ofLE (b ++ zeros k) = ofLE b := by
  induction b with
  | nil => exact ofLE_zeros k
  | cons x b ih => rw [List.cons_append, ofLE, ofLE, ih]

end Bytes

/-! ## What a command puts into the registers -/

namespace Ata

/-- The registers of a command as a device finds them; the LBA has 48 bits. -/
structure SentRegisters where
  command : UInt8
  control : UInt8
  device : UInt8
  features : UInt16
  count : UInt16
  lba : UInt64
  deriving DecidableEq

def HostFrame.registers (f : HostFrame) : SentRegisters :=
  ⟨f.command, f.control, f.device, f.features, f.count, f.lba⟩

namespace Command

/-- The registers that a command should reach a device with. Without 48-bit addressing the upper
bytes are zero, and LBA 27:24 is in the device register. -/
def sent (c : Command) : SentRegisters :=
  let tf := c.taskFile
  if c.extended then
    ⟨tf.command, tf.control, tf.device, tf.features, tf.count, tf.lba % 0x1000000000000⟩
  else
    ⟨tf.command, tf.control, foldedDevice tf, tf.features % 0x100, tf.count % 0x100,
      tf.lba % 0x1000000⟩

theorem and_low16 (x : UInt16) : x &&& 0xFF = x % 0x100 :=
  UInt16.toNat_inj.1 (Nat.and_two_pow_sub_one_eq_mod x.toNat 8)

theorem and_low64 (x : UInt64) : x &&& 0xFFFFFF = x % 0x1000000 :=
  UInt64.toNat_inj.1 (Nat.and_two_pow_sub_one_eq_mod x.toNat 24)

open HostFrame in
/-- The frame brings what should be found. -/
theorem registers_toFrame (c : Command) : c.toFrame.registers = c.sent := by
  have hlba : c.taskFile.lba % 0x1000000 % 0x1000000000000 = c.taskFile.lba % 0x1000000 :=
    UInt64.toNat_inj.1 (by simp; omega)
  unfold toFrame sent
  -- In each mode a register is read past the writers of other fields, down to its own.
  split <;>
    simp (disch := decide) only [registers, and_low16, and_low64, hlba, setPmPort_eq_put,
      setCommand_eq_put, setIcc_eq_put, setControl_eq_put, setAuxiliary_eq_put,
      setFeatures_eq_put, setCount_eq_put, setLba_eq_put, setDevice_eq_put, command_put_self,
      command_put_of_ne, control_put_self, control_put_of_ne, device_put_self,
      features_put_self, features_put_of_ne, count_put_self, count_put_of_ne, lba_put_self,
      lba_put_of_ne]

/-! ### The device register of a 28-bit command -/

theorem low_foldedDevice (tf : TaskFile) :
    foldedDevice tf &&& 0x0F = octet 3 tf.lba.toNat &&& 0x0F :=
  HostFrame.pmPortOf_or tf.device (octet 3 tf.lba.toNat)

theorem high_foldedDevice (tf : TaskFile) : foldedDevice tf &&& 0xF0 = tf.device &&& 0xF0 := by
  apply UInt8.eq_of_toBitVec_eq
  apply BitVec.eq_of_getLsbD_eq
  intro i hi
  simp only [foldedDevice, UInt8.toBitVec_and, UInt8.toBitVec_or, BitVec.getLsbD_and,
    BitVec.getLsbD_or]
  match i with
  | 0 | 1 | 2 | 3 | 4 | 5 | 6 | 7 => simp

variable {c : Command}

/-- What a 28-bit command reaches a device with: LBA 27:0 in the LBA registers and the low half of
the device register, zero in the upper bytes, and the rest as it is. -/
structure Narrow (tf : TaskFile) (r : SentRegisters) : Prop where
  lba : r.lba.toNat + 0x1000000 * (r.device &&& 0x0F).toNat = tf.lba.toNat % 0x10000000
  lbaUpper : r.lba.toNat < 0x1000000
  device : r.device &&& 0xF0 = tf.device &&& 0xF0
  features : r.features.toNat = tf.features.toNat % 0x100
  count : r.count.toNat = tf.count.toNat % 0x100
  command : r.command = tf.command
  control : r.control = tf.control

/-- What a 48-bit command reaches a device with: all but the LBA bits above 47. -/
structure Wide (tf : TaskFile) (r : SentRegisters) : Prop where
  lba : r.lba.toNat = tf.lba.toNat % 0x1000000000000
  device : r.device = tf.device
  features : r.features = tf.features
  count : r.count = tf.count
  command : r.command = tf.command
  control : r.control = tf.control

theorem narrow_sent (h : c.extended = false) : Narrow c.taskFile c.sent := by
  have hs : c.sent = ⟨c.taskFile.command, c.taskFile.control, foldedDevice c.taskFile,
      c.taskFile.features % 0x100, c.taskFile.count % 0x100, c.taskFile.lba % 0x1000000⟩ := by
    simp [sent, h]
  rw [hs]
  refine ⟨?_, ?_, high_foldedDevice _, by simp, by simp, rfl, rfl⟩
  · have hlow :
        (foldedDevice c.taskFile &&& 0x0F).toNat = c.taskFile.lba.toNat / 0x1000000 % 16 := by
      rw [low_foldedDevice, UInt8.toNat_and]
      refine (Nat.and_two_pow_sub_one_eq_mod _ 4).trans ?_
      simp [octet, Nat.shiftRight_eq_div_pow]
    rw [hlow]
    simp
    omega
  · simp
    omega

theorem wide_sent (h : c.extended = true) : Wide c.taskFile c.sent := by
  have hs : c.sent = ⟨c.taskFile.command, c.taskFile.control, c.taskFile.device,
      c.taskFile.features, c.taskFile.count, c.taskFile.lba % 0x1000000000000⟩ := by
    simp [sent, h]
  rw [hs]
  exact ⟨by simp, rfl, rfl, rfl, rfl, rfl⟩

end Command

end Ata

/-! ## Reading the SCSI commands -/

namespace Scsi.AtaPassThrough

open Ata (Command SentRegisters)
open Bytes (ofLE)

/-- The registers in an ATA PASS-THROUGH (16). -/
def registers16 (b : Bytes) : SentRegisters where
  command := b.byteAt 14
  control := b.byteAt 15
  device := b.byteAt 13
  features := UInt16.ofNat (ofLE [b.byteAt 4, b.byteAt 3])
  count := UInt16.ofNat (ofLE [b.byteAt 6, b.byteAt 5])
  lba := UInt64.ofNat (ofLE
    [b.byteAt 8, b.byteAt 10, b.byteAt 12, b.byteAt 7, b.byteAt 9, b.byteAt 11])

/-- The registers in an ATA PASS-THROUGH (12), which has no upper bytes. -/
def registers12 (b : Bytes) : SentRegisters where
  command := b.byteAt 9
  control := b.byteAt 11
  device := b.byteAt 8
  features := UInt16.ofNat (ofLE [b.byteAt 3])
  count := UInt16.ofNat (ofLE [b.byteAt 4])
  lba := UInt64.ofNat (ofLE [b.byteAt 5, b.byteAt 6, b.byteAt 7])

section
variable (c : Command)

theorem ofLE_low16 (x : UInt16) : UInt16.ofNat (ofLE [octet 0 x.toNat]) = x % 0x100 := by
  change UInt16.ofNat (ofLE ((List.range 1).map (octet · x.toNat))) = _
  rw [Bytes.ofLE_octets]
  exact UInt16.toNat_inj.1 (by simp; omega)

theorem ofLE_low24 (x : UInt64) :
    UInt64.ofNat (ofLE [octet 0 x.toNat, octet 1 x.toNat, octet 2 x.toNat]) = x % 0x1000000 := by
  change UInt64.ofNat (ofLE ((List.range 3).map (octet · x.toNat))) = _
  rw [Bytes.ofLE_octets]
  exact UInt64.toNat_inj.1 (by simp; omega)

/-- A 16-bit register whose upper byte is filled in for a 48-bit command only. -/
theorem ofLE_word (x : UInt16) :
    UInt16.ofNat (ofLE [octet 0 x.toNat, upper c (octet 1 x.toNat)]) =
      if c.extended then x else x % 0x100 := by
  unfold upper
  split
  · exact Bytes.ofLE_octets16 x
  · rw [← ofLE_low16]
    exact congrArg UInt16.ofNat (Bytes.ofLE_append_zeros [octet 0 x.toNat] 1)

/-- An LBA whose upper bytes are filled in for a 48-bit command only. -/
theorem ofLE_lba (x : UInt64) :
    UInt64.ofNat (ofLE [octet 0 x.toNat, octet 1 x.toNat, octet 2 x.toNat,
      upper c (octet 3 x.toNat), upper c (octet 4 x.toNat), upper c (octet 5 x.toNat)]) =
      if c.extended then x % 0x1000000000000 else x % 0x1000000 := by
  unfold upper
  split
  · exact Bytes.ofLE_octets48 x
  · rw [← ofLE_low24]
    exact congrArg UInt64.ofNat
      (Bytes.ofLE_append_zeros [octet 0 x.toNat, octet 1 x.toNat, octet 2 x.toNat] 3)

/-- ATA PASS-THROUGH (16) brings what should be found. -/
theorem registers16_cdb16 : registers16 (cdb16 c).bytes = c.sent := by
  have h : registers16 (cdb16 c).bytes =
      ⟨c.taskFile.command, c.taskFile.control,
        if c.extended then c.taskFile.device else Command.foldedDevice c.taskFile,
        UInt16.ofNat (ofLE [octet 0 c.taskFile.features.toNat,
          upper c (octet 1 c.taskFile.features.toNat)]),
        UInt16.ofNat (ofLE [octet 0 c.taskFile.count.toNat,
          upper c (octet 1 c.taskFile.count.toNat)]),
        UInt64.ofNat (ofLE [octet 0 c.taskFile.lba.toNat, octet 1 c.taskFile.lba.toNat,
          octet 2 c.taskFile.lba.toNat, upper c (octet 3 c.taskFile.lba.toNat),
          upper c (octet 4 c.taskFile.lba.toNat), upper c (octet 5 c.taskFile.lba.toNat)])⟩ := rfl
  rw [h, ofLE_word, ofLE_word, ofLE_lba, Command.sent]
  split <;> rfl

/-- ATA PASS-THROUGH (12) takes no 48-bit command, and brings what should be found for another. -/
theorem registers12_cdb12 :
    (c.extended = true → cdb12 c = .error (.needsExtendedCdb c.taskFile.command)) ∧
      (c.extended = false →
        ∃ cdb, cdb12 c = .ok cdb ∧ registers12 cdb.bytes = c.sent) := by
  refine ⟨fun h => if_pos h, fun h => ⟨_, if_neg (by simp [h]), ?_⟩⟩
  have hr : registers12 [Opcode.ataPassThrough12, protocolField c.protocol c.direction <<< 1,
      transferFlags c, octet 0 c.taskFile.features.toNat, octet 0 c.taskFile.count.toNat,
      octet 0 c.taskFile.lba.toNat, octet 1 c.taskFile.lba.toNat, octet 2 c.taskFile.lba.toNat,
      Command.foldedDevice c.taskFile, c.taskFile.command, 0, c.taskFile.control] =
      ⟨c.taskFile.command, c.taskFile.control, Command.foldedDevice c.taskFile,
        UInt16.ofNat (ofLE [octet 0 c.taskFile.features.toNat]),
        UInt16.ofNat (ofLE [octet 0 c.taskFile.count.toNat]),
        UInt64.ofNat (ofLE [octet 0 c.taskFile.lba.toNat, octet 1 c.taskFile.lba.toNat,
          octet 2 c.taskFile.lba.toNat])⟩ := rfl
  rw [hr, ofLE_low16, ofLE_low16, ofLE_low24, Command.sent, if_neg (by simp [h])]

/-- **The carriers of a command agree.** ATA PASS-THROUGH (16) and the frame bring the same
registers. Those of a 28-bit command keep LBA 27:0, split between the LBA registers and the device
register, have zero in the upper bytes, and are what ATA PASS-THROUGH (12) brings as well. Those of
a 48-bit command keep LBA 47:0 and all of the other registers, and ATA PASS-THROUGH (12) is
refused. -/
theorem carriers_agree :
    registers16 (cdb16 c).bytes = c.toFrame.registers ∧
      (c.extended = false → Command.Narrow c.taskFile c.toFrame.registers ∧
        ∃ cdb, cdb12 c = .ok cdb ∧ registers12 cdb.bytes = c.toFrame.registers) ∧
      (c.extended = true → Command.Wide c.taskFile c.toFrame.registers ∧
        cdb12 c = .error (.needsExtendedCdb c.taskFile.command)) := by
  rw [registers16_cdb16, Command.registers_toFrame]
  exact ⟨rfl, fun h => ⟨Command.narrow_sent h, (registers12_cdb12 c).2 h⟩,
    fun h => ⟨Command.wide_sent h, (registers12_cdb12 c).1 h⟩⟩

end

/-- A read of sector ABCDEF1h in 28-bit mode, whose upper LBA digit is in the device register. -/
theorem carriers_agree_readSectors :
    let c : Command :=
      { taskFile := ⟨Ata.Opcode.readSectors, 0, 1, 0xABCDEF1, Ata.deviceLba, 0, 0, 0⟩
        protocol := .pioIn
        direction := .inbound }
    c.toFrame.registers = ⟨0x20, 0, 0x4A, 0, 1, 0xBCDEF1⟩ ∧
      registers16 (cdb16 c).bytes = c.toFrame.registers ∧
      ∃ cdb, cdb12 c = .ok cdb ∧ registers12 cdb.bytes = c.toFrame.registers :=
  ⟨by decide +kernel, (carriers_agree _).1, ((carriers_agree _).2.1 rfl).2⟩

end Scsi.AtaPassThrough

end DriveReach
