import DriveReach.Proofs.Scsi.Descriptors
import DriveReach.Proofs.Scsi.SenseBuffer
/-!
# Registers in sense data of descriptor format

The registers of an ATA command are read from the first descriptor of code 09h that has its 14
bytes. Others may stand before it and behind it.

* `parseAtaStatusReturn?_eq`: what is read, in terms of the descriptors that are listed.
* `Descriptor.ataRegisters_ataStatus`: what is written into a descriptor is read back from it.
* `parse_behind`: the registers are found behind other descriptors.
* `registers_in_descriptors`: they are found wherever they stand, and there are none when no such
  descriptor stands in the sense data.
-/

set_option autoImplicit false

namespace DriveReach.Scsi

/-- Sense data in descriptor format: the response code is 72h or 73h. -/
def IsDescriptorFormat (b : Bytes) : Prop :=
  b.byteAt 0 &&& 0x7F = 0x72 ∨ b.byteAt 0 &&& 0x7F = 0x73

variable {b header rest : Bytes} {before : List Descriptor} {r : Ata.Registers} {extended : Bool}

/-- The registers in descriptor format are those of the first ATA status descriptor. -/
theorem parseAtaStatusReturn?_eq (h : IsDescriptorFormat b) :
    parseAtaStatusReturn? b = ((descriptors b).find? (·.isAtaStatus)).map (·.ataRegisters) := by
  cases b with
  | nil => rcases h with h | h <;> exact absurd h (by decide)
  | cons first tail =>
    have hcode : first &&& 0x7F = 0x72 ∨ first &&& 0x7F = 0x73 := h
    have hfixed : ¬ (first &&& 0x7F = 0x70 ∨ first &&& 0x7F = 0x71) := by
      rcases hcode with h | h <;> rw [h] <;> decide
    unfold parseAtaStatusReturn? SenseSummary.parse?
    dsimp only
    rw [if_neg hfixed, if_pos hcode]
    by_cases hl : (first :: tail).length < DescriptorHeader.length
    · have hnone : descriptors (first :: tail) = [] := by
        rw [descriptors, descriptorArea, DescriptorHeader.parse?, if_pos hl]
        exact Descriptor.split_nil
      rw [DescriptorHeader.parse?, if_pos hl, hnone]
      rfl
    · rw [DescriptorHeader.parse?, if_neg hl]
      rfl

namespace Descriptor

theorem isAtaStatus_iff {d : Descriptor} :
    d.isAtaStatus = true ↔ d.code = 0x09 ∧ 14 ≤ d.bytes.length := by
  rw [isAtaStatus, Bool.and_eq_true, beq_iff_eq, decide_eq_true_iff]
  rfl

/-- The ATA status descriptor that registers are written as. -/
def ataStatus (r : Ata.Registers) (extended : Bool) : Descriptor :=
  ⟨0x09, (ataStatusReturn r extended).valid.drop 8⟩

theorem bytes_ataStatus (r : Ata.Registers) (extended : Bool) :
    let upper (b : UInt8) : UInt8 := if extended then b else 0
    (ataStatus r extended).bytes = [0x09, 0x0C, upper 0x01, r.error, upper r.countExt, r.count,
      upper r.lbaLowExt, r.lbaLow, upper r.lbaMidExt, r.lbaMid, upper r.lbaHighExt, r.lbaHigh,
      r.device, r.status] := by
  rw [ataStatus, ataStatusReturn, SenseBuffer.ofBytes, SenseBuffer.valid_set]
  rfl

theorem wellFormed_ataStatus : (ataStatus r extended).WellFormed :=
  ⟨(ataStatus r extended).bytes.drop 2, by rw [bytes_ataStatus]; exact (by decide : 12 < 256),
    by rw [bytes_ataStatus]; rfl⟩

theorem isAtaStatus_ataStatus : (ataStatus r extended).isAtaStatus = true :=
  isAtaStatus_iff.2 ⟨rfl, by rw [bytes_ataStatus]; exact Nat.le_refl 14⟩

/-- Registers that are written into a descriptor are read back, those of 28-bit addressing without
their upper bytes. -/
theorem ataRegisters_ataStatus :
    (ataStatus r extended).ataRegisters = if extended then r else r.narrow := by
  have hmark : ((ataStatus r extended).bytes.byteAt 2 &&& 0x01 != 0) = extended := by
    rw [bytes_ataStatus]
    change ((if extended then 0x01 else 0 : UInt8) &&& 0x01 != 0) = extended
    cases extended <;> decide
  unfold ataRegisters
  dsimp only
  rw [hmark, bytes_ataStatus]
  cases extended <;> rfl

end Descriptor

/-- Registers are found behind descriptors of other kinds, and behind those of their own kind that
are too short to hold any. -/
theorem parse_behind (hheader : header.length = 8) (hformat : IsDescriptorFormat header)
    (hbefore : ∀ d ∈ before, d.WellFormed ∧ (d.code = 0x09 → d.bytes.length < 14))
    (hroom : (Descriptor.join before).length + 14 ≤ (header.byteAt 7).toNat) :
    parseAtaStatusReturn? (header ++ Descriptor.join before ++
      (Descriptor.ataStatus r extended).bytes ++ rest) =
        some (if extended then r else r.narrow) := by
  have hlength : (Descriptor.ataStatus r extended).bytes.length = 14 := by
    rw [Descriptor.bytes_ataStatus]
    rfl
  rw [List.append_assoc, List.append_assoc]
  have hfirst : IsDescriptorFormat (header ++ (Descriptor.join before ++
      ((Descriptor.ataStatus r extended).bytes ++ rest))) := by
    rw [IsDescriptorFormat, Bytes.byteAt_append_left (by omega)]
    exact hformat
  have hlisted : ∃ behind, descriptors (header ++ (Descriptor.join before ++
      ((Descriptor.ataStatus r extended).bytes ++ rest))) =
        before ++ Descriptor.ataStatus r extended :: behind := by
    rw [descriptors, descriptorArea_eq, Bytes.byteAt_append_left (by omega),
      List.drop_left' hheader, List.take_append, List.take_of_length_le (by omega),
      List.take_append, List.take_of_length_le (by omega),
      Descriptor.split_join_append fun d hd => (hbefore d hd).1,
      Descriptor.split_bytes_append Descriptor.wellFormed_ataStatus]
    exact ⟨_, rfl⟩
  have hskipped : before.find? (·.isAtaStatus) = none := by
    refine List.find?_eq_none.2 fun d hd h => ?_
    obtain ⟨hcode, hlong⟩ := Descriptor.isAtaStatus_iff.1 h
    exact absurd ((hbefore d hd).2 hcode) (Nat.not_lt.2 hlong)
  obtain ⟨behind, hlisted⟩ := hlisted
  rw [parseAtaStatusReturn?_eq hfirst, hlisted, List.find?_append, hskipped, Option.none_or,
    List.find?_cons_of_pos Descriptor.isAtaStatus_ataStatus, Option.map_some,
    Descriptor.ataRegisters_ataStatus]

/-- Registers that are written as sense data are read back from them. -/
theorem ataRegisters?_ataStatusReturn :
    (ataStatusReturn r extended).ataRegisters? = some (if extended then r else r.narrow) := by
  let key : SenseKey := if r.isError then .abortedCommand else .recoveredError
  have hvalid : (ataStatusReturn r extended).valid =
      [0x72, key.code, 0x00, 0x1D, 0, 0, 0, 14] ++ Descriptor.join [] ++
        (Descriptor.ataStatus r extended).bytes ++ [] := by
    rw [Descriptor.bytes_ataStatus, ataStatusReturn, SenseBuffer.ofBytes, SenseBuffer.valid_set]
    rfl
  have hformat : (0x72 : UInt8) &&& 0x7F = 0x72 := by decide
  rw [SenseBuffer.ataRegisters?, hvalid]
  exact parse_behind rfl (.inl hformat) (fun d hd => nomatch hd) (Nat.le_refl 14)

/-- There are no registers exactly when no ATA status descriptor stands in the sense data. -/
theorem parseAtaStatusReturn?_eq_none_iff (h : IsDescriptorFormat b) :
    parseAtaStatusReturn? b = none ↔
      ∀ d : Descriptor, d.StandsIn b → ¬ (d.code = 0x09 ∧ 14 ≤ d.bytes.length) := by
  rw [parseAtaStatusReturn?_eq h, Option.map_eq_none_iff, List.find?_eq_none]
  exact forall_congr' fun d => by rw [mem_descriptors_iff, Descriptor.isAtaStatus_iff]

/-- **Registers are found in sense data wherever they stand.** Written as an ATA status descriptor,
registers are read back from any sense data of descriptor format in which other descriptors stand
before them and anything behind, if the declared length reaches so far; those of 28-bit addressing
without their upper bytes. There are no registers exactly when no descriptor of code 09h with 14
bytes or more stands inside the declared length. -/
theorem registers_in_descriptors :
    (∀ (r : Ata.Registers) (extended : Bool) (header : Bytes) (before : List Descriptor)
      (rest : Bytes), header.length = 8 → IsDescriptorFormat header →
      (∀ d ∈ before, d.WellFormed ∧ (d.code = 0x09 → d.bytes.length < 14)) →
      (Descriptor.join before).length + 14 ≤ (header.byteAt 7).toNat →
      parseAtaStatusReturn? (header ++ Descriptor.join before ++
        (Descriptor.ataStatus r extended).bytes ++ rest) =
          some (if extended then r else r.narrow)) ∧
    ∀ b, IsDescriptorFormat b → (parseAtaStatusReturn? b = none ↔
      ∀ d : Descriptor, d.StandsIn b → ¬ (d.code = 0x09 ∧ 14 ≤ d.bytes.length)) :=
  ⟨fun _ _ _ _ _ hheader hformat hbefore hroom => parse_behind hheader hformat hbefore hroom,
    fun _ h => parseAtaStatusReturn?_eq_none_iff h⟩

/-- An information descriptor, and one of code 09h that is too short for registers. -/
def otherDescriptors : List Descriptor :=
  [⟨0x00, [0x00, 0x0A, 0x80, 0, 0, 0, 0, 0, 0, 0, 0x12, 0x34]⟩, ⟨0x09, [0x09, 0x02, 0x01, 0x04]⟩]

/-- The result of a 48-bit read. -/
def wideResult : Ata.Registers where
  status := 0x50
  error := 0x00
  device := 0xE0
  lbaLow := 0x11
  lbaMid := 0x22
  lbaHigh := 0x33
  lbaLowExt := 0x44
  lbaMidExt := 0x55
  lbaHighExt := 0x66
  count := 0x08
  countExt := 0x01

/-- The registers are found behind both, with another descriptor behind them. A descriptor that the
declared length cuts off by one byte is not found. -/
theorem registers_in_descriptors_cutOff :
    let header : Bytes := [0x73, 0x01, 0x00, 0x1D, 0, 0, 0, 34]
    let cutOff : Bytes := [0x72, 0x01, 0x00, 0x1D, 0, 0, 0, 13] ++
      (Descriptor.ataStatus wideResult true).bytes
    (header.length = 8 ∧ IsDescriptorFormat header ∧
      (∀ d ∈ otherDescriptors, d.WellFormed ∧ (d.code = 0x09 → d.bytes.length < 14)) ∧
      (Descriptor.join otherDescriptors).length + 14 ≤ (header.byteAt 7).toNat ∧
      IsDescriptorFormat cutOff) ∧
    parseAtaStatusReturn? (header ++ Descriptor.join otherDescriptors ++
      (Descriptor.ataStatus wideResult true).bytes ++ [0x02, 0x02, 0, 0]) = some wideResult ∧
    ∀ d : Descriptor, d.StandsIn cutOff → ¬ (d.code = 0x09 ∧ 14 ≤ d.bytes.length) := by
  intro header cutOff
  have hheader : IsDescriptorFormat header := .inr (by decide)
  have hcutOff : IsDescriptorFormat cutOff := .inl (by decide)
  have hothers : ∀ d ∈ otherDescriptors, d.WellFormed ∧ (d.code = 0x09 → d.bytes.length < 14) := by
    refine List.forall_mem_cons.2 ⟨?_, List.forall_mem_singleton.2 ?_⟩
    · exact ⟨⟨[0x80, 0, 0, 0, 0, 0, 0, 0, 0x12, 0x34], by decide, rfl⟩, fun h => nomatch h⟩
    · exact ⟨⟨[0x01, 0x04], by decide, rfl⟩, fun _ => by decide⟩
  have hroom : (Descriptor.join otherDescriptors).length + 14 ≤ (header.byteAt 7).toNat := by decide
  have hnone : parseAtaStatusReturn? cutOff = none := by decide +kernel
  exact ⟨⟨rfl, hheader, hothers, hroom, hcutOff⟩,
    registers_in_descriptors.1 wideResult true header otherDescriptors _ rfl hheader hothers hroom,
    (registers_in_descriptors.2 cutOff hcutOff).1 hnone⟩

end DriveReach.Scsi
