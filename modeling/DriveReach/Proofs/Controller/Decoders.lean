import DriveReach.Controller.Basic
import DriveReach.Csmi.Ssp
import DriveReach.Csmi.Stp
import DriveReach.Proofs.Bytes
/-!
# Decoders keep to their buffer

A byte past the end of a buffer reads as zero here, so that a decoder which reads one would not be
noticed. It is when the buffer goes on: `ReadsWithin` says of a decoder that it reads a value from
every buffer that is long enough, and that what stands behind the buffer makes no difference.

* `readsWithin_of_require`: what has to be shown of a decoder that checks the length first.
* One statement for each decoder of a controller's answers, at the length of its structure, and for
  the two status blocks of commands that are passed on.
-/

set_option autoImplicit false

namespace DriveReach.Csmi

variable {α : Type} {n : Nat}

/-- From every buffer of at least `n` bytes the decoder reads a value, and reads none behind it. -/
def ReadsWithin (n : Nat) (decode : Bytes → Except Fault α) : Prop :=
  ∀ b, n ≤ b.length → ∃ v, ∀ beyond, decode (b ++ beyond) = .ok v

-- a layout's size is the number that it stands for wherever a length is compared with it
attribute [local simp] Layout.size

theorem Layout.size_pos (layout : Layout) : 0 < layout.size := by cases layout <;> simp

theorem Layout.require_eq_ok {layout : Layout} {b : Bytes} (h : layout.size ≤ b.length) :
    layout.require b = .ok () := if_neg (Nat.not_lt.2 h)

theorem Layout.require_eq_error {layout : Layout} {b : Bytes} (h : b.length < layout.size) :
    layout.require b = .error (.truncated layout layout.size b.length) := if_pos h

/-- What was decoded after a check of the length. -/
theorem eq_of_require {layout : Layout} {b : Bytes} {v w : α}
    (h : (do layout.require b; return v : Except Fault α) = .ok w) :
    layout.size ≤ b.length ∧ v = w := by
  rcases Nat.lt_or_ge b.length layout.size with hb | hb
  · rw [Layout.require_eq_error hb] at h
    cases h
  · rw [Layout.require_eq_ok hb] at h
    exact ⟨hb, Except.ok.inj h⟩

/-- A decoder that is given the front of a buffer keeps to the buffer. -/
theorem ReadsWithin.take {m : Nat} {decode : Bytes → Except Fault α} (h : ReadsWithin n decode)
    (hm : n ≤ m) : ReadsWithin m fun b => decode (b.take n) := by
  intro b hb
  have hfront : n ≤ (b.take n).length := by
    rw [List.length_take]
    omega
  obtain ⟨v, hv⟩ := h (b.take n) hfront
  refine ⟨v, fun beyond => ?_⟩
  dsimp only
  rw [List.take_append_of_le_length (Nat.le_trans hm hb), ← hv [], List.append_nil]

theorem readsWithin_of_require {layout : Layout} {f : Bytes → α} (hn : layout.size ≤ n)
    (hf : ∀ b beyond, n ≤ b.length → f (b ++ beyond) = f b) :
    ReadsWithin n fun b => do
      layout.require b
      return f b := by
  intro b hb
  refine ⟨f b, fun beyond => ?_⟩
  have hlong : layout.size ≤ (b ++ beyond).length := by
    rw [List.length_append]
    exact Nat.le_add_right_of_le (Nat.le_trans hn hb)
  dsimp only
  rw [Layout.require_eq_ok hlong, ← hf b beyond hb]
  rfl

/-! ## Structures of fixed length -/

theorem readsWithin_driverInfo : ReadsWithin Layout.driverInfo.size DriverInfo.decode := by
  refine readsWithin_of_require (Nat.le_refl _) fun b beyond h => ?_
  rw [Layout.size] at h
  simp (disch := omega) only [Version.read, nameWidth, Bytes.slice_append_left,
    Bytes.le16_append_left]

theorem readsWithin_controllerConfig :
    ReadsWithin Layout.controllerConfig.size ControllerConfig.decode := by
  refine readsWithin_of_require (Nat.le_refl _) fun b beyond h => ?_
  rw [Layout.size] at h
  simp (disch := omega) only [Version.read, nameWidth, Bytes.byteAt_append_left,
    Bytes.slice_append_left, Bytes.le16_append_left, Bytes.le32_append_left, Bytes.le64_append_left]

theorem readsWithin_controllerStatus :
    ReadsWithin Layout.controllerStatus.size ControllerStatus.decode := by
  refine readsWithin_of_require (Nat.le_refl _) fun b beyond h => ?_
  rw [Layout.size] at h
  simp (disch := omega) only [Bytes.le32_append_left]

theorem readsWithin_firmwareDownload :
    ReadsWithin Layout.firmwareDownload.size FirmwareReport.decode := by
  refine readsWithin_of_require (Nat.le_refl _) fun b beyond h => ?_
  rw [Layout.size] at h
  simp (disch := omega) only [Bytes.le16_append_left]

theorem readsWithin_raidInfo : ReadsWithin Layout.raidInfo.size RaidInfo.decode := by
  refine readsWithin_of_require (Nat.le_refl _) fun b beyond h => ?_
  rw [Layout.size] at h
  simp (disch := omega) only [Bytes.byteAt_append_left, Bytes.le32_append_left,
    Bytes.le64_append_left]

theorem readsWithin_raidFeatures : ReadsWithin Layout.raidFeatures.size RaidFeatures.decode := by
  refine readsWithin_of_require (Nat.le_refl _) fun b beyond h => ?_
  rw [Layout.size] at h
  have hchunks : Bytes.chunks RaidFeatures.typeLength RaidFeatures.typeSlots
      ((b ++ beyond).drop RaidFeatures.typesOffset) =
        Bytes.chunks RaidFeatures.typeLength RaidFeatures.typeSlots
          (b.drop RaidFeatures.typesOffset) := by
    rw [RaidFeatures.typeLength, RaidFeatures.typeSlots, RaidFeatures.typesOffset,
      List.drop_append_of_le_length (by omega), Bytes.chunks_append_left]
    rw [List.length_drop]
    omega
  simp (disch := omega) only [hchunks, Bytes.byteAt_append_left, Bytes.le32_append_left]

theorem readsWithin_phyInfo : ReadsWithin Layout.phyInfo.size PhyTable.decode := by
  refine readsWithin_of_require (Nat.le_refl _) fun b beyond h => ?_
  rw [Layout.size] at h
  have hchunks : Bytes.chunks Phy.length (min (b.byteAt 0).toNat PhyTable.slots)
      ((b ++ beyond).drop 4) =
        Bytes.chunks Phy.length (min (b.byteAt 0).toNat PhyTable.slots) (b.drop 4) := by
    rw [Phy.length, PhyTable.slots, List.drop_append_of_le_length (by omega),
      Bytes.chunks_append_left]
    rw [List.length_drop]
    omega
  simp (disch := omega) only [Bytes.byteAt_append_left, hchunks]

theorem readsWithin_linkErrors : ReadsWithin Layout.linkErrors.size LinkErrors.decode := by
  refine readsWithin_of_require (Nat.le_refl _) fun b beyond h => ?_
  rw [Layout.size] at h
  simp (disch := omega) only [Bytes.byteAt_append_left, Bytes.le32_append_left]

theorem readsWithin_sataSignature : ReadsWithin Layout.sataSignature.size SataSignature.decode := by
  refine readsWithin_of_require (Nat.le_refl _) fun b beyond h => ?_
  rw [Layout.size] at h
  simp (disch := omega) only [Bytes.byteAt_append_left, Bytes.fixed_append_left]

theorem readsWithin_scsiAddress : ReadsWithin Layout.scsiAddress.size ScsiAddress.decode := by
  refine readsWithin_of_require (Nat.le_refl _) fun b beyond h => ?_
  rw [Layout.size] at h
  simp (disch := omega) only [Bytes.byteAt_append_left]

theorem readsWithin_deviceAddress : ReadsWithin Layout.deviceAddress.size SasLocation.decode := by
  refine readsWithin_of_require (Nat.le_refl _) fun b beyond h => ?_
  rw [Layout.size] at h
  simp (disch := omega) only [SasAddress.read, Bytes.fixed_append_left]

theorem readsWithin_connectorInfo :
    ReadsWithin Layout.connectorInfo.size Connector.decodeTable := by
  refine readsWithin_of_require (Nat.le_refl _) fun b beyond h => ?_
  rw [Layout.size] at h
  have hchunks : Bytes.chunks Connector.length Connector.slots (b ++ beyond) =
      Bytes.chunks Connector.length Connector.slots b := by
    rw [Connector.length, Connector.slots, Bytes.chunks_append_left (by omega)]
  rw [hchunks]

/-! ## Status blocks -/

/-- The status block is read from its own bytes, whatever the lengths in it say. -/
theorem readsWithin_sspStatus : ReadsWithin Layout.sspStatus.size SspStatus.decode := by
  refine readsWithin_of_require (Nat.le_refl _) fun b beyond h => ?_
  rw [Layout.size] at h
  have hresponse : 8 + min (b.be16 6).toNat SspStatus.responseWidth ≤ b.length := by
    unfold SspStatus.responseWidth
    omega
  rw [Bytes.be16_append_left (by omega), Bytes.slice_append_left hresponse]
  simp (disch := omega) only [Bytes.byteAt_append_left, Bytes.le32_append_left]

theorem readsWithin_stpStatus : ReadsWithin Layout.stpStatus.size StpStatus.decode := by
  refine readsWithin_of_require (Nat.le_refl _) fun b beyond h => ?_
  rw [Layout.size] at h
  simp (disch := omega) only [Bytes.byteAt_append_left, Bytes.fixed_append_left,
    Bytes.le32_append_left]

/-! ## RAID sets -/

/-- The drives of a set are those that came back, whatever the driver counts. -/
theorem readsWithin_raidConfig {returned capacity : Nat} (hn : Layout.raidConfig.size ≤ n)
    (hr : returned ≤ n) : ReadsWithin n fun b => RaidConfig.decode b returned capacity := by
  refine readsWithin_of_require hn fun b beyond h => ?_
  rw [Layout.size] at hn
  have hcount : RaidConfig.driveCount (b ++ beyond) returned capacity =
      RaidConfig.driveCount b returned capacity := by
    have hlong : returned ≤ (b ++ beyond).length := by
      rw [List.length_append]
      omega
    rw [RaidConfig.driveCount, RaidConfig.driveCount, Bytes.byteAt_append_left (by omega),
      Nat.min_eq_left hlong, Nat.min_eq_left (Nat.le_trans hr h)]
  have hchunks : Bytes.chunks RaidDrive.length (RaidConfig.driveCount b returned capacity)
      ((b ++ beyond).drop Layout.raidConfig.size) =
        Bytes.chunks RaidDrive.length (RaidConfig.driveCount b returned capacity)
          (b.drop Layout.raidConfig.size) := by
    rw [List.drop_append_of_le_length (by rw [Layout.size]; omega), Bytes.chunks_append_left]
    rw [RaidConfig.driveCount, RaidDrive.length, List.length_drop, Layout.size]
    omega
  simp (disch := omega) only [hcount, hchunks, Bytes.byteAt_append_left, Bytes.le32_append_left]

end DriveReach.Csmi
