import DriveReach.Ata.Registers
import DriveReach.Proofs.Ata.Carriers
/-!
# Registers of a status frame

A status frame is known by its type byte, 34h or 5Fh (`StatusFrame.parse_toList`). Both kinds have
error, device, LBA and count at the same places; the status stands in byte 2 of the one and in byte
15 of the other (`StatusFrame.reports_registers`).
-/

set_option autoImplicit false

namespace DriveReach

namespace Bytes

theorem ofLE_lt (b : Bytes) : ofLE b < Nat.pow 256 b.length := by
  induction b with
  | nil => exact Nat.one_pos
  | cons x b ih =>
    have hx := x.toNat_lt
    have hpow : Nat.pow 256 (x :: b).length = 256 * Nat.pow 256 b.length := Nat.mul_comm ..
    rw [ofLE, hpow]
    omega

end Bytes

namespace Ata

variable {n : Nat} {v : Vector UInt8 20}

/-! ## Kinds -/

theorem FrameKind.ofCode?_eq_some_iff {kind : FrameKind} {code : UInt8} :
    ofCode? code = some kind ↔ code = kind.code := by
  constructor
  · intro h
    have hfound := List.find?_some h
    exact (beq_iff_eq.1 hfound).symm
  · rintro rfl
    cases kind <;> rfl

theorem FrameKind.cut_toList {kind : FrameKind} {v : Vector UInt8 n}
    (h : Bytes.byteAt v.toList 0 = kind.code) : kind.cut n v.toList = .ok v := by
  rw [cut, if_neg (by rw [Vector.length_toList]; exact Nat.lt_irrefl n), if_neg (not_not_intro h),
    Bytes.fixed_toList]

/-- The type byte alone decides which frame it is. -/
theorem StatusFrame.parse_toList (v : Vector UInt8 20) : parse v.toList =
    if Bytes.nth v 0 = 0x34 then .ok (.register ⟨v⟩)
    else if Bytes.nth v 0 = 0x5F then .ok (.pioSetup ⟨v⟩)
    else .error (.unexpectedKind (Bytes.nth v 0)) := by
  have hlength : ¬ v.toList.length < registerFrameLength := by
    rw [Vector.length_toList]
    exact Nat.lt_irrefl 20
  have hkind : Bytes.byteAt v.toList 0 = Bytes.nth v 0 := by
    rw [Bytes.byteAt_toList (by decide), Bytes.nth_of_lt (by decide)]
  rw [parse, if_neg hlength, hkind]
  by_cases hregister : Bytes.nth v 0 = 0x34
  · have hcode : FrameKind.ofCode? (Bytes.nth v 0) = some .registerDeviceToHost :=
      FrameKind.ofCode?_eq_some_iff.2 hregister
    have hcut : FrameKind.registerDeviceToHost.cut 20 v.toList = .ok v :=
      FrameKind.cut_toList (hkind.trans hregister)
    rw [if_pos hregister, hcode]
    dsimp only
    rw [DeviceFrame.parse, hcut]
    rfl
  by_cases hsetup : Bytes.nth v 0 = 0x5F
  · have hcode : FrameKind.ofCode? (Bytes.nth v 0) = some .pioSetup :=
      FrameKind.ofCode?_eq_some_iff.2 hsetup
    have hcut : FrameKind.pioSetup.cut 20 v.toList = .ok v :=
      FrameKind.cut_toList (hkind.trans hsetup)
    rw [if_neg hregister, if_pos hsetup, hcode]
    dsimp only
    rw [PioSetupFrame.parse, hcut]
    rfl
  rw [if_neg hregister, if_neg hsetup]
  split
  · rename_i h
    exact absurd (FrameKind.ofCode?_eq_some_iff.1 h) hregister
  · rename_i h
    exact absurd (FrameKind.ofCode?_eq_some_iff.1 h) hsetup
  · rfl

/-! ## Registers -/

theorem Registers.lba_ofParts (status error device : UInt8) (lba : UInt64) (count : UInt16) :
    (ofParts status error device lba count).lba = lba % 0x1000000000000 :=
  Bytes.ofLE_octets48 lba

theorem Registers.sectorCount_ofParts (status error device : UInt8) (lba : UInt64)
    (count : UInt16) : (ofParts status error device lba count).sectorCount = count :=
  Bytes.ofLE_octets16 count

theorem toNat_lbaOf (v : Vector UInt8 20) : (lbaOf v).toNat = Bytes.numberAt v lbaPlaces := by
  have hlt : Bytes.numberAt v lbaPlaces < Nat.pow 256 6 := Bytes.ofLE_lt _
  rw [lbaOf, UInt64.toNat_ofNat']
  exact Nat.mod_eq_of_lt (Nat.lt_trans hlt (by decide))

theorem toNat_countOf (v : Vector UInt8 20) : (countOf v).toNat = Bytes.numberAt v countPlaces := by
  have hlt : Bytes.numberAt v countPlaces < Nat.pow 256 2 := Bytes.ofLE_lt _
  rw [countOf, UInt16.toNat_ofNat']
  exact Nat.mod_eq_of_lt hlt

/-- The registers are those that a status frame reports, with the status of its kind. -/
structure Reports (v : Vector UInt8 20) (r : Registers) : Prop where
  status : r.status = if Bytes.nth v 0 = 0x34 then Bytes.nth v 2 else Bytes.nth v 15
  error : r.error = Bytes.nth v 3
  device : r.device = Bytes.nth v 7
  lba : r.lba.toNat = Bytes.ofLE [Bytes.nth v 4, Bytes.nth v 5, Bytes.nth v 6, Bytes.nth v 8,
    Bytes.nth v 9, Bytes.nth v 10]
  sectorCount : r.sectorCount.toNat = Bytes.ofLE [Bytes.nth v 12, Bytes.nth v 13]

theorem reports_ofParts {status : UInt8}
    (h : status = if Bytes.nth v 0 = 0x34 then Bytes.nth v 2 else Bytes.nth v 15) :
    Reports v (.ofParts status (Bytes.nth v 3) (Bytes.nth v 7) (lbaOf v) (countOf v)) where
  status := h
  error := rfl
  device := rfl
  lba := by
    have hlt : Bytes.numberAt v lbaPlaces < Nat.pow 256 6 := Bytes.ofLE_lt _
    rw [Registers.lba_ofParts, UInt64.toNat_mod, toNat_lbaOf]
    exact Nat.mod_eq_of_lt hlt
  sectorCount := by rw [Registers.sectorCount_ofParts, toNat_countOf]; rfl

/-- A frame of either kind reports its registers. -/
theorem StatusFrame.reports_registers {frame : StatusFrame} (h : parse v.toList = .ok frame) :
    (Bytes.nth v 0 = 0x34 ∨ Bytes.nth v 0 = 0x5F) ∧ Reports v frame.registers := by
  rw [parse_toList] at h
  split at h
  · rename_i hkind
    cases h
    exact ⟨.inl hkind, reports_ofParts (if_pos hkind).symm⟩
  · rename_i hother
    split at h
    · rename_i hkind
      cases h
      exact ⟨.inr hkind, reports_ofParts (if_neg hother).symm⟩
    · cases h

end Ata

end DriveReach
