import DriveReach.Proofs.Bytes
import DriveReach.Scsi.Sense
/-!
# Descriptors one behind the other

A descriptor says its own length, so a run of them is taken apart again without knowing where each
ends. `Descriptor.split` takes from the front of a byte string all that are there whole
(`Descriptor.split_join_append`, `Descriptor.exists_rest`).

Sense data hold a descriptor (`Descriptor.StandsIn`) when others lead up to it from byte 8 and it
ends inside the length that byte 7 declares. These are the descriptors that are listed
(`mem_descriptors_iff`).
-/

set_option autoImplicit false

namespace DriveReach.Scsi

namespace Descriptor

/-- The bytes are the code, a length byte, and as many bytes as that says. -/
def WellFormed (d : Descriptor) : Prop :=
  ∃ content : Bytes, content.length < 256 ∧
    d.bytes = d.code :: UInt8.ofNat content.length :: content

/-- The bytes of descriptors, one behind the other. -/
def join (ds : List Descriptor) : Bytes := ds.flatMap (·.bytes)

variable {d : Descriptor} {ds : List Descriptor} {b rest : Bytes}

@[simp] theorem join_cons : join (d :: ds) = d.bytes ++ join ds := rfl

theorem join_append {es : List Descriptor} : join (ds ++ es) = join ds ++ join es :=
  List.flatMap_append

theorem split_nil : split [] = [] := by simp [split]

/-- A descriptor in front is taken off whole. -/
theorem split_bytes_append (h : d.WellFormed) : split (d.bytes ++ rest) = d :: split rest := by
  obtain ⟨code, bytes⟩ := d
  obtain ⟨content, hlt, hbytes⟩ := h
  obtain rfl : bytes = code :: UInt8.ofNat content.length :: content := hbytes
  have hlength : (UInt8.ofNat content.length).toNat = content.length :=
    UInt8.toNat_ofNat_of_lt' hlt
  have hroom : (UInt8.ofNat content.length).toNat ≤ (content ++ rest).length := by
    rw [hlength, List.length_append]
    exact Nat.le_add_right _ _
  rw [List.cons_append, List.cons_append, split, if_pos hroom, hlength, List.take_left,
    List.drop_left]

/-- Descriptors in front are taken off one by one, whatever stands behind them. -/
theorem split_join_append (h : ∀ d ∈ ds, d.WellFormed) :
    split (join ds ++ rest) = ds ++ split rest := by
  induction ds with
  | nil => rfl
  | cons d ds ih =>
    obtain ⟨hd, hds⟩ := List.forall_mem_cons.1 h
    rw [join_cons, List.append_assoc, split_bytes_append hd, ih hds, List.cons_append]

/-- What is taken off is well-formed, and together with a rest it is the byte string. -/
theorem exists_rest (b : Bytes) :
    (∀ d ∈ split b, d.WellFormed) ∧ ∃ rest, b = join (split b) ++ rest := by
  fun_induction split b with
  | case1 code length rest hroom ih =>
    obtain ⟨hds, behind, hbehind⟩ := ih
    have hlength : (rest.take length.toNat).length = length.toNat := List.length_take_of_le hroom
    refine ⟨List.forall_mem_cons.2 ⟨⟨rest.take length.toNat, ?_, ?_⟩, hds⟩, behind, ?_⟩
    · rw [hlength]
      exact length.toNat_lt
    · rw [hlength, UInt8.ofNat_toNat]
    · rw [join_cons, List.append_assoc, ← hbehind, List.cons_append, List.cons_append,
        List.take_append_drop]
  | case2 code length rest hroom => exact ⟨by simp, _, rfl⟩
  | case3 b hb => exact ⟨by simp, _, rfl⟩

/-- The sense data hold the descriptor whole: well-formed descriptors lead up to it from byte 8, and
it ends inside the length that byte 7 declares. -/
def StandsIn (d : Descriptor) (b : Bytes) : Prop :=
  d.WellFormed ∧ ∃ before rest, (∀ e ∈ before, e.WellFormed) ∧
    (b.drop 8).take (b.byteAt 7).toNat = join before ++ d.bytes ++ rest

end Descriptor

variable {b : Bytes}

/-- The descriptors stand behind the header, in as many bytes as byte 7 declares. -/
theorem descriptorArea_eq : descriptorArea b = (b.drop 8).take (b.byteAt 7).toNat := by
  unfold descriptorArea DescriptorHeader.parse? DescriptorHeader.length
  by_cases h : b.length < 8
  · rw [if_pos h, List.drop_eq_nil_of_le (Nat.le_of_lt h), List.take_nil]
  · rw [if_neg h]
    dsimp only
    rw [List.drop_take, Nat.add_sub_cancel_left]

/-- The descriptors that are listed are those that the sense data hold. -/
theorem mem_descriptors_iff {d : Descriptor} : d ∈ descriptors b ↔ d.StandsIn b := by
  rw [descriptors, descriptorArea_eq, Descriptor.StandsIn]
  generalize (b.drop 8).take (b.byteAt 7).toNat = area
  constructor
  · intro hd
    obtain ⟨hds, rest, harea⟩ := Descriptor.exists_rest area
    obtain ⟨before, behind, hsplit⟩ := List.append_of_mem hd
    refine ⟨hds d hd, before, Descriptor.join behind ++ rest, fun e he => hds e ?_, ?_⟩
    · rw [hsplit]
      exact List.mem_append_left _ he
    · rw [hsplit, Descriptor.join_append, Descriptor.join_cons] at harea
      rw [harea, List.append_assoc, List.append_assoc, List.append_assoc]
  · rintro ⟨hd, before, rest, hbefore, rfl⟩
    rw [List.append_assoc, Descriptor.split_join_append hbefore, Descriptor.split_bytes_append hd]
    exact List.mem_append_right _ List.mem_cons_self

end DriveReach.Scsi
