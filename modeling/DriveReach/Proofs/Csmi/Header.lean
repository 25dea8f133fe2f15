import DriveReach.Csmi.Header
import DriveReach.Proofs.Bytes
/-!
# Fields of a header

A header is written as fields that stand one behind the other (`HeaderLayout.write_eq`,
`HeaderLayout.ordered_fields`). The return code is in none of them, and it and the length may be set
again, in any order: what is read is what was set last.

* `HeaderLayout.write_append`: a header is written within its own bytes.
* `HeaderLayout.compact_write_zeros`: a compact header, byte for byte.
* `HeaderLayout.returnCode_edit`, `HeaderLayout.payloadLength_edit`, `HeaderLayout.byteAt_edit`: what
  one edit changes, and `HeaderLayout.edited_editAll`, what any number of them comes to.
-/

set_option autoImplicit false

namespace DriveReach.Csmi

/-! ## Writing -/

namespace HeaderLayout

variable {layout : HeaderLayout} {f : HeaderFields} {b : Bytes}

/-- What a header says, and where. -/
def fields (f : HeaderFields) : HeaderLayout → List Bytes.Field
  | srb => [(0, Bytes.toLE 4 28), (4, f.signature.bytes.toList), (12, timeoutField f.timeout),
      (16, Bytes.toLE 4 f.code.code.toNat), (24, Bytes.toLE 4 f.payloadLength.toNat)]
  | compact => [(0, Bytes.toLE 4 f.controller.toNat), (4, Bytes.toLE 4 f.payloadLength.toNat),
      (12, timeoutField f.timeout), (16, Bytes.toLE 2 f.direction.code.toNat)]

theorem write_eq (layout : HeaderLayout) (b : Bytes) (f : HeaderFields) :
    layout.write b f = b.putAll (layout.fields f) := by
  cases layout <;> rfl

theorem ordered_fields : Bytes.Ordered (layout.fields f) := by
  cases layout <;> simp [Bytes.Ordered, fields, timeoutField, Bytes.Field.stop]

/-- Every field stands within the header. -/
theorem stop_le {field : Bytes.Field} (h : field ∈ layout.fields f) : field.stop ≤ layout.length := by
  cases layout <;>
    simp only [fields, List.mem_cons, List.not_mem_nil, or_false] at h <;>
    rcases h with rfl | rfl | rfl | rfl | rfl <;>
    simp [Bytes.Field.stop, timeoutField, length]

@[simp] theorem length_write : (layout.write b f).length = b.length := by
  rw [write_eq, Bytes.length_putAll]

/-- A header is written within its own bytes. -/
theorem write_append {room : Bytes} (h : layout.length ≤ room.length) (f : HeaderFields)
    (beyond : Bytes) : layout.write (room ++ beyond) f = layout.write room f ++ beyond := by
  rw [write_eq, write_eq, Bytes.putAll_append_left fun _ hf => Nat.le_trans (stop_le hf) h]

/-- The length is read back. -/
theorem payloadLength_write (h : layout.length ≤ b.length) :
    layout.payloadLength (layout.write b f) = f.payloadLength := by
  have hmem : (layout.lengthOffset, Bytes.toLE 4 f.payloadLength.toNat) ∈ layout.fields f := by
    cases layout <;> simp [fields, lengthOffset]
  rw [payloadLength, write_eq]
  exact Bytes.le32_putAll_of_mem ordered_fields hmem (Nat.le_trans (stop_le hmem) h) rfl

/-- The return code is the driver's to write. -/
theorem returnCode_write : layout.returnCode (layout.write b f) = layout.returnCode b := by
  have hstays (i : Nat) (hi : layout.returnCodeOffset ≤ i) (hi' : i < layout.returnCodeOffset + 4) :
      (layout.write b f).byteAt i = b.byteAt i := by
    rw [write_eq]
    refine Bytes.byteAt_putAll_of_notCovered fun field hf => ?_
    cases layout <;>
      simp only [fields, List.mem_cons, List.not_mem_nil, or_false] at hf <;>
      rcases hf with rfl | rfl | rfl | rfl | rfl <;>
      simp only [Bytes.Field.Covers, Bytes.Field.stop, timeoutField, Bytes.length_toLE,
        Vector.length_toList, returnCodeOffset] at * <;> omega
  rw [returnCode, returnCode, Bytes.le32, Bytes.le32, Bytes.fixed_congr hstays]

/-- A compact header, with the return code and the last two bytes zero. -/
def compactBytes (controller length : UInt32) (seconds : Nat) (direction : CallDirection) : Bytes :=
  Bytes.toLE 4 controller.toNat ++ Bytes.toLE 4 length.toNat ++ Bytes.zeros 4 ++
    Bytes.toLE 4 seconds ++ Bytes.toLE 2 direction.code.toNat ++ Bytes.zeros 2

/-- Of all that a caller says, a compact header holds four things. -/
theorem compact_write_zeros (f : HeaderFields) : compact.write (Bytes.zeros 20) f =
    compactBytes f.controller f.payloadLength f.timeout.seconds f.direction := rfl

end HeaderLayout

/-! ## Edits -/

/-- A change that a driver makes to a header. -/
inductive HeaderEdit where
  | code (code : ReturnCode)
  | length (length : UInt32)
  deriving DecidableEq, Repr

namespace HeaderEdit

def code? : HeaderEdit → Option ReturnCode
  | code c => some c
  | length _ => none

def length? : HeaderEdit → Option UInt32
  | code _ => none
  | length n => some n

end HeaderEdit

namespace HeaderLayout

variable {layout : HeaderLayout} {b : Bytes} {e : HeaderEdit} {edits : List HeaderEdit} {i : Nat}

/-- A buffer after an edit of its header. -/
def edit (layout : HeaderLayout) (b : Bytes) : HeaderEdit → Bytes
  | .code c => layout.setReturnCode b c
  | .length n => layout.setPayloadLength b n

/-- A buffer after edits of its header, one after the other. -/
def editAll (layout : HeaderLayout) (b : Bytes) (edits : List HeaderEdit) : Bytes :=
  edits.foldl layout.edit b

/-- The byte at an offset belongs to the return code or to the length. -/
def Editable (layout : HeaderLayout) (i : Nat) : Prop :=
  layout.returnCodeOffset ≤ i ∧ i < layout.returnCodeOffset + 4 ∨
    layout.lengthOffset ≤ i ∧ i < layout.lengthOffset + 4

@[simp] theorem length_edit : (layout.edit b e).length = b.length := by
  cases e <;> exact Bytes.length_put ..

/-- The two fields that are edited lie apart. -/
theorem offsets_apart (layout : HeaderLayout) :
    layout.returnCodeOffset + 4 ≤ layout.lengthOffset ∨
      layout.lengthOffset + 4 ≤ layout.returnCodeOffset := by
  cases layout <;> decide

theorem offsets_le (layout : HeaderLayout) :
    layout.returnCodeOffset + 4 ≤ layout.length ∧ layout.lengthOffset + 4 ≤ layout.length := by
  cases layout <;> decide

theorem returnCode_edit (h : layout.length ≤ b.length) :
    layout.returnCode (layout.edit b e) = e.code?.getD (layout.returnCode b) := by
  have hroom := layout.offsets_le.1
  cases e with
  | code c =>
    rw [edit, setReturnCode, returnCode, Bytes.le32_put_self (by omega)]
    rfl
  | length n =>
    have hapart := layout.offsets_apart
    rw [edit, setPayloadLength, returnCode,
      Bytes.le32_put_of_disjoint (by rw [Bytes.length_toLE]; omega)]
    rfl

theorem payloadLength_edit (h : layout.length ≤ b.length) :
    layout.payloadLength (layout.edit b e) = e.length?.getD (layout.payloadLength b) := by
  have hroom := layout.offsets_le.2
  cases e with
  | code c =>
    have hapart := layout.offsets_apart
    rw [edit, setReturnCode, payloadLength,
      Bytes.le32_put_of_disjoint (by rw [Bytes.length_toLE]; omega)]
    rfl
  | length n =>
    rw [edit, setPayloadLength, payloadLength, Bytes.le32_put_self (by omega)]
    rfl

theorem byteAt_edit (h : ¬ layout.Editable i) : (layout.edit b e).byteAt i = b.byteAt i := by
  unfold Editable at h
  cases e <;>
    exact Bytes.byteAt_put_of_disjoint (by rw [Bytes.length_toLE]; omega)

/-- What edits make of a header: each of the two fields holds what it was last set to, and all else
is as it was. -/
structure Edited (layout : HeaderLayout) (b : Bytes) (edits : List HeaderEdit) (after : Bytes) :
    Prop where
  returnCode : layout.returnCode after =
    (edits.filterMap (·.code?)).getLastD (layout.returnCode b)
  payloadLength : layout.payloadLength after =
    (edits.filterMap (·.length?)).getLastD (layout.payloadLength b)
  size : after.length = b.length
  others (i : Nat) : ¬ layout.Editable i → after.byteAt i = b.byteAt i

theorem edited_editAll (h : layout.length ≤ b.length) (edits : List HeaderEdit) :
    layout.Edited b edits (layout.editAll b edits) := by
  induction edits generalizing b with
  | nil => exact ⟨rfl, rfl, rfl, fun _ _ => rfl⟩
  | cons e edits ih =>
    have hrest := ih (b := layout.edit b e) (by rwa [length_edit])
    exact {
      returnCode := by
        rw [Bytes.getLastD_filterMap_cons, ← returnCode_edit h]
        exact hrest.returnCode
      payloadLength := by
        rw [Bytes.getLastD_filterMap_cons, ← payloadLength_edit h]
        exact hrest.payloadLength
      size := hrest.size.trans length_edit
      others := fun i hi => (hrest.others i hi).trans (byteAt_edit hi) }

end HeaderLayout

end DriveReach.Csmi
