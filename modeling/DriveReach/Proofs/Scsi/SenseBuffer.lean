import DriveReach.Proofs.Bytes
import DriveReach.Scsi.SenseBuffer
/-!
# Sense buffers

A sense buffer that is filled holds at most 252 bytes, with zeros behind them
(`SenseBuffer.toList_set`, `SenseBuffer.valid_set`). `SenseBuffer.Tidy` says so of any buffer.

* `SenseBuffer.Edit.apply_eq`: an edit leaves nothing of what was there.
* `SenseBuffer.edits_forget`: so that of any number of edits only the last one counts.
-/

set_option autoImplicit false

namespace DriveReach.Scsi.SenseBuffer

variable {s t : SenseBuffer} {data : Bytes}

/-- The storage of a sense buffer has zeros behind the valid bytes. -/
structure Tidy (s : SenseBuffer) : Prop where
  size : s.size = s.valid.length
  storage : s.raw.toList = s.valid ++ Bytes.zeros (maxSenseLength - s.valid.length)

theorem toList_set : (s.set data).raw.toList = data.take maxSenseLength ++
    Bytes.zeros (maxSenseLength - (data.take maxSenseLength).length) := by
  have hlen : (data.take maxSenseLength).length ≤ maxSenseLength := List.length_take_le ..
  rw [set, Bytes.toList_fixed (by rw [Bytes.length_put, Vector.length_toList]), clear, empty,
    Vector.toList_replicate]
  exact Bytes.put_zeros_zero hlen

theorem valid_set : (s.set data).valid = data.take maxSenseLength := by
  have hsize : (s.set data).size = (data.take maxSenseLength).length := rfl
  rw [valid, toList_set, hsize, List.take_left']
  rfl

theorem tidy_set : (s.set data).Tidy where
  size := by rw [valid_set]; rfl
  storage := by rw [toList_set, valid_set]

theorem valid_empty : empty.valid = [] := List.take_zero

theorem tidy_empty : empty.Tidy where
  size := by rw [valid_empty]; rfl
  storage := by rw [valid_empty, empty, Vector.toList_replicate]; rfl

/-- A tidy buffer is known by its valid bytes. -/
theorem Tidy.eq_of_valid (hs : s.Tidy) (ht : t.Tidy) (h : s.valid = t.valid) : s = t := by
  have hraw : s.raw = t.raw := by rw [← Vector.toList_inj, hs.storage, ht.storage, h]
  have hsize : s.size = t.size := by rw [hs.size, ht.size, h]
  cases s
  cases t
  cases hraw
  cases hsize
  rfl

theorem Tidy.drop_size (hs : s.Tidy) :
    s.raw.toList.drop s.size = Bytes.zeros (maxSenseLength - s.size) := by
  rw [hs.storage, hs.size, List.drop_left]

theorem raw_set : (s.set data).raw = data.fixed 252 0 := by
  rw [← Bytes.fixed_toList (s.set data).raw, toList_set]
  refine Bytes.fixed_congr fun i _ hi => ?_
  have hkept : i < maxSenseLength := by rwa [Nat.zero_add] at hi
  rw [Bytes.byteAt_append_zeros, Bytes.byteAt_take hkept]

/-! ## Edits one after the other -/

/-- What is done to a sense buffer. -/
inductive Edit where
  | set (data : Bytes)
  | clear

namespace Edit

def apply (s : SenseBuffer) : Edit → SenseBuffer
  | set data => s.set data
  | clear => s.clear

/-- The sense data that the edit brings. -/
def brings : Edit → Bytes
  | set data => data
  | clear => []

/-- An edit leaves nothing of what was there. -/
theorem apply_eq (edit : Edit) (s : SenseBuffer) : edit.apply s = ofBytes edit.brings := by
  cases edit with
  | set data => rfl
  | clear => exact tidy_empty.eq_of_valid tidy_set (valid_empty.trans (Eq.symm valid_set))

end Edit

/-- The buffer after edits that are made one after the other. -/
def editAll (s : SenseBuffer) (edits : List Edit) : SenseBuffer := edits.foldl Edit.apply s

/-- The sense data of the last edit. -/
def lastBrought (edits : List Edit) : Bytes := (edits.map Edit.brings).getLastD []

theorem editAll_append (s : SenseBuffer) (edits : List Edit) (edit : Edit) :
    editAll s (edits ++ [edit]) = edit.apply empty := by
  rw [editAll, List.foldl_append, List.foldl_cons, List.foldl_nil, Edit.apply_eq, Edit.apply_eq]

theorem editAll_eq (edits : List Edit) : editAll empty edits = ofBytes (lastBrought edits) := by
  rcases List.eq_nil_or_concat edits with rfl | ⟨front, last, rfl⟩
  · exact Edit.apply_eq .clear empty
  · have hlast : lastBrought (front ++ [last]) = last.brings := by
      rw [lastBrought, List.map_append, List.map_singleton, List.getLastD_concat]
    rw [List.concat_eq_append, editAll_append, Edit.apply_eq, hlast]

/-- **Only the last edit of a sense buffer counts.** After edits of any number, kind and length, a
buffer that started empty holds at most 252 bytes with zeros behind them, and is the buffer that the
last edit alone makes of an empty one: the first 252 bytes of what that edit brought and nothing of
an earlier, longer one, in its storage as in what is read from it. A buffer that was used before is
no different once it is edited again. -/
theorem edits_forget (edits : List Edit) :
    (editAll empty edits).size ≤ 252 ∧
      (editAll empty edits).raw.toList.drop (editAll empty edits).size =
        Bytes.zeros (252 - (editAll empty edits).size) ∧
      editAll empty edits = editAll empty edits.getLast?.toList ∧
      (editAll empty edits).raw = (lastBrought edits).fixed 252 0 ∧
      (editAll empty edits).valid = (lastBrought edits).take 252 ∧
      (editAll empty edits).summary? = SenseSummary.parse? ((lastBrought edits).take 252) ∧
      (editAll empty edits).ataRegisters? = parseAtaStatusReturn? ((lastBrought edits).take 252) ∧
      ∀ (used : SenseBuffer) (edit : Edit), editAll used (edits ++ [edit]) = edit.apply empty := by
  have hlast : lastBrought edits.getLast?.toList = lastBrought edits := by
    rcases List.eq_nil_or_concat edits with rfl | ⟨front, last, rfl⟩ <;> simp [lastBrought]
  rw [editAll_eq, editAll_eq, hlast]
  exact ⟨List.length_take_le .., tidy_set.drop_size, rfl, raw_set, valid_set,
    congrArg SenseSummary.parse? valid_set, congrArg parseAtaStatusReturn? valid_set,
    fun used edit => editAll_append used edits edit⟩

end DriveReach.Scsi.SenseBuffer
