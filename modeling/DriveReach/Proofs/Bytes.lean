import DriveReach.Bytes
/-!
# Reading back what was written

A byte inside the written range is the one written (`byteAt_put_mem`); every other byte stays
(`byteAt_put_of_disjoint`). The same for strings of fixed length (`fixed_put_self`,
`fixed_put_of_disjoint`) and for numbers (`le32_put_self`, `le32_put_of_disjoint`), so that a
structure written field by field is read field by field.

A structure as a whole is a list of fields that stand one behind the other: each of them reads back
(`byteAt_putAll_of_mem`) and the bytes in none of them stay (`byteAt_putAll_of_notCovered`).
-/

set_option autoImplicit false

namespace DriveReach.Bytes

variable {b p : Bytes} {off i n : Nat}

/-! ## Bytes -/

theorem byteAt_put_mem (hi : off ≤ i) (hp : i < off + p.length) (hb : i < b.length) :
    (b.put off p).byteAt i = p.byteAt (i - off) := by
  have htake : (b.take off).length = off := by simp; omega
  have hlen : (p.take (b.length - off)).length = min (b.length - off) p.length := by simp
  simp only [byteAt, put, List.getD_eq_getElem?_getD]
  rw [List.getElem?_append_right (by omega), htake, List.getElem?_append_left (by omega),
    List.getElem?_take_of_lt (by omega)]

/-- Bytes outside the written range stay. -/
theorem byteAt_put_of_disjoint (h : i < off ∨ off + p.length ≤ i) :
    (b.put off p).byteAt i = b.byteAt i := by
  simp only [byteAt, put, List.getD_eq_getElem?_getD]
  by_cases hi : i < b.length
  · have htake : (b.take off).length = min off b.length := by simp
    have hlen : (p.take (b.length - off)).length = min (b.length - off) p.length := by simp
    rcases h with h | h
    · rw [List.getElem?_append_left (by omega), List.getElem?_take_of_lt (by omega)]
    · rw [List.getElem?_append_right (by omega), List.getElem?_append_right (by omega),
        List.getElem?_drop]
      congr 2
      omega
  · have hp := length_put b off p
    rw [put] at hp
    rw [List.getElem?_eq_none (by omega), List.getElem?_eq_none (by omega)]

theorem byteAt_append_left {a : Bytes} (h : i < a.length) : (a ++ b).byteAt i = a.byteAt i := by
  simp only [byteAt, List.getD_eq_getElem?_getD]
  rw [List.getElem?_append_left h]

theorem byteAt_drop {front : Nat} : byteAt (b.drop front) i = b.byteAt (front + i) := by
  simp only [byteAt, List.getD_eq_getElem?_getD, List.getElem?_drop]

theorem byteAt_take (h : i < n) : byteAt (b.take n) i = b.byteAt i := by
  simp only [byteAt, List.getD_eq_getElem?_getD]
  rw [List.getElem?_take_of_lt h]

theorem byteAt_of_length_le (h : b.length ≤ i) : b.byteAt i = 0 := by
  rw [byteAt, List.getD_eq_getElem?_getD, List.getElem?_eq_none h]
  rfl

theorem byteAt_zeros : (zeros n).byteAt i = 0 := by
  simp only [byteAt, zeros, List.getD_eq_getElem?_getD, List.getElem?_replicate]
  split <;> rfl

/-- Zeros behind a byte string read as nothing does. -/
theorem byteAt_append_zeros : (b ++ zeros n).byteAt i = b.byteAt i := by
  by_cases h : i < b.length
  · exact byteAt_append_left h
  · have hb : b.length ≤ i := Nat.le_of_not_lt h
    have hdrop :
        byteAt ((b ++ zeros n).drop b.length) (i - b.length) = (b ++ zeros n).byteAt i := by
      rw [byteAt_drop, Nat.add_sub_cancel' hb]
    rw [← hdrop, List.drop_left, byteAt_zeros, byteAt_of_length_le hb]

/-- Byte strings of one length with the same bytes are the same. -/
theorem ext_byteAt {c : Bytes} (hl : b.length = c.length)
    (h : ∀ i < b.length, b.byteAt i = c.byteAt i) : b = c := by
  refine List.ext_getElem hl fun i hb hc => ?_
  simpa [byteAt, List.getD_eq_getElem?_getD, hb, hc] using h i hb

/-- Writing over the front of a buffer that is long enough. -/
theorem put_zero (h : p.length ≤ b.length) : b.put 0 p = p ++ b.drop p.length := by
  rw [put, List.take_zero, List.nil_append, Nat.sub_zero, List.take_of_length_le h, Nat.zero_add]

theorem put_zeros_zero (h : p.length ≤ n) : (zeros n).put 0 p = p ++ zeros (n - p.length) := by
  rw [put_zero (by rwa [length_zeros]), zeros, List.drop_replicate]
  rfl

theorem byteAt_toList {v : Vector UInt8 n} (h : i < n) : byteAt v.toList i = v[i] := by
  simp [byteAt, List.getD_eq_getElem?_getD, List.getElem?_eq_getElem (l := v.toList) (i := i)
    (by simpa using h)]

theorem nth_of_lt {v : Vector UInt8 n} (h : i < n) : nth v i = v[i] := by
  rw [nth, Vector.getElem?_eq_getElem h, Option.getD_some]

/-! ## Strings of fixed length -/

theorem nth_fixed (h : i < n) : nth (b.fixed n off) i = b.byteAt (off + i) := by
  rw [nth_of_lt h, fixed, Vector.getElem_ofFn]

theorem fixed_put_self {v : Vector UInt8 n} (h : off + n ≤ b.length) :
    (b.put off v.toList).fixed n off = v := by
  apply Vector.ext
  intro i hi
  simp only [fixed, Vector.getElem_ofFn]
  rw [byteAt_put_mem (by omega) (by simp; omega) (by omega), byteAt_toList (by omega)]
  simp

theorem fixed_congr {c : Bytes} (h : ∀ i, off ≤ i → i < off + n → b.byteAt i = c.byteAt i) :
    b.fixed n off = c.fixed n off := by
  apply Vector.ext
  intro i hi
  simp only [fixed, Vector.getElem_ofFn]
  exact h _ (by omega) (by omega)

theorem fixed_put_of_disjoint {o : Nat} (h : off + n ≤ o ∨ o + p.length ≤ off) :
    (b.put o p).fixed n off = b.fixed n off :=
  fixed_congr fun _ _ _ => byteAt_put_of_disjoint (by omega)

theorem fixed_append_left {a : Bytes} (h : off + n ≤ a.length) :
    (a ++ b).fixed n off = a.fixed n off :=
  fixed_congr fun _ _ _ => byteAt_append_left (by omega)

theorem fixed_drop {front : Nat} : fixed n (b.drop front) off = b.fixed n (front + off) := by
  apply Vector.ext
  intro i hi
  simp only [fixed, Vector.getElem_ofFn, byteAt_drop, Nat.add_assoc]

theorem fixed_toList (v : Vector UInt8 n) : fixed n v.toList 0 = v := by
  apply Vector.ext
  intro i hi
  simp only [fixed, Vector.getElem_ofFn, Nat.zero_add]
  exact byteAt_toList hi

theorem toList_fixed (h : b.length = n) : (b.fixed n 0).toList = b := by
  refine ext_byteAt (by rw [Vector.length_toList, h]) fun i hi => ?_
  rw [Vector.length_toList] at hi
  rw [byteAt_toList hi]
  simp [fixed]

/-- The front of a byte string, as a string of fixed length, and the rest. -/
theorem toList_fixed_append_drop (h : n ≤ b.length) : (b.fixed n 0).toList ++ b.drop n = b := by
  have hfront : (b.take n).length = n := List.length_take_of_le h
  have hfixed : b.fixed n 0 = fixed n (b.take n) 0 :=
    fixed_congr fun i _ hi => (byteAt_take (by omega)).symm
  rw [hfixed, toList_fixed hfront, List.take_append_drop]

/-! ## Numbers -/

theorem le32_toLE {x : UInt32} : (toLE 4 x.toNat).le32 0 = x := by
  have hv : (⟨(toLE 4 x.toNat).toArray, by simp⟩ : Vector UInt8 4).toList = toLE 4 x.toNat := rfl
  rw [le32, ← hv, fixed_toList, hv, ofLE_toLE]
  exact UInt32.toNat_inj.1 (by simp)

theorem le32_put_self {x : UInt32} (h : off + 4 ≤ b.length) :
    (b.put off (toLE 4 x.toNat)).le32 off = x := by
  have hv : (⟨(toLE 4 x.toNat).toArray, by simp⟩ : Vector UInt8 4).toList = toLE 4 x.toNat := rfl
  rw [le32, ← hv, fixed_put_self h, hv, ofLE_toLE]
  exact UInt32.toNat_inj.1 (by simp)

theorem le32_put_of_disjoint {o : Nat} (h : off + 4 ≤ o ∨ o + p.length ≤ off) :
    (b.put o p).le32 off = b.le32 off := by
  rw [le32, fixed_put_of_disjoint h, le32]

theorem le16_append_left {a : Bytes} (h : off + 2 ≤ a.length) :
    (a ++ b).le16 off = a.le16 off := by
  rw [le16, fixed_append_left h, le16]

theorem le32_drop {front : Nat} : le32 (b.drop front) off = b.le32 (front + off) := by
  rw [le32, fixed_drop, le32]

theorem be16_drop {front : Nat} : be16 (b.drop front) off = b.be16 (front + off) := by
  rw [be16, fixed_drop, be16]

theorem be16_append_left {a : Bytes} (h : off + 2 ≤ a.length) :
    (a ++ b).be16 off = a.be16 off := by
  rw [be16, fixed_append_left h, be16]

theorem le32_append_left {a : Bytes} (h : off + 4 ≤ a.length) :
    (a ++ b).le32 off = a.le32 off := by
  rw [le32, fixed_append_left h, le32]

theorem le64_append_left {a : Bytes} (h : off + 8 ≤ a.length) :
    (a ++ b).le64 off = a.le64 off := by
  rw [le64, fixed_append_left h, le64]

theorem toNat_le16 : (b.le16 off).toNat = (b.byteAt off).toNat + 256 * (b.byteAt (off + 1)).toNat := by
  have hlow := (b.byteAt off).toNat_lt
  have hhigh := (b.byteAt (off + 1)).toNat_lt
  have hbytes : ofLE (fixed 2 b off).toList =
      (b.byteAt off).toNat + 256 * ((b.byteAt (off + 1)).toNat + 256 * 0) := rfl
  rw [le16, hbytes, UInt16.toNat_ofNat']
  omega

theorem toNat_be16 :
    (b.be16 off).toNat = 256 * (b.byteAt off).toNat + (b.byteAt (off + 1)).toNat := by
  have hhigh := (b.byteAt off).toNat_lt
  have hlow := (b.byteAt (off + 1)).toNat_lt
  have hbytes : ofBE (fixed 2 b off).toList =
      (b.byteAt (off + 1)).toNat + 256 * ((b.byteAt off).toNat + 256 * 0) := rfl
  rw [be16, hbytes, UInt16.toNat_ofNat']
  omega

/-! ## Pieces -/

theorem length_slice (h : off + n ≤ b.length) : (b.slice off n).length = n := by
  rw [slice, List.length_take, List.length_drop]
  omega

theorem byteAt_slice (hi : i < n) : (b.slice off n).byteAt i = b.byteAt (off + i) := by
  simp only [byteAt, slice, List.getD_eq_getElem?_getD]
  rw [List.getElem?_take_of_lt hi, List.getElem?_drop]

theorem fixed_slice {m : Nat} (h : i + m ≤ n) :
    (b.slice off n).fixed m i = b.fixed m (off + i) := by
  apply Vector.ext
  intro j hj
  simp only [fixed, Vector.getElem_ofFn]
  rw [byteAt_slice (by omega), Nat.add_assoc]

theorem slice_add (m n : Nat) :
    b.slice off (m + n) = b.slice off m ++ b.slice (off + m) n := by
  rw [slice, List.take_add, List.drop_drop]
  rfl

theorem take_slice (m n : Nat) : (b.slice off n).take m = b.slice off (min m n) :=
  List.take_take

theorem slice_drop {front : Nat} : slice (b.drop front) off n = b.slice (front + off) n := by
  rw [slice, slice, List.drop_drop]

theorem slice_eq_zeros (hl : off + n ≤ b.length)
    (h : ∀ i, off ≤ i → i < off + n → b.byteAt i = 0) : b.slice off n = zeros n := by
  refine ext_byteAt (by rw [length_slice hl, length_zeros]) fun i hi => ?_
  rw [length_slice hl] at hi
  rw [byteAt_slice hi, byteAt_zeros]
  exact h _ (by omega) (by omega)

theorem slice_put_self (h : off + p.length ≤ b.length) :
    (b.put off p).slice off p.length = p := by
  have hlen : ((b.put off p).slice off p.length).length = p.length :=
    length_slice (by rwa [length_put])
  refine ext_byteAt hlen fun i hi => ?_
  rw [hlen] at hi
  rw [byteAt_slice hi, byteAt_put_mem (by omega) (by omega) (by omega), Nat.add_sub_cancel_left]

theorem slice_succ (h : off < b.length) :
    b.slice off (n + 1) = b.byteAt off :: b.slice (off + 1) n := by
  rw [slice, List.drop_eq_getElem_cons h, List.take_succ_cons, byteAt,
    List.getD_eq_getElem?_getD, List.getElem?_eq_getElem h, Option.getD_some, slice]

theorem slice_append_left {a : Bytes} (h : off + n ≤ a.length) :
    (a ++ b).slice off n = a.slice off n := by
  rw [slice, slice, List.drop_append_of_le_length (by omega),
    List.take_append_of_le_length (by rw [List.length_drop]; omega)]

theorem chunks_append_left {count : Nat} {a : Bytes} (h : n * count ≤ a.length) :
    chunks n count (a ++ b) = chunks n count a := by
  induction count generalizing a with
  | zero => rfl
  | succ count ih =>
    rw [Nat.mul_succ] at h
    have hn : n ≤ a.length := by omega
    have hab : n ≤ (a ++ b).length := by rw [List.length_append]; omega
    rw [chunks, chunks, if_pos hn, if_pos hab, List.take_append_of_le_length hn,
      List.drop_append_of_le_length hn, ih (by rw [List.length_drop]; omega)]

/-- The pieces of a string that has all of them. -/
theorem chunks_eq_map {count : Nat} (h : n * count ≤ b.length) :
    chunks n count b = (List.range count).map fun i => b.slice (n * i) n := by
  induction count generalizing b with
  | zero => rfl
  | succ count ih =>
    rw [Nat.mul_succ] at h
    have hbehind : n * count ≤ (b.drop n).length := by rw [List.length_drop]; omega
    have hfirst : b.take n = b.slice (n * 0) n := rfl
    rw [chunks, if_pos (by omega), ih hbehind, List.range_succ_eq_map, List.map_cons, List.map_map,
      hfirst]
    congr 2
    funext i
    rw [Function.comp, slice_drop, Nat.mul_succ, Nat.add_comm]

/-! ## Room -/

/-- What is written within a part of a buffer is written into that part. -/
theorem put_append_left {a : Bytes} (h : off + p.length ≤ a.length) :
    (a ++ b).put off p = a.put off p ++ b := by
  have hlong : (a ++ b).length = a.length + b.length := List.length_append
  have hp : p.take (a.length - off) = p := List.take_of_length_le (by omega)
  have hp' : p.take ((a ++ b).length - off) = p := List.take_of_length_le (by omega)
  rw [put, put, hp, hp', List.take_append_of_le_length (by omega),
    List.drop_append_of_le_length h, List.append_assoc, List.append_assoc]

theorem within_eq_some_iff {need : Nat} {write : Bytes → Bytes} {c : Bytes} :
    within need write b = some c ↔ need ≤ b.length ∧ write b = c := by
  unfold within
  split <;> simp [*]

/-- A buffer with enough room is filled, in place. -/
theorem exists_within {need : Nat} (write : Bytes → Bytes) (hn : need ≤ b.length)
    (hw : (write b).length = b.length) :
    ∃ c, within need write b = some c ∧ c.length = b.length :=
  ⟨write b, if_pos hn, hw⟩

/-! ## Fields -/

/-- Bytes and the offset at which they are to stand. -/
abbrev Field := Nat × Bytes

/-- The offset just behind a field. -/
def Field.stop (f : Field) : Nat := f.1 + f.2.length

/-- The field holds the byte at an offset. -/
def Field.Covers (f : Field) (i : Nat) : Prop := f.1 ≤ i ∧ i < f.stop

/-- Each field ends where the next one begins, or before. -/
def Ordered (fields : List Field) : Prop := fields.Pairwise fun f g => f.stop ≤ g.1

/-- `b` with the fields written, one after the other. -/
def putAll (b : Bytes) (fields : List Field) : Bytes :=
  fields.foldl (fun b f => b.put f.1 f.2) b

variable {fields : List Field} {f : Field}

@[simp] theorem length_putAll : (b.putAll fields).length = b.length := by
  induction fields generalizing b with
  | nil => rfl
  | cons f fields ih => exact ih.trans (length_put b f.1 f.2)

/-- Bytes in no field stay. -/
theorem byteAt_putAll_of_notCovered (h : ∀ f ∈ fields, ¬ f.Covers i) :
    (b.putAll fields).byteAt i = b.byteAt i := by
  induction fields generalizing b with
  | nil => rfl
  | cons f fields ih =>
    obtain ⟨hf, hrest⟩ := List.forall_mem_cons.1 h
    have hi : i < f.1 ∨ f.1 + f.2.length ≤ i := by
      unfold Field.Covers Field.stop at hf
      omega
    exact (ih hrest).trans (byteAt_put_of_disjoint hi)

/-- A field reads back, whatever is written before and behind it. -/
theorem byteAt_putAll_of_mem (ho : Ordered fields) (hf : f ∈ fields) (hc : f.Covers i)
    (hi : i < b.length) : (b.putAll fields).byteAt i = f.2.byteAt (i - f.1) := by
  induction fields generalizing b with
  | nil => cases hf
  | cons g fields ih =>
    obtain ⟨hg, ho⟩ := List.pairwise_cons.1 ho
    rcases List.mem_cons.1 hf with rfl | hf
    · have hrest : ∀ g ∈ fields, ¬ g.Covers i := fun h hh hch =>
        absurd (Nat.lt_of_lt_of_le hc.2 (hg h hh)) (Nat.not_lt.2 hch.1)
      rw [putAll, List.foldl_cons, ← putAll, byteAt_putAll_of_notCovered hrest]
      exact byteAt_put_mem hc.1 hc.2 hi
    · exact ih ho hf (by rwa [length_put])

/-- The bytes of a field at the front stand where they stand in the field. -/
theorem byteAt_putAll_front (ho : Ordered fields) (hf : (0, p) ∈ fields) (hi : i < p.length)
    (hb : i < b.length) : (b.putAll fields).byteAt i = p.byteAt i :=
  byteAt_putAll_of_mem ho hf ⟨Nat.zero_le i, by rwa [Field.stop, Nat.zero_add]⟩ hb

/-- Fields within a part of a byte string are written into that part. -/
theorem putAll_append_left {a : Bytes} (h : ∀ f ∈ fields, f.stop ≤ a.length) :
    (a ++ b).putAll fields = a.putAll fields ++ b := by
  induction fields generalizing a with
  | nil => rfl
  | cons f fields ih =>
    obtain ⟨hf, hrest⟩ := List.forall_mem_cons.1 h
    have hput : (a ++ b).put f.1 f.2 = a.put f.1 f.2 ++ b := put_append_left hf
    rw [putAll, List.foldl_cons, hput]
    exact ih (by simpa using hrest)

section
variable (ho : Ordered fields) (hf : f ∈ fields) (hl : f.stop ≤ b.length)
include ho hf hl

theorem slice_putAll_of_mem : (b.putAll fields).slice f.1 f.2.length = f.2 := by
  unfold Field.stop at hl
  have hlen : ((b.putAll fields).slice f.1 f.2.length).length = f.2.length :=
    length_slice (by rwa [length_putAll])
  refine ext_byteAt hlen fun i hi => ?_
  rw [hlen] at hi
  rw [byteAt_slice hi, byteAt_putAll_of_mem ho hf ⟨by omega, Nat.add_lt_add_left hi _⟩ (by omega),
    Nat.add_sub_cancel_left]

theorem fixed_putAll_of_mem (hn : f.2.length = n) :
    (b.putAll fields).fixed n f.1 = f.2.fixed n 0 := by
  unfold Field.stop at hl
  apply Vector.ext
  intro i hi
  simp only [fixed, Vector.getElem_ofFn]
  rw [byteAt_putAll_of_mem ho hf ⟨by omega, by unfold Field.stop; omega⟩ (by omega),
    Nat.add_sub_cancel_left, Nat.zero_add]

theorem le32_putAll_of_mem {x : UInt32} (hx : f.2 = toLE 4 x.toNat) :
    (b.putAll fields).le32 f.1 = x := by
  have hfour : f.2.length = 4 := by rw [hx, length_toLE]
  rw [le32, fixed_putAll_of_mem ho hf hl hfour, hx, ← le32, le32_toLE]

end

theorem fixed_putAll_toList {v : Vector UInt8 n} (ho : Ordered fields)
    (hf : (off, v.toList) ∈ fields) (hl : off + n ≤ b.length) :
    (b.putAll fields).fixed n off = v := by
  have hstop : Field.stop (off, v.toList) ≤ b.length := by rwa [Field.stop, Vector.length_toList]
  rw [fixed_putAll_of_mem ho hf hstop Vector.length_toList, fixed_toList]

/-! ## Last writes -/

/-- Of the values that a run of writes sets, the first is the last only when no other one follows. -/
theorem getLastD_filterMap_cons {α β : Type} (value? : α → Option β) (x : α) (xs : List α) (y : β) :
    ((x :: xs).filterMap value?).getLastD y = (xs.filterMap value?).getLastD ((value? x).getD y) := by
  cases h : value? x with
  | none => rw [List.filterMap_cons_none h, Option.getD_none]
  | some z => rw [List.filterMap_cons_some h, List.getLastD_cons, Option.getD_some]

end DriveReach.Bytes
