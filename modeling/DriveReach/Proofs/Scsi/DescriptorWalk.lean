import DriveReach.Proofs.Scsi.Descriptors
/-!
# The walk over descriptors

Sense data in descriptor format are walked with a cursor. It starts at byte 8 and goes on by the
length that each descriptor says of itself, as long as this does not pass the end: the end of the
data, or an earlier one that byte 7 declares.

* `Descriptor.Walk`: the way of the cursor from an offset, with a constructor for a step and one for
  each way to stop.
* `Descriptor.walk_slice`: the descriptors taken off a byte string are those on the way.
* `Descriptor.Walk.placed`: each of them stands just behind the one before, and where the way ends,
  no other one fits.
* `descriptors_walked`: what is listed for any sense data at all, and that nothing is lost of
  descriptors that were written one behind the other.
-/

set_option autoImplicit false

namespace DriveReach

namespace Bytes

theorem drop_slice {b : Bytes} {off n : Nat} (m : Nat) :
    (b.slice off n).drop m = b.slice (off + m) (n - m) := by
  rw [slice, slice, List.drop_take, List.drop_drop]

end Bytes

namespace Scsi

namespace Descriptor

variable {b rest : Bytes} {ds : List Descriptor} {off stop n : Nat}

/-! ## The cursor -/

/-- The number of bytes of the descriptor at an offset, as its own length byte has it. -/
def lengthAt (b : Bytes) (off : Nat) : Nat := 2 + (b.byteAt (off + 1)).toNat

/-- The descriptor at an offset. -/
def standingAt (b : Bytes) (off : Nat) : Descriptor :=
  ⟨b.byteAt off, b.slice off (lengthAt b off)⟩

/-- The descriptors that a cursor meets from an offset on, in front of `stop`. -/
inductive Walk (b : Bytes) (stop : Nat) : Nat → List Descriptor → Prop
  | short {off : Nat} : stop < off + 2 → Walk b stop off []
  | overrun {off : Nat} : off + 2 ≤ stop → stop < off + lengthAt b off → Walk b stop off []
  | next {off : Nat} {ds : List Descriptor} : off + 2 ≤ stop → off + lengthAt b off ≤ stop →
      Walk b stop (off + lengthAt b off) ds → Walk b stop off (standingAt b off :: ds)

/-- The bytes between a cursor and the end, when there are two at least. -/
theorem of_slice_eq_cons {code length : UInt8} (hstop : stop ≤ b.length)
    (h : b.slice off (stop - off) = code :: length :: rest) :
    off + 2 + rest.length = stop ∧ b.byteAt off = code ∧ b.byteAt (off + 1) = length := by
  have hlen : (b.slice off (stop - off)).length = rest.length + 2 := by rw [h]; rfl
  have hmin : (b.slice off (stop - off)).length = min (stop - off) (b.length - off) := by
    simp [Bytes.slice]
  have hbyte (i : Nat) (hi : i < 2) :
      b.byteAt (off + i) = Bytes.byteAt (code :: length :: rest) i := by
    rw [← h, Bytes.byteAt_slice (by omega)]
  exact ⟨by omega, hbyte 0 (by omega), hbyte 1 (by omega)⟩

/-- What is taken off the bytes in front of `stop` is what a cursor meets there. -/
theorem walk_slice (hstop : stop ≤ b.length) :
    Walk b stop off (split (b.slice off (stop - off))) := by
  generalize harea : b.slice off (stop - off) = area
  fun_induction split area generalizing off with
  | case1 code length rest hroom ih =>
    obtain ⟨hlen, rfl, rfl⟩ := of_slice_eq_cons hstop harea
    have hfits : off + lengthAt b off ≤ stop := by unfold lengthAt; omega
    have hbytes : (standingAt b off).bytes =
        b.byteAt off :: b.byteAt (off + 1) :: rest.take (b.byteAt (off + 1)).toNat := by
      have hfront : b.slice off (lengthAt b off) =
          (b.slice off (stop - off)).take (lengthAt b off) := by
        rw [Bytes.take_slice, Nat.min_eq_left (by omega)]
      change b.slice off (lengthAt b off) = _
      rw [hfront, harea, lengthAt, Nat.add_comm]
      rfl
    have hbehind : b.slice (off + lengthAt b off) (stop - (off + lengthAt b off)) =
        rest.drop (b.byteAt (off + 1)).toNat := by
      rw [← Nat.sub_sub, ← Bytes.drop_slice, harea, lengthAt, Nat.add_comm]
      rfl
    have hhead : (⟨b.byteAt off, b.byteAt off :: b.byteAt (off + 1) ::
        rest.take (b.byteAt (off + 1)).toNat⟩ : Descriptor) = standingAt b off := by
      rw [← hbytes]
      rfl
    rw [hhead]
    exact .next (by omega) hfits (ih hbehind)
  | case2 code length rest hroom =>
    obtain ⟨hlen, rfl, rfl⟩ := of_slice_eq_cons hstop harea
    refine .overrun (by omega) ?_
    unfold lengthAt
    omega
  | case3 area hshort =>
    refine .short ?_
    have hlen : area.length = min (stop - off) (b.length - off) := by
      rw [← harea]
      simp [Bytes.slice]
    have hlt : area.length < 2 := by
      rcases area with _ | ⟨code, _ | ⟨length, rest⟩⟩
      · simp
      · simp
      · exact absurd rfl (hshort code length rest)
    omega

/-! ## What a cursor meets -/

/-- The offset of a descriptor in a list whose descriptors stand one behind the other from an offset
on. Behind the last one, it is where they end. -/
def offsetOf (off : Nat) : List Descriptor → Nat → Nat
  | d :: ds, n + 1 => offsetOf (off + d.bytes.length) ds n
  | _, _ => off

/-- A descriptor stands at an offset, in front of `stop`. -/
structure Placed (b : Bytes) (stop off : Nat) (d : Descriptor) : Prop where
  bytes : d.bytes = b.slice off d.bytes.length
  within : off + d.bytes.length ≤ stop
  code : d.code = d.bytes.byteAt 0
  length : d.bytes.length = 2 + (d.bytes.byteAt 1).toNat

theorem placed_standingAt (hstop : stop ≤ b.length) (hfits : off + lengthAt b off ≤ stop) :
    (standingAt b off).Placed b stop off ∧ (standingAt b off).bytes.length = lengthAt b off := by
  have hlength : (standingAt b off).bytes.length = lengthAt b off :=
    Bytes.length_slice (Nat.le_trans hfits hstop)
  have hbyte (i : Nat) (hi : i < 2) : (standingAt b off).bytes.byteAt i = b.byteAt (off + i) := by
    refine Bytes.byteAt_slice ?_
    unfold lengthAt
    omega
  refine ⟨?_, hlength⟩
  exact {
    bytes := by rw [hlength]; rfl
    within := by rwa [hlength]
    code := (hbyte 0 (by omega)).symm
    length := by rw [hlength, hbyte 1 (by omega)]; rfl }

namespace Walk

/-- Every descriptor on the way stands just behind the one before. -/
theorem placed (h : Walk b stop off ds) (hstop : stop ≤ b.length) :
    ∀ n (hn : n < ds.length), ds[n].Placed b stop (offsetOf off ds n) := by
  induction h with
  | short _ => intro n hn; simp at hn
  | overrun _ _ => intro n hn; simp at hn
  | @next off ds _ hfits _ ih =>
    obtain ⟨hplaced, hlength⟩ := placed_standingAt hstop hfits
    intro n hn
    cases n with
    | zero => exact hplaced
    | succ n =>
      simp only [List.getElem_cons_succ, offsetOf, hlength]
      exact ih n (by simpa using hn)

/-- Where the way ends, there is not even a length byte, or one that leads too far. -/
theorem blocked (h : Walk b stop off ds) (hstop : stop ≤ b.length) :
    stop < offsetOf off ds ds.length + 2 ∨ offsetOf off ds ds.length + 2 ≤ stop ∧
      stop < offsetOf off ds ds.length + lengthAt b (offsetOf off ds ds.length) := by
  induction h with
  | short hshort => exact .inl hshort
  | overrun hroom hover => exact .inr ⟨hroom, hover⟩
  | @next off ds _ hfits _ ih =>
    obtain ⟨-, hlength⟩ := placed_standingAt hstop hfits
    simp only [List.length_cons, offsetOf, hlength]
    exact ih

/-- The way is determined by the bytes. -/
theorem unique {es : List Descriptor} (h : Walk b stop off ds) (h' : Walk b stop off es) :
    ds = es := by
  induction h generalizing es with
  | short hshort =>
    cases h' with
    | short _ => rfl
    | overrun _ _ => rfl
    | next hroom _ _ => omega
  | overrun hroom hover =>
    cases h' with
    | short _ => rfl
    | overrun _ _ => rfl
    | next _ hfits _ => omega
  | next hroom hfits _ ih =>
    cases h' with
    | short hshort => omega
    | overrun _ hover => omega
    | next _ _ htail => rw [ih htail]

/-- A step takes two bytes at least, so there are not many. -/
theorem two_mul_length_le (h : Walk b stop off ds) : 2 * ds.length ≤ stop - off := by
  induction h with
  | short _ => simp
  | overrun _ _ => simp
  | next _ hfits _ ih =>
    rw [List.length_cons]
    unfold lengthAt at *
    omega

end Walk

theorem Placed.eq_standingAt {d : Descriptor} (h : d.Placed b stop off) :
    d = standingAt b off ∧ d.bytes.length = lengthAt b off := by
  have hbyte (i : Nat) (hi : i < 2) : d.bytes.byteAt i = b.byteAt (off + i) := by
    have hlength := h.length
    rw [h.bytes, Bytes.byteAt_slice (by omega)]
  have hlength : d.bytes.length = lengthAt b off := by
    rw [h.length, hbyte 1 (by omega), lengthAt]
  have hcode : d.code = b.byteAt off := h.code.trans (hbyte 0 (by omega))
  have hbytes := h.bytes
  rw [hlength] at hbytes
  refine ⟨?_, hlength⟩
  obtain ⟨code, bytes⟩ := d
  rw [standingAt, Descriptor.mk.injEq]
  exact ⟨hcode, hbytes⟩

/-- Descriptors that stand one behind the other, with no other one behind them, are a way. -/
theorem walk_of_placed
    (hplaced : ∀ n (hn : n < ds.length), ds[n].Placed b stop (offsetOf off ds n))
    (hblocked : stop < offsetOf off ds ds.length + 2 ∨ offsetOf off ds ds.length + 2 ≤ stop ∧
      stop < offsetOf off ds ds.length + lengthAt b (offsetOf off ds ds.length)) :
    Walk b stop off ds := by
  induction ds generalizing off with
  | nil =>
    rcases hblocked with hshort | ⟨hroom, hover⟩
    · exact .short hshort
    · exact .overrun hroom hover
  | cons d ds ih =>
    have hfirst : d.Placed b stop off := hplaced 0 (by simp)
    obtain ⟨hd, hlength⟩ := hfirst.eq_standingAt
    have hfits := hfirst.within
    simp only [List.length_cons, offsetOf] at hblocked
    have htail : Walk b stop (off + d.bytes.length) ds :=
      ih (fun n hn => hplaced (n + 1) (by simpa using hn)) hblocked
    rw [hlength] at htail hfits
    rw [hd]
    refine .next ?_ hfits htail
    unfold lengthAt at hfits
    omega

end Descriptor

/-! ## Sense data -/

variable {b header rest : Bytes} {ds : List Descriptor}

/-- Where the descriptors end: with the data, or before that as byte 7 has it. -/
def descriptorEnd (b : Bytes) : Nat := min (8 + (b.byteAt 7).toNat) b.length

theorem walk_descriptors (b : Bytes) : Descriptor.Walk b (descriptorEnd b) 8 (descriptors b) := by
  have harea : descriptorArea b = b.slice 8 (descriptorEnd b - 8) := by
    rw [descriptorArea_eq, Bytes.slice, List.take_eq_take_iff, List.length_drop, descriptorEnd]
    omega
  rw [descriptors, harea]
  exact Descriptor.walk_slice (Nat.min_le_right _ _)

/-- Descriptors behind a header that declares all of them are listed, and then what it declares
besides. -/
theorem descriptors_append (hheader : header.length = 8) (hds : ∀ d ∈ ds, d.WellFormed)
    (hroom : (Descriptor.join ds).length ≤ (header.byteAt 7).toNat) :
    descriptors (header ++ Descriptor.join ds ++ rest) =
      ds ++ Descriptor.split (rest.take ((header.byteAt 7).toNat - (Descriptor.join ds).length)) := by
  rw [descriptors, descriptorArea_eq, List.append_assoc, Bytes.byteAt_append_left (by omega),
    List.drop_left' hheader, List.take_append, List.take_of_length_le hroom,
    Descriptor.split_join_append hds]

/-- Descriptors stand one behind the other from byte 8 of sense data on, and behind the last one no
other fits. -/
structure Walked (b : Bytes) (ds : List Descriptor) : Prop where
  placed (n : Nat) (h : n < ds.length) :
    ds[n].Placed b (descriptorEnd b) (Descriptor.offsetOf 8 ds n)
  blocked : descriptorEnd b < Descriptor.offsetOf 8 ds ds.length + 2 ∨
    Descriptor.offsetOf 8 ds ds.length + 2 ≤ descriptorEnd b ∧
      descriptorEnd b < Descriptor.offsetOf 8 ds ds.length +
        Descriptor.lengthAt b (Descriptor.offsetOf 8 ds ds.length)

theorem walked_iff : Walked b ds ↔ ds = descriptors b := by
  constructor
  · intro h
    exact (Descriptor.walk_of_placed h.placed h.blocked).unique (walk_descriptors b)
  · rintro rfl
    have hend : descriptorEnd b ≤ b.length := Nat.min_le_right _ _
    exact ⟨(walk_descriptors b).placed hend, (walk_descriptors b).blocked hend⟩

/-- **The descriptors of any sense data are those that stand in them one behind the other.** They are
the only list that starts at byte 8, in which each one is as long as its length byte says and ends
where the next one starts, within the data and within the length that byte 7 declares, and behind
which fewer than two bytes are left or a descriptor that would pass that end. It takes no more than
one step for two bytes to find them. Well-formed descriptors behind a header that declares them are
listed one by one, whatever stands behind its declared length. -/
theorem descriptors_walked :
    (∀ (b : Bytes) (ds : List Descriptor), Walked b ds ↔ ds = descriptors b) ∧
    (∀ b : Bytes, 2 * (descriptors b).length ≤ descriptorEnd b - 8) ∧
    ∀ (header : Bytes) (ds : List Descriptor) (rest : Bytes), header.length = 8 →
      (∀ d ∈ ds, d.WellFormed) → (Descriptor.join ds).length ≤ (header.byteAt 7).toNat →
      (Descriptor.join ds).length = (header.byteAt 7).toNat ∨ rest = [] →
      descriptors (header ++ Descriptor.join ds ++ rest) = ds := by
  refine ⟨fun b ds => walked_iff, fun b => (walk_descriptors b).two_mul_length_le, ?_⟩
  intro header ds rest hheader hds hroom hrest
  have hnothing : rest.take ((header.byteAt 7).toNat - (Descriptor.join ds).length) = [] := by
    rcases hrest with hall | rfl
    · rw [hall, Nat.sub_self, List.take_zero]
    · exact List.take_nil
  rw [descriptors_append hheader hds hroom, hnothing, Descriptor.split_nil, List.append_nil]

/-- A descriptor without content, one of ten bytes, and one more without content. -/
def runOfDescriptors : List Descriptor :=
  [⟨0x80, [0x80, 0]⟩, ⟨0x00, [0x00, 0x0A, 0x80, 0, 0, 0, 0, 0, 0, 0, 0x12, 0x34]⟩, ⟨0x81, [0x81, 0]⟩]

/-- All three are listed, and not the one behind the declared length. With one byte more declared
than the three take up, that byte is left over. -/
theorem descriptors_walked_run :
    let header : Bytes := [0x72, 0x01, 0, 0, 0, 0, 0, 16]
    let longer : Bytes := [0x72, 0x01, 0, 0, 0, 0, 0, 17]
    (header.length = 8 ∧ (∀ d ∈ runOfDescriptors, d.WellFormed) ∧
      (Descriptor.join runOfDescriptors).length = (header.byteAt 7).toNat) ∧
    descriptors (header ++ Descriptor.join runOfDescriptors ++ [0x82, 0]) = runOfDescriptors ∧
    Walked (longer ++ Descriptor.join runOfDescriptors ++ [0x82, 0]) runOfDescriptors := by
  intro header longer
  have hds : ∀ d ∈ runOfDescriptors, d.WellFormed := by
    simp only [runOfDescriptors, List.forall_mem_cons, List.not_mem_nil, false_implies,
      implies_true, and_true]
    exact ⟨⟨[], by decide, rfl⟩, ⟨[0x80, 0, 0, 0, 0, 0, 0, 0, 0x12, 0x34], by decide, rfl⟩,
      ⟨[], by decide, rfl⟩⟩
  have hall : (Descriptor.join runOfDescriptors).length = (header.byteAt 7).toNat := by decide
  have hlisted : runOfDescriptors =
      descriptors (longer ++ Descriptor.join runOfDescriptors ++ [0x82, 0]) := by decide +kernel
  exact ⟨⟨rfl, hds, hall⟩,
    descriptors_walked.2.2 header runOfDescriptors _ rfl hds (Nat.le_of_eq hall) (.inl hall),
    (descriptors_walked.1 _ _).2 hlisted⟩

end Scsi

end DriveReach
