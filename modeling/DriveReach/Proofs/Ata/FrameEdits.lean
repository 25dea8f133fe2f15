import DriveReach.Proofs.Ata.HostFrame
import DriveReach.Proofs.Ata.StatusFrame
/-!
# Edits of a command frame

A caller sets the fields of a frame in any order and as often as it likes. A field keeps what it was
last set to, as far as it has room: four bits for the port and 48 for the LBA.

* `HostFrame.get_set_self`, `HostFrame.get_set_of_ne`: what a writer does to its own field and to
  every other one.
* `HostFrame.upper_set`, `HostFrame.byte_zero_set`: the bits that belong to no field stay.
* `HostFrame.Edited`, `HostFrame.edited_editAll`: what any number of edits come to.
* `HostFrame.edits_read_back`: the same of every frame there is, which is also read back as a whole.
-/

set_option autoImplicit false

namespace DriveReach.Ata

namespace HostFrame

/-! ## Fields -/

/-- What a field is set to. -/
@[reducible] def Field.Value : Field → Type
  | port | command | device | icc | control => UInt8
  | features | count => UInt16
  | lba => UInt64
  | auxiliary => UInt32

/-- A value as far as the field has room for it. -/
def Field.fit : (a : Field) → a.Value → a.Value
  | port, (x : UInt8) => x % 16
  | lba, (x : UInt64) => x % 0x1000000000000
  | command, x | features, x | device, x | count, x | icc, x | control, x | auxiliary, x => x

/-- What the reader of a field gives. -/
def get (f : HostFrame) : (a : Field) → a.Value
  | .port => f.pmPort
  | .command => f.command
  | .features => f.features
  | .lba => f.lba
  | .device => f.device
  | .count => f.count
  | .icc => f.icc
  | .control => f.control
  | .auxiliary => f.auxiliary

/-- What the writer of a field makes of the frame. -/
def set (f : HostFrame) : (a : Field) → a.Value → HostFrame
  | .port, x => f.setPmPort x
  | .command, x => f.setCommand x
  | .features, x => f.setFeatures x
  | .lba, x => f.setLba x
  | .device, x => f.setDevice x
  | .count, x => f.setCount x
  | .icc, x => f.setIcc x
  | .control, x => f.setControl x
  | .auxiliary, x => f.setAuxiliary x

variable {f g : HostFrame} {a b : Field}

/-- Every writer puts some number into its field. -/
theorem exists_set_eq_put (f : HostFrame) (a : Field) (x : a.Value) : ∃ n, f.set a x = f.put a n := by
  cases a with
  | port => exact ⟨_, setPmPort_eq_put x⟩
  | command => exact ⟨_, setCommand_eq_put x⟩
  | features => exact ⟨_, setFeatures_eq_put x⟩
  | lba => exact ⟨_, setLba_eq_put x⟩
  | device => exact ⟨_, setDevice_eq_put x⟩
  | count => exact ⟨_, setCount_eq_put x⟩
  | icc => exact ⟨_, setIcc_eq_put x⟩
  | control => exact ⟨_, setControl_eq_put x⟩
  | auxiliary => exact ⟨_, setAuxiliary_eq_put x⟩

/-- Every reader depends on the number in its field. -/
theorem get_congr (h : f.number a = g.number a) : f.get a = g.get a := by
  have hbyte {i : Nat} (hi : a.places = [i]) : f.byte i = g.byte i := by
    rw [byte_eq_number hi, byte_eq_number hi, h]
  cases a with
  | port => exact congrArg pmPortOf (hbyte rfl)
  | command => exact hbyte rfl
  | device => exact hbyte rfl
  | icc => exact hbyte rfl
  | control => exact hbyte rfl
  | features => exact congrArg UInt16.ofNat h
  | count => exact congrArg UInt16.ofNat h
  | lba => exact congrArg UInt64.ofNat h
  | auxiliary => exact congrArg UInt32.ofNat h

theorem get_set_of_ne (h : a ≠ b) (x : a.Value) : (f.set a x).get b = f.get b := by
  obtain ⟨n, hn⟩ := exists_set_eq_put f a x
  rw [hn]
  exact get_congr (number_put_of_ne h)

theorem pmPortOf_eq_mod (x : UInt8) : pmPortOf x = x % 16 :=
  UInt8.toNat_inj.1 (Nat.and_two_pow_sub_one_eq_mod x.toNat 4)

theorem get_set_self (f : HostFrame) (a : Field) (x : a.Value) : (f.set a x).get a = a.fit x := by
  cases a with
  | port => exact pmPort_setPmPort.trans (pmPortOf_eq_mod x)
  | command =>
    show (f.setCommand x).command = x
    rw [setCommand_eq_put, command_put_self]
  | features =>
    show (f.setFeatures x).features = x
    rw [setFeatures_eq_put, features_put_self]
  | lba =>
    show (f.setLba x).lba = _
    rw [setLba_eq_put, lba_put_self]
    rfl
  | device =>
    show (f.setDevice x).device = x
    rw [setDevice_eq_put, device_put_self]
  | count =>
    show (f.setCount x).count = x
    rw [setCount_eq_put, count_put_self]
  | icc =>
    show (f.setIcc x).byte 14 = x
    rw [setIcc_eq_put, byte_put_self rfl]
  | control =>
    show (f.setControl x).control = x
    rw [setControl_eq_put, control_put_self]
  | auxiliary =>
    show (f.setAuxiliary x).auxiliary = x
    rw [setAuxiliary_eq_put, auxiliary_put_self]

/-! ## Bits of no field -/

/-- The upper half of byte 1, the command bit among them. -/
def upper (f : HostFrame) : UInt8 := f.byte 1 &&& 0xF0

theorem byte_zero_set (x : a.Value) : (f.set a x).byte 0 = f.byte 0 := by
  have hnone : 0 ∉ a.places := by cases a <;> decide
  obtain ⟨n, hn⟩ := exists_set_eq_put f a x
  rw [hn]
  exact Bytes.nth_setNumber_of_notMem hnone _ _

theorem upper_or (x port : UInt8) : (x &&& 0xF0 ||| port &&& 0x0F) &&& 0xF0 = x &&& 0xF0 := by
  apply UInt8.eq_of_toBitVec_eq
  simp only [UInt8.toBitVec_and, UInt8.toBitVec_or]
  rw [BitVec.and_or_distrib_right, BitVec.and_assoc, BitVec.and_self, BitVec.and_assoc]
  -- The two masks have no bit in common.
  exact (congrArg _ BitVec.and_zero).trans BitVec.or_zero

theorem upper_set (x : a.Value) : (f.set a x).upper = f.upper := by
  by_cases ha : a = .port
  · subst ha
    show (f.setPmPort x).byte 1 &&& 0xF0 = f.byte 1 &&& 0xF0
    rw [setPmPort, setByte, byte, Bytes.nth_setIfInBounds, if_pos ⟨rfl, by decide⟩]
    exact upper_or _ _
  · obtain ⟨n, hn⟩ := exists_set_eq_put f a x
    have hone : Field.port.places = [1] := rfl
    rw [upper, upper, hn, byte_put_of_ne hone ha]

theorem isCommand_eq_upper (f : HostFrame) : f.isCommand = (f.upper &&& 0x80 != 0) := by
  rw [isCommand, upper, UInt8.and_assoc]
  rfl

/-! ## Edits -/

/-- A field and the value it is set to. -/
structure Edit where
  field : Field
  value : field.Value

/-- The value that an edit has for a field, if it is the field it sets. -/
def Edit.value? (e : Edit) (a : Field) : Option a.Value :=
  if h : e.field = a then some (h ▸ e.value) else none

/-- A frame after an edit. -/
def edit (f : HostFrame) (e : Edit) : HostFrame := f.set e.field e.value

/-- A frame after edits, one after the other. -/
def editAll (f : HostFrame) (edits : List Edit) : HostFrame := edits.foldl edit f

/-- What edits make of a frame: each field holds what it was last set to, as far as it has room, and
all else is as it was. -/
structure Edited (f : HostFrame) (edits : List Edit) (after : HostFrame) : Prop where
  fields (a : Field) :
    after.get a = (edits.filterMap fun e => (e.value? a).map a.fit).getLastD (f.get a)
  kind : after.byte 0 = f.byte 0
  isCommand : after.isCommand = f.isCommand
  upper : after.upper = f.upper

theorem get_edit (f : HostFrame) (e : Edit) (a : Field) :
    (f.edit e).get a = ((e.value? a).map a.fit).getD (f.get a) := by
  obtain ⟨b, x⟩ := e
  by_cases h : b = a
  · subst h
    rw [Edit.value?, dif_pos rfl]
    exact get_set_self f b x
  · rw [Edit.value?, dif_neg h]
    exact get_set_of_ne h x

theorem edited_editAll (f : HostFrame) (edits : List Edit) : f.Edited edits (f.editAll edits) := by
  induction edits generalizing f with
  | nil => exact ⟨fun _ => rfl, rfl, rfl, rfl⟩
  | cons e edits ih =>
    have hrest := ih (f.edit e)
    have hupper : (f.edit e).upper = f.upper := upper_set e.value
    refine ⟨fun a => ?_, hrest.kind.trans (byte_zero_set e.value), ?_, hrest.upper.trans hupper⟩
    · rw [Bytes.getLastD_filterMap_cons, ← get_edit]
      exact hrest.fields a
    · refine hrest.isCommand.trans ?_
      rw [isCommand_eq_upper, isCommand_eq_upper, hupper]

/-! ## Whole frames -/

theorem byte_eq_byteAt {i : Nat} (h : i < 20) : f.byte i = Bytes.byteAt f.bytes.toList i := by
  rw [byte, Bytes.nth_of_lt h, Bytes.byteAt_toList h]

/-- A frame with the type of a command frame is read from its own bytes. -/
theorem parse_toList (h : f.byte 0 = FrameKind.registerHostToDevice.code) :
    parse f.bytes.toList = .ok f := by
  rw [byte_eq_byteAt (by decide)] at h
  rw [parse, FrameKind.cut_toList h]
  rfl

/-- A frame that is read has the type of a command frame. -/
theorem byte_zero_of_parse {b : Bytes} (h : parse b = .ok f) :
    f.byte 0 = FrameKind.registerHostToDevice.code := by
  unfold parse FrameKind.cut at h
  by_cases hshort : b.length < 20
  · rw [if_pos hshort] at h
    cases h
  by_cases hkind : b.byteAt 0 ≠ FrameKind.registerHostToDevice.code
  · rw [if_neg hshort, if_pos hkind] at h
    cases h
  · rw [if_neg hshort, if_neg hkind] at h
    obtain rfl := Except.ok.inj h
    rw [byte, Bytes.nth_fixed (by decide)]
    exact Decidable.not_not.1 hkind

/-- **A frame holds what its fields were last set to.** After any edits in any order, each field reads
as the last value it was set to, as far as it has room for it, or as it did before; type byte,
command bit and the bits next to it have not changed. A frame that was made or read before is read
back from its bytes after them. -/
theorem edits_read_back :
    (∀ (f : HostFrame) (edits : List Edit), f.Edited edits (f.editAll edits)) ∧
    ∀ (f : HostFrame) (edits : List Edit), f = blank ∨ (∃ b, parse b = .ok f) →
      parse (f.editAll edits).bytes.toList = .ok (f.editAll edits) := by
  refine ⟨edited_editAll, fun f edits hf => parse_toList ?_⟩
  have hkind : f.byte 0 = FrameKind.registerHostToDevice.code := by
    rcases hf with rfl | ⟨b, hb⟩
    · rfl
    · exact byte_zero_of_parse hb
  exact (edited_editAll f edits).kind.trans hkind

/-- A frame in which every bit of the first two bytes' upper halves is set, and no field is zero. -/
def filledFrame : HostFrame :=
  ⟨#v[0x27, 0xF5, 2, 3, 4, 5, 6, 7, 8, 9, 10, 11, 12, 13, 14, 15, 16, 17, 18, 19]⟩

/-- Two LBAs around a port and the features. -/
def crossedEdits : List Edit :=
  [⟨.lba, 0x1122334455667788⟩, ⟨.port, 0xA9⟩, ⟨.features, 0xABCD⟩, ⟨.lba, 0xFEDC123456789ABC⟩]

/-- The second LBA counts, without its upper bits; the port has four bits. All else is as it was, and
the frame is read back. -/
theorem edits_read_back_crossed :
    let after := filledFrame.editAll crossedEdits
    (∃ b, parse b = .ok filledFrame) ∧ after.lba = 0x123456789ABC ∧ after.pmPort = 9 ∧
      after.features = 0xABCD ∧ after.command = 2 ∧ after.auxiliary = 0x13121110 ∧
      after.byte 0 = 0x27 ∧ after.upper = 0xF0 ∧ parse after.bytes.toList = .ok after := by
  intro after
  have hread : parse filledFrame.bytes.toList = .ok filledFrame := parse_toList rfl
  have hedited : filledFrame.Edited crossedEdits after := edits_read_back.1 _ _
  exact ⟨⟨_, hread⟩, hedited.fields .lba, hedited.fields .port, hedited.fields .features,
    hedited.fields .command, hedited.fields .auxiliary, hedited.kind, hedited.upper,
    edits_read_back.2 _ _ (.inr ⟨_, hread⟩)⟩

end HostFrame

end DriveReach.Ata
