import DriveReach.Proofs.Passthrough.Payload
/-!
# Fields of a command frame

A number that is written at some places reads back from them, and what is written elsewhere does not
matter (`Bytes.numberAt_setNumber`, `Bytes.numberAt_setNumber_of_disjoint`). Each field of a frame
is such a number at the places of `HostFrame.Field`, a single byte too. So what a writer of one
field does to another follows from where they are (`HostFrame.number_put`).
-/

set_option autoImplicit false

namespace DriveReach

namespace Bytes

variable {n : Nat} {places others : List Nat}

theorem numberAt_congr {v v' : Vector UInt8 n} (h : ∀ i ∈ places, nth v i = nth v' i) :
    numberAt v places = numberAt v' places :=
  congrArg ofLE (List.map_congr_left h)

theorem numberAt_setNumber_of_disjoint {v : Vector UInt8 n} {x : Nat}
    (h : ∀ i ∈ places, i ∉ others) : numberAt (setNumber v others x) places = numberAt v places :=
  numberAt_congr fun i hi => nth_setNumber_of_notMem (h i hi) v x

/-- A number reads back from the places where it is written, as far as they hold it. -/
theorem numberAt_setNumber (hn : places.Nodup) (hi : ∀ i ∈ places, i < n) (v : Vector UInt8 n)
    (x : Nat) : numberAt (setNumber v places x) places = x % Nat.pow 256 places.length := by
  induction places generalizing v x with
  | nil => simp [numberAt, ofLE, Nat.mod_one]
  | cons i places ih =>
    rw [List.nodup_cons] at hn
    rw [List.forall_mem_cons] at hi
    -- The lowest byte is written first, and no later one goes to its place.
    have hfirst : nth (setNumber (v.setIfInBounds i (UInt8.ofNat x)) places (x / 256)) i =
        UInt8.ofNat x := by
      rw [nth_setNumber_of_notMem hn.1, nth_setIfInBounds, if_pos ⟨rfl, hi.1⟩]
    have hrest := ih hn.2 hi.2 (v.setIfInBounds i (UInt8.ofNat x)) (x / 256)
    have hx : (UInt8.ofNat x).toNat = x % 256 := by simp
    rw [numberAt] at hrest
    rw [setNumber, numberAt, List.map_cons, ofLE, hfirst, hrest, hx]
    change _ = x % (Nat.pow 256 places.length * 256)
    rw [Nat.mul_comm (Nat.pow 256 _), Nat.mod_mul]

end Bytes

namespace Ata

/-! ## Fields -/

namespace HostFrame

/-- A field of a command frame. `port` is all of byte 1, where the command bit has its place too. -/
inductive Field where
  | port
  | command
  | features
  | lba
  | device
  | count
  | icc
  | control
  | auxiliary
  deriving DecidableEq

/-- The bytes of a field, least significant first. -/
def Field.places : Field → List Nat
  | port => [1]
  | command => [2]
  | features => featuresPlaces
  | lba => lbaPlaces
  | device => [7]
  | count => countPlaces
  | icc => [14]
  | control => [15]
  | auxiliary => auxiliaryPlaces

theorem Field.places_nodup (a : Field) : a.places.Nodup := by cases a <;> decide

theorem Field.places_lt (a : Field) : ∀ i ∈ a.places, i < 20 := by cases a <;> decide

/-- No two fields share a byte. -/
theorem Field.places_disjoint {a b : Field} (h : a ≠ b) : ∀ i ∈ a.places, i ∉ b.places := by
  cases a <;> cases b <;> first | exact absurd rfl h | decide

def number (f : HostFrame) (a : Field) : Nat := Bytes.numberAt f.bytes a.places

/-- The frame with another number in a field. -/
def put (f : HostFrame) (a : Field) (x : Nat) : HostFrame := ⟨Bytes.setNumber f.bytes a.places x⟩

variable {f : HostFrame} {a b : Field} {x : Nat}

/-- The least number that a field does not hold. -/
def Field.limit (a : Field) : Nat := Nat.pow 256 a.places.length

/-- A field that is written reads back, as far as it holds the number, and no other changes. -/
theorem number_put :
    (f.put a x).number b = if a = b then x % a.limit else f.number b := by
  by_cases h : a = b
  · subst h
    rw [if_pos rfl]
    exact Bytes.numberAt_setNumber a.places_nodup a.places_lt f.bytes x
  · rw [if_neg h]
    exact Bytes.numberAt_setNumber_of_disjoint (Field.places_disjoint (Ne.symm h))

@[simp] theorem number_put_self (h : x < a.limit) : (f.put a x).number a = x := by
  rw [number_put, if_pos rfl, Nat.mod_eq_of_lt h]

@[simp] theorem number_put_of_ne (h : a ≠ b) : (f.put a x).number b = f.number b := by
  rw [number_put, if_neg h]

/-! ### Writers -/

theorem setByte_eq_put {i : Nat} {y : UInt8} (h : a.places = [i]) :
    f.setByte i y = f.put a y.toNat := by
  rw [setByte, put, h, Bytes.setNumber, Bytes.setNumber, UInt8.ofNat_toNat]

theorem setPmPort_eq_put (port : UInt8) :
    f.setPmPort port = f.put .port ((f.byte 1 &&& 0xF0) ||| (port &&& 0x0F)).toNat :=
  setByte_eq_put rfl

theorem setCommand_eq_put (y : UInt8) : f.setCommand y = f.put .command y.toNat :=
  setByte_eq_put rfl

theorem setFeatures_eq_put (y : UInt16) : f.setFeatures y = f.put .features y.toNat := rfl

theorem setLba_eq_put (y : UInt64) : f.setLba y = f.put .lba y.toNat := rfl

theorem setDevice_eq_put (y : UInt8) : f.setDevice y = f.put .device y.toNat := setByte_eq_put rfl

theorem setCount_eq_put (y : UInt16) : f.setCount y = f.put .count y.toNat := rfl

theorem setIcc_eq_put (y : UInt8) : f.setIcc y = f.put .icc y.toNat := setByte_eq_put rfl

theorem setControl_eq_put (y : UInt8) : f.setControl y = f.put .control y.toNat :=
  setByte_eq_put rfl

theorem setAuxiliary_eq_put (y : UInt32) : f.setAuxiliary y = f.put .auxiliary y.toNat := rfl

/-! ### Readers -/

theorem byte_eq_number {i : Nat} (h : a.places = [i]) : f.byte i = UInt8.ofNat (f.number a) := by
  simp [number, h, Bytes.numberAt, Bytes.ofLE, byte]

theorem byte_put_self {i : Nat} {y : UInt8} (h : a.places = [i]) :
    (f.put a y.toNat).byte i = y := by
  rw [byte_eq_number h, number_put_self, UInt8.ofNat_toNat]
  rw [Field.limit, h]
  exact y.toNat_lt

theorem byte_put_of_ne {i : Nat} (hb : b.places = [i]) (h : a ≠ b) :
    (f.put a x).byte i = f.byte i := by
  rw [byte_eq_number hb, byte_eq_number hb, number_put_of_ne h]

@[simp] theorem command_put_self {y : UInt8} : (f.put .command y.toNat).command = y :=
  byte_put_self rfl

@[simp] theorem command_put_of_ne (h : a ≠ .command) : (f.put a x).command = f.command :=
  byte_put_of_ne rfl h

@[simp] theorem device_put_self {y : UInt8} : (f.put .device y.toNat).device = y :=
  byte_put_self rfl

@[simp] theorem device_put_of_ne (h : a ≠ .device) : (f.put a x).device = f.device :=
  byte_put_of_ne rfl h

@[simp] theorem control_put_self {y : UInt8} : (f.put .control y.toNat).control = y :=
  byte_put_self rfl

@[simp] theorem control_put_of_ne (h : a ≠ .control) : (f.put a x).control = f.control :=
  byte_put_of_ne rfl h

@[simp] theorem features_put_self {y : UInt16} : (f.put .features y.toNat).features = y := by
  change UInt16.ofNat ((f.put .features y.toNat).number .features) = y
  rw [number_put_self y.toNat_lt, UInt16.ofNat_toNat]

@[simp] theorem features_put_of_ne (h : a ≠ .features) : (f.put a x).features = f.features :=
  congrArg UInt16.ofNat (number_put_of_ne h)

@[simp] theorem count_put_self {y : UInt16} : (f.put .count y.toNat).count = y := by
  change UInt16.ofNat ((f.put .count y.toNat).number .count) = y
  rw [number_put_self y.toNat_lt, UInt16.ofNat_toNat]

@[simp] theorem count_put_of_ne (h : a ≠ .count) : (f.put a x).count = f.count :=
  congrArg UInt16.ofNat (number_put_of_ne h)

@[simp] theorem lba_put_self {y : UInt64} :
    (f.put .lba y.toNat).lba = y % 0x1000000000000 := by
  change UInt64.ofNat ((f.put .lba y.toNat).number .lba) = _
  rw [number_put, if_pos rfl]
  exact UInt64.toNat_inj.1 (by simp [Field.limit, Field.places, lbaPlaces]; omega)

@[simp] theorem lba_put_of_ne (h : a ≠ .lba) : (f.put a x).lba = f.lba :=
  congrArg UInt64.ofNat (number_put_of_ne h)

@[simp] theorem auxiliary_put_self {y : UInt32} :
    (f.put .auxiliary y.toNat).auxiliary = y := by
  change UInt32.ofNat ((f.put .auxiliary y.toNat).number .auxiliary) = y
  rw [number_put_self y.toNat_lt, UInt32.ofNat_toNat]

end HostFrame

end Ata

end DriveReach
