/-!
# Byte strings

Everything on the wire is a list of bytes. A structure is read from it by offset and written into
it by offset; both directions use the functions here, so a layout is stated once by its offsets.

* `Bytes.byteAt`, `Bytes.slice`, `Bytes.fixed`: reading. A byte past the end reads as zero.
* `Bytes.put`: writing in place. It never changes the length.
* `Bytes.ofLE`, `Bytes.toLE`: numbers as little-endian bytes, and `octet`, one byte of a number.
* `Bytes.numberAt`, `Bytes.setNumber`: numbers whose bytes are scattered over a string of fixed
  length.
-/

namespace DriveReach

/-- A string of bytes. -/
abbrev Bytes := List UInt8

/-- Byte `k` of a number, counted from the least significant one. -/
def octet (k x : Nat) : UInt8 := UInt8.ofNat (x >>> (8 * k))

namespace Bytes

/-! ## Reading -/

/-- `n` zero bytes. -/
def zeros (n : Nat) : Bytes := List.replicate n 0

/-- The byte at offset `i`, zero past the end. -/
def byteAt (b : Bytes) (i : Nat) : UInt8 := b.getD i 0

/-- At most `len` bytes from offset `off`. -/
def slice (b : Bytes) (off len : Nat) : Bytes := (b.drop off).take len

/-- Exactly `n` bytes from offset `off`, zero padded past the end. -/
def fixed (n : Nat) (b : Bytes) (off : Nat) : Vector UInt8 n :=
  Vector.ofFn fun i => byteAt b (off + i)

/-- Consecutive pieces of `n` bytes from the front, at most `count` of them; a short rest is
dropped. -/
def chunks (n : Nat) : Nat → Bytes → List Bytes
  | 0, _ => []
  | count + 1, b => if n ≤ b.length then b.take n :: chunks n count (b.drop n) else []

/-! ## Writing -/

/-- `b` with `p` written over it from offset `off`; what would fall past the end is dropped. -/
def put (b : Bytes) (off : Nat) (p : Bytes) : Bytes :=
  b.take off ++ (p.take (b.length - off) ++ b.drop (off + p.length))

/-- What `write` makes of a buffer of at least `need` bytes; nothing for a shorter one. -/
def within (need : Nat) (write : Bytes → Bytes) (b : Bytes) : Option Bytes :=
  if need ≤ b.length then some (write b) else none

/-! ## Numbers -/

/-- The number whose little-endian bytes are given. -/
def ofLE : Bytes → Nat
  | [] => 0
  | b :: bs => b.toNat + 256 * ofLE bs

/-- The lowest `k` bytes of a number, least significant first. -/
def toLE : Nat → Nat → Bytes
  | 0, _ => []
  | k + 1, x => UInt8.ofNat x :: toLE k (x / 256)

/-- The number whose big-endian bytes are given. -/
def ofBE (b : Bytes) : Nat := ofLE b.reverse

/-- The lowest `k` bytes of a number, most significant first. -/
def toBE (k x : Nat) : Bytes := (toLE k x).reverse

/-- The little-endian 16-bit number at an offset. -/
def le16 (b : Bytes) (off : Nat) : UInt16 := UInt16.ofNat (ofLE (fixed 2 b off).toList)

/-- The little-endian 32-bit number at an offset. -/
def le32 (b : Bytes) (off : Nat) : UInt32 := UInt32.ofNat (ofLE (fixed 4 b off).toList)

/-- The little-endian 64-bit number at an offset. -/
def le64 (b : Bytes) (off : Nat) : UInt64 := UInt64.ofNat (ofLE (fixed 8 b off).toList)

/-- The big-endian 16-bit number at an offset. -/
def be16 (b : Bytes) (off : Nat) : UInt16 := UInt16.ofNat (ofBE (fixed 2 b off).toList)

/-! ## Strings of fixed length -/

/-- Byte `i`, zero past the end. -/
def nth {n : Nat} (v : Vector UInt8 n) (i : Nat) : UInt8 := v[i]?.getD 0

/-- The number whose bytes stand at the given places, least significant first. -/
def numberAt {n : Nat} (v : Vector UInt8 n) (places : List Nat) : Nat := ofLE (places.map (nth v))

/-- The string with the lowest bytes of a number at the given places, least significant first. -/
def setNumber {n : Nat} (v : Vector UInt8 n) : List Nat → Nat → Vector UInt8 n
  | [], _ => v
  | i :: places, x => setNumber (v.setIfInBounds i (UInt8.ofNat x)) places (x / 256)

/-! ## What writing keeps -/

@[simp] theorem length_zeros (n : Nat) : (zeros n).length = n := by simp [zeros]

@[simp] theorem length_put (b : Bytes) (off : Nat) (p : Bytes) :
    (put b off p).length = b.length := by
  simp [put]; omega

@[simp] theorem length_toLE : ∀ k x : Nat, (toLE k x).length = k
  | 0, _ => rfl
  | k + 1, x => by simp [toLE, length_toLE k]

/-- Reading back the `k` lowest bytes of a number gives it modulo the `k`-th power of 256. -/
theorem ofLE_toLE : ∀ k x : Nat, ofLE (toLE k x) = x % Nat.pow 256 k
  | 0, x => by simp [toLE, ofLE, Nat.mod_one]
  | k + 1, x => by
    have hx : (UInt8.ofNat x).toNat = x % 256 := by simp
    rw [toLE, ofLE, ofLE_toLE k, hx]
    change x % 256 + 256 * (x / 256 % Nat.pow 256 k) = x % (Nat.pow 256 k * 256)
    rw [Nat.mul_comm (Nat.pow 256 k), Nat.mod_mul]

/-- A byte that is set reads back, and no other byte changes. -/
theorem nth_setIfInBounds {n : Nat} (v : Vector UInt8 n) (i j : Nat) (b : UInt8) :
    nth (v.setIfInBounds i b) j = if i = j ∧ i < n then b else nth v j := by
  simp only [nth, Vector.getElem?_setIfInBounds]
  by_cases hij : i = j
  · subst hij
    by_cases hi : i < n <;> simp [hi]
  · simp [hij]

end Bytes

end DriveReach
