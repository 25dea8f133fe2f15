import DriveReach.Bytes
/-!
# UTF-8 with replacement

Text in device fields is read as UTF-8. A byte sequence that is not UTF-8 is replaced: each longest
part that some valid character could begin with, or else each single byte, becomes one U+FFFD.

The reader is a scan over the bytes whose state says which continuation byte may come next.
-/

namespace DriveReach.Utf8

/-- What the scan expects next. -/
inductive Expect where
  /-- The first byte of a character. -/
  | lead
  /-- A continuation byte from `low` to `high`, with `more` further ones behind it; `code` holds
  the bits of the character read so far. -/
  | continuation (code more : Nat) (low high : UInt8)

/-- The character U+FFFD. -/
def replacement : Char := '\ufffd'

/-- What a lead byte begins: a whole character, a sequence, or nothing. The ranges of the byte
behind `E0`, `ED`, `F0` and `F4` leave out overlong forms, surrogates and numbers past U+10FFFF. -/
def lead (b : UInt8) : Option Char × Expect :=
  if b < 0x80 then (some (Char.ofNat b.toNat), .lead)
  else if b < 0xC2 then (some replacement, .lead)
  else if b < 0xE0 then (none, .continuation (b.toNat % 32) 0 0x80 0xBF)
  else if b = 0xE0 then (none, .continuation 0 1 0xA0 0xBF)
  else if b = 0xED then (none, .continuation 13 1 0x80 0x9F)
  else if b < 0xF0 then (none, .continuation (b.toNat % 16) 1 0x80 0xBF)
  else if b = 0xF0 then (none, .continuation 0 2 0x90 0xBF)
  else if b < 0xF4 then (none, .continuation (b.toNat % 8) 2 0x80 0xBF)
  else if b = 0xF4 then (none, .continuation 4 2 0x80 0x8F)
  else (some replacement, .lead)

/-- The characters of a byte string from a state of the scan. -/
def scan : Expect → Bytes → List Char
  | .lead, [] => []
  | .continuation .., [] => [replacement]
  | .lead, b :: bs => (lead b).1.toList ++ scan (lead b).2 bs
  | .continuation code more low high, b :: bs =>
    if low ≤ b ∧ b ≤ high then
      let code := code * 64 + b.toNat % 64
      match more with
      | 0 => Char.ofNat code :: scan .lead bs
      | more + 1 => scan (.continuation code more 0x80 0xBF) bs
    else replacement :: ((lead b).1.toList ++ scan (lead b).2 bs)

/-- The characters of a byte string. -/
def decode (b : Bytes) : List Char := scan .lead b

end DriveReach.Utf8
