import DriveReach.Bytes
/-!
# Hexadecimal text

Bytes as two digits each, with lower-case or upper-case letters, and numbers with the `0x` mark.
-/

namespace DriveReach.Hex

/-- The lower-case digit of a number below 16. -/
def digit (n : Nat) : Char := (Nat.digitChar n)

/-- A byte as two lower-case digits. -/
def byte (b : UInt8) : String := String.ofList [digit (b.toNat / 16), digit (b.toNat % 16)]

/-- A byte as two upper-case digits. -/
def upperByte (b : UInt8) : String :=
  String.ofList [(digit (b.toNat / 16)).toUpper, (digit (b.toNat % 16)).toUpper]

/-- A byte as `0x` and two lower-case digits. -/
def marked (b : UInt8) : String := "0x" ++ byte b

/-- A byte as `0x` and two upper-case digits. -/
def upperMarked (b : UInt8) : String := "0x" ++ upperByte b

/-- A number in lower-case digits, without leading zeros. -/
def number (n : Nat) : String := String.ofList (Nat.toDigits 16 n)

/-- A number in lower-case digits, filled up with zeros to four. -/
def padded4 (n : Nat) : String :=
  let digits := Nat.toDigits 16 n
  String.ofList (List.replicate (4 - digits.length) '0' ++ digits)

/-- Bytes in order, two lower-case digits each. -/
def string (b : Bytes) : String := String.join (b.map byte)

end DriveReach.Hex
