import DriveReach.Text.Hex
/-!
# Flag words

A word of single-bit flags, of which some have names. Bits without a name are kept in the word and
shown as a number.
-/

namespace DriveReach

/-- A named bit. -/
structure Flag where
  mask : Nat
  name : String

namespace Flag

/-- The flag's bit is set. -/
def isSet (flag : Flag) (bits : Nat) : Bool := bits &&& flag.mask == flag.mask

/-- The names of the flags of a table that are set, in the order of the table. -/
def names (table : List Flag) (bits : Nat) : List String :=
  (table.filter (·.isSet bits)).map (·.name)

/-- The bits that no flag of the table names. -/
def unnamed (table : List Flag) (bits : Nat) : Nat :=
  table.foldl (fun rest flag => if flag.isSet rest then rest - flag.mask else rest) bits

/-- The names that are set, then the unnamed bits as a number, with bars between; `0x0` for none. -/
def describe (table : List Flag) (bits : Nat) : String :=
  let rest := unnamed table bits
  let parts := names table bits ++ if rest = 0 then [] else ["0x" ++ Hex.number rest]
  if parts.isEmpty then "0x0" else String.intercalate " | " parts

end Flag

end DriveReach
