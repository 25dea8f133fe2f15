import DriveReach.Text.Utf8
/-!
# Text

Blanks around a text, the text fields of controller structures, and text between double quotes.
-/

namespace DriveReach.Text

/-! ## Blanks -/

/-- Unicode white space (the `White_Space` property). -/
def isBlank (c : Char) : Bool :=
  let n := c.toNat
  (9 ≤ n && n ≤ 13) || n == 0x20 || n == 0x85 || n == 0xA0 || n == 0x1680 ||
    (0x2000 ≤ n && n ≤ 0x200A) || n == 0x2028 || n == 0x2029 || n == 0x202F || n == 0x205F ||
    n == 0x3000

/-- `cs` without the characters of class `p` at its two ends. -/
def trimBy (p : Char → Bool) (cs : List Char) : List Char :=
  ((cs.dropWhile p).reverse.dropWhile p).reverse

/-- A text without white space at its two ends. -/
def trim (s : String) : String := String.ofList (trimBy isBlank s.toList)

/-! ## Fields

A text field ends at its first NUL or at its full width, and is padded with blanks. -/

/-- The text of a field: what stands before the first NUL, without blanks around it. -/
def field (b : Bytes) : String :=
  String.ofList (trimBy isBlank (Utf8.decode (b.takeWhile (· ≠ 0))))

/-- `needle` stands somewhere in a text. -/
def occurs (needle : List Char) : List Char → Bool
  | [] => needle.isEmpty
  | c :: cs => needle.isPrefixOf (c :: cs) || occurs needle cs

/-! ## Quotation -/

/-- A character as it stands between double quotes, where a backslash stands before each double
quote and backslash; the texts quoted here are printable ASCII. -/
def escape (c : Char) : List Char := if c = '\x22' ∨ c = '\x5c' then ['\x5c', c] else [c]

/-- `s` between double quotes. -/
def quote (s : String) : String := String.ofList ('\x22' :: (s.toList.flatMap escape ++ ['\x22']))

end DriveReach.Text
