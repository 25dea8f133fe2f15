import DriveReach.LogicalAddress
/-!
# The grammar of handles

A `Spelling` is the syntax tree of a handle: four `Numeral`s, the mark of the alternate form and a
base. Whatever can be built is well formed, so the trees are the grammar, and the reader can be
compared with it.

* `splitField_eq_iff`: a field ends at the first colon.
* `takeNumber_eq_ok`: a number is taken exactly when the next field is a numeral.
* `readTail_eq_ok`, `parseChars_eq_ok`, `parse_eq_ok_iff`: the reader accepts exactly the texts of
  the spellings, and gives their addresses.
* `read_exactly_spellings`: the same with the fault of every other text.
-/

set_option autoImplicit false

namespace DriveReach.LogicalAddress

/-! ## Numerals -/

/-- Decimal digits that spell a number below a bound. Leading zeros are allowed. -/
structure Numeral (bound : Nat) where
  digits : List Char
  nonempty : digits ≠ []
  isDigit : ∀ c ∈ digits, c.isDigit = true
  below : Nat.ofDigitChars 10 digits 0 < bound

namespace Numeral

variable {bound : Nat}

/-- The number that is spelled. -/
def value (n : Numeral bound) : Nat := Nat.ofDigitChars 10 n.digits 0

theorem value_lt (n : Numeral bound) : n.value < bound := n.below

theorem decimalValue_digits (n : Numeral bound) : decimalValue n.digits = n.value := rfl

theorem notMem_digits (n : Numeral bound) {c : Char} (hc : c.isDigit = false) : c ∉ n.digits := by
  intro hmem
  have hdigit : c.isDigit = true := n.isDigit c hmem
  rw [hc] at hdigit
  cases hdigit

/-- The numeral of a number, without leading zeros. -/
def ofNat (n : Nat) (h : n < bound) : Numeral bound where
  digits := Nat.toDigits 10 n
  nonempty := Nat.toDigits_ne_nil
  isDigit := fun _ hc => Nat.isDigit_of_mem_toDigits (by decide) (by decide) hc
  below := by rwa [Nat.ofDigitChars_ten_toDigits]

@[simp] theorem value_ofNat {n : Nat} (h : n < bound) : (ofNat n h).value = n :=
  Nat.ofDigitChars_ten_toDigits

end Numeral

/-! ## Spellings -/

/-- The parts of a handle. -/
structure Spelling where
  controller : Numeral UInt32.size
  /-- The mark `N` stands behind the controller. -/
  alternate : Bool
  /-- The port, or the path in the alternate form. -/
  port : Numeral UInt8.size
  /-- The phy, or the target in the alternate form. -/
  phy : Numeral UInt8.size
  lun : Numeral UInt8.size
  base : Option {base : String // base ≠ ""}

namespace Spelling

/-- The handle that has these parts. -/
def text (h : Spelling) : String :=
  "csmi:" ++ String.ofList h.controller.digits ++ (if h.alternate then ":N" else "") ++
    ":" ++ String.ofList h.port.digits ++ ":" ++ String.ofList h.phy.digits ++
    ":" ++ String.ofList h.lun.digits ++
    match h.base with
    | some base => ":" ++ base.val
    | none => ""

/-- The address with the values of the parts, none of which is cut. -/
def address (h : Spelling) : LogicalAddress where
  controller := .ofNatLT h.controller.value h.controller.value_lt
  port := .ofNatLT h.port.value h.port.value_lt
  phy := .ofNatLT h.phy.value h.phy.value_lt
  lun := .ofNatLT h.lun.value h.lun.value_lt
  alternate := h.alternate
  base := h.base.map (·.val)

/-- The reader's conversions, which cut to the size, cut nothing. -/
theorem address_eq (h : Spelling) : h.address =
    ⟨UInt32.ofNat h.controller.value, UInt8.ofNat h.port.value, UInt8.ofNat h.phy.value,
      UInt8.ofNat h.lun.value, h.alternate, h.base.map (·.val)⟩ := by
  rw [address, UInt32.ofNatLT_eq_ofNat, UInt8.ofNatLT_eq_ofNat, UInt8.ofNatLT_eq_ofNat,
    UInt8.ofNatLT_eq_ofNat]

theorem base_address (h : Spelling) : h.address.base ≠ some "" := by
  cases hb : h.base with
  | none => simp [address, hb]
  | some base =>
    have hne : base.val ≠ "" := base.property
    simpa [address, hb] using hne

end Spelling

/-! ## Fields -/

/-- What stands behind a field: nothing, or a colon and the rest. -/
def behind : Option (List Char) → List Char
  | none => []
  | some cs => ':' :: cs

/-- A field is what stands before the first colon. -/
theorem splitField_eq_iff {cs field : List Char} {rest : Option (List Char)} :
    splitField cs = (field, rest) ↔ ':' ∉ field ∧ cs = field ++ behind rest := by
  constructor
  · intro h
    induction cs generalizing field with
    | nil =>
      cases h
      exact ⟨List.not_mem_nil, rfl⟩
    | cons c cs ih =>
      rw [splitField] at h
      split at h
      · rename_i hc
        cases h
        subst hc
        exact ⟨List.not_mem_nil, rfl⟩
      · rename_i hc
        cases h
        obtain ⟨hcolon, hcs⟩ := ih rfl
        refine ⟨?_, congrArg (c :: ·) hcs⟩
        rw [List.mem_cons, not_or]
        exact ⟨Ne.symm hc, hcolon⟩
  · rintro ⟨hcolon, rfl⟩
    induction field with
    | nil => cases rest <;> rfl
    | cons c field ih =>
      rw [List.mem_cons, not_or] at hcolon
      rw [List.cons_append, splitField, if_neg (Ne.symm hcolon.1), ih hcolon.2]

theorem splitField_numeral {bound : Nat} (n : Numeral bound) (rest : Option (List Char)) :
    splitField (n.digits ++ behind rest) = (n.digits, rest) :=
  splitField_eq_iff.2 ⟨n.notMem_digits (by decide), rfl⟩

/-- A number is read exactly from its numerals. -/
theorem readNumber_eq_ok {field : Field} {bound n : Nat} {cs : List Char} :
    readNumber field bound cs = .ok n ↔ ∃ m : Numeral bound, m.digits = cs ∧ m.value = n := by
  constructor
  · intro h
    rw [readNumber] at h
    split at h
    · cases h
    rename_i hform
    split at h
    · rename_i hlt
      cases h
      have hne : cs ≠ [] := by
        intro hnil
        simp [hnil] at hform
      have hdigits : ∀ c ∈ cs, c.isDigit = true := by simpa [hne] using hform
      exact ⟨⟨cs, hne, hdigits, hlt⟩, rfl, rfl⟩
    · cases h
  · rintro ⟨m, rfl, rfl⟩
    have hne : m.digits.isEmpty = false := List.isEmpty_eq_false_iff.2 m.nonempty
    have hdigits : m.digits.all Char.isDigit = true := List.all_eq_true.2 m.isDigit
    have hlt : m.value < bound := m.value_lt
    simp only [readNumber, hne, hdigits, m.decimalValue_digits, hlt, Bool.not_true, Bool.or_false,
      Bool.false_eq_true, if_false, if_true]

theorem takeNumber_eq_ok {field : Field} {bound n : Nat} {rest rest' : Option (List Char)} :
    takeNumber field bound rest = .ok (n, rest') ↔
      ∃ m : Numeral bound, rest = some (m.digits ++ behind rest') ∧ m.value = n := by
  constructor
  · intro h
    cases rest with
    | none => cases h
    | some cs =>
      rw [takeNumber] at h
      cases hread : readNumber field bound (splitField cs).1 with
      | error fault =>
        rw [hread] at h
        cases h
      | ok number =>
        rw [hread] at h
        cases h
        obtain ⟨m, hdigits, hvalue⟩ := readNumber_eq_ok.1 hread
        have hsplit : splitField cs = (m.digits, (splitField cs).2) := by rw [hdigits]
        exact ⟨m, congrArg some (splitField_eq_iff.1 hsplit).2, hvalue⟩
  · rintro ⟨m, rfl, rfl⟩
    rw [takeNumber, splitField_numeral, readNumber_eq_ok.2 ⟨m, rfl, rfl⟩]
    rfl

/-! ## Handles -/

namespace Spelling

/-- The base with its colon in front. -/
def baseRest (h : Spelling) : Option (List Char) := h.base.map (·.val.toList)

/-- Port, phy, unit and base in text. -/
def tail (h : Spelling) : List Char :=
  h.port.digits ++ behind (some (h.phy.digits ++ behind (some (h.lun.digits ++
    behind h.baseRest))))

theorem toList_text (h : Spelling) :
    h.text.toList = 'c' :: 's' :: 'm' :: 'i' :: ':' :: (h.controller.digits ++
      behind (some ((if h.alternate then ['N', ':'] else []) ++ h.tail))) := by
  cases ha : h.alternate <;> cases hb : h.base <;>
    simp [text, tail, baseRest, behind, ha, hb]

/-- The mark of the alternate form is no number. -/
theorem splitField_tail_ne (h : Spelling) (rest : Option (List Char)) :
    splitField h.tail ≠ (['N'], rest) := by
  rw [tail, splitField_numeral]
  intro heq
  have hmark : h.port.digits = ['N'] := (Prod.mk.inj heq).1
  refine h.port.notMem_digits (c := 'N') (by decide) ?_
  rw [hmark]
  exact List.mem_singleton_self 'N'

end Spelling

/-- What is in front comes to a value, and so does what follows. -/
theorem bind_eq_ok {ε α β : Type} {x : Except ε α} {f : α → Except ε β} {b : β} :
    x >>= f = .ok b ↔ ∃ a, x = .ok a ∧ f a = .ok b := by
  cases x with
  | error fault => simp [bind, Except.bind]
  | ok a => simp [bind, Except.bind]

/-- The three numbers and the base are read exactly from their spellings. -/
theorem readTail_eq_ok {controller : Numeral UInt32.size} {alternate : Bool}
    {rest : Option (List Char)} {a : LogicalAddress} :
    readTail controller.value alternate rest = .ok a ↔
      ∃ h : Spelling, h.controller = controller ∧ h.alternate = alternate ∧
        rest = some h.tail ∧ h.address = a := by
  simp only [readTail, bind_eq_ok, takeNumber_eq_ok, Prod.exists]
  constructor
  · rintro ⟨_, _, ⟨port, rfl, rfl⟩, _, _, ⟨phy, rfl, rfl⟩, _, rest, ⟨lun, rfl, rfl⟩, hbase⟩
    split at hbase
    · cases hbase
      exact ⟨⟨controller, alternate, port, phy, lun, none⟩, rfl, rfl, rfl, Spelling.address_eq _⟩
    · cases hbase
    · rename_i base hne
      cases hbase
      have hbase : String.ofList base ≠ "" := by
        intro hempty
        exact hne (String.ofList_eq_empty_iff.1 hempty)
      refine ⟨⟨controller, alternate, port, phy, lun, some ⟨String.ofList base, hbase⟩⟩, rfl, rfl,
        ?_, Spelling.address_eq _⟩
      simp [Spelling.tail, Spelling.baseRest]
  · rintro ⟨h, rfl, rfl, rfl, rfl⟩
    refine ⟨_, _, ⟨h.port, rfl, rfl⟩, _, _, ⟨h.phy, rfl, rfl⟩, _, _, ⟨h.lun, rfl, rfl⟩, ?_⟩
    rw [Spelling.address_eq]
    obtain ⟨controller, alternate, port, phy, lun, base⟩ := h
    cases base with
    | none => rfl
    | some base =>
      have hne : base.val.toList ≠ [] := fun h => base.property (String.toList_eq_nil_iff.1 h)
      obtain ⟨c, cs, hcs⟩ := List.exists_cons_of_ne_nil hne
      have hbase : String.ofList (c :: cs) = base.val := hcs ▸ String.ofList_toList
      simp [Spelling.baseRest, hcs, withBase, hbase, pure, Except.pure]

theorem stripWord?_eq_some {cs rest : List Char} :
    stripWord? cs = some rest ↔ cs = 'c' :: 's' :: 'm' :: 'i' :: ':' :: rest := by
  constructor
  · intro h
    unfold stripWord? at h
    split at h
    · cases h
      rfl
    · cases h
  · rintro rfl
    rfl

/-- The text of a spelling behind the handle word, up to the end of the controller. -/
theorem takeNumber_controller (h : Spelling) :
    takeNumber .controller UInt32.size (some (h.controller.digits ++
      behind (some ((if h.alternate then ['N', ':'] else []) ++ h.tail)))) =
        .ok (h.controller.value, some ((if h.alternate then ['N', ':'] else []) ++ h.tail)) :=
  takeNumber_eq_ok.2 ⟨h.controller, rfl, rfl⟩

theorem parseChars_eq_ok {cs : List Char} {a : LogicalAddress} :
    parseChars cs = .ok a ↔ ∃ h : Spelling, h.text.toList = cs ∧ h.address = a := by
  constructor
  · intro hparse
    rw [parseChars] at hparse
    split at hparse
    · rename_i rest hword
      obtain ⟨⟨number, behindNumber⟩, hnumber, hread⟩ := bind_eq_ok.1 hparse
      obtain ⟨controller, hrest, rfl⟩ := takeNumber_eq_ok.1 hnumber
      obtain rfl : rest = controller.digits ++ behind behindNumber := Option.some.inj hrest
      rw [stripWord?_eq_some] at hword
      -- the mark of the alternate form is the whole field behind the controller
      dsimp only at hread
      split at hread
      · rename_i behindMark hmark
        obtain ⟨field, rfl, hfield⟩ := Option.map_eq_some_iff.1 hmark
        obtain ⟨-, rfl⟩ := splitField_eq_iff.1 hfield
        obtain ⟨h, rfl, halternate, rfl, rfl⟩ := readTail_eq_ok.1 hread
        refine ⟨h, ?_, rfl⟩
        rw [h.toList_text, hword, halternate]
        rfl
      · obtain ⟨h, rfl, halternate, rfl, rfl⟩ := readTail_eq_ok.1 hread
        refine ⟨h, ?_, rfl⟩
        rw [h.toList_text, hword, halternate]
        rfl
    · cases hparse
  · rintro ⟨h, rfl, rfl⟩
    have hread : readTail h.controller.value h.alternate (some h.tail) = .ok h.address :=
      readTail_eq_ok.2 ⟨h, rfl, rfl, rfl, rfl⟩
    rw [h.toList_text, parseChars]
    dsimp only [stripWord?]
    refine bind_eq_ok.2 ⟨_, takeNumber_controller h, ?_⟩
    cases ha : h.alternate with
    | true =>
      rw [ha] at hread
      exact hread
    | false =>
      rw [ha] at hread
      dsimp only [Option.map_some, Bool.false_eq_true, if_false, List.nil_append]
      split
      · rename_i rest hmark
        exact absurd (Option.some.inj hmark) (h.splitField_tail_ne rest)
      · exact hread

/-- **The reader accepts the texts of the spellings**, and gives the addresses that they name. -/
theorem parse_eq_ok_iff {handle : String} {a : LogicalAddress} :
    parse handle = .ok a ↔ ∃ h : Spelling, h.text = handle ∧ h.address = a := by
  have hparse : parse handle = .ok a ↔ parseChars handle.toList = .ok a := by
    rw [parse]
    cases parseChars handle.toList with
    | ok address => simp
    | error fault => simp
  simp only [hparse, parseChars_eq_ok, String.toList_inj]

/-- **A text is a handle exactly when it has the form** `csmi:C[:N]:A:B:L[:base]`: then it is read
as the address with the values of its parts. Any other text is a bad parameter. -/
theorem read_exactly_spellings (handle : String) :
    (∀ a, parse handle = .ok a ↔ ∃ h : Spelling, h.text = handle ∧ h.address = a) ∧
      ((∃ message, parse handle = .error (.badParameter message)) ↔
        ¬ ∃ h : Spelling, h.text = handle) := by
  refine ⟨fun a => parse_eq_ok_iff, ?_⟩
  constructor
  · rintro ⟨message, herror⟩ ⟨h, rfl⟩
    have hok : parse h.text = .ok h.address := parse_eq_ok_iff.2 ⟨h, rfl, rfl⟩
    rw [herror] at hok
    cases hok
  · intro hform
    cases hchars : parseChars handle.toList with
    | ok a =>
      obtain ⟨h, htext, -⟩ := parseChars_eq_ok.1 hchars
      exact absurd ⟨h, String.toList_inj.1 htext⟩ hform
    | error fault =>
      refine ⟨fault.message handle, ?_⟩
      rw [parse, hchars]

end DriveReach.LogicalAddress
