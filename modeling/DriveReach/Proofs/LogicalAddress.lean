import DriveReach.Proofs.LogicalAddress.Grammar
/-!
# Handles are read as they are written

The printer writes numbers without leading zeros, and the reader takes them with any number of them.

* `toDigits_eq_trimZeros`: digits are those of their value, but for leading zeros.
* `Spelling.text_address`: the address of a spelling is printed as the spelling without its leading
  zeros.
* `parse_text`: the handle of an address is read as the address.
* `base_of_parse`: a handle that can be read names no empty base, so that its address can be printed
  and read again.
* `printed_and_read`: printing and reading are inverse, from either side.
-/

set_option autoImplicit false

namespace DriveReach.LogicalAddress

/-! ## Leading zeros -/

/-- The digits without leading zeros. The last digit stays, whatever it is. -/
def trimZeros : List Char → List Char
  | '0' :: c :: cs => trimZeros (c :: cs)
  | cs => cs

/-- The value of a digit is below ten, and it is the digit of its value. -/
theorem digitChar_of_isDigit {c : Char} (hc : c.isDigit = true) :
    c.toNat - '0'.toNat < 10 ∧ (c.toNat - '0'.toNat).digitChar = c := by
  have hrange : 48 ≤ c.toNat ∧ c.toNat ≤ 57 := by
    simpa [Char.isDigit, Char.le_def, UInt32.le_iff_toNat_le] using hc
  have htable : ∀ n < 10, n.digitChar = Char.ofNat (n + 48) := by decide
  have hlt : c.toNat - 48 < 10 := by omega
  refine ⟨hlt, (htable _ hlt).trans ?_⟩
  rw [Nat.sub_add_cancel hrange.1, Char.ofNat_toNat]

/-- Digits behind a number that is not zero are digits of the whole. -/
theorem toDigits_ofDigitChars {n : Nat} (hn : 0 < n) {cs : List Char}
    (hdigits : ∀ c ∈ cs, c.isDigit = true) :
    Nat.toDigits 10 (Nat.ofDigitChars 10 cs n) = Nat.toDigits 10 n ++ cs := by
  -- the number in front grows by a digit, so it varies with the digits that are left
  induction cs generalizing n with
  | nil => rw [Nat.ofDigitChars_nil, List.append_nil]
  | cons c cs ih =>
    obtain ⟨hlt, hchar⟩ := digitChar_of_isDigit (hdigits c List.mem_cons_self)
    have hpos : 0 < 10 * n + (c.toNat - '0'.toNat) := by omega
    calc Nat.toDigits 10 (Nat.ofDigitChars 10 (c :: cs) n)
        = Nat.toDigits 10 (10 * n + (c.toNat - '0'.toNat)) ++ cs := by
          rw [Nat.ofDigitChars_cons]
          exact ih hpos fun d hd => hdigits d (List.mem_cons_of_mem c hd)
      _ = (Nat.toDigits 10 n ++ [c]) ++ cs := by
          rw [← Nat.toDigits_append_toDigits (by decide) hn hlt, Nat.toDigits_of_lt_base hlt, hchar]
      _ = Nat.toDigits 10 n ++ c :: cs := by rw [List.append_assoc, List.singleton_append]

/-- Digits are those of their value, but for leading zeros. -/
theorem toDigits_eq_trimZeros {cs : List Char} (hne : cs ≠ [])
    (hdigits : ∀ c ∈ cs, c.isDigit = true) :
    Nat.toDigits 10 (Nat.ofDigitChars 10 cs 0) = trimZeros cs := by
  fun_induction trimZeros cs with
  | case1 c cs ih =>
    rw [Nat.ofDigitChars_cons]
    exact ih (List.cons_ne_nil c cs) fun d hd => hdigits d (List.mem_cons_of_mem _ hd)
  | case2 cs hcanonical =>
    obtain ⟨c, cs, rfl⟩ := List.exists_cons_of_ne_nil hne
    obtain ⟨hlt, hchar⟩ := digitChar_of_isDigit (hdigits c List.mem_cons_self)
    have hfirst : Nat.toDigits 10 (c.toNat - '0'.toNat) = [c] := by
      rw [Nat.toDigits_of_lt_base hlt, hchar]
    rw [Nat.ofDigitChars_cons, Nat.mul_zero, Nat.zero_add]
    cases cs with
    | nil => exact hfirst
    | cons d cs =>
      have hpos : 0 < c.toNat - '0'.toNat := by
        apply Nat.pos_of_ne_zero
        intro hvalue
        have hzero : c = '0' := by
          rw [← hchar, hvalue]
          rfl
        exact hcanonical d cs (by rw [hzero])
      rw [toDigits_ofDigitChars hpos fun e he => hdigits e (List.mem_cons_of_mem c he), hfirst]
      rfl

/-! ## Spellings without leading zeros -/

/-- The numeral without leading zeros. -/
def Numeral.trimmed {bound : Nat} (n : Numeral bound) : Numeral bound where
  digits := trimZeros n.digits
  nonempty := by
    rw [← toDigits_eq_trimZeros n.nonempty n.isDigit]
    exact (Numeral.ofNat n.value n.value_lt).nonempty
  isDigit := by
    rw [← toDigits_eq_trimZeros n.nonempty n.isDigit]
    exact (Numeral.ofNat n.value n.value_lt).isDigit
  below := by
    rw [← toDigits_eq_trimZeros n.nonempty n.isDigit]
    exact (Numeral.ofNat n.value n.value_lt).below

/-- A number is printed as its numerals without their leading zeros. -/
theorem Numeral.toString_value {bound : Nat} (n : Numeral bound) :
    toString n.value = String.ofList n.trimmed.digits := by
  rw [Nat.toString_eq_ofList_toDigits]
  exact congrArg String.ofList (toDigits_eq_trimZeros n.nonempty n.isDigit)

theorem Numeral.value_trimmed {bound : Nat} (n : Numeral bound) : n.trimmed.value = n.value := by
  show Nat.ofDigitChars 10 (trimZeros n.digits) 0 = n.value
  rw [← toDigits_eq_trimZeros n.nonempty n.isDigit, Nat.ofDigitChars_ten_toDigits]
  rfl

namespace Spelling

/-- The spelling without leading zeros in its numbers. -/
def trimmed (h : Spelling) : Spelling where
  controller := h.controller.trimmed
  alternate := h.alternate
  port := h.port.trimmed
  phy := h.phy.trimmed
  lun := h.lun.trimmed
  base := h.base

theorem address_trimmed (h : Spelling) : h.trimmed.address = h.address := by
  rw [address_eq, address_eq]
  simp only [trimmed, Numeral.value_trimmed]

/-- The address of a spelling is printed without leading zeros, and else as it is spelled. -/
theorem text_address (h : Spelling) : h.address.text = h.trimmed.text := by
  have hcontroller : h.address.controller.toNat = h.controller.value := UInt32.toNat_ofNatLT
  have hport : h.address.port.toNat = h.port.value := UInt8.toNat_ofNatLT
  have hphy : h.address.phy.toNat = h.phy.value := UInt8.toNat_ofNatLT
  have hlun : h.address.lun.toNat = h.lun.value := UInt8.toNat_ofNatLT
  rw [LogicalAddress.text, Spelling.text, hcontroller, hport, hphy, hlun]
  simp only [Numeral.toString_value, handleWord, address, trimmed]
  cases h.base <;> rfl

end Spelling

/-- Every address has a spelling, unless it names an empty base. -/
theorem exists_spelling {a : LogicalAddress} (hb : a.base ≠ some "") :
    ∃ h : Spelling, h.address = a := by
  obtain ⟨controller, port, phy, lun, alternate, base⟩ := a
  have hbase : ∃ spelled : Option {base : String // base ≠ ""}, spelled.map (·.val) = base := by
    cases base with
    | none => exact ⟨none, rfl⟩
    | some base => exact ⟨some ⟨base, fun hempty => hb (congrArg some hempty)⟩, rfl⟩
  obtain ⟨spelled, rfl⟩ := hbase
  refine ⟨⟨.ofNat controller.toNat (UInt32.toNat_lt _), alternate,
    .ofNat port.toNat (UInt8.toNat_lt _), .ofNat phy.toNat (UInt8.toNat_lt _),
    .ofNat lun.toNat (UInt8.toNat_lt _), spelled⟩, ?_⟩
  rw [Spelling.address_eq]
  simp only [Numeral.value_ofNat, UInt32.ofNat_toNat, UInt8.ofNat_toNat]

/-! ## Printing and reading -/

/-- **A handle is read as it is written.** -/
theorem parse_text {a : LogicalAddress} (hb : a.base ≠ some "") : parse a.text = .ok a := by
  obtain ⟨h, rfl⟩ := exists_spelling hb
  exact parse_eq_ok_iff.2 ⟨h.trimmed, h.text_address.symm, h.address_trimmed⟩

/-- A handle that can be read names no empty base. -/
theorem base_of_parse {handle : String} {a : LogicalAddress} (h : parse handle = .ok a) :
    a.base ≠ some "" := by
  obtain ⟨spelling, -, rfl⟩ := parse_eq_ok_iff.1 h
  exact spelling.base_address

/-- **Printing and reading are inverse.** Every address that names no empty base is read from its
text, whatever characters its base has. A text that is read as an address is printed again as it
was, but for the leading zeros of its numbers, and what is printed is read as the same address. -/
theorem printed_and_read :
    (∀ a : LogicalAddress, a.base ≠ some "" → parse a.text = .ok a) ∧
      ∀ (handle : String) (a : LogicalAddress), parse handle = .ok a →
        parse a.text = .ok a ∧ ∃ h : Spelling, h.text = handle ∧ h.trimmed.text = a.text := by
  refine ⟨fun a hb => parse_text hb, ?_⟩
  intro handle a hread
  refine ⟨parse_text (base_of_parse hread), ?_⟩
  obtain ⟨h, htext, rfl⟩ := parse_eq_ok_iff.1 hread
  exact ⟨h, htext, h.text_address.symm⟩

/-- A base that looks like the rest of a handle, and leading zeros in all fields but one. -/
theorem printed_and_read_markedBase :
    let a : LogicalAddress := ⟨7, 0, 12, 3, true, some "N:00::1"⟩
    a.base ≠ some "" ∧ parse a.text = .ok a ∧ parse "csmi:007:N:00:012:3:N:00::1" = .ok a ∧
      ∃ h : Spelling, h.text = "csmi:007:N:00:012:3:N:00::1" ∧
        h.trimmed.text = "csmi:7:N:0:12:3:N:00::1" := by
  intro a
  have hbase : a.base ≠ some "" := by decide
  let spelling : Spelling := {
    controller := ⟨['0', '0', '7'], by decide, List.all_eq_true.1 rfl, by decide⟩
    alternate := true
    port := ⟨['0', '0'], by decide, List.all_eq_true.1 rfl, by decide⟩
    phy := ⟨['0', '1', '2'], by decide, List.all_eq_true.1 rfl, by decide⟩
    lun := ⟨['3'], by decide, List.all_eq_true.1 rfl, by decide⟩
    base := some ⟨"N:00::1", by decide⟩ }
  have hread : parse "csmi:007:N:00:012:3:N:00::1" = .ok a :=
    parse_eq_ok_iff.2 ⟨spelling, by decide +kernel, by decide +kernel⟩
  have htext : a.text = "csmi:7:N:0:12:3:N:00::1" := by decide +kernel
  obtain ⟨-, h, hspelled, hprinted⟩ := printed_and_read.2 _ a hread
  exact ⟨hbase, printed_and_read.1 a hbase, hread, h, hspelled, hprinted.trans htext⟩

end DriveReach.LogicalAddress
