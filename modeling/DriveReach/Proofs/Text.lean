import DriveReach.Text
import DriveReach.Text.Utf8
import Mathlib.Data.List.DropRight
/-!
# Texts without blanks

A text that was cut free of blanks at its two ends has none left there (`trim_trim`, `trimBy_ends`);
what was cut off were blanks (`exists_trimBy`), and the characters of a class that were put around a
text are cut off again (`trimBy_append`). ASCII is read byte by byte (`decode_of_ascii`).
-/

set_option autoImplicit false

namespace DriveReach.Text

theorem dropWhile_trimBy (p : Char → Bool) (cs : List Char) :
    (trimBy p cs).dropWhile p = trimBy p cs := by
  rw [List.dropWhile_eq_self_iff]
  intro hl
  -- what is left starts as the text without its leading blanks does
  have hpre : trimBy p cs <+: cs.dropWhile p := List.rdropWhile_prefix _ _
  have hlen : 0 < (cs.dropWhile p).length := hl.trans_le hpre.length_le
  rw [hpre.getElem hl]
  exact List.dropWhile_eq_self_iff.1 (List.dropWhile_idempotent p cs) hlen

theorem trimBy_trimBy (p : Char → Bool) (cs : List Char) :
    trimBy p (trimBy p cs) = trimBy p cs := by
  change ((trimBy p cs).dropWhile p).rdropWhile p = _
  rw [dropWhile_trimBy]
  exact List.rdropWhile_idempotent p _

theorem trim_trim (s : String) : trim (trim s) = trim s := by
  rw [trim, trim, String.toList_ofList, trimBy_trimBy]

/-! ## Around a text -/

section
variable {p q : Char → Bool} {front cs tail : List Char}

theorem dropWhile_congr (h : ∀ c ∈ cs, p c = q c) : cs.dropWhile p = cs.dropWhile q := by
  induction cs with
  | nil => rfl
  | cons c cs ih =>
    rw [List.dropWhile_cons, List.dropWhile_cons, h c List.mem_cons_self,
      ih fun d hd => h d (List.mem_cons_of_mem c hd)]

theorem trimBy_congr (h : ∀ c ∈ cs, p c = q c) : trimBy p cs = trimBy q cs := by
  rw [trimBy, trimBy, dropWhile_congr h]
  refine congrArg _ (dropWhile_congr fun c hc => h c ?_)
  exact (List.dropWhile_suffix q).subset (List.mem_reverse.1 hc)

/-- Only a text of nothing but the class is cut off whole. -/
theorem trimBy_eq_nil_iff : trimBy p cs = [] ↔ ∀ c ∈ cs, p c = true := by
  rw [trimBy, List.reverse_eq_nil_iff, List.dropWhile_eq_nil_iff]
  constructor
  · intro h c hc
    rw [← List.takeWhile_append_dropWhile (p := p) (l := cs), List.mem_append] at hc
    rcases hc with hc | hc
    · exact List.mem_takeWhile_imp hc
    · exact h c (List.mem_reverse.2 hc)
  · intro h c hc
    exact h c ((List.dropWhile_suffix p).subset (List.mem_reverse.1 hc))

/-- What is put around a text is cut off again. -/
theorem trimBy_append (hfront : ∀ c ∈ front, p c = true) (htail : ∀ c ∈ tail, p c = true) :
    trimBy p (front ++ cs ++ tail) = trimBy p cs := by
  rw [trimBy, trimBy, List.append_assoc, List.dropWhile_append_of_pos hfront, List.dropWhile_append]
  cases h : (cs.dropWhile p).isEmpty with
  | true =>
    rw [if_pos rfl, List.dropWhile_eq_nil_iff.2 htail, List.isEmpty_iff.1 h]
  | false =>
    rw [if_neg nofun, List.reverse_append,
      List.dropWhile_append_of_pos fun c hc => htail c (List.mem_reverse.1 hc)]

/-- A text is what was cut off around it, and what is left. -/
theorem exists_trimBy (p : Char → Bool) (cs : List Char) : ∃ front tail : List Char,
    cs = front ++ trimBy p cs ++ tail ∧ (∀ c ∈ front, p c = true) ∧ ∀ c ∈ tail, p c = true := by
  refine ⟨cs.takeWhile p, (cs.dropWhile p).rtakeWhile p, ?_, ?_, ?_⟩
  · have hback : trimBy p cs ++ (cs.dropWhile p).rtakeWhile p = cs.dropWhile p :=
      List.rdropWhile_append_rtakeWhile
    rw [List.append_assoc, hback, List.takeWhile_append_dropWhile]
  · exact fun c hc => List.mem_takeWhile_imp hc
  · exact fun c hc => List.mem_rtakeWhile_imp hc

/-- What is left neither begins nor ends with the class. -/
theorem trimBy_ends {c : Char} (h : (trimBy p cs).head? = some c ∨ (trimBy p cs).getLast? = some c) :
    p c = false := by
  rw [Bool.eq_false_iff]
  rcases h with h | h
  · have hkept : (trimBy p cs).dropWhile p = trimBy p cs := dropWhile_trimBy p cs
    obtain ⟨rest, hrest⟩ := List.head?_eq_some_iff.1 h
    rw [hrest] at hkept
    exact List.dropWhile_eq_self_iff.1 hkept (Nat.succ_pos _)
  · have hne : trimBy p cs ≠ [] := by
      intro hnil
      rw [hnil] at h
      cases h
    rw [List.getLast?_eq_some_getLast hne] at h
    rw [← Option.some.inj h]
    exact List.rdropWhile_last_not p (cs.dropWhile p) hne

end

/-! ## ASCII -/

/-- The character with a code. -/
def charOf (x : UInt8) : Char := Char.ofNat x.toNat

/-- Bytes below 80h are characters by themselves. -/
theorem decode_of_ascii {b : Bytes} (h : ∀ x ∈ b, x < 0x80) : Utf8.decode b = b.map charOf := by
  induction b with
  | nil => rfl
  | cons x b ih =>
    obtain ⟨hx, hb⟩ := List.forall_mem_cons.1 h
    have hlead : Utf8.lead x = (some (Char.ofNat x.toNat), .lead) := if_pos hx
    rw [Utf8.decode, Utf8.scan, hlead]
    exact congrArg _ (ih hb)

end DriveReach.Text
