import DriveReach.Inventory.PhySet
import Mathlib.Combinatorics.Colex
import Mathlib.Data.Nat.Bitwise
/-!
# Members of a set of phys

A set of phys is a set of identifiers below 32: `contains_claim` says what a claim adds and
`claim_fst` when it is granted. Nothing else needs the bits of the word.

* `PhySet.members`, the set that a word stands for, and `PhySet.Step`, a question to it.
* `PhySet.Step.onSet_members`, `PhySet.Step.size_run`: one question.
* `PhySet.refines_set`: any number of questions, one after the other.
-/

set_option autoImplicit false

namespace DriveReach.Inventory.PhySet

theorem toNat_bit {phy : UInt8} (h : phy < 32) : (bit phy).toNat = 2 ^ phy.toNat := by
  have hlt : phy.toNat < 32 := by simpa using UInt8.lt_iff_toNat_lt.1 h
  have hpow : 2 ^ phy.toNat < 2 ^ 32 := Nat.pow_lt_pow_right (by decide) hlt
  rw [bit, UInt32.toNat_shiftLeft, UInt8.toNat_toUInt32, Nat.mod_eq_of_lt hlt, Nat.shiftLeft_eq]
  simpa using Nat.mod_eq_of_lt hpow

theorem contains_eq_testBit (s : PhySet) (phy : UInt8) :
    s.contains phy = (decide (phy < 32) && s.word.toNat.testBit phy.toNat) := by
  unfold contains
  by_cases h : phy < 32
  · have hword : (s.word &&& bit phy != 0) = s.word.toNat.testBit phy.toNat := by
      rw [Bool.eq_iff_iff, bne_iff_ne, ne_eq, ← UInt32.toNat_inj, UInt32.toNat_and, toNat_bit h,
        Nat.and_two_pow]
      cases s.word.toNat.testBit phy.toNat <;> simp
    rw [hword]
  · simp [h]

@[simp] theorem contains_empty (phy : UInt8) : empty.contains phy = false := by
  simp [contains_eq_testBit, empty]

theorem contains_claim (s : PhySet) (phy other : UInt8) :
    (s.claim phy).2.contains other = (s.contains other || decide (other = phy ∧ phy < 32)) := by
  unfold claim
  split
  · rename_i h
    have hphy : phy < 32 := by simpa using (Bool.and_eq_true_iff.1 h).1
    rw [contains_eq_testBit, contains_eq_testBit, UInt32.toNat_or, toNat_bit hphy, Nat.testBit_or,
      Nat.testBit_two_pow]
    by_cases ho : other = phy
    · subst ho
      simp [hphy]
    · have hne : phy.toNat ≠ other.toNat := fun he => ho (UInt8.toNat_inj.1 he).symm
      simp [ho, hne]
  · rename_i h
    by_cases ho : other = phy ∧ phy < 32
    · obtain ⟨rfl, hlt⟩ := ho
      have hin : s.contains other = true := by simpa [hlt] using h
      simp [hin]
    · simp [ho]

theorem claim_fst (s : PhySet) (phy : UInt8) :
    (s.claim phy).1 = decide (phy < 32 ∧ s.contains phy = false) := by
  unfold claim
  split <;> rename_i h <;> simpa using h

theorem contains_foldl_claim (phys : List UInt8) (s : PhySet) (phy : UInt8) :
    (phys.foldl (fun s p => (s.claim p).2) s).contains phy = true ↔
      s.contains phy = true ∨ phy < 32 ∧ phy ∈ phys := by
  induction phys generalizing s with
  | nil => simp
  | cons p phys ih =>
    rw [List.foldl_cons, ih, contains_claim, Bool.or_eq_true, decide_eq_true_eq, List.mem_cons]
    constructor
    · rintro ((h | ⟨rfl, h⟩) | ⟨h, hm⟩)
      · exact .inl h
      · exact .inr ⟨h, .inl rfl⟩
      · exact .inr ⟨h, .inr hm⟩
    · rintro (h | ⟨h, rfl | hm⟩)
      · exact .inl (.inl h)
      · exact .inl (.inr ⟨rfl, h⟩)
      · exact .inr ⟨h, hm⟩

/-! ## The set that a word stands for -/

/-- The members as numbers: the places of the one bits. -/
def members (s : PhySet) : Finset ℕ := s.word.toNat.bitIndices.toFinset

variable {s : PhySet} {i : ℕ}

theorem mem_members : i ∈ s.members ↔ s.word.toNat.testBit i = true := by
  rw [members, List.mem_toFinset, Nat.mem_bitIndices]

theorem lt_of_mem_members (h : i ∈ s.members) : i < 32 := by
  by_contra hge
  have hword : s.word.toNat < 2 ^ i :=
    Nat.lt_of_lt_of_le s.word.toNat_lt (Nat.pow_le_pow_right (by decide) (Nat.le_of_not_lt hge))
  rw [mem_members, Nat.testBit_lt_two_pow hword] at h
  cases h

theorem toNat_lt_iff {phy : UInt8} : phy.toNat < 32 ↔ phy < 32 := by
  rw [UInt8.lt_iff_toNat_lt]
  rfl

theorem contains_eq_mem (s : PhySet) (phy : UInt8) :
    s.contains phy = decide (phy.toNat ∈ s.members) := by
  rw [contains_eq_testBit, Bool.eq_iff_iff, Bool.and_eq_true, decide_eq_true_iff,
    decide_eq_true_iff, ← mem_members]
  exact and_iff_right_of_imp fun h => toNat_lt_iff.1 (lt_of_mem_members h)

theorem size_eq_card (s : PhySet) : s.size = s.members.card := by
  have hset :
      ((List.range 32).filter fun i => s.contains (UInt8.ofNat i)).toFinset = s.members := by
    ext i
    rw [List.mem_toFinset, List.mem_filter, List.mem_range, contains_eq_mem, decide_eq_true_iff]
    constructor
    · rintro ⟨hlt, h⟩
      rwa [UInt8.toNat_ofNat', Nat.mod_eq_of_lt (by omega)] at h
    · intro h
      have hlt := lt_of_mem_members h
      refine ⟨hlt, ?_⟩
      rwa [UInt8.toNat_ofNat', Nat.mod_eq_of_lt (by omega)]
  rw [size, ← hset, List.toFinset_card_of_nodup (List.nodup_range.filter _)]

@[simp] theorem members_empty : empty.members = ∅ := by
  ext i
  simp [mem_members, empty]

/-- The word is the sum of the bits of its members, so that none of them was lost or met another. -/
theorem toNat_word (s : PhySet) : s.word.toNat = ∑ i ∈ s.members, 2 ^ i :=
  (Finset.sum_toFinset_bitIndices_two_pow s.word.toNat).symm

theorem members_of_granted {phy : UInt8} (h : (s.claim phy).1 = true) :
    (s.claim phy).2.members = insert phy.toNat s.members := by
  unfold claim at h ⊢
  split at h
  · rename_i hnew
    have hphy : phy < 32 := of_decide_eq_true (Bool.and_eq_true_iff.1 hnew).1
    rw [if_pos hnew]
    ext i
    rw [Finset.mem_insert, mem_members, mem_members, UInt32.toNat_or, toNat_bit hphy,
      Nat.testBit_or, Nat.testBit_two_pow, Bool.or_eq_true, decide_eq_true_iff, or_comm, eq_comm]
  · cases h

theorem claim_of_not_granted {phy : UInt8} (h : (s.claim phy).1 = false) : (s.claim phy).2 = s := by
  unfold claim at h ⊢
  split at h
  · cases h
  · rename_i hold
    rw [if_neg hold]

/-! ## Questions one after the other -/

/-- A question to a set of phys. -/
inductive Step where
  | claim (phy : UInt8)
  | contains (phy : UInt8)

namespace Step

/-- The number that is asked about. -/
def phy : Step → UInt8
  | claim phy | contains phy => phy

/-- The answer, and what is left. -/
def run : Step → PhySet → Bool × PhySet
  | claim phy, s => s.claim phy
  | contains phy, s => (s.contains phy, s)

/-- What a set of numbers below 32 answers to the question, and the set that is left. -/
def onSet : Step → Finset ℕ → Bool × Finset ℕ
  | claim phy, set =>
    if phy.toNat < 32 ∧ phy.toNat ∉ set then (true, insert phy.toNat set) else (false, set)
  | contains phy, set => (decide (phy.toNat ∈ set), set)

/-- The question is a claim, and it is granted. -/
def grants : Step → Bool → Bool
  | claim _, answer => answer
  | contains _, _ => false

theorem onSet_members (step : Step) (s : PhySet) :
    step.onSet s.members = ((step.run s).1, (step.run s).2.members) := by
  cases step with
  | contains phy => rw [onSet, run, contains_eq_mem]
  | claim phy =>
    have hanswer : (s.claim phy).1 = decide (phy.toNat < 32 ∧ phy.toNat ∉ s.members) := by
      rw [claim_fst, contains_eq_mem, decide_eq_decide, decide_eq_false_iff_not, toNat_lt_iff]
    rw [onSet, run]
    by_cases h : phy.toNat < 32 ∧ phy.toNat ∉ s.members
    · have hgranted := hanswer.trans (decide_eq_true h)
      rw [if_pos h, hgranted, members_of_granted hgranted]
    · have hrefused := hanswer.trans (decide_eq_false h)
      rw [if_neg h, hrefused, claim_of_not_granted hrefused]

theorem size_run (step : Step) (s : PhySet) :
    (step.run s).2.size = s.size + (step.grants (step.run s).1).toNat := by
  cases step with
  | contains phy => rfl
  | claim phy =>
    change (s.claim phy).2.size = s.size + (s.claim phy).1.toNat
    cases h : (s.claim phy).1 with
    | false => rw [claim_of_not_granted h]; rfl
    | true =>
      have hnew : phy.toNat ∉ s.members := by
        rw [claim_fst, contains_eq_mem, decide_eq_true_iff, decide_eq_false_iff_not] at h
        exact h.2
      rw [size_eq_card, members_of_granted h, Finset.card_insert_of_notMem hnew, size_eq_card,
        Bool.toNat_true]

/-- The bit of a number of 32 and above is never asked for. -/
theorem run_of_not_lt {step : Step} (h : ¬ step.phy < 32) (s : PhySet) :
    step.run s = (false, s) := by
  cases step with
  | contains phy =>
    have hphy : decide (phy < 32) = false := decide_eq_false h
    rw [run, contains_eq_testBit, hphy, Bool.false_and]
  | claim phy =>
    have hrefused : (s.claim phy).1 = false := by
      rw [claim_fst, decide_eq_false_iff_not]
      exact fun hphy => h hphy.1
    rw [run]
    exact Prod.ext hrefused (claim_of_not_granted hrefused)

end Step

/-- The answers to questions that are asked one after the other, and what is left in the end. -/
def runAll {σ : Type} (run : Step → σ → Bool × σ) : List Step → σ → List Bool × σ
  | [], s => ([], s)
  | step :: steps, s =>
    let (answer, s) := run step s
    let (answers, s) := runAll run steps s
    (answer :: answers, s)

/-- The number of claims that are granted. -/
def granted : List Step → List Bool → Nat
  | step :: steps, answer :: answers => (step.grants answer).toNat + granted steps answers
  | _, _ => 0

theorem runAll_onSet (steps : List Step) (s : PhySet) :
    runAll Step.onSet steps s.members =
      ((runAll Step.run steps s).1, (runAll Step.run steps s).2.members) := by
  induction steps generalizing s with
  | nil => rfl
  | cons step steps ih =>
    rw [runAll, Step.onSet_members]
    dsimp only
    rw [ih]
    rfl

theorem size_runAll (steps : List Step) (s : PhySet) :
    (runAll Step.run steps s).2.size = s.size + granted steps (runAll Step.run steps s).1 := by
  induction steps generalizing s with
  | nil => rfl
  | cons step steps ih =>
    change (runAll Step.run steps (step.run s).2).2.size = _
    rw [ih, Step.size_run, Nat.add_assoc]
    rfl

theorem runAll_filter (steps : List Step) (s : PhySet) :
    (runAll Step.run (steps.filter (·.phy < 32)) s).2 = (runAll Step.run steps s).2 := by
  induction steps generalizing s with
  | nil => rfl
  | cons step steps ih =>
    change _ = (runAll Step.run steps (step.run s).2).2
    by_cases h : step.phy < 32
    · have hkept : (step :: steps).filter (·.phy < 32) = step :: steps.filter (·.phy < 32) :=
        List.filter_cons_of_pos (decide_eq_true h)
      rw [hkept]
      exact ih _
    · rw [List.filter_cons_of_neg (by simpa using h), ih, Step.run_of_not_lt h]

/-- **Phys are claimed as in a set of numbers below 32.** Whatever is asked of a set of phys that
starts empty, in whatever order and about whatever numbers, its answers and its members are those of
a finite set of numbers: a claim is granted when the number is below 32 and not a member, and adds
that number alone; a question about membership changes nothing. All members are below 32, there are
as many as claims were granted, and each of them is one bit of the word and the word has no other.
Questions about numbers of 32 and above might as well not have been asked: only a number below 32 is
ever shifted by, and its bit is in range. -/
theorem refines_set (steps : List Step) :
    (runAll Step.run steps empty).1 = (runAll Step.onSet steps ∅).1 ∧
      (runAll Step.run steps empty).2.members = (runAll Step.onSet steps ∅).2 ∧
      (∀ i ∈ (runAll Step.onSet steps ∅).2, i < 32) ∧
      (runAll Step.run steps empty).2.size = granted steps (runAll Step.run steps empty).1 ∧
      (runAll Step.run steps empty).2.word.toNat = ∑ i ∈ (runAll Step.onSet steps ∅).2, 2 ^ i ∧
      (runAll Step.run (steps.filter (·.phy < 32)) empty).2 = (runAll Step.run steps empty).2 ∧
      ∀ (step : Step) (s : PhySet),
        step.phy < 32 ∧ (bit step.phy).toNat = 2 ^ step.phy.toNat ∨ step.run s = (false, s) := by
  have hset := runAll_onSet steps empty
  rw [members_empty] at hset
  rw [hset]
  refine ⟨rfl, rfl, fun i hi => lt_of_mem_members hi, ?size, toNat_word _,
    runAll_filter steps empty, fun step s => ?shift⟩
  case size =>
    rw [size_runAll]
    exact Nat.zero_add _
  case shift =>
    by_cases h : step.phy < 32
    · exact .inl ⟨h, toNat_bit h⟩
    · exact .inr (Step.run_of_not_lt h s)

example : runAll Step.run [.claim 0, .claim 31, .claim 31, .claim 32, .contains 31, .contains 63]
    empty = ([true, true, false, false, true, false], ⟨0x80000001⟩) := by decide

end DriveReach.Inventory.PhySet
