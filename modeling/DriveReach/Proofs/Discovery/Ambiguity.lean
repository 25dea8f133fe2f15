import DriveReach.Fault
/-!
# One device or several

Discovery looks for a device in two ways that have the same form: it keeps the first candidate that
fits, goes on through the others, and gives up at one that fits as well but can not be the same
device, because a mark of it is another one. The mark of a phy is its port, that of a RAID drive its
address.

`Decides` says what the candidates that fit decide. It has one lemma for each step of such a search,
so that the searches need no more than an induction on their candidates.
-/

set_option autoImplicit false

namespace DriveReach.Discovery

variable {α β : Type} {mark : α → β} {x y : α} {xs ys : List α}
variable {result : Except Fault (Option α)}

/-- All candidates have one mark. -/
def SameMark (mark : α → β) (xs : List α) : Prop := ∀ x ∈ xs, ∀ y ∈ xs, mark x = mark y

theorem not_sameMark_iff : ¬ SameMark mark xs ↔ ∃ x ∈ xs, ∃ y ∈ xs, mark x ≠ mark y := by
  simp only [SameMark, Classical.not_forall, exists_prop, ne_eq]

theorem sameMark_nil : SameMark mark [] := fun _ hx => absurd hx List.not_mem_nil

theorem sameMark_cons_iff : SameMark mark (x :: xs) ↔ ∀ y ∈ xs, mark y = mark x := by
  constructor
  · intro h y hy
    exact h y (List.mem_cons_of_mem x hy) x List.mem_cons_self
  · intro h
    have hfirst : ∀ y ∈ x :: xs, mark y = mark x := List.forall_mem_cons.2 ⟨rfl, h⟩
    intro y hy z hz
    exact (hfirst y hy).trans (hfirst z hz).symm

theorem sameMark_cons_cons :
    SameMark mark (x :: y :: xs) ↔ mark y = mark x ∧ SameMark mark (x :: xs) := by
  rw [sameMark_cons_iff, sameMark_cons_iff, List.forall_mem_cons]

theorem sameMark_toList (found : Option α) : SameMark mark found.toList := by
  cases found with
  | none => exact sameMark_nil
  | some x => exact sameMark_cons_iff.2 fun y hy => absurd hy List.not_mem_nil

/-- What candidates decide: the first of them, when they all have one mark. -/
def Decides (mark : α → β) (xs : List α) (result : Except Fault (Option α)) : Prop :=
  (SameMark mark xs ∧ result = .ok xs.head?) ∨
    (¬ SameMark mark xs ∧ ∃ text, result = .error (.ambiguous text))

namespace Decides

/-- The search is over. -/
theorem found (found : Option α) : Decides mark found.toList (.ok found) :=
  .inl ⟨sameMark_toList found, congrArg Except.ok Option.head?_toList.symm⟩

/-- Another candidate with the mark of the first changes nothing. -/
theorem cons_same (hmark : mark y = mark x) (h : Decides mark (x :: xs) result) :
    Decides mark (x :: y :: xs) result := by
  rcases h with ⟨hsame, hresult⟩ | ⟨hother, hresult⟩
  · exact .inl ⟨sameMark_cons_cons.2 ⟨hmark, hsame⟩, hresult⟩
  · exact .inr ⟨fun hsame => hother (sameMark_cons_cons.1 hsame).2, hresult⟩

/-- A candidate with another mark than the first ends the search. -/
theorem cons_other (hmark : mark y ≠ mark x) (text : String) :
    Decides mark (x :: y :: xs) (.error (.ambiguous text)) :=
  .inr ⟨fun hsame => hmark (sameMark_cons_cons.1 hsame).1, text, rfl⟩

end Decides

/-- Of candidates with one mark, the first stands for all. -/
theorem sameMark_append_iff (h : SameMark mark xs) :
    SameMark mark (xs.head?.toList ++ ys) ↔ SameMark mark (xs ++ ys) := by
  cases xs with
  | nil => exact Iff.rfl
  | cons x xs =>
    rw [List.head?_cons, Option.toList_some, List.cons_append, List.cons_append, sameMark_cons_iff,
      sameMark_cons_iff, List.nil_append, List.forall_mem_append]
    have hxs : ∀ y ∈ xs, mark y = mark x := sameMark_cons_iff.1 h
    exact ⟨fun hys => ⟨hxs, hys⟩, fun hall => hall.2⟩

theorem head?_toList_append : (xs.head?.toList ++ ys).head? = (xs ++ ys).head? := by
  cases xs <;> rfl

end DriveReach.Discovery
