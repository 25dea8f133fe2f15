import DriveReach.Proofs.Course
/-!
# Dialogues that nobody can tell apart

`d.Alike R e` says that two dialogues make the same calls, write the same log lines and come to
values related by `R`, whatever they are answered. A statement about two runs against the same
surroundings is then one about the dialogues (`Alike.run`).
-/

set_option autoImplicit false

namespace DriveReach.Dialogue

open Csmi (ControlCode)

variable {α β γ δ σ : Type} {R : α → β → Prop} {S : γ → δ → Prop}

/-- Two dialogues do the same and come to related values. -/
inductive Alike (R : α → β → Prop) : Dialogue α → Dialogue β → Prop
  | done {a : α} {b : β} : R a b → Alike R (done a) (done b)
  | note {line : LogLine} {d : Dialogue α} {e : Dialogue β} :
    Alike R d e → Alike R (note line d) (note line e)
  | attach {base : Option String} {controller : UInt32} {d : Except Fault Channel → Dialogue α}
    {e : Except Fault Channel → Dialogue β} :
    (∀ answer, Alike R (d answer) (e answer)) →
    Alike R (attach base controller d) (attach base controller e)
  | call {channel : Channel} {code : ControlCode} {buffer : Bytes}
    {d : Except String Bytes → Dialogue α} {e : Except String Bytes → Dialogue β} :
    (∀ answer, Alike R (d answer) (e answer)) →
    Alike R (call channel code buffer d) (call channel code buffer e)

namespace Alike

theorem bind {d : Dialogue α} {e : Dialogue β} {f : α → Dialogue γ} {g : β → Dialogue δ}
    (h : Alike R d e) (hf : ∀ a b, R a b → Alike S (f a) (g b)) :
    Alike S (d >>= f) (e >>= g) := by
  change Alike S (d.bind f) (e.bind g)
  induction h with
  | done hr => exact hf _ _ hr
  | note _ ih => exact .note ih
  | attach _ ih => exact .attach ih
  | call _ ih => exact .call ih

theorem refl (d : Dialogue α) : Alike Eq d d := by
  induction d with
  | done a => exact .done rfl
  | note line next ih => exact .note ih
  | attach base controller next ih => exact .attach ih
  | call channel code buffer next ih => exact .call ih

/-- The same dialogue in front. -/
theorem bind_same {d : Dialogue α} {f : α → Dialogue γ} {g : α → Dialogue δ}
    (hf : ∀ a, Alike S (f a) (g a)) : Alike S (d >>= f) (d >>= g) :=
  (refl d).bind fun a _ h => h ▸ hf a

/-- What nobody can tell apart runs alike: the same events, answers and state. -/
theorem run {d : Dialogue α} {e : Dialogue β} (h : Alike R d e) (w : Surroundings σ) (s : σ) :
    (d.run w s).events = (e.run w s).events ∧ d.exchanges w s = e.exchanges w s ∧
      (d.run w s).state = (e.run w s).state ∧ R (d.run w s).value (e.run w s).value := by
  induction h generalizing s with
  | done hr => exact ⟨rfl, rfl, rfl, hr⟩
  | note _ ih =>
    obtain ⟨hevents, hxs, hstate, hr⟩ := ih s
    exact ⟨congrArg (_ :: ·) hevents, hxs, hstate, hr⟩
  | @attach base controller _ _ _ ih =>
    obtain ⟨hevents, hxs, hstate, hr⟩ :=
      ih (w.attach s base controller).1 (w.attach s base controller).2
    exact ⟨congrArg (_ :: ·) hevents, hxs, hstate, hr⟩
  | @call channel code buffer _ _ _ ih =>
    obtain ⟨hevents, hxs, hstate, hr⟩ :=
      ih (w.call s channel code buffer).1 (w.call s channel code buffer).2
    exact ⟨congrArg (_ :: ·) hevents, congrArg (_ :: ·) hxs, hstate, hr⟩

end Alike

end DriveReach.Dialogue
