import DriveReach.Proofs.Course
/-!
# Steady surroundings

Surroundings are steady when their answers do not depend on what went before.

* `Steady.value_eq`: what a dialogue comes to is then the same from every state.
* `value_bind`: what two dialogues in a row come to, from any surroundings.
* `Steady.result_bind`: against steady surroundings an attempt has a `result` of its own, and two
  attempts in a row have the results of each.
-/

set_option autoImplicit false

namespace DriveReach

namespace Dialogue

variable {α β σ : Type} {w : Surroundings σ}

/-- Every attachment and every call is answered in the same way, whatever went before. -/
structure Surroundings.Steady (w : Surroundings σ) : Prop where
  attach : ∀ s s' base controller, (w.attach s base controller).1 = (w.attach s' base controller).1
  call : ∀ s s' channel code buffer,
    (w.call s channel code buffer).1 = (w.call s' channel code buffer).1

theorem Surroundings.Steady.value_eq (hw : w.Steady) (d : Dialogue α) (s s' : σ) :
    (d.run w s).value = (d.run w s').value := by
  -- equal answers lead into the same branch; only the states differ from there on
  induction d generalizing s s' with
  | done a => rfl
  | note line next ih => exact ih s s'
  | attach base controller next ih =>
    change ((next (w.attach s base controller).1).run w _).value =
      ((next (w.attach s' base controller).1).run w _).value
    rw [hw.attach s s']
    exact ih _ _ _
  | call channel code buffer next ih =>
    change ((next (w.call s channel code buffer).1).run w _).value =
      ((next (w.call s' channel code buffer).1).run w _).value
    rw [hw.call s s']
    exact ih _ _ _

theorem value_bind (w : Surroundings σ) (d : Dialogue α) (f : α → Dialogue β) (s : σ) :
    ((d >>= f).run w s).value = ((f (d.run w s).value).run w (d.run w s).state).value := by
  change ((d.bind f).run w s).value = _
  induction d generalizing s with
  | done a => rfl
  | note line next ih => exact ih s
  | attach base controller next ih => exact ih _ _
  | call channel code buffer next ih => exact ih _ _

theorem value_notes_bind (w : Surroundings σ) (lines : List LogLine) (f : Unit → Dialogue β)
    (s : σ) : ((notes lines >>= f).run w s).value = ((f ()).run w s).value := by
  induction lines with
  | nil => rfl
  | cons line lines ih => exact ih

end Dialogue

/-! ## Attempts -/

namespace Attempt

open Dialogue

variable {α β σ : Type} {w : Surroundings σ}

/-- What an attempt comes to. -/
def result (a : Attempt α) (w : Surroundings σ) (s : σ) : Except Fault α := (a.run.run w s).value

theorem result_ofExcept (w : Surroundings σ) (result : Except Fault α) (s : σ) :
    (ofExcept result).result w s = result := rfl

theorem result_note_bind (w : Surroundings σ) (level : LogLevel) (text : String)
    (f : Unit → Attempt β) (s : σ) : (note level text >>= f).result w s = (f ()).result w s := rfl

theorem result_note_if (w : Surroundings σ) {p : Prop} [Decidable p] (level : LogLevel)
    (text : String) (a : Attempt β) (s : σ) :
    (if p then note level text >>= fun _ => a else a : Attempt β).result w s = a.result w s := by
  split
  · exact result_note_bind w level text _ s
  · rfl

end Attempt

/-- A result is known by what is seen of its value. -/
theorem Except.exists_of_toOption_map {ε α β : Type} {r : Except ε α} {f : α → β} {v : β}
    (h : r.toOption.map f = some v) : ∃ a, r = .ok a ∧ f a = v := by
  cases r with
  | error e => cases h
  | ok a => exact ⟨a, rfl, Option.some.inj h⟩

/-- A single result is known by what is seen of its value. -/
theorem Except.exists_of_map_toOption {ι ε α β : Type} {xs : List ι} {r : ι → Except ε α}
    {f : α → β} {v : β} (h : xs.map (fun x => (r x).toOption.map f) = [some v]) :
    ∃ x a, xs = [x] ∧ r x = .ok a ∧ f a = v := by
  obtain ⟨x, hx, hseen⟩ := List.map_eq_singleton_iff.1 h
  obtain ⟨a, ha, hv⟩ := Except.exists_of_toOption_map hseen
  exact ⟨x, a, hx, ha, hv⟩

/-- Against steady surroundings, each of two attempts in a row comes to what it comes to alone. -/
theorem Dialogue.Surroundings.Steady.result_bind {α β σ : Type} {w : Surroundings σ}
    (hw : w.Steady) (a : Attempt α) (f : α → Attempt β) (s : σ) :
    (a >>= f).result w s = (a.result w s).bind fun u => (f u).result w s := by
  change ((a.run >>= ExceptT.bindCont f).run w s).value = _
  rw [value_bind]
  change ((ExceptT.bindCont f (a.result w s)).run w _).value = _
  cases a.result w s with
  | error fault => rfl
  | ok u => exact hw.value_eq (f u).run _ _

/-- A value comes of two attempts in a row when each gave one. -/
theorem Dialogue.Surroundings.Steady.result_bind_ok {α β σ : Type} {w : Surroundings σ}
    (hw : w.Steady) {a : Attempt α} {f : α → Attempt β} {s : σ} {v : β} :
    (a >>= f).result w s = .ok v ↔ ∃ u, a.result w s = .ok u ∧ (f u).result w s = .ok v := by
  rw [hw.result_bind]
  cases a.result w s with
  | error fault => simp [Except.bind]
  | ok u => simp [Except.bind]

end DriveReach
