import DriveReach.Dialogue
/-!
# Courses of dialogues

What a dialogue does depends on the other side only through the answers to its calls. An `Exchange`
is a call with its answer, and `d.Course xs v` says that `d` makes exactly the calls of `xs` and
ends with `v` when they are answered as in `xs`. So a statement about all courses is a statement
about every driver.

* `course_run`: every run is a course, of the exchanges that `exchanges` collects.
* `course_bind`, `course_run_bind`: a course of two dialogues in a row is a course of each.
* `Leaves`, `Only`: whatever a dialogue is answered, its exchanges have some property, or every call
  of it is of some kind.
* `Recorded`: a dialogue was carried out, with a result, somewhere in a record of exchanges.
-/

set_option autoImplicit false

namespace DriveReach

open Csmi (ControlCode)

/-- A call with its answer. -/
structure Exchange where
  channel : Channel
  code : ControlCode
  /-- The buffer that the driver is given. -/
  buffer : Bytes
  answer : Except String Bytes

namespace Dialogue

variable {α β σ : Type}

/-- The exchanges of a dialogue that is played against its surroundings, in order. -/
def exchanges (w : Surroundings σ) : Dialogue α → σ → List Exchange
  | done _, _ => []
  | note _ next, s => next.exchanges w s
  | attach base controller next, s =>
    let (answer, s) := w.attach s base controller
    (next answer).exchanges w s
  | call channel code buffer next, s =>
    let (answer, s) := w.call s channel code buffer
    ⟨channel, code, buffer, answer⟩ :: (next answer).exchanges w s

/-- With the answers of `xs`, the dialogue makes the calls of `xs` and ends with `v`. -/
def Course : Dialogue α → List Exchange → α → Prop
  | done a, xs, v => xs = [] ∧ v = a
  | note _ next, xs, v => next.Course xs v
  | attach _ _ next, xs, v => ∃ answer, (next answer).Course xs v
  | call channel code buffer next, xs, v =>
    ∃ answer ys, xs = ⟨channel, code, buffer, answer⟩ :: ys ∧ (next answer).Course ys v

/-! ## Runs -/

/-- What a run comes to is what the course of its exchanges comes to. -/
theorem course_run (w : Surroundings σ) (d : Dialogue α) (s : σ) :
    d.Course (d.exchanges w s) (d.run w s).value := by
  induction d generalizing s with
  | done a => exact ⟨rfl, rfl⟩
  | note line next ih => exact ih s
  | attach base controller next ih => exact ⟨_, ih _ _⟩
  | call channel code buffer next ih => exact ⟨_, _, rfl, ih _ _⟩

/-! ## Dialogues in a row -/

section
variable {xs : List Exchange}

@[simp] theorem course_done {a v : α} : (done a).Course xs v ↔ xs = [] ∧ v = a := Iff.rfl

theorem course_bind {d : Dialogue α} {f : α → Dialogue β} {v : β} :
    (d >>= f).Course xs v ↔
      ∃ ys zs u, xs = ys ++ zs ∧ d.Course ys u ∧ (f u).Course zs v := by
  change (d.bind f).Course xs v ↔ _
  induction d generalizing xs with
  | done a =>
    constructor
    · intro h
      exact ⟨[], xs, a, rfl, ⟨rfl, rfl⟩, h⟩
    · rintro ⟨ys, zs, u, rfl, ⟨rfl, rfl⟩, h⟩
      exact h
  | note line next ih => exact ih
  | attach base controller next ih =>
    constructor
    · rintro ⟨answer, h⟩
      obtain ⟨ys, zs, u, he, hd, hf⟩ := (ih answer).1 h
      exact ⟨ys, zs, u, he, ⟨answer, hd⟩, hf⟩
    · rintro ⟨ys, zs, u, he, ⟨answer, hd⟩, hf⟩
      exact ⟨answer, (ih answer).2 ⟨ys, zs, u, he, hd, hf⟩⟩
  | call channel code buffer next ih =>
    constructor
    · rintro ⟨answer, rest, rfl, h⟩
      obtain ⟨ys, zs, u, rfl, hd, hf⟩ := (ih answer).1 h
      exact ⟨_ :: ys, zs, u, rfl, ⟨answer, ys, rfl, hd⟩, hf⟩
    · rintro ⟨_, zs, u, rfl, ⟨answer, ys, rfl, hd⟩, hf⟩
      exact ⟨answer, ys ++ zs, rfl, (ih answer).2 ⟨ys, zs, u, rfl, hd, hf⟩⟩

@[simp] theorem course_notes {lines : List LogLine} {v : Unit} :
    (notes lines).Course xs v ↔ xs = [] := by
  induction lines with
  | nil => simp [notes]
  | cons line lines ih => exact ih

/-- Log lines leave no trace in a course. -/
theorem course_notes_bind {lines : List LogLine} {f : Unit → Dialogue β} {v : β} :
    (notes lines >>= f).Course xs v ↔ (f ()).Course xs v := by
  rw [course_bind]
  constructor
  · rintro ⟨ys, zs, u, rfl, h, hf⟩
    rw [course_notes.1 h]
    exact hf
  · intro h
    exact ⟨[], xs, (), rfl, course_notes.2 rfl, h⟩

theorem course_call {channel : Channel} {code : ControlCode} {buffer : Bytes}
    {v : Except String Bytes} :
    (call channel code buffer .done).Course xs v ↔ xs = [⟨channel, code, buffer, v⟩] := by
  constructor
  · rintro ⟨answer, ys, rfl, rfl, rfl⟩
    rfl
  · rintro rfl
    exact ⟨v, [], rfl, rfl, rfl⟩

theorem course_attach {base : Option String} {controller : UInt32} {v : Except Fault Channel} :
    (attach base controller .done).Course xs v ↔ xs = [] := by
  simp [Course]

end

end Dialogue

/-! ## Attempts in a row -/

namespace Attempt

open Dialogue

variable {α β : Type} {xs : List Exchange}

/-- An attempt ends with a fault of its first part or goes on with its value. -/
theorem course_run_bind {a : Attempt α} {f : α → Attempt β} {r : Except Fault β} :
    (a >>= f).run.Course xs r ↔
      (∃ fault, r = .error fault ∧ a.run.Course xs (.error fault)) ∨
        ∃ ys zs u, xs = ys ++ zs ∧ a.run.Course ys (.ok u) ∧ (f u).run.Course zs r := by
  change (a.run >>= ExceptT.bindCont f).Course xs r ↔ _
  rw [course_bind]
  constructor
  · rintro ⟨ys, zs, q, rfl, ha, hf⟩
    cases q with
    | error fault =>
      obtain ⟨rfl, rfl⟩ := hf
      exact .inl ⟨fault, rfl, by simpa using ha⟩
    | ok u => exact .inr ⟨ys, zs, u, rfl, ha, hf⟩
  · rintro (⟨fault, rfl, ha⟩ | ⟨ys, zs, u, rfl, ha, hf⟩)
    · exact ⟨xs, [], .error fault, by simp, ha, rfl, rfl⟩
    · exact ⟨ys, zs, .ok u, rfl, ha, hf⟩

/-- A value comes of two attempts in a row when each gave one. -/
theorem course_run_bind_ok {a : Attempt α} {f : α → Attempt β} {v : β} :
    (a >>= f).run.Course xs (.ok v) ↔
      ∃ ys zs u, xs = ys ++ zs ∧ a.run.Course ys (.ok u) ∧ (f u).run.Course zs (.ok v) := by
  rw [course_run_bind]
  constructor
  · rintro (⟨fault, h, -⟩ | h)
    · cases h
    · exact h
  · exact .inr

/-- A known result behind is a function of the value in front. -/
theorem course_run_bind_ofExcept {a : Attempt α} {g : α → Except Fault β} {r : Except Fault β} :
    (a >>= fun u => ofExcept (g u)).run.Course xs r ↔ ∃ q, a.run.Course xs q ∧ r = q.bind g := by
  rw [course_run_bind]
  constructor
  · rintro (⟨fault, rfl, ha⟩ | ⟨ys, zs, u, rfl, ha, rfl, rfl⟩)
    · exact ⟨_, ha, rfl⟩
    · exact ⟨.ok u, by simpa using ha, rfl⟩
  · rintro ⟨q, ha, rfl⟩
    cases q with
    | error fault => exact .inl ⟨fault, rfl, ha⟩
    | ok u => exact .inr ⟨xs, [], u, (List.append_nil xs).symm, ha, rfl, rfl⟩

/-- A known result in front is handed on. -/
theorem course_run_ofExcept_bind {result : Except Fault α} {f : α → Attempt β}
    {r : Except Fault β} :
    (ofExcept result >>= f).run.Course xs r ↔
      match result with
      | .ok u => (f u).run.Course xs r
      | .error fault => xs = [] ∧ r = .error fault := by
  cases result <;> rfl

theorem course_run_note_bind {level : LogLevel} {text : String} {f : Unit → Attempt β}
    {r : Except Fault β} :
    (note level text >>= f).run.Course xs r ↔ (f ()).run.Course xs r := Iff.rfl

/-- Log lines that are written in some cases only leave no trace either. -/
theorem course_run_note_if {p : Prop} [Decidable p] {level : LogLevel} {text : String}
    {a : Attempt β} {r : Except Fault β} :
    (if p then note level text >>= fun _ => a else a).run.Course xs r ↔ a.run.Course xs r := by
  split
  · exact course_run_note_bind
  · rfl

theorem course_run_lift {d : Dialogue α} {r : Except Fault α} :
    (ExceptT.lift d : Attempt α).run.Course xs r ↔ ∃ v, r = .ok v ∧ d.Course xs v := by
  change (d >>= fun v => Dialogue.done (Except.ok v)).Course xs r ↔ _
  rw [course_bind]
  constructor
  · rintro ⟨ys, zs, v, rfl, hd, rfl, rfl⟩
    exact ⟨v, rfl, by simpa using hd⟩
  · rintro ⟨v, rfl, hd⟩
    exact ⟨xs, [], v, by simp, hd, rfl, rfl⟩

theorem course_run_lift_ok {d : Dialogue α} {v : α} :
    (ExceptT.lift d : Attempt α).run.Course xs (.ok v) ↔ d.Course xs v := by
  rw [course_run_lift]
  simp

/-- A question has an answer when the driver gives one. -/
theorem course_run_unlessDeclined_some {level : LogLevel} {refused : Fault → String}
    {a : Attempt α} {v : α} :
    (a.unlessDeclined level refused).run.Course xs (.ok (some v)) ↔ a.run.Course xs (.ok v) := by
  rw [unlessDeclined, ExceptT.run_mk, course_bind]
  constructor
  · rintro ⟨ys, zs, q, rfl, ha, hf⟩
    cases q with
    | ok u =>
      obtain ⟨rfl, h⟩ := hf
      cases h
      simpa using ha
    | error fault =>
      dsimp only at hf
      split at hf
      · obtain ⟨-, h⟩ := course_notes_bind.1 hf
        cases h
      · obtain ⟨-, h⟩ := hf
        cases h
  · intro ha
    exact ⟨xs, [], .ok v, by simp, ha, rfl, rfl⟩

/-- A question has no answer when the driver declines it. -/
theorem course_run_unlessDeclined_none {level : LogLevel} {refused : Fault → String}
    {a : Attempt α} :
    (a.unlessDeclined level refused).run.Course xs (.ok none) ↔
      ∃ fault, fault.isDeclined ∧ a.run.Course xs (.error fault) := by
  rw [unlessDeclined, ExceptT.run_mk, course_bind]
  constructor
  · rintro ⟨ys, zs, q, rfl, ha, hf⟩
    cases q with
    | ok u =>
      obtain ⟨-, h⟩ := hf
      cases h
    | error fault =>
      dsimp only at hf
      split at hf
      · rename_i hd
        obtain ⟨rfl, -⟩ := course_notes_bind.1 hf
        exact ⟨fault, hd, by simpa using ha⟩
      · obtain ⟨-, h⟩ := hf
        cases h
  · rintro ⟨fault, hd, ha⟩
    refine ⟨xs, [], .error fault, by simp, ha, ?_⟩
    simp only [hd, if_true]
    exact course_notes_bind.2 ⟨rfl, rfl⟩

/-- A question fails when it fails and the driver does not decline it. -/
theorem course_run_unlessDeclined_error {level : LogLevel} {refused : Fault → String}
    {a : Attempt α} {fault : Fault} :
    (a.unlessDeclined level refused).run.Course xs (.error fault) ↔
      fault.isDeclined = false ∧ a.run.Course xs (.error fault) := by
  rw [unlessDeclined, ExceptT.run_mk, course_bind]
  constructor
  · rintro ⟨ys, zs, q, rfl, ha, hf⟩
    cases q with
    | ok u =>
      obtain ⟨-, h⟩ := hf
      cases h
    | error other =>
      dsimp only at hf
      split at hf
      · obtain ⟨-, h⟩ := course_notes_bind.1 hf
        cases h
      · rename_i hd
        obtain ⟨rfl, h⟩ := hf
        cases h
        exact ⟨by simpa using hd, by simpa using ha⟩
  · rintro ⟨hd, ha⟩
    refine ⟨xs, [], .error fault, by simp, ha, ?_⟩
    simp only [hd, Bool.false_eq_true, if_false]
    exact ⟨rfl, rfl⟩

end Attempt

/-! ## Properties of records -/

/-- A property of records that an empty one has, and two in a row when each has it. -/
structure Additive (P : List Exchange → Prop) : Prop where
  nil : P []
  append {xs ys : List Exchange} : P xs → P ys → P (xs ++ ys)

theorem Additive.forall_mem {p : Exchange → Prop} : Additive fun xs => ∀ x ∈ xs, p x :=
  ⟨fun _ hx => (nomatch hx), fun hx hy => List.forall_mem_append.2 ⟨hx, hy⟩⟩

/-- The exchanges of a dialogue, in whatever course, have the property `P`. -/
def Dialogue.Leaves {α : Type} (P : List Exchange → Prop) (d : Dialogue α) : Prop :=
  ∀ xs v, d.Course xs v → P xs

/-- Every call of a dialogue, in whatever course, is of the kind `p`. -/
def Dialogue.Only {α : Type} (p : Exchange → Prop) (d : Dialogue α) : Prop :=
  d.Leaves fun xs => ∀ x ∈ xs, p x

namespace Dialogue

variable {α β σ : Type} {P : List Exchange → Prop} {p q : Exchange → Prop}

theorem leaves_done (hP : Additive P) {a : α} : (done a).Leaves P := by
  rintro xs v ⟨rfl, -⟩
  exact hP.nil

theorem leaves_bind (hP : Additive P) {d : Dialogue α} {f : α → Dialogue β} (hd : d.Leaves P)
    (hf : ∀ u, (f u).Leaves P) : (d >>= f).Leaves P := by
  intro xs v h
  obtain ⟨ys, zs, u, rfl, hc, hr⟩ := course_bind.1 h
  exact hP.append (hd _ _ hc) (hf u _ _ hr)

theorem leaves_notes_bind {lines : List LogLine} {f : Unit → Dialogue β} (hf : (f ()).Leaves P) :
    (notes lines >>= f).Leaves P :=
  fun xs v h => hf xs v (course_notes_bind.1 h)

/-- What holds of the calls in every course holds of those in every run. -/
theorem Only.exchanges {d : Dialogue α} (h : d.Only p) (w : Surroundings σ) (s : σ) :
    ∀ x ∈ d.exchanges w s, p x :=
  h _ _ (course_run w d s)

theorem Only.mono {d : Dialogue α} (h : d.Only p) (hpq : ∀ x, p x → q x) : d.Only q :=
  fun xs v hc x hx => hpq x (h xs v hc x hx)

theorem only_done {a : α} : (done a).Only p := leaves_done .forall_mem

theorem only_bind {d : Dialogue α} {f : α → Dialogue β} (hd : d.Only p)
    (hf : ∀ u, (f u).Only p) : (d >>= f).Only p := leaves_bind .forall_mem hd hf

theorem only_notes {lines : List LogLine} : (notes lines).Only p := by
  intro xs v h x hx
  rw [course_notes.1 h] at hx
  cases hx

theorem only_notes_bind {lines : List LogLine} {f : Unit → Dialogue β} (hf : (f ()).Only p) :
    (notes lines >>= f).Only p := leaves_notes_bind hf

theorem leaves_attach (hP : Additive P) {base : Option String} {controller : UInt32} :
    (attach base controller .done).Leaves P := by
  intro xs v h
  rw [course_attach.1 h]
  exact hP.nil

theorem only_attach {base : Option String} {controller : UInt32} :
    (attach base controller .done).Only p := leaves_attach .forall_mem

end Dialogue

namespace Attempt

open Dialogue

variable {α β : Type} {P : List Exchange → Prop} {p : Exchange → Prop}

theorem leaves_bind (hP : Additive P) {a : Attempt α} {f : α → Attempt β} (ha : a.run.Leaves P)
    (hf : ∀ u, (f u).run.Leaves P) : (a >>= f).run.Leaves P := by
  intro xs v h
  rcases course_run_bind.1 h with ⟨fault, -, hc⟩ | ⟨ys, zs, u, rfl, hc, hd⟩
  · exact ha _ _ hc
  · exact hP.append (ha _ _ hc) (hf u _ _ hd)

theorem only_ofExcept {result : Except Fault α} : (ofExcept result).run.Only p := only_done

theorem only_bind {a : Attempt α} {f : α → Attempt β} (ha : a.run.Only p)
    (hf : ∀ u, (f u).run.Only p) : (a >>= f).run.Only p := leaves_bind .forall_mem ha hf

/-- A check in front makes no call, and lets calls be made only when it is passed. -/
theorem only_unless {c : Prop} [Decidable c] {fault : Fault} {a : Attempt β}
    (ha : ¬ c → a.run.Only p) :
    (if c then (throw fault : Attempt Unit) >>= fun _ => a else a).run.Only p := by
  split
  · exact only_done
  · rename_i hc
    exact ha hc

/-- A known result in front lets calls be made only when it is a value. -/
theorem only_ofExcept_bind {result : Except Fault α} {f : α → Attempt β}
    (hf : ∀ u, result = .ok u → (f u).run.Only p) : (ofExcept result >>= f).run.Only p := by
  cases result with
  | error fault => exact only_done
  | ok u => exact hf u rfl

theorem only_lift {d : Dialogue α} (hd : d.Only p) : (ExceptT.lift d : Attempt α).run.Only p :=
  Dialogue.only_bind hd fun _ => only_done

theorem only_note {level : LogLevel} {text : String} : (note level text).run.Only p :=
  only_lift only_notes

theorem only_note_if {c : Prop} [Decidable c] {level : LogLevel} {text : String} {a : Attempt β}
    (ha : a.run.Only p) : (if c then note level text >>= fun _ => a else a).run.Only p :=
  fun xs r h => ha xs r (course_run_note_if.1 h)

theorem only_outcome {a : Attempt α} (ha : a.run.Only p) : (outcome a).run.Only p := only_lift ha

theorem only_unlessDeclined {level : LogLevel} {refused : Fault → String} {a : Attempt α}
    (ha : a.run.Only p) : (a.unlessDeclined level refused).run.Only p := by
  refine Dialogue.only_bind ha fun r => ?_
  cases r with
  | ok answer => exact only_done
  | error fault =>
    dsimp only
    split
    · exact only_notes_bind only_done
    · exact only_done

end Attempt

/-! ## Records -/

/-- Somewhere in the record `xs`, the dialogue `d` was carried out and ended with `v`. -/
def Recorded {α : Type} (xs : List Exchange) (d : Dialogue α) (v : α) : Prop :=
  ∃ ys, ys <:+: xs ∧ d.Course ys v

namespace Recorded

variable {α : Type} {d : Dialogue α} {v : α} {xs ys zs : List Exchange}

theorem of_course (h : d.Course xs v) : Recorded xs d v := ⟨xs, List.infix_refl xs, h⟩

theorem mono (h : Recorded ys d v) (hi : ys <:+: xs) : Recorded xs d v :=
  let ⟨part, hp, hc⟩ := h
  ⟨part, hp.trans hi, hc⟩

theorem append_left (h : Recorded ys d v) : Recorded (ys ++ zs) d v :=
  h.mono (List.prefix_append ys zs).isInfix

theorem append_right (h : Recorded zs d v) : Recorded (ys ++ zs) d v :=
  h.mono (List.suffix_append ys zs).isInfix

end Recorded

end DriveReach
