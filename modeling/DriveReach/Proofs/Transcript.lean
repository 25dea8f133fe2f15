import DriveReach.Proofs.Exchange
/-!
# Transcripts of dialogues

A course lists the calls of a dialogue; a transcript lists its attachments too, and what they came
to. `d.Went ts v` says that `d` attaches and calls exactly as in `ts` and ends with `v` when it is
answered as in `ts`.

* `went_run`: every run went as its transcript `turns` says, and `exchanges_eq_turns`,
  `events_eq_turns` read the exchanges and the events of the run off the transcript.
* `turns_bind`, `went_bind`: a transcript of two dialogues in a row is one of each.
* `Stays`: a dialogue that attaches to nothing; its transcript is its course (`Stays.went`), and
  the exchanges of the course decide what it comes to (`Stays.course_unique`).
-/

set_option autoImplicit false

namespace DriveReach

open Csmi (ControlCode)

/-- An attachment or a call, with its answer. -/
inductive Turn where
  | attach (base : Option String) (controller : UInt32) (answer : Except Fault Channel)
  | call (x : Exchange)

namespace Turn

/-- The exchange that a turn is. -/
def exchange? : Turn → Option Exchange
  | call x => some x
  | attach .. => none

/-- What is seen of a turn in the events of a run. -/
def event : Turn → Dialogue.Event
  | attach base controller _ => .attached base controller
  | call x => .called x.channel x.code x.buffer

end Turn

namespace Dialogue

variable {α β σ : Type}

/-- The turns of a dialogue that is played against its surroundings, in order. -/
def turns (w : Surroundings σ) : Dialogue α → σ → List Turn
  | done _, _ => []
  | note _ next, s => next.turns w s
  | attach base controller next, s =>
    let (answer, s) := w.attach s base controller
    .attach base controller answer :: (next answer).turns w s
  | call channel code buffer next, s =>
    let (answer, s) := w.call s channel code buffer
    .call ⟨channel, code, buffer, answer⟩ :: (next answer).turns w s

/-- With the answers of `ts`, the dialogue takes the turns of `ts` and ends with `v`. -/
def Went : Dialogue α → List Turn → α → Prop
  | done a, ts, v => ts = [] ∧ v = a
  | note _ next, ts, v => next.Went ts v
  | attach base controller next, ts, v =>
    ∃ answer us, ts = .attach base controller answer :: us ∧ (next answer).Went us v
  | call channel code buffer next, ts, v =>
    ∃ answer us, ts = .call ⟨channel, code, buffer, answer⟩ :: us ∧ (next answer).Went us v

/-! ## Runs -/

theorem went_run (w : Surroundings σ) (d : Dialogue α) (s : σ) :
    d.Went (d.turns w s) (d.run w s).value := by
  induction d generalizing s with
  | done a => exact ⟨rfl, rfl⟩
  | note line next ih => exact ih s
  | attach base controller next ih => exact ⟨_, _, rfl, ih _ _⟩
  | call channel code buffer next ih => exact ⟨_, _, rfl, ih _ _⟩

theorem exchanges_eq_turns (w : Surroundings σ) (d : Dialogue α) (s : σ) :
    d.exchanges w s = (d.turns w s).filterMap Turn.exchange? := by
  induction d generalizing s with
  | done a => rfl
  | note line next ih => exact ih s
  | attach base controller next ih => exact ih _ _
  | call channel code buffer next ih => exact congrArg (List.cons _) (ih _ _)

/-- The event is no log line. -/
def Event.isTurn : Event → Bool
  | noted _ => false
  | _ => true

/-- The events of a run are the turns of its transcript, log lines aside. -/
theorem events_eq_turns (w : Surroundings σ) (d : Dialogue α) (s : σ) :
    (d.run w s).events.filter Event.isTurn = (d.turns w s).map Turn.event := by
  induction d generalizing s with
  | done a => rfl
  | note line next ih => exact ih s
  | attach base controller next ih => exact congrArg (List.cons _) (ih _ _)
  | call channel code buffer next ih => exact congrArg (List.cons _) (ih _ _)

/-! ## Dialogues in a row -/

/-- The turns of two dialogues in a row are those of each. -/
theorem turns_bind (w : Surroundings σ) (d : Dialogue α) (f : α → Dialogue β) (s : σ) :
    (d >>= f).turns w s = d.turns w s ++ (f (d.run w s).value).turns w (d.run w s).state := by
  change (d.bind f).turns w s = _
  induction d generalizing s with
  | done a => rfl
  | note line next ih => exact ih s
  | attach base controller next ih => exact congrArg (List.cons _) (ih _ _)
  | call channel code buffer next ih => exact congrArg (List.cons _) (ih _ _)

theorem turns_notes_bind (w : Surroundings σ) (lines : List LogLine) (f : Unit → Dialogue β)
    (s : σ) : (notes lines >>= f).turns w s = (f ()).turns w s := by
  induction lines with
  | nil => rfl
  | cons line lines ih => exact ih

section
variable {ts : List Turn}

theorem went_bind {d : Dialogue α} {f : α → Dialogue β} {v : β} :
    (d >>= f).Went ts v ↔ ∃ us vs u, ts = us ++ vs ∧ d.Went us u ∧ (f u).Went vs v := by
  change (d.bind f).Went ts v ↔ _
  induction d generalizing ts with
  | done a =>
    constructor
    · intro h
      exact ⟨[], ts, a, rfl, ⟨rfl, rfl⟩, h⟩
    · rintro ⟨us, vs, u, rfl, ⟨rfl, rfl⟩, h⟩
      exact h
  | note line next ih => exact ih
  | attach base controller next ih =>
    constructor
    · rintro ⟨answer, rest, rfl, h⟩
      obtain ⟨us, vs, u, rfl, hd, hf⟩ := (ih answer).1 h
      exact ⟨_ :: us, vs, u, rfl, ⟨answer, us, rfl, hd⟩, hf⟩
    · rintro ⟨_, vs, u, rfl, ⟨answer, us, rfl, hd⟩, hf⟩
      exact ⟨answer, us ++ vs, rfl, (ih answer).2 ⟨us, vs, u, rfl, hd, hf⟩⟩
  | call channel code buffer next ih =>
    constructor
    · rintro ⟨answer, rest, rfl, h⟩
      obtain ⟨us, vs, u, rfl, hd, hf⟩ := (ih answer).1 h
      exact ⟨_ :: us, vs, u, rfl, ⟨answer, us, rfl, hd⟩, hf⟩
    · rintro ⟨_, vs, u, rfl, ⟨answer, us, rfl, hd⟩, hf⟩
      exact ⟨answer, us ++ vs, rfl, (ih answer).2 ⟨us, vs, u, rfl, hd, hf⟩⟩

theorem went_notes_bind {lines : List LogLine} {f : Unit → Dialogue β} {v : β} :
    (notes lines >>= f).Went ts v ↔ (f ()).Went ts v := by
  induction lines with
  | nil => exact Iff.rfl
  | cons line lines ih => exact ih

theorem went_attach_bind {base : Option String} {controller : UInt32}
    {f : Except Fault Channel → Dialogue β} {v : β} :
    (attach base controller .done >>= f).Went ts v ↔
      ∃ answer us, ts = .attach base controller answer :: us ∧ (f answer).Went us v := Iff.rfl

end

/-! ## Dialogues that attach to nothing -/

/-- The dialogue attaches to nothing, whatever it is answered. -/
def Stays : Dialogue α → Prop
  | done _ => True
  | note _ next => next.Stays
  | attach .. => False
  | call _ _ _ next => ∀ answer, (next answer).Stays

theorem stays_bind {d : Dialogue α} {f : α → Dialogue β} (hd : d.Stays) (hf : ∀ a, (f a).Stays) :
    (d >>= f).Stays := by
  change (d.bind f).Stays
  induction d with
  | done a => exact hf a
  | note line next ih => exact ih hd
  | attach base controller next ih => exact hd.elim
  | call channel code buffer next ih => exact fun answer => ih answer (hd answer)

theorem stays_notes {lines : List LogLine} : (notes lines).Stays := by
  induction lines with
  | nil => exact trivial
  | cons line lines ih => exact ih

/-- The transcript of a dialogue that attaches to nothing is its course. -/
theorem Stays.went {d : Dialogue α} (hd : d.Stays) {ts : List Turn} {v : α} (h : d.Went ts v) :
    ∃ xs, ts = xs.map Turn.call ∧ d.Course xs v := by
  induction d generalizing ts with
  | done a =>
    obtain ⟨rfl, rfl⟩ := h
    exact ⟨[], rfl, rfl, rfl⟩
  | note line next ih => exact ih hd h
  | attach base controller next ih => exact hd.elim
  | call channel code buffer next ih =>
    obtain ⟨answer, us, rfl, h⟩ := h
    obtain ⟨xs, rfl, hc⟩ := ih answer (hd answer) h
    exact ⟨_ :: xs, rfl, answer, xs, rfl, hc⟩

/-- Along given exchanges, a dialogue that attaches to nothing can go one way only. -/
theorem Stays.course_unique {d : Dialogue α} (hd : d.Stays) {xs ys us vs : List Exchange} {u v : α}
    (hu : d.Course xs u) (hv : d.Course ys v) (h : xs ++ us = ys ++ vs) : xs = ys ∧ u = v := by
  induction d generalizing xs ys with
  | done a =>
    obtain ⟨rfl, rfl⟩ := hu
    obtain ⟨rfl, rfl⟩ := hv
    exact ⟨rfl, rfl⟩
  | note line next ih => exact ih hd hu hv h
  | attach base controller next ih => exact hd.elim
  | call channel code buffer next ih =>
    obtain ⟨answer, xs, rfl, hu⟩ := hu
    obtain ⟨_, ys, rfl, hv⟩ := hv
    obtain ⟨he, hrest⟩ := List.cons.inj h
    cases he
    obtain ⟨rfl, rfl⟩ := ih answer (hd answer) hu hv hrest
    exact ⟨rfl, rfl⟩

end Dialogue

namespace Attempt

open Dialogue

variable {α β : Type}

theorem stays_bind {a : Attempt α} {f : α → Attempt β} (ha : a.run.Stays)
    (hf : ∀ u, (f u).run.Stays) : (a >>= f).run.Stays := by
  change (a.run >>= ExceptT.bindCont f).Stays
  refine Dialogue.stays_bind ha fun r => ?_
  cases r with
  | error fault => exact trivial
  | ok u => exact hf u

theorem stays_lift {d : Dialogue α} (hd : d.Stays) : (ExceptT.lift d : Attempt α).run.Stays :=
  Dialogue.stays_bind hd fun _ => trivial

theorem stays_note {level : LogLevel} {text : String} : (note level text).run.Stays :=
  stays_lift stays_notes

theorem stays_outcome {a : Attempt α} (ha : a.run.Stays) : (outcome a).run.Stays := stays_lift ha

theorem stays_unlessDeclined {level : LogLevel} {refused : Fault → String} {a : Attempt α}
    (ha : a.run.Stays) : (a.unlessDeclined level refused).run.Stays := by
  refine Dialogue.stays_bind ha fun r => ?_
  cases r with
  | ok answer => exact trivial
  | error fault =>
    dsimp only
    split
    · exact Dialogue.stays_bind stays_notes fun _ => trivial
    · exact trivial

end Attempt

theorem Call.stays_issue (c : Call) (channel : Channel) : (c.issue channel).run.Stays := by
  refine Dialogue.stays_bind Dialogue.stays_notes fun _ => ?_
  refine Dialogue.stays_bind (fun _ => trivial) fun answer => ?_
  cases answer with
  | error reason => exact Dialogue.stays_bind Dialogue.stays_notes fun _ => trivial
  | ok written => exact Dialogue.stays_bind Dialogue.stays_notes fun _ => trivial

namespace Controller

variable {c : Controller} {code : ControlCode} {payload : Bytes}

theorem stays_query : (c.query code payload).run.Stays :=
  Attempt.stays_bind (Call.stays_issue _ _) fun _ => Attempt.stays_bind trivial fun _ => trivial

theorem stays_ask {α : Type} {decode : Bytes → Except Fault α} :
    (c.ask code payload decode).run.Stays :=
  Attempt.stays_bind stays_query fun _ => trivial

theorem stays_raidConfig (c : Controller) (index : UInt32) (maxDrives : Nat) :
    (c.raidConfig index maxDrives).run.Stays :=
  Attempt.stays_bind stays_query fun _ => Attempt.stays_bind trivial fun _ =>
    Attempt.stays_bind (Attempt.stays_lift Dialogue.stays_notes) fun _ => trivial

end Controller

end DriveReach
