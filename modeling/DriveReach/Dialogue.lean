import DriveReach.Csmi.ControlCode
import DriveReach.Fault
import DriveReach.Log
/-!
# Dialogues with controllers

Whatever the library does with controllers is a `Dialogue`: a finite tree that says what to do next
and how to go on for every answer. It can attach to a controller, issue a call, write a log line,
and end with a value. It knows nothing of the other side.

`Dialogue.run` plays a dialogue against `Surroundings`, which answer as they please and may keep a
state of their own. It yields the value and all that happened on the way, so that a statement about
every answer of every controller is a statement about every `Surroundings`.

The answer to a call is what the driver writes over the buffer from its start: a driver cannot make
the caller's buffer longer or shorter.
-/

namespace DriveReach

open Csmi (ControlCode)

/-- An open channel to a controller. -/
structure Channel where
  id : Nat
  deriving DecidableEq, Repr

/-- A program whose only effects are attaching to controllers, calls and log lines. -/
inductive Dialogue (α : Type) where
  | done (value : α)
  | note (line : LogLine) (next : Dialogue α)
  /-- Attach to a controller, through its default node or the one named. -/
  | attach (base : Option String) (controller : UInt32) (next : Except Fault Channel → Dialogue α)
  /-- Issue a call; the answer is a reason why it did not go through, or what the driver wrote. -/
  | call (channel : Channel) (code : ControlCode) (buffer : Bytes)
      (next : Except String Bytes → Dialogue α)

namespace Dialogue

/-- One dialogue after the other. -/
def bind {α β : Type} : Dialogue α → (α → Dialogue β) → Dialogue β
  | done a, f => f a
  | note line next, f => note line (next.bind f)
  | attach base controller next, f => attach base controller fun answer => (next answer).bind f
  | call channel code buffer next, f => call channel code buffer fun answer => (next answer).bind f

instance : Monad Dialogue where
  pure := done
  bind := bind

theorem bind_done {α : Type} (d : Dialogue α) : d.bind done = d := by
  induction d with
  | done a => rfl
  | note line next ih => simp [bind, ih]
  | attach base controller next ih => simp [bind, ih]
  | call channel code buffer next ih => simp [bind, ih]

theorem bind_assoc {α β γ : Type} (d : Dialogue α) (f : α → Dialogue β) (g : β → Dialogue γ) :
    (d.bind f).bind g = d.bind fun a => (f a).bind g := by
  induction d with
  | done a => rfl
  | note line next ih => simp [bind, ih]
  | attach base controller next ih => simp [bind, ih]
  | call channel code buffer next ih => simp [bind, ih]

instance : LawfulMonad Dialogue :=
  LawfulMonad.mk' Dialogue bind_done (fun _ _ => rfl) bind_assoc

/-- Write log lines. -/
def notes : List LogLine → Dialogue Unit
  | [] => done ()
  | line :: lines => note line (notes lines)

/-- Write a debug line. -/
def debug (text : String) : Dialogue Unit := notes [⟨.debug, text⟩]

/-! ## Running -/

/-- Something that happened in a dialogue. -/
inductive Event where
  | noted (line : LogLine)
  | attached (base : Option String) (controller : UInt32)
  /-- A call went out with a buffer. -/
  | called (channel : Channel) (code : ControlCode) (buffer : Bytes)
  deriving DecidableEq, Repr

/-- The other side of a dialogue. -/
structure Surroundings (σ : Type) where
  attach : σ → Option String → UInt32 → Except Fault Channel × σ
  call : σ → Channel → ControlCode → Bytes → Except String Bytes × σ

/-- What a dialogue came to. -/
structure Run (σ α : Type) where
  value : α
  state : σ
  events : List Event

/-- A run with an event in front. -/
def Run.after {σ α : Type} (event : Event) (r : Run σ α) : Run σ α :=
  { r with events := event :: r.events }

/-- Play a dialogue against its surroundings from a state. -/
def run {σ α : Type} (w : Surroundings σ) : Dialogue α → σ → Run σ α
  | done a, s => ⟨a, s, []⟩
  | note line next, s => (next.run w s).after (.noted line)
  | attach base controller next, s =>
    let (answer, s) := w.attach s base controller
    ((next answer).run w s).after (.attached base controller)
  | call channel code buffer next, s =>
    let (answer, s) := w.call s channel code buffer
    ((next answer).run w s).after (.called channel code buffer)

end Dialogue

/-- A dialogue that may fail. -/
abbrev Attempt (α : Type) : Type := ExceptT Fault Dialogue α

namespace Attempt

/-- A result that is known already. -/
def ofExcept {α : Type} (result : Except Fault α) : Attempt α := ExceptT.mk (.done result)

/-- Write a log line. -/
def note (level : LogLevel) (text : String) : Attempt Unit :=
  ExceptT.lift (Dialogue.notes [⟨level, text⟩])

/-- The result of an attempt, faults included. -/
def outcome {α : Type} (a : Attempt α) : Attempt (Except Fault α) := ExceptT.lift a.run

/-- A question whose answer may be a refusal by the driver: then `refused` is noted and there is no
answer. Any other fault remains one. -/
def unlessDeclined {α : Type} (level : LogLevel) (refused : Fault → String) (question : Attempt α) :
    Attempt (Option α) :=
  ExceptT.mk do
    match ← question.run with
    | .ok answer => return .ok (some answer)
    | .error fault =>
      if fault.isDeclined then
        Dialogue.notes [⟨level, refused fault⟩]
        return .ok none
      else return .error fault

end Attempt

end DriveReach
