import DriveReach.Controller.Basic
import DriveReach.Proofs.Course
import DriveReach.Proofs.Csmi.Header
/-!
# Exchanges of a controller

Every operation of a controller makes one call, and what the operation comes to is read off that
exchange: `Exchange.reply` is what `Call.issue` makes of the driver's answer.

* `course_send`: a call sent is one exchange, with the code and the payload asked for.
* `course_query`, `course_ask`: the return code is checked, then the payload is decoded.
-/

set_option autoImplicit false

namespace DriveReach

open Csmi Dialogue

namespace Exchange

/-- The payload that the driver is given. -/
def payload (x : Exchange) : Bytes := x.buffer.drop headerLength

/-- The payload length that the driver is told. -/
def announced (x : Exchange) : UInt32 := HeaderLayout.compact.payloadLength x.buffer

/-- What came back: the buffer as the driver wrote over it, with its return code, and the length it
reports, unless the call did not go through. -/
def reply (x : Exchange) : Except Fault Reply :=
  match x.answer with
  | .error reason => .error (.transport reason)
  | .ok written =>
    let buffer := x.buffer.put 0 written
    .ok {
      code := HeaderLayout.compact.returnCode buffer
      returned := min (HeaderLayout.compact.payloadLength buffer).toNat x.payload.length
      buffer := buffer }

/-- The return code in the header that came back. -/
def returnCode? (x : Exchange) : Option ReturnCode := x.reply.toOption.map (·.code)

end Exchange

namespace Call

theorem drop_presented (c : Call) : c.presented.drop headerLength = c.payload := by
  rw [presented]
  exact List.drop_left' (by rw [HeaderLayout.length_write, Bytes.length_zeros])

/-- A call announces the length of its payload, as far as 32 bits hold it. -/
theorem payloadLength_presented (c : Call) :
    HeaderLayout.compact.payloadLength c.presented = UInt32.ofNat c.payload.length := by
  have hroom : HeaderLayout.compact.length ≤ (Bytes.zeros headerLength).length :=
    Nat.le_of_eq (Bytes.length_zeros _).symm
  rw [presented, ← HeaderLayout.write_append hroom, HeaderLayout.payloadLength_write, header]
  rw [List.length_append]
  exact Nat.le_add_right_of_le hroom

theorem payload_ofPayload (code : ControlCode) (payload : Bytes) :
    (ofPayload code payload).payload = payload :=
  List.drop_left' (Bytes.length_zeros headerLength)

/-- Issuing a call is one exchange, which decides what comes of it. -/
theorem course_issue {c : Call} {channel : Channel} {xs : List Exchange}
    {r : Except Fault Reply} :
    (c.issue channel).run.Course xs r ↔
      ∃ x : Exchange, xs = [x] ∧ x.channel = channel ∧ x.code = c.code ∧
        x.buffer = c.presented ∧ r = x.reply := by
  rw [Call.issue, ExceptT.run_mk, course_notes_bind, course_bind]
  constructor
  · rintro ⟨ys, zs, answer, rfl, hc, hf⟩
    refine ⟨⟨channel, c.code, c.presented, answer⟩, ?_, rfl, rfl, rfl, ?_⟩
    · cases answer <;> (rw [course_call.1 hc, (course_notes_bind.1 hf).1]; rfl)
    · cases answer with
      | error reason => exact (course_notes_bind.1 hf).2
      | ok written =>
        rw [(course_notes_bind.1 hf).2]
        simp only [Exchange.reply, Exchange.payload, drop_presented, reply]
  · rintro ⟨x, rfl, hch, hcode, hbuf, rfl⟩
    obtain ⟨_, _, _, answer⟩ := x
    subst hch hcode hbuf
    refine ⟨_, [], answer, (List.append_nil _).symm, course_call.2 rfl, ?_⟩
    cases answer with
    | error reason => exact course_notes_bind.2 ⟨rfl, rfl⟩
    | ok written =>
      refine course_notes_bind.2 ⟨rfl, ?_⟩
      simp only [Exchange.reply, Exchange.payload, drop_presented, reply]

end Call

namespace Controller

variable {c : Controller} {code : ControlCode} {payload : Bytes} {xs : List Exchange}

/-- `x` is a call of the controller with a code and a payload, whose length it announces as far as
32 bits hold it. -/
structure Sent (c : Controller) (code : ControlCode) (payload : Bytes) (x : Exchange) : Prop where
  channel : x.channel = c.channel
  code : x.code = code
  announced : x.announced = UInt32.ofNat payload.length
  payload : x.payload = payload

/-- A call that is sent is one exchange. -/
theorem course_send {timeout : Timeout} {r : Except Fault Reply}
    (h : (c.send code payload timeout).run.Course xs r) :
    ∃ x, xs = [x] ∧ c.Sent code payload x ∧ r = x.reply := by
  obtain ⟨x, rfl, hch, hcode, hbuf, rfl⟩ := Call.course_issue.1 h
  refine ⟨x, rfl, ⟨hch, hcode, ?_, ?_⟩, rfl⟩
  · rw [Exchange.announced, hbuf, Call.payloadLength_presented]
    exact congrArg (UInt32.ofNat ·.length) (Call.payload_ofPayload code payload)
  · rw [Exchange.payload, hbuf, Call.drop_presented]
    exact Call.payload_ofPayload code payload

theorem query_eq : c.query code payload =
    c.send code payload code.timeout >>= fun reply =>
      Attempt.ofExcept (reply.code.check.map fun _ => reply) := by
  refine congrArg _ (funext fun reply => ?_)
  cases reply.code.check <;> rfl

/-- A query is one exchange; it has a reply when the driver's return code is a success. -/
theorem course_query {r : Except Fault Reply} (h : (c.query code payload).run.Course xs r) :
    ∃ x, xs = [x] ∧ c.Sent code payload x ∧
      r = x.reply.bind fun reply => reply.code.check.map fun _ => reply := by
  rw [query_eq, Attempt.course_run_bind_ofExcept] at h
  obtain ⟨q, hs, rfl⟩ := h
  obtain ⟨x, rfl, hx, rfl⟩ := course_send hs
  exact ⟨x, rfl, hx, rfl⟩

/-- What is asked is one exchange, whose payload is decoded when the return code is a success. -/
theorem course_ask {α : Type} {decode : Bytes → Except Fault α} {r : Except Fault α}
    (h : (c.ask code payload decode).run.Course xs r) :
    ∃ x, xs = [x] ∧ c.Sent code payload x ∧
      r = (x.reply.bind fun reply => reply.code.check.map fun _ => reply).bind fun reply =>
        decode reply.payload := by
  rw [ask, Attempt.course_run_bind_ofExcept] at h
  obtain ⟨q, hs, rfl⟩ := h
  obtain ⟨x, rfl, hx, rfl⟩ := course_query hs
  exact ⟨x, rfl, hx, rfl⟩

section
variable {p : Exchange → Prop}

theorem only_query (hp : ∀ x, c.Sent code payload x → p x) : (c.query code payload).run.Only p := by
  intro xs v h
  obtain ⟨x, rfl, hx, -⟩ := course_query h
  exact List.forall_mem_singleton.2 (hp x hx)

theorem only_ask {α : Type} {decode : Bytes → Except Fault α}
    (hp : ∀ x, c.Sent code payload x → p x) : (c.ask code payload decode).run.Only p :=
  Attempt.only_bind (only_query hp) fun _ => Attempt.only_ofExcept

theorem only_raidConfig {index : UInt32} {maxDrives : Nat} (hp : ∀ x, x.code = .raidConfig → p x) :
    (c.raidConfig index maxDrives).run.Only p :=
  Attempt.only_bind (only_query fun x hx => hp x hx.code) fun _ =>
    Attempt.only_bind Attempt.only_ofExcept fun _ =>
      Attempt.only_bind (Attempt.only_lift only_notes) fun _ => only_done

end

end Controller

end DriveReach
