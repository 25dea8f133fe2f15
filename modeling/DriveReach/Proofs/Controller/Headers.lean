import DriveReach.Proofs.Exchange
import DriveReach.Proofs.Steady
import DriveReach.Script
/-!
# The header of a call

Whatever the room for the header held, the driver sees a header that depends on four things a caller
says, with the caller's payload behind it (`Call.presented_eq`). It comes to the same to clear the
room and to write the header there (`Call.write_cleared`).

* `Call.header_of_issue`: what the driver is handed in a call, what is read from the header that
  comes back, and what edits of a header come to.
-/

set_option autoImplicit false

namespace DriveReach

open Csmi Dialogue

namespace Call

variable {c : Call}

theorem presented_eq (c : Call) : c.presented =
    HeaderLayout.compactBytes c.controller (UInt32.ofNat c.payload.length) c.timeout.seconds
      c.direction ++ c.payload := by
  have hzeros : HeaderLayout.compact.write (Bytes.zeros headerLength) c.header =
      HeaderLayout.compactBytes c.controller (UInt32.ofNat c.payload.length) c.timeout.seconds
        c.direction := HeaderLayout.compact_write_zeros c.header
  rw [presented, hzeros]

/-- The header is written in place, over a header that was cleared. -/
theorem write_cleared (h : headerLength ≤ c.buffer.length) :
    HeaderLayout.compact.write (c.buffer.put 0 (Bytes.zeros headerLength)) c.header =
      c.presented := by
  have hroom : (Bytes.zeros headerLength).length = headerLength := Bytes.length_zeros _
  rw [Bytes.put_zero (by rwa [hroom]), hroom, HeaderLayout.write_append (Nat.le_of_eq hroom.symm)]
  rfl

/-- What a call that was issued comes to: a transport fault, or what is read from the header of the
buffer that the driver wrote over. -/
inductive Ends (c : Call) (x : Exchange) : Except Fault Reply → Prop
  | failed {reason : String} : x.answer = .error reason → Ends c x (.error (.transport reason))
  | answered {written : Bytes} {reply : Reply} : x.answer = .ok written →
    reply.buffer = x.buffer.put 0 written → reply.code = ⟨reply.buffer.le32 8⟩ →
    reply.returned = min (reply.buffer.le32 4).toNat (c.buffer.length - 20) →
    Ends c x (.ok reply)

theorem ends_reply {x : Exchange} (h : x.payload.length = c.buffer.length - 20) :
    c.Ends x x.reply := by
  cases hanswer : x.answer with
  | error reason =>
    rw [Exchange.reply, hanswer]
    exact .failed hanswer
  | ok written =>
    rw [Exchange.reply, hanswer]
    exact .answered hanswer rfl rfl (congrArg (min _) h)

/-- **A header says what the caller says, and nothing older.** A call over a buffer with room for the
header is one exchange. The driver is handed a header of controller number, payload length, whole
seconds and direction, with the payload of the caller behind it: the buffer of the caller with its
header cleared and written. The return code is read as the driver wrote it; the length is that of
the driver, at most that of the payload. In either layout, a header that was written and then edited
any number of times holds the return code and the length that were set last, and no other byte of
the buffer has changed. -/
theorem header_of_issue :
    (∀ {σ : Type} (w : Surroundings σ) (s : σ) (channel : Channel) (c : Call),
      headerLength ≤ c.buffer.length →
      ∃ x, (c.issue channel).run.exchanges w s = [x] ∧ x.channel = channel ∧ x.code = c.code ∧
        x.buffer = HeaderLayout.compactBytes c.controller (UInt32.ofNat (c.buffer.length - 20))
          c.timeout.seconds c.direction ++ c.buffer.drop 20 ∧
        x.buffer =
          HeaderLayout.compact.write (c.buffer.put 0 (Bytes.zeros headerLength)) c.header ∧
        c.Ends x ((c.issue channel).result w s)) ∧
    ∀ (layout : HeaderLayout) (b : Bytes) (f : HeaderFields) (edits : List HeaderEdit),
      layout.length ≤ b.length →
      layout.payloadLength (layout.write b f) = f.payloadLength ∧
        layout.returnCode (layout.write b f) = layout.returnCode b ∧
        layout.Edited (layout.write b f) edits (layout.editAll (layout.write b f) edits) := by
  refine ⟨fun w s channel c hroom => ?_, fun layout b f edits hroom => ?_⟩
  · have hlength : c.payload.length = c.buffer.length - 20 := List.length_drop
    obtain ⟨x, hx, hchannel, hcode, hbuffer, hreply⟩ :=
      course_issue.1 (course_run w (c.issue channel).run s)
    have hpayload : x.payload.length = c.buffer.length - 20 := by
      rw [Exchange.payload, hbuffer, drop_presented, hlength]
    refine ⟨x, hx, hchannel, hcode, ?_, hbuffer.trans (write_cleared hroom).symm, ?_⟩
    · rw [hbuffer, presented_eq, hlength]
      rfl
    · have hresult : (c.issue channel).result w s = x.reply := hreply
      rw [hresult]
      exact ends_reply hpayload
  · exact ⟨HeaderLayout.payloadLength_write hroom, HeaderLayout.returnCode_write,
      HeaderLayout.edited_editAll (by rwa [HeaderLayout.length_write]) edits⟩

/-- A call for controller 2 over a buffer that holds the bytes of something else. -/
def usedBuffer : Call where
  code := .sataSignature
  buffer := List.replicate 28 0xFF
  timeout := ⟨60999⟩
  controller := 2
  direction := .read
  verbosity := .off

/-- A driver that has no signature to give, and reports more bytes than there are. -/
def signaturelessDriver : Script.Rack :=
  [(0, [{ code := ControlCode.sataSignature.code, conditions := [], uses := none, refusal := none
          returnCode := ⟨2010⟩, payloadLength := some 400, patches := [] }])]

/-- None of the old bytes is in the header; the payload keeps all of its own. The reported length is
cut to the payload. A header of the other layout holds the last of two lengths, and the code between
them. -/
theorem header_of_issue_usedBuffer :
    (headerLength ≤ usedBuffer.buffer.length ∧
      ∃ x reply, (usedBuffer.issue ⟨0⟩).run.exchanges Script.Rack.surroundings
          signaturelessDriver = [x] ∧
        x.buffer = [2, 0, 0, 0, 8, 0, 0, 0, 0, 0, 0, 0, 60, 0, 0, 0, 0, 0, 0, 0] ++
          List.replicate 8 0xFF ∧
        (usedBuffer.issue ⟨0⟩).result Script.Rack.surroundings signaturelessDriver = .ok reply ∧
        usedBuffer.Ends x (.ok reply) ∧ reply.code = ⟨2010⟩ ∧ reply.returned = 8) ∧
    HeaderLayout.srb.length ≤ usedBuffer.buffer.length ∧
      let written := HeaderLayout.srb.write usedBuffer.buffer usedBuffer.header
      let edits : List HeaderEdit := [.length 4, .code ⟨2010⟩, .length 9]
      HeaderLayout.srb.Edited written edits (HeaderLayout.srb.editAll written edits) ∧
        HeaderLayout.srb.payloadLength (HeaderLayout.srb.editAll written edits) = 9 ∧
        HeaderLayout.srb.returnCode (HeaderLayout.srb.editAll written edits) =
          ⟨2010⟩ := by
  have hroom : headerLength ≤ usedBuffer.buffer.length := by decide
  have hroom' : HeaderLayout.srb.length ≤ usedBuffer.buffer.length := by decide
  obtain ⟨x, hx, -, -, hbuffer, -, hends⟩ :=
    header_of_issue.1 Script.Rack.surroundings signaturelessDriver ⟨0⟩ usedBuffer hroom
  have hseen : ((usedBuffer.issue ⟨0⟩).result Script.Rack.surroundings
      signaturelessDriver).toOption.map (fun reply => (reply.code, reply.returned)) =
        some (⟨2010⟩, 8) := by decide +kernel
  obtain ⟨reply, hreply, hread⟩ := Except.exists_of_toOption_map hseen
  obtain ⟨hcode, hreturned⟩ := Prod.mk.inj hread
  rw [hreply] at hends
  refine ⟨⟨hroom, x, reply, hx, hbuffer.trans (by decide), hreply, hends, hcode, hreturned⟩, hroom',
    ?_⟩
  intro written edits
  obtain ⟨-, -, hedited⟩ := header_of_issue.2 .srb usedBuffer.buffer usedBuffer.header edits hroom'
  exact ⟨hedited, hedited.payloadLength, hedited.returnCode⟩

end Call

end DriveReach
