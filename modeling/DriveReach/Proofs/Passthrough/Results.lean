import DriveReach.Proofs.Passthrough.Delivery
/-!
# Results of a delivery

What a request holds after a delivery that succeeded comes from the last answer: `AtaResponse` is
what an answer brings, and `Exchange.ataResponse?` reads it from the exchange. Of the request itself
only the length of its buffer matters (`AtaRequest.Holds`).

* `Settled.holds`: a delivery that succeeded leaves what its last exchange brought.
-/

set_option autoImplicit false

namespace DriveReach

open Csmi

instance decidableEqExcept {ε α : Type} [DecidableEq ε] [DecidableEq α] :
    DecidableEq (Except ε α)
  | .ok a, .ok b => decidable_of_iff (a = b) ⟨congrArg _, Except.ok.inj⟩
  | .error e, .error f => decidable_of_iff (e = f) ⟨congrArg _, Except.error.inj⟩
  | .ok _, .error _ => .isFalse fun h => by cases h
  | .error _, .ok _ => .isFalse fun h => by cases h

/-- The results in an ATA request. -/
structure AtaResult where
  registers : Option Ata.Registers
  statusFrame : Option (Vector UInt8 20)
  scr : Option (Vector UInt32 16)
  sense : Scsi.SenseBuffer
  deriving DecidableEq

def AtaRequest.result (r : AtaRequest) : AtaResult :=
  ⟨r.registers, r.statusFrame, r.scr, r.sense⟩

/-- What an answer brings to an ATA request. -/
structure AtaResponse where
  result : AtaResult
  /-- The number of data bytes that were moved, as the driver says. -/
  moved : Nat
  area : Bytes

/-! ## Answers -/

namespace Exchange

/-- What an STP answer brings: the status frame, its registers, also as sense data, and the control
registers. -/
def stpResponse? (x : Exchange) (extended : Bool) : Option AtaResponse := do
  let (status, area) ← x.stpStatus.toOption
  let frame ← (Ata.StatusFrame.parse status.frame.toList).toOption
  return {
    result := ⟨some frame.registers, some status.frame, some status.scr,
      Scsi.ataStatusReturn frame.registers extended⟩
    moved := status.dataBytes.toNat
    area := area }

/-- What an SSP answer brings: the sense data, and the registers in them. -/
def sspResponse? (x : Exchange) : Option AtaResponse := do
  let (status, area) ← x.sspStatus.toOption
  return {
    result := ⟨status.senseBuffer.ataRegisters?, none, none, status.senseBuffer⟩
    moved := status.dataBytes.toNat
    area := area }

/-- What the answer to a passthrough call brings; `extended` is that of the command. -/
def ataResponse? (x : Exchange) (extended : Bool) : Option AtaResponse :=
  if x.code = .stpPassthrough then x.stpResponse? extended else x.sspResponse?

variable {x : Exchange}

/-- An accepted connection brings the status. -/
theorem sspStatus_of_sspResult {p : SspStatus × Bytes} (h : x.sspResult = .ok p) :
    x.sspStatus = .ok p := by
  rw [sspResult_eq] at h
  cases hs : x.sspStatus with
  | error fault =>
    rw [hs] at h
    cases h
  | ok q =>
    rw [hs] at h
    simp only [Except.bind] at h
    split at h
    · cases h
    · exact h

/-- A driver does not change the length of a payload. -/
theorem length_response {b : Bytes} (h : x.response = .ok b) : b.length = x.payload.length := by
  unfold response reply at h
  cases ha : x.answer with
  | error reason =>
    rw [ha] at h
    cases h
  | ok written =>
    rw [ha] at h
    simp only [bind, Except.bind] at h
    split at h
    · cases h
    · cases h
      simp [Reply.payload, payload]

/-- The data area is what the status leaves of the payload. -/
theorem length_area {α : Type} {decode : Bytes → Except Fault α} {front fixed : Nat}
    {p : α × Bytes} (h : x.status decode front fixed = .ok p) :
    p.2.length = x.payload.length - fixed := by
  obtain ⟨b, hb, hp⟩ := exists_response h
  rw [hp, List.length_drop, length_response hb]

end Exchange

/-! ## Data -/

namespace DataBuffer

/-- The buffer with zeros for what it holds before it is filled. -/
def blank : DataBuffer → DataBuffer
  | .inbound room => .inbound (Bytes.zeros room.length)
  | d => d

variable {d : DataBuffer} {area : Bytes} {moved : Nat}

@[simp] theorem size_blank : d.blank.size = d.size := by
  cases d <;> simp [blank, size, bytes]

@[simp] theorem direction_blank : d.blank.direction = d.direction := by
  cases d <;> rfl

@[simp] theorem staged_blank : d.blank.staged = d.staged := by
  cases d <;> simp [blank, staged, size, bytes]

@[simp] theorem receive_blank : d.blank.receive area moved = d.receive area moved := by
  cases d <;> simp [blank, receive]

@[simp] theorem blank_receive : (d.receive area moved).blank = d.blank := by
  cases d <;> simp [blank, receive]

/-- The buffer with `moved` bytes of `area`, as many as there is room for, and zeros behind them. -/
def filled (d : DataBuffer) (area : Bytes) (moved : Nat) : DataBuffer :=
  match d with
  | .inbound room =>
    let delivered := min moved room.length
    .inbound (area.take delivered ++ Bytes.zeros (room.length - delivered))
  | d => d

/-- When the area is as long as the buffer, it is filled with what was moved. -/
theorem receive_eq_filled (h : area.length = d.size) :
    d.receive area moved = d.filled area moved := by
  cases d with
  | none => rfl
  | outbound content => rfl
  | inbound room =>
    have h : area.length = room.length := h
    have hdrop : (Bytes.zeros room.length).drop (0 + (area.take moved).length) =
        Bytes.zeros (room.length - min moved room.length) := by
      rw [Bytes.zeros, List.drop_replicate, List.length_take, h, Nat.zero_add]
      rfl
    rw [receive, filled, Bytes.put, hdrop, List.take_zero, List.nil_append, Bytes.length_zeros,
      Nat.sub_zero, List.take_take, Nat.min_comm]

@[simp] theorem filled_blank : d.blank.filled area moved = d.filled area moved := by
  cases d <;> simp [blank, filled]

end DataBuffer

/-! ## Deliveries -/

namespace AtaRequest

/-- The request as a new one: without results, and with zeros in an inbound buffer. -/
def blank (r : AtaRequest) : AtaRequest :=
  { command := r.command, data := r.data.blank, timeout := r.timeout }

/-- `final` is the request with what an answer brings. -/
structure Holds (r : AtaRequest) (response : AtaResponse) (final : AtaRequest) : Prop where
  result : final.result = response.result
  data : final.data = r.data.filled response.area response.moved
  area : response.area.length = r.data.size

variable {r : AtaRequest} {c : Controller} {ep : Endpoint} {xs : List Exchange}

theorem SentByStp.length {x : Exchange} (h : r.SentByStp c ep x) :
    x.payload.length - stpFixedLength = r.data.size := by
  obtain ⟨b, hp, hx⟩ := h
  rw [hx.payload, (stpPayload_spec hp).2.2.length, Nat.add_sub_cancel_left]

theorem SentInSsp.length {cdb : Scsi.Cdb} {x : Exchange} (h : r.SentInSsp c ep cdb x) :
    x.payload.length - sspFixedLength = r.data.size := by
  obtain ⟨b, hp, hx⟩ := h
  rw [hx.payload, (ScsiRequest.payload_spec hp).2.2.length, Nat.add_sub_cancel_left]
  rfl

/-- An STP command that completed is left with what the answer brought. -/
theorem StpStep.holds {x : Exchange} {r' : AtaRequest} (hx : r.SentByStp c ep x)
    (h : r.StpStep x (.ok .completed, r')) :
    ∃ response, x.ataResponse? r.command.extended = some response ∧ r.Holds response r' := by
  have hcode : x.code = .stpPassthrough := by
    obtain ⟨b, -, hs⟩ := hx
    exact hs.code
  cases h with
  | @completed status area frame hs hc hf =>
    have harea : area.length = r.data.size := by rw [Exchange.length_area hs, hx.length]
    refine ⟨⟨⟨some frame.registers, some status.frame, some status.scr,
      Scsi.ataStatusReturn frame.registers r.command.extended⟩, status.dataBytes.toNat, area⟩,
      ?_, rfl, DataBuffer.receive_eq_filled harea, harea⟩
    rw [Exchange.ataResponse?, if_pos hcode, Exchange.stpResponse?, hs]
    simp [Except.toOption, hf]

/-- An accepted connection replaces all results of a command inside a SCSI command. -/
theorem result_settleSat {cdb : Scsi.Cdb} {status : SspStatus} {area : Bytes} :
    (r.settleSat cdb (.ok (status, area))).2.result =
      ⟨status.senseBuffer.ataRegisters?, none, none, status.senseBuffer⟩ := by
  rw [settleSat, result]
  simp only [absorb, ScsiRequest.senseBuffer_complete]

/-- A command inside a SCSI command is left with what the answer brought. -/
theorem SentInSsp.holds {cdb : Scsi.Cdb} {x : Exchange} {status : SspStatus} {area : Bytes}
    (hx : r.SentInSsp c ep cdb x) (h : x.sspResult = .ok (status, area)) :
    ∃ response, x.ataResponse? r.command.extended = some response ∧
      r.Holds response (r.settleSat cdb x.sspResult).2 := by
  have hcode : x.code ≠ .stpPassthrough := by
    obtain ⟨b, -, hs⟩ := hx
    rw [hs.code]
    decide
  have hs : x.sspStatus = .ok (status, area) := Exchange.sspStatus_of_sspResult h
  have harea : area.length = r.data.size := by rw [Exchange.length_area hs, hx.length]
  refine ⟨⟨⟨status.senseBuffer.ataRegisters?, none, none, status.senseBuffer⟩,
    status.dataBytes.toNat, area⟩, ?_, ?_, ?_, harea⟩
  · rw [Exchange.ataResponse?, if_neg hcode, Exchange.sspResponse?, hs]
    rfl
  · rw [h, result_settleSat]
  · rw [h]
    exact DataBuffer.receive_eq_filled harea

/-- What an answer brings does not depend on what the request held. -/
theorem Holds.of_blank {r' : AtaRequest} {response : AtaResponse} {final : AtaRequest}
    (h : r'.Holds response final) (hb : r'.blank = r.blank) : r.Holds response final := by
  have hdata : r'.data.blank = r.data.blank := congrArg AtaRequest.data hb
  refine ⟨h.result, ?_, ?_⟩
  · rw [h.data, ← DataBuffer.filled_blank, hdata, DataBuffer.filled_blank]
  · rw [h.area, ← DataBuffer.size_blank, hdata, DataBuffer.size_blank]

theorem blank_settleSat {cdb : Scsi.Cdb} {result : Except Fault (SspStatus × Bytes)} :
    (r.settleSat cdb result).2.blank = r.blank := by
  cases result with
  | error fault => rfl
  | ok p => simp [settleSat, absorb, blank, ScsiRequest.complete, satRequest]

/-- A delivery that succeeded leaves what its last exchange brought. -/
theorem Settled.holds {route : AtaRoute} {d : Delivery} (h : Settled c ep route r xs d)
    (hok : d.1 = .ok ()) :
    ∃ ys x response, xs = ys ++ [x] ∧ x.ataResponse? r.command.extended = some response ∧
      r.Holds response d.2.2 := by
  induction h with
  | tooLong => cases hok
  | legacyRefuses => cases hok
  | @stpEnds r r' x q hx hstep hq =>
    cases q with
    | error fault => cases hok
    | ok e =>
      cases e with
      | retryAsSsp => exact absurd rfl hq
      | completed =>
        obtain ⟨response, hresponse, hholds⟩ := hstep.holds hx
        exact ⟨[], x, response, rfl, hresponse, hholds⟩
  | @stpRetries r x xs d hx he _ ih =>
    obtain ⟨ys, y, response, rfl, hresponse, hholds⟩ := ih hok
    exact ⟨x :: ys, y, response, rfl, hresponse, hholds⟩
  | @sspEnds route r cdb x hroute hx hrej =>
    cases hr : x.sspResult with
    | error fault =>
      rw [hr] at hok
      cases hok
    | ok p =>
      obtain ⟨response, hresponse, hholds⟩ := hx.holds hr
      rw [hr] at hholds
      exact ⟨[], x, response, rfl, hresponse, hholds⟩
  | @satRejected r cdb x xs d hroute hx hrej _ ih =>
    obtain ⟨ys, y, response, rfl, hresponse, hholds⟩ := ih hok
    -- The last attempt began with what the rejected one left, which is as good as new.
    rw [settleSat_spec.1] at hresponse
    exact ⟨x :: ys, y, response, rfl, hresponse, hholds.of_blank blank_settleSat⟩

end AtaRequest

end DriveReach
