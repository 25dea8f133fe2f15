import DriveReach.Proofs.Exchange
import DriveReach.Proofs.Passthrough.Payload
/-!
# Single passthrough exchanges

One SSP or STP command is at most one exchange, and none only when the request has no payload. How
the exchange leaves the request is read off the answer.

* `ScsiRequest.course_send`, with `Exchange.sspResult` and `ScsiRequest.settle`: SCSI commands.
* `AtaRequest.course_sendSat`, with `AtaRequest.settleSat`: ATA commands inside SCSI commands.
  `Exchange.RejectsOpcode` says that the device refused the operation code, which is what moves the
  command on along its chain (`AtaRequest.fst_settleSat_eq_invalidOpcode_iff`).
* `AtaRequest.course_sendStp`, with `AtaRequest.StpStep`: ATA commands by STP.
-/

set_option autoImplicit false

namespace DriveReach

open Csmi

/-! ## SSP -/

/-- The sense data of an SSP status, none when the response holds none. -/
def Csmi.SspStatus.senseBuffer (s : SspStatus) : Scsi.SenseBuffer :=
  match s.sense? with
  | some sense => .ofBytes sense
  | none => .empty

namespace Exchange

/-- What an SSP exchange brings: the status and the data area, when the driver's return code is a
success and the connection was accepted. -/
def sspResult (x : Exchange) : Except Fault (SspStatus × Bytes) := do
  let reply ← x.reply
  reply.code.check
  let status ← SspStatus.decode (reply.payload.drop Layout.sspParameters.size)
  if status.connectionStatus ≠ openAccept then throw (.failed .connectionFailed)
  return (status, reply.payload.drop sspFixedLength)

/-- The payload of an answer that the driver gave as a success. -/
def response (x : Exchange) : Except Fault Bytes := do
  let reply ← x.reply
  reply.code.check
  return reply.payload

/-- The status behind the first `front` bytes of such an answer, and the data area behind the first
`fixed` ones. -/
def status {α : Type} (x : Exchange) (decode : Bytes → Except Fault α) (front fixed : Nat) :
    Except Fault (α × Bytes) := do
  let payload ← x.response
  let status ← decode (payload.drop front)
  return (status, payload.drop fixed)

def sspStatus (x : Exchange) : Except Fault (SspStatus × Bytes) :=
  x.status SspStatus.decode Layout.sspParameters.size sspFixedLength

def stpStatus (x : Exchange) : Except Fault (StpStatus × Bytes) :=
  x.status StpStatus.decode Layout.stpParameters.size stpFixedLength

section
variable {x : Exchange} {α : Type} {decode : Bytes → Except Fault α} {front fixed : Nat} {b : Bytes}

theorem status_of_response (h : x.response = .ok b) :
    x.status decode front fixed =
      (decode (b.drop front)).map fun status => (status, b.drop fixed) := by
  rw [status, h]
  change (decode (b.drop front)).bind (fun status => .ok (status, b.drop fixed)) = _
  cases decode (b.drop front) <;> rfl

theorem exists_response {p : α × Bytes} (h : x.status decode front fixed = .ok p) :
    ∃ b, x.response = .ok b ∧ p.2 = b.drop fixed := by
  cases hb : x.response with
  | error fault =>
    rw [status, hb] at h
    cases h
  | ok b =>
    rw [status_of_response hb] at h
    cases hd : decode (b.drop front) with
    | error fault =>
      rw [hd] at h
      cases h
    | ok s =>
      rw [hd] at h
      cases h
      exact ⟨b, rfl, rfl⟩

/-- An answer that the driver gave as a success does not ask for SCSI emulation. -/
theorem returnCode_ne_of_response (h : x.response = .ok b) :
    x.returnCode? ≠ some .scsiEmulation := by
  intro hc
  unfold returnCode? at hc
  unfold response at h
  cases hr : x.reply with
  | error fault =>
    rw [hr] at hc
    cases hc
  | ok reply =>
    rw [hr] at hc h
    have hcode : reply.code = .scsiEmulation := Option.some.inj hc
    have hcheck : reply.code.check = .error (.notSupported .scsiEmulation) := by
      rw [hcode]
      rfl
    simp only [bind, Except.bind, hcheck] at h
    cases h

theorem returnCode_ne_of_stpStatus {p : StpStatus × Bytes} (h : x.stpStatus = .ok p) :
    x.returnCode? ≠ some .scsiEmulation := by
  obtain ⟨b, hb, -⟩ := exists_response h
  exact returnCode_ne_of_response hb

end

/-- An SSP exchange brings what its status says, unless the connection was refused. -/
theorem sspResult_eq (x : Exchange) :
    x.sspResult = x.sspStatus.bind fun p =>
      if p.1.connectionStatus ≠ openAccept then .error (.failed .connectionFailed) else .ok p := by
  unfold sspResult sspStatus status response
  cases x.reply with
  | error fault => rfl
  | ok reply =>
    cases hc : reply.code.check with
    | error fault => simp only [bind, Except.bind, hc]
    | ok _ =>
      simp only [bind, Except.bind, hc, pure, Except.pure]
      cases SspStatus.decode (reply.payload.drop Layout.sspParameters.size) with
      | error fault => rfl
      | ok status =>
        dsimp only
        split <;> rfl

/-- An SSP exchange succeeded and its device does not know the operation code: the status is no
success, the sense data hold no ATA registers, and they say ILLEGAL REQUEST, 20h, 00h. -/
def RejectsOpcode (x : Exchange) : Prop :=
  ∃ status area summary, x.sspResult = .ok (status, area) ∧
    Scsi.Status.ofByte status.status ≠ .good ∧ Scsi.Status.ofByte status.status ≠ .conditionMet ∧
    status.senseBuffer.ataRegisters? = none ∧ status.senseBuffer.summary? = some summary ∧
    summary.key = .illegalRequest ∧ summary.asc = 0x20 ∧ summary.ascq = 0x00

end Exchange

namespace ScsiRequest

variable {r : ScsiRequest} {c : Controller} {ep : Endpoint} {xs : List Exchange}

/-- An SSP command without a payload is no exchange; any other is one. -/
theorem course_exchange {q : Except Fault (SspStatus × Bytes)}
    (h : (r.exchange c ep).run.Course xs q) :
    (∃ fault, r.payload ep = .error fault ∧ xs = [] ∧ q = .error fault) ∨
      ∃ x b, xs = [x] ∧ r.payload ep = .ok b ∧ c.Sent .sspPassthrough b x ∧ q = x.sspResult := by
  rw [exchange, Attempt.course_run_ofExcept_bind] at h
  cases hp : r.payload ep with
  | error fault =>
    rw [hp] at h
    exact .inl ⟨fault, rfl, h⟩
  | ok b =>
    rw [hp] at h
    refine .inr ?_
    rcases Attempt.course_run_bind.1 h with ⟨fault, rfl, hs⟩ | ⟨ys, zs, reply, rfl, hs, hf⟩
    · obtain ⟨x, rfl, hx, hr⟩ := Controller.course_send hs
      refine ⟨x, b, rfl, rfl, hx, ?_⟩
      rw [Exchange.sspResult, ← hr]
      rfl
    · obtain ⟨x, rfl, hx, hr⟩ := Controller.course_send hs
      suffices hq : zs = [] ∧ q = x.sspResult by
        obtain ⟨rfl, hq⟩ := hq
        exact ⟨x, b, rfl, rfl, hx, hq⟩
      rw [Exchange.sspResult, ← hr]
      rw [Attempt.course_run_ofExcept_bind] at hf
      cases hc : reply.code.check with
      | error fault =>
        rw [hc] at hf
        simp only [bind, Except.bind, hc]
        exact hf
      | ok _ =>
        rw [hc] at hf
        simp only [bind, Except.bind, hc]
        replace hf := Attempt.course_run_ofExcept_bind.1 hf
        cases hd : SspStatus.decode (reply.payload.drop Layout.sspParameters.size) with
        | error fault =>
          rw [hd] at hf
          exact hf
        | ok status =>
          rw [hd] at hf
          dsimp only at hf ⊢
          split at hf
          · rename_i hn
            rw [if_pos hn]
            exact hf
          · rename_i hn
            rw [if_neg hn]
            exact hf

/-- The end of a request whose exchange brought a result. -/
def settle (r : ScsiRequest) :
    Except Fault (SspStatus × Bytes) → Except Fault Unit × ScsiRequest
  | .error fault => (.error fault, r)
  | .ok (status, area) => (.ok (), r.complete status area)

/-- Delivering an SSP command: as `course_exchange`, and the request is left with what came back. -/
theorem course_send {q : Except Fault Unit × ScsiRequest} (h : (r.send c ep).Course xs q) :
    (∃ fault, r.payload ep = .error fault ∧ xs = [] ∧ q = (.error fault, r)) ∨
      ∃ x b, xs = [x] ∧ r.payload ep = .ok b ∧ c.Sent .sspPassthrough b x ∧
        q = r.settle x.sspResult := by
  rw [send, Dialogue.course_bind] at h
  obtain ⟨ys, zs, u, rfl, he, hf⟩ := h
  have hq : zs = [] ∧ q = r.settle u := by
    cases u with
    | error fault => exact hf
    | ok p => exact Dialogue.course_notes_bind.1 hf
  obtain ⟨rfl, hq⟩ := hq
  rcases course_exchange he with ⟨fault, hp, rfl, rfl⟩ | ⟨x, b, rfl, hp, hx, rfl⟩
  · exact .inl ⟨fault, hp, rfl, hq⟩
  · exact .inr ⟨x, b, rfl, hp, hx, hq⟩

theorem senseBuffer_complete {status : SspStatus} {area : Bytes} :
    (r.complete status area).sense = status.senseBuffer := by
  rw [complete, SspStatus.senseBuffer]
  cases status.sense? <;> rfl

end ScsiRequest

theorem DataBuffer.size_receive (d : DataBuffer) (area : Bytes) (count : Nat) :
    (d.receive area count).size = d.size := by
  cases d <;> simp [DataBuffer.receive, DataBuffer.size, DataBuffer.bytes]

namespace AtaRequest

variable {r : AtaRequest} {c : Controller} {ep : Endpoint} {xs : List Exchange}

/-- The operation code counts as unknown exactly when the sense data say so and carry no
registers. -/
theorem satEnd_eq_invalidOpcode_iff {scsi : ScsiRequest} :
    satEnd scsi = .ok .invalidOpcode ↔
      scsi.status ≠ .good ∧ scsi.status ≠ .conditionMet ∧ scsi.sense.ataRegisters? = none ∧
        ∃ summary, scsi.sense.summary? = some summary ∧ summary.key = .illegalRequest ∧
          summary.asc = 0x20 ∧ summary.ascq = 0x00 := by
  unfold satEnd
  by_cases hg : scsi.status.isGood || scsi.sense.ataRegisters?.isSome
  · simp only [hg, if_true]
    constructor
    · intro h
      cases h
    · rintro ⟨h1, h2, h3, -⟩
      rw [h3] at hg
      cases hs : scsi.status <;> simp_all [Scsi.Status.isGood]
  · simp only [hg, if_false, Bool.false_eq_true]
    rw [Bool.or_eq_true, not_or] at hg
    have h1 : scsi.status ≠ .good := fun h => hg.1 (by rw [h]; rfl)
    have h2 : scsi.status ≠ .conditionMet := fun h => hg.1 (by rw [h]; rfl)
    have h3 : scsi.sense.ataRegisters? = none := by simpa using hg.2
    cases hs : scsi.sense.summary? with
    | none => simp
    | some s =>
      by_cases hi : s.isInvalidOpcode
      · simp_all [Scsi.SenseSummary.isInvalidOpcode, Scsi.SenseCode.invalidOpcode,
          Scsi.SenseQualifier.none]
      · simp_all [Scsi.SenseSummary.isInvalidOpcode, Scsi.SenseCode.invalidOpcode,
          Scsi.SenseQualifier.none]

/-- The SCSI command that carries the command. -/
def satRequest (r : AtaRequest) (cdb : Scsi.Cdb) : ScsiRequest :=
  { cdb := cdb, data := r.data, timeout := r.timeout }

/-- The end of a request whose carrier brought a result. -/
def settleSat (r : AtaRequest) (cdb : Scsi.Cdb) :
    Except Fault (SspStatus × Bytes) → Except Fault SatEnd × AtaRequest
  | .error fault => (.error fault, r)
  | .ok (status, area) =>
    let scsi := (r.satRequest cdb).complete status area
    (satEnd scsi, r.absorb scsi)

/-- `x` is the call that carries the request inside a SCSI command. -/
def SentInSsp (r : AtaRequest) (c : Controller) (ep : Endpoint) (cdb : Scsi.Cdb) (x : Exchange) :
    Prop :=
  ∃ b, (r.satRequest cdb).payload ep = .ok b ∧ c.Sent .sspPassthrough b x

/-- Delivering the command inside a SCSI command: as `ScsiRequest.course_send`, and the request is
left with what came back. -/
theorem course_sendSat {cdb : Scsi.Cdb} {q : Except Fault SatEnd × AtaRequest}
    (h : (r.sendSat c ep cdb).Course xs q) :
    (∃ fault, (r.satRequest cdb).payload ep = .error fault ∧ xs = [] ∧ q = (.error fault, r)) ∨
      ∃ x, xs = [x] ∧ r.SentInSsp c ep cdb x ∧ q = r.settleSat cdb x.sspResult := by
  rw [sendSat, Dialogue.course_bind] at h
  obtain ⟨ys, zs, u, rfl, he, hf⟩ := h
  rcases ScsiRequest.course_send he with ⟨fault, hp, rfl, rfl⟩ | ⟨x, b, rfl, hp, hx, rfl⟩
  · exact .inl ⟨fault, hp, hf⟩
  suffices hq : zs = [] ∧ q = r.settleSat cdb x.sspResult by
    obtain ⟨rfl, hq⟩ := hq
    exact .inr ⟨x, rfl, ⟨b, hp, hx⟩, hq⟩
  cases hr : x.sspResult with
  | error fault =>
    rw [hr] at hf
    exact hf
  | ok p =>
    rw [hr] at hf
    exact hf

/-- The command goes on along the chain exactly when the device rejects the operation code. -/
theorem fst_settleSat_eq_invalidOpcode_iff {cdb : Scsi.Cdb} {x : Exchange} :
    (r.settleSat cdb x.sspResult).1 = .ok .invalidOpcode ↔ x.RejectsOpcode := by
  unfold Exchange.RejectsOpcode
  cases x.sspResult with
  | error fault => simp [settleSat]
  | ok p =>
    obtain ⟨status, area⟩ := p
    rw [settleSat, satEnd_eq_invalidOpcode_iff, ScsiRequest.senseBuffer_complete]
    constructor
    · rintro ⟨h1, h2, h3, summary, h4⟩
      exact ⟨status, area, summary, rfl, h1, h2, h3, h4⟩
    · rintro ⟨_, _, summary, ⟨rfl, rfl⟩, h1, h2, h3, h4⟩
      exact ⟨h1, h2, h3, summary, h4⟩

/-- What came back changes neither the command nor how much data it moves. -/
theorem settleSat_spec {cdb : Scsi.Cdb} {result : Except Fault (SspStatus × Bytes)} :
    (r.settleSat cdb result).2.command = r.command ∧
      (r.settleSat cdb result).2.data.size = r.data.size := by
  cases result with
  | error fault => exact ⟨rfl, rfl⟩
  | ok p => exact ⟨rfl, DataBuffer.size_receive _ _ _⟩

/-! ## STP -/

/-- How an STP exchange can end, with the result and the request as it is left. -/
inductive StpStep (r : AtaRequest) (x : Exchange) : Except Fault StpEnd × AtaRequest → Prop
  | emulated : x.returnCode? = some .scsiEmulation → StpStep r x (.ok .retryAsSsp, r)
  /-- There is no answer, or none that the driver gave as a success, or it is too short. -/
  | failed {fault : Fault} :
    x.returnCode? ≠ some .scsiEmulation → x.stpStatus = .error fault → StpStep r x (.error fault, r)
  | refused {status : StpStatus} {area : Bytes} :
    x.stpStatus = .ok (status, area) → status.connectionStatus ≠ openAccept →
    StpStep r x (.error (.failed .connectionFailed), r.withoutResult)
  | garbled {status : StpStatus} {area : Bytes} {fault : Ata.FrameFault} :
    x.stpStatus = .ok (status, area) → status.connectionStatus = openAccept →
    Ata.StatusFrame.parse status.frame.toList = .error fault →
    StpStep r x (.error (.frame fault), (r.received status area).withoutResult)
  | completed {status : StpStatus} {area : Bytes} {frame : Ata.StatusFrame} :
    x.stpStatus = .ok (status, area) → status.connectionStatus = openAccept →
    Ata.StatusFrame.parse status.frame.toList = .ok frame →
    StpStep r x (.ok .completed, (r.received status area).withRegisters frame.registers)

/-- An answer that the driver gave as a success needs no further exchange. -/
theorem course_completeStp {x : Exchange} {payload : Bytes} {q : Except Fault StpEnd × AtaRequest}
    (hx : x.response = .ok payload) (hn : x.returnCode? ≠ some .scsiEmulation)
    (h : (r.completeStp ep payload).Course xs q) : xs = [] ∧ r.StpStep x q := by
  unfold completeStp at h
  have hs : x.stpStatus = (StpStatus.decode (payload.drop Layout.stpParameters.size)).map
      fun status => (status, payload.drop stpFixedLength) := Exchange.status_of_response hx
  split at h
  · rename_i fault hd
    obtain ⟨rfl, rfl⟩ := h
    exact ⟨rfl, .failed hn (by rw [hs, hd]; rfl)⟩
  · rename_i status hd
    rw [hd] at hs
    dsimp only at h
    split at h
    · rename_i hc
      obtain ⟨rfl, rfl⟩ := Dialogue.course_notes_bind.1 h
      exact ⟨rfl, .refused hs hc⟩
    · rename_i hc
      rw [Decidable.not_not] at hc
      split at h
      · rename_i fault hf
        obtain ⟨rfl, rfl⟩ := h
        exact ⟨rfl, .garbled hs hc hf⟩
      · rename_i frame hf
        obtain ⟨rfl, rfl⟩ := Dialogue.course_notes_bind.1 h
        exact ⟨rfl, .completed hs hc hf⟩

/-- `x` is the call that carries the request by STP. -/
def SentByStp (r : AtaRequest) (c : Controller) (ep : Endpoint) (x : Exchange) : Prop :=
  ∃ b, r.stpPayload ep = .ok b ∧ c.Sent .stpPassthrough b x

/-- Delivering the command by STP is at most one exchange, and `StpStep` says how it ends. -/
theorem course_sendStp {q : Except Fault StpEnd × AtaRequest} (h : (r.sendStp c ep).Course xs q) :
    (∃ fault, r.stpPayload ep = .error fault ∧ xs = [] ∧ q = (.error fault, r)) ∨
      ∃ x, xs = [x] ∧ r.SentByStp c ep x ∧ r.StpStep x q := by
  rw [sendStp, Dialogue.course_bind] at h
  obtain ⟨ys, zs, u, rfl, he, hf⟩ := h
  rw [stpCall, Attempt.course_run_ofExcept_bind] at he
  cases hp : r.stpPayload ep with
  | error fault =>
    rw [hp] at he
    obtain ⟨rfl, rfl⟩ := he
    exact .inl ⟨fault, rfl, hf⟩
  | ok b =>
    rw [hp] at he
    obtain ⟨x, rfl, hx, hr⟩ := Controller.course_send he
    suffices hq : zs = [] ∧ r.StpStep x q by
      obtain ⟨rfl, hq⟩ := hq
      exact .inr ⟨x, rfl, ⟨b, hp, hx⟩, hq⟩
    cases u with
    | error fault =>
      obtain ⟨rfl, rfl⟩ := hf
      refine ⟨rfl, .failed ?_ ?_⟩
      · rw [Exchange.returnCode?, ← hr]
        exact (nomatch ·)
      · rw [Exchange.stpStatus, Exchange.status, Exchange.response, ← hr]
        rfl
    | ok reply =>
      have hcode : x.returnCode? = some reply.code := by rw [Exchange.returnCode?, ← hr]; rfl
      dsimp only at hf
      split at hf
      · rename_i hc
        obtain ⟨rfl, rfl⟩ := Dialogue.course_notes_bind.1 hf
        exact ⟨rfl, .emulated (by rw [hcode, hc])⟩
      · rename_i hc
        have hn : x.returnCode? ≠ some .scsiEmulation := by simpa [hcode] using hc
        have hresponse : x.response = reply.code.check.map fun _ => reply.payload := by
          rw [Exchange.response, ← hr]
          rfl
        split at hf
        · rename_i fault hk
          obtain ⟨rfl, rfl⟩ := hf
          refine ⟨rfl, .failed hn ?_⟩
          rw [Exchange.stpStatus, Exchange.status, hresponse, hk]
          rfl
        · rename_i hk
          exact course_completeStp (by rw [hresponse, hk]; rfl) hn hf

namespace StpStep

variable {x : Exchange} {q : Except Fault StpEnd × AtaRequest}

/-- The command goes on along the chain exactly when the driver's return code is SCSI emulation, and
then as it was. -/
theorem retries_iff (h : r.StpStep x q) :
    x.returnCode? = some .scsiEmulation ∧ q = (.ok .retryAsSsp, r) ∨
      x.returnCode? ≠ some .scsiEmulation ∧ q.1 ≠ .ok .retryAsSsp := by
  cases h with
  | emulated he => exact .inl ⟨he, rfl⟩
  | failed hn => exact .inr ⟨hn, (nomatch ·)⟩
  | refused hs => exact .inr ⟨Exchange.returnCode_ne_of_stpStatus hs, (nomatch ·)⟩
  | garbled hs => exact .inr ⟨Exchange.returnCode_ne_of_stpStatus hs, (nomatch ·)⟩
  | completed hs => exact .inr ⟨Exchange.returnCode_ne_of_stpStatus hs, (nomatch ·)⟩

end StpStep

end AtaRequest

end DriveReach
