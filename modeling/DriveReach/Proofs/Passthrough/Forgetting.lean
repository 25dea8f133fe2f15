import DriveReach.Proofs.Alike
import DriveReach.Proofs.Passthrough.Results
/-!
# What a request held before

A request is used again for the next command, and one delivery may try it three times. Two requests
that are the same as new ones (`AtaRequest.blank`) are delivered alike, and when the delivery
succeeds nothing of what they held before is left.

* `alike_sendStp`, `alike_sendSat`, `alike_issue`: nobody can tell the deliveries apart.
* `delivery_forgets`: so both succeed or neither, and then they hold what the last answer brought.
-/

set_option autoImplicit false

namespace DriveReach

open Csmi Dialogue

namespace AtaRequest

/-- Two ends of a step that agree but for what the requests held before, and agree altogether where
this was replaced. -/
structure Agree {ε : Type} (replaced : ε → Prop) (q q' : Except Fault ε × AtaRequest) : Prop where
  result : q.1 = q'.1
  blank : q.2.blank = q'.2.blank
  equal : ∀ e, q.1 = .ok e → replaced e → q.2 = q'.2

variable {r r' : AtaRequest} {c : Controller} {ep : Endpoint}

theorem Agree.refl {ε : Type} {replaced : ε → Prop} (q : Except Fault ε × AtaRequest) :
    Agree replaced q q := ⟨rfl, rfl, fun _ _ _ => rfl⟩

theorem Agree.error {ε : Type} {replaced : ε → Prop} (fault : Fault) (h : r.blank = r'.blank) :
    Agree replaced ((.error fault, r) : Except Fault ε × AtaRequest) (.error fault, r') :=
  ⟨rfl, h, fun _ h => nomatch h⟩

/-! ## What a new request has in common with the one it renews -/

theorem command_of_blank (h : r.blank = r'.blank) : r.command = r'.command := by
  have hc : r.blank.command = r'.blank.command := congrArg _ h
  exact hc

theorem stpPayload_blank : r.blank.stpPayload ep = r.stpPayload ep := by
  simp [stpPayload, blank, commandAt]

theorem stpCall_blank : r.blank.stpCall c ep = r.stpCall c ep := by
  rw [stpCall, stpCall, stpPayload_blank]
  rfl

theorem payload_satRequest_blank {cdb : Scsi.Cdb} :
    (r.blank.satRequest cdb).payload ep = (r.satRequest cdb).payload ep := by
  simp [ScsiRequest.payload, satRequest, blank]

theorem exchange_satRequest_blank {cdb : Scsi.Cdb} :
    (r.blank.satRequest cdb).exchange c ep = (r.satRequest cdb).exchange c ep := by
  rw [ScsiRequest.exchange, ScsiRequest.exchange, payload_satRequest_blank]
  rfl

theorem complete_satRequest_blank {cdb : Scsi.Cdb} {status : SspStatus} {area : Bytes} :
    (r.blank.satRequest cdb).complete status area = (r.satRequest cdb).complete status area := by
  simp [ScsiRequest.complete, satRequest, blank]

theorem absorb_blank {scsi : ScsiRequest} : r.blank.absorb scsi = r.absorb scsi := rfl

theorem blank_received {status : StpStatus} {area : Bytes} :
    ((r.received status area).withoutResult).blank = r.blank := by
  simp [received, withoutResult, blank]

theorem withRegisters_received_blank {status : StpStatus} {area : Bytes}
    {registers : Ata.Registers} :
    (r.blank.received status area).withRegisters registers =
      (r.received status area).withRegisters registers := by
  simp [received, withRegisters, blank]

/-! ## Steps -/

theorem alike_sendSat {cdb : Scsi.Cdb} (h : r.blank = r'.blank) :
    (r.sendSat c ep cdb).Alike (Agree fun _ => True) (r'.sendSat c ep cdb) := by
  have hsend : ((r.satRequest cdb).send c ep).Alike
      (fun q q' => q.1 = q'.1 ∧ (q.1 = .ok () → q.2 = q'.2)) ((r'.satRequest cdb).send c ep) := by
    have hx : (r.satRequest cdb).exchange c ep = (r'.satRequest cdb).exchange c ep := by
      rw [← exchange_satRequest_blank, h, exchange_satRequest_blank]
    rw [ScsiRequest.send, ScsiRequest.send, hx]
    refine .bind_same fun u => ?_
    cases u with
    | error fault => exact .done ⟨rfl, fun h => by cases h⟩
    | ok p =>
      have hc : (r.satRequest cdb).complete p.1 p.2 = (r'.satRequest cdb).complete p.1 p.2 := by
        rw [← complete_satRequest_blank, h, complete_satRequest_blank]
      dsimp only
      rw [hc]
      exact .bind_same fun _ => .done ⟨rfl, fun _ => rfl⟩
  refine hsend.bind fun q q' hq => ?_
  obtain ⟨result, scsi⟩ := q
  obtain ⟨result', scsi'⟩ := q'
  obtain ⟨rfl, hq⟩ := hq
  cases result with
  | error fault => exact .done (.error fault h)
  | ok _ =>
    obtain rfl := hq rfl
    have ha : r.absorb scsi = r'.absorb scsi := by rw [← absorb_blank, h, absorb_blank]
    dsimp only
    rw [ha]
    exact .done (.refl _)

theorem alike_completeStp {payload : Bytes} (h : r.blank = r'.blank) :
    (r.completeStp ep payload).Alike (Agree (· = .completed)) (r'.completeStp ep payload) := by
  unfold completeStp
  cases StpStatus.decode (payload.drop Layout.stpParameters.size) with
  | error fault => exact .done (.error fault h)
  | ok status =>
    dsimp only
    split
    · exact .bind_same fun _ => .done (.error _ h)
    · have hstep : ∀ registers,
          (r.received status (payload.drop stpFixedLength)).withRegisters registers =
            (r'.received status (payload.drop stpFixedLength)).withRegisters registers := by
        intro registers
        rw [← withRegisters_received_blank, h, withRegisters_received_blank]
      split
      · exact .done (.error _ (by rw [blank_received, blank_received, h]))
      · rename_i frame hf
        have hnote : (r.received status (payload.drop stpFixedLength)).errorNote? ep
              frame.registers =
            (r'.received status (payload.drop stpFixedLength)).errorNote? ep
              frame.registers := by
          simp only [errorNote?, stpLabel, received, command_of_blank h]
        rw [hnote, hstep]
        exact .bind_same fun _ => .done (.refl _)

theorem alike_sendStp (h : r.blank = r'.blank) :
    (r.sendStp c ep).Alike (Agree (· = .completed)) (r'.sendStp c ep) := by
  have hcall : r.stpCall c ep = r'.stpCall c ep := by
    rw [← stpCall_blank, h, stpCall_blank]
  have hlabel : r.stpLabel ep = r'.stpLabel ep := by
    rw [stpLabel, stpLabel, command_of_blank h]
  rw [sendStp, sendStp, hcall]
  refine .bind_same fun u => ?_
  cases u with
  | error fault => exact .done (.error fault h)
  | ok reply =>
    dsimp only
    split
    · rw [hlabel]
      exact .bind_same fun _ => .done ⟨rfl, h, fun e he hc => by cases he; cases hc⟩
    · cases reply.code.check with
      | error fault => exact .done (.error fault h)
      | ok _ => exact alike_completeStp h

/-! ## Deliveries -/

/-- Two ends of deliveries that agree but for what the requests held before, and agree altogether
when the delivery succeeded. -/
structure Delivery.Agree (d d' : Delivery) : Prop where
  requests : AtaRequest.Agree (fun _ => True) (d.1, d.2.2) (d'.1, d'.2.2)
  endpoint : d.2.1 = d'.2.1

theorem alike_issueLegacy (h : r.blank = r'.blank) :
    (r.issueLegacy c ep).Alike Delivery.Agree (r'.issueLegacy c ep) := by
  rw [issueLegacy, issueLegacy, command_of_blank h]
  cases Scsi.AtaPassThrough.cdb12 r'.command with
  | error fault => exact .done ⟨.error _ h, rfl⟩
  | ok cdb =>
    refine (alike_sendSat h).bind fun q q' hq => ?_
    obtain ⟨result, left⟩ := q
    obtain ⟨result', left'⟩ := q'
    obtain rfl : result = result' := hq.result
    match result with
    | .error fault => exact .done ⟨.error fault hq.blank, rfl⟩
    | .ok .completed =>
      obtain rfl : left = left' := hq.equal _ rfl trivial
      exact .done ⟨.refl _, rfl⟩
    | .ok .invalidOpcode => exact .done ⟨.error _ hq.blank, rfl⟩

theorem alike_issueSat (h : r.blank = r'.blank) :
    (r.issueSat c ep).Alike Delivery.Agree (r'.issueSat c ep) := by
  rw [issueSat, issueSat, command_of_blank h]
  refine (alike_sendSat h).bind fun q q' hq => ?_
  obtain ⟨result, left⟩ := q
  obtain ⟨result', left'⟩ := q'
  obtain rfl : result = result' := hq.result
  match result with
  | .error fault => exact .done ⟨.error fault hq.blank, rfl⟩
  | .ok .completed =>
    obtain rfl : left = left' := hq.equal _ rfl trivial
    exact .done ⟨.refl _, rfl⟩
  -- A rejected attempt leaves both requests the same as new ones, which is all the next one needs.
  | .ok .invalidOpcode => exact .bind_same fun _ => alike_issueLegacy hq.blank

theorem alike_issueStp (h : r.blank = r'.blank) :
    (r.issueStp c ep).Alike Delivery.Agree (r'.issueStp c ep) := by
  refine (alike_sendStp h).bind fun q q' hq => ?_
  obtain ⟨result, left⟩ := q
  obtain ⟨result', left'⟩ := q'
  obtain rfl : result = result' := hq.result
  match result with
  | .error fault => exact .done ⟨.error fault hq.blank, rfl⟩
  | .ok .completed =>
    obtain rfl : left = left' := hq.equal _ rfl rfl
    exact .done ⟨.refl _, rfl⟩
  | .ok .retryAsSsp => exact alike_issueSat hq.blank

/-- Requests that are the same as new ones are delivered alike. -/
theorem alike_issue (h : r.blank = r'.blank) :
    (r.issue c ep).Alike Delivery.Agree (r'.issue c ep) := by
  unfold issue
  cases ep.route with
  | stp => exact alike_issueStp h
  | satOverSsp => exact alike_issueSat h
  | legacyOverSsp => exact alike_issueLegacy h

/-- **A delivery forgets what the request held before.** Take two requests that differ at most in
the results of an earlier command and in the bytes of an inbound buffer. Whatever the driver
answers, the same calls are made for both, with the same result. When the delivery succeeds, both
requests are left equal: they hold what the answer to the last call brought, and of the buffer's
former bytes none is left. -/
theorem delivery_forgets {σ : Type} (w : Surroundings σ) (s : σ) (c : Controller) (ep : Endpoint)
    {r r' : AtaRequest} (h : r.blank = r'.blank) :
    let run := (r.issue c ep).run w s
    let run' := (r'.issue c ep).run w s
    run.events = run'.events ∧ run.state = run'.state ∧
      (r.issue c ep).exchanges w s = (r'.issue c ep).exchanges w s ∧
      run.value.1 = run'.value.1 ∧ run.value.2.1 = run'.value.2.1 ∧
      (run.value.1 = .ok () → run.value.2.2 = run'.value.2.2 ∧
        ∃ ys x response, (r.issue c ep).exchanges w s = ys ++ [x] ∧
          x.ataResponse? r.command.extended = some response ∧
          r.Holds response run.value.2.2) := by
  intro run run'
  obtain ⟨hevents, hxs, hstate, hd⟩ := (alike_issue h).run w s
  refine ⟨hevents, hstate, hxs, hd.requests.result, hd.endpoint, fun hok => ⟨?_, ?_⟩⟩
  · exact hd.requests.equal () hok trivial
  · exact (settled_issue (course_run w (r.issue c ep) s)).holds hok

/-- A driver that emulates SCSI and answers every SSP command with the two bytes 01h, 02h. -/
def shortReader : Surroundings Unit where
  attach s _ _ := (.ok ⟨0⟩, s)
  call s _ code buffer :=
    (.ok (if code = .stpPassthrough then
      HeaderLayout.compact.setReturnCode buffer .scsiEmulation
    else
      Bytes.put (buffer.put (headerLength + 336) (Bytes.toLE 4 2)) (headerLength + 340) [1, 2]), s)

/-- A request with room for four bytes. -/
def fourBytes (room : Bytes) : AtaRequest := { command := .identify, data := .inbound room }

/-- A used request is left as a new one would be: two bytes delivered, two bytes zero. -/
theorem delivery_forgets_shortReader :
    let used : AtaRequest := { fourBytes [9, 9, 9, 9] with
      statusFrame := some (Vector.replicate 20 0xEE), scr := some (Vector.replicate 16 7) }
    used.blank = (fourBytes [0, 0, 0, 0]).blank ∧
      ((used.issue ⟨⟨0⟩, 0, .off⟩ (.at 1 0 .zero)).run shortReader ()).value.2.2 =
        (((fourBytes [0, 0, 0, 0]).issue ⟨⟨0⟩, 0, .off⟩ (.at 1 0 .zero)).run shortReader
          ()).value.2.2 ∧
      ((used.issue ⟨⟨0⟩, 0, .off⟩ (.at 1 0 .zero)).run shortReader ()).value.2.2.data =
        .inbound [1, 2, 0, 0] := by
  intro used
  have hblank : used.blank = (fourBytes [0, 0, 0, 0]).blank := rfl
  have hok : ((used.issue ⟨⟨0⟩, 0, .off⟩ (.at 1 0 .zero)).run shortReader ()).value.1 = .ok () := by
    decide +kernel
  exact ⟨hblank,
    ((delivery_forgets shortReader () ⟨⟨0⟩, 0, .off⟩ (.at 1 0 .zero) hblank).2.2.2.2.2 hok).1,
    by decide +kernel⟩

end AtaRequest

end DriveReach
