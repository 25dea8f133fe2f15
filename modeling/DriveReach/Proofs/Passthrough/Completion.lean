import DriveReach.Proofs.Controller.Decoders
import DriveReach.Proofs.Passthrough.Encoding
import DriveReach.Proofs.Passthrough.Results
import DriveReach.Proofs.Scsi.SenseBuffer
import DriveReach.Proofs.Steady
/-!
# How a completed SSP command leaves its request

A driver sets three lengths in its answer: that of the response (16 bits), that of the sense data by
the kind of the response, and that of the data (32 bits). Each is cut to what there is room for:
256 bytes of response, 252 bytes of sense data, and the buffer of the request.

* `SspStatus.ofPayload`: the status block where it stands in an answer.
* `ScsiRequest.ssp_completion`: whatever the driver answers, every result of the request is a matter
  of the answer alone, and is read from within it.
-/

set_option autoImplicit false

namespace DriveReach

open Csmi

/-! ## Answers -/

/-- The status in the payload of an SSP answer. -/
def Csmi.SspStatus.ofPayload (b : Bytes) : SspStatus where
  connectionStatus := b.byteAt 72
  sspStatus := b.byteAt 73
  dataPresent := .ofByte (b.byteAt 76)
  status := b.byteAt 77
  responseLength := b.be16 78
  response := b.slice 80 (min (b.be16 78).toNat SspStatus.responseWidth)
  dataBytes := b.le32 336

theorem Csmi.SspStatus.decode_drop {b : Bytes} (h : sspFixedLength ≤ b.length) :
    SspStatus.decode (b.drop Layout.sspParameters.size) = .ok (.ofPayload b) := by
  have hfront : Layout.sspParameters.size = 72 := rfl
  have hroom : Layout.sspStatus.size ≤ (b.drop Layout.sspParameters.size).length := by
    rw [List.length_drop]
    exact Nat.le_sub_of_add_le' h
  rw [SspStatus.decode, Layout.require_eq_ok hroom, hfront]
  change Except.ok _ = _
  simp only [Bytes.byteAt_drop, Bytes.slice_drop, Bytes.le32_drop, Bytes.be16_drop]
  rfl

/-- An accepted connection brings the status and the data area of the answer. -/
theorem Exchange.sspResult_of_response {x : Exchange} {b : Bytes} (hb : x.response = .ok b)
    (hl : sspFixedLength ≤ b.length) (hc : b.byteAt 72 = openAccept) :
    x.sspResult = .ok (.ofPayload b, b.drop sspFixedLength) := by
  rw [sspResult_eq, sspStatus, status_of_response hb, SspStatus.decode_drop hl]
  exact if_neg (not_not_intro hc)

/-! ## Requests -/

/-- The number of response bytes in the payload of an SSP answer: the big-endian length, at most
what the response field holds. -/
def sspResponseLength (b : Bytes) : Nat :=
  min (256 * (b.byteAt 78).toNat + (b.byteAt 79).toNat) 256

/-- The number of data bytes that the payload of an SSP answer says were moved. -/
def sspMoved (b : Bytes) : Nat := (b.le32 336).toNat

theorem Csmi.SspDataPresent.ofByte_eq_senseData {b : UInt8} :
    SspDataPresent.ofByte b = .senseData ↔ b = 2 := by
  unfold SspDataPresent.ofByte
  by_cases h0 : b = 0
  · simp [h0]
  by_cases h1 : b = 1
  · simp [h1]
  by_cases h2 : b = 2 <;> simp [h0, h1, h2]

theorem Csmi.SspStatus.response_ofPayload (b : Bytes) :
    (SspStatus.ofPayload b).response = b.slice 80 (sspResponseLength b) := by
  rw [ofPayload, sspResponseLength, Bytes.toNat_be16, responseWidth]

/-- The response field is wide enough for what is read of it. -/
theorem sspResponseLength_le (b : Bytes) : 80 + sspResponseLength b ≤ 336 := by
  unfold sspResponseLength
  omega

/-- The response is as long as it is said to be: nothing of it is missing from the answer. -/
theorem Csmi.SspStatus.length_response_ofPayload {b : Bytes} (h : sspFixedLength ≤ b.length) :
    (SspStatus.ofPayload b).response.length = sspResponseLength b := by
  have hfield := sspResponseLength_le b
  have hroom : 340 ≤ b.length := h
  rw [response_ofPayload]
  exact Bytes.length_slice (by omega)

/-- The sense data of an answer: its response when the driver calls it so, else none. -/
theorem Csmi.SspStatus.senseBuffer_ofPayload (b : Bytes) : (SspStatus.ofPayload b).senseBuffer =
    if b.byteAt 76 = 2 then .ofBytes (b.slice 80 (sspResponseLength b)) else .empty := by
  have hkind : (ofPayload b).dataPresent = .senseData ↔ b.byteAt 76 = 2 :=
    SspDataPresent.ofByte_eq_senseData
  rw [senseBuffer, sense?, response_ofPayload]
  by_cases h : b.byteAt 76 = 2
  · rw [if_pos h, if_pos (hkind.2 h)]
  · rw [if_neg h, if_neg (mt hkind.1 h)]

namespace ScsiRequest

/-- `final` is the request with what the payload of an SSP answer brings. -/
structure Completed (r : ScsiRequest) (b : Bytes) (final : ScsiRequest) : Prop where
  status : final.status = .ofByte (b.byteAt 77)
  sense : b.byteAt 76 = 2 → final.sense.valid = b.slice 80 (min (sspResponseLength b) 252)
  noSense : b.byteAt 76 ≠ 2 → final.sense.valid = []
  tidy : final.sense.Tidy
  data : final.data = match r.data with
    | .inbound room => .inbound ((b.drop 340).take (min (sspMoved b) room.length) ++
        Bytes.zeros (room.length - min (sspMoved b) room.length))
    | d => d
  command : final.cdb = r.cdb
  timeout : final.timeout = r.timeout
  /-- The response that is decoded is whole: all of it stands in the response field, and in the
  answer. -/
  responseInside : ∃ status, SspStatus.decode (b.drop 72) = .ok status ∧
    status.response = b.slice 80 (sspResponseLength b) ∧
    status.response.length = sspResponseLength b ∧
    80 + status.response.length ≤ 336 ∧ 336 ≤ b.length
  /-- The data that are read end where the answer does, or before. -/
  dataInside : 340 + min (sspMoved b) r.data.size ≤ b.length

variable {r : ScsiRequest} {b : Bytes}

theorem completed_complete (hl : b.length = 340 + r.data.size) :
    r.Completed b (r.complete (.ofPayload b) (b.drop sspFixedLength)) := by
  have harea : (b.drop sspFixedLength).length = r.data.size := by
    rw [List.length_drop, hl]
    exact Nat.add_sub_cancel_left 340 _
  have hroom : sspFixedLength ≤ b.length := hl ▸ Nat.le_add_right ..
  have hresponse : (SspStatus.ofPayload b).response.length = sspResponseLength b :=
    SspStatus.length_response_ofPayload hroom
  have hsense : (r.complete (.ofPayload b) (b.drop sspFixedLength)).sense =
      if b.byteAt 76 = 2 then .ofBytes (b.slice 80 (sspResponseLength b)) else .empty := by
    rw [senseBuffer_complete, SspStatus.senseBuffer_ofPayload]
  refine {
    status := rfl
    sense := fun h => ?sense
    noSense := fun h => ?noSense
    tidy := ?tidy
    data := ?data
    command := rfl
    timeout := rfl
    responseInside := ?responseInside
    dataInside := by omega }
  case sense =>
    rw [hsense, if_pos h, Scsi.SenseBuffer.ofBytes, Scsi.SenseBuffer.valid_set, Bytes.take_slice,
      Nat.min_comm]
    rfl
  case noSense => rw [hsense, if_neg h, Scsi.SenseBuffer.valid_empty]
  case tidy =>
    rw [hsense]
    split
    · exact Scsi.SenseBuffer.tidy_set
    · exact Scsi.SenseBuffer.tidy_empty
  case data => exact DataBuffer.receive_eq_filled harea
  case responseInside =>
    refine ⟨.ofPayload b, SspStatus.decode_drop hroom, SspStatus.response_ofPayload b, hresponse,
      ?_, by omega⟩
    rw [hresponse]
    exact sspResponseLength_le b

/-- **A completed command holds what its answer says, and nothing older.** A command of at least one
byte whose data fit 32 bits is one SSP call. Whatever payload its answer brings, when the driver
calls it a success and the connection was accepted, the command ends without a fault, and its
status, its sense data and its buffer are those of the answer, whatever they were before. The three
lengths that the driver sets are cut to what there is room for. -/
theorem ssp_completion {σ : Type} (w : Dialogue.Surroundings σ) (s : σ) (c : Controller)
    (ep : Endpoint) (r : ScsiRequest) (hcdb : r.cdb.bytes ≠ [])
    (hfits : r.data.size < UInt32.size) :
    ∃ x, (r.send c ep).exchanges w s = [x] ∧
      ∀ b, x.response = .ok b → b.byteAt 72 = openAccept →
        ∃ final, ((r.send c ep).run w s).value = (.ok (), final) ∧ r.Completed b final := by
  rcases course_send (Dialogue.course_run w (r.send c ep) s) with
    ⟨fault, hp, -, -⟩ | ⟨x, p, hx, hp, hsent, hq⟩
  · obtain ⟨p, hb⟩ : ∃ b, r.payload ep = .ok b := exists_payload hfits hcdb
    cases hp.symm.trans hb
  refine ⟨x, hx, fun b hb hc => ?_⟩
  have hl : b.length = 340 + r.data.size := by
    rw [Exchange.length_response hb, hsent.payload, (payload_spec hp).2.2.length]
    rfl
  have hresult := Exchange.sspResult_of_response hb (hl ▸ Nat.le_add_right ..) hc
  exact ⟨_, by rw [hq, hresult, settle], completed_complete hl⟩

/-- INQUIRY by a request that was used before: old bytes in the buffer, old sense data. -/
def usedInquiry : ScsiRequest where
  cdb := ⟨[0x12, 0, 0, 0, 4, 0], by decide⟩
  data := .inbound [0xEE, 0xEE, 0xEE, 0xEE]
  status := .busy
  sense := .ofBytes [0x70, 0, 0x05]

/-- A driver that reports more sense data and more data than there is room for anywhere. -/
def boastfulDriver : Script.Rack :=
  [(0, [{ code := ControlCode.sspPassthrough.code, conditions := [], uses := none, refusal := none
          returnCode := .success, payloadLength := none
          patches := [(76, [2, 2, 0xFF, 0xFF, 0x72, 0x0B]), (336, [0xFF, 0xFF, 0xFF, 0xFF]),
            (340, [0x05, 0x80])] }])]

/-- The request is left with 252 bytes of sense data and four bytes of data, none of them old. -/
theorem ssp_completion_usedInquiry :
    (usedInquiry.cdb.bytes ≠ [] ∧ usedInquiry.data.size < UInt32.size) ∧
    ∃ x b final, (usedInquiry.send ⟨⟨0⟩, 0, .off⟩ (.at 1 0 .zero)).exchanges
        Script.Rack.surroundings boastfulDriver = [x] ∧
      x.response = .ok b ∧ b.byteAt 72 = openAccept ∧
      ((usedInquiry.send ⟨⟨0⟩, 0, .off⟩ (.at 1 0 .zero)).run
        Script.Rack.surroundings boastfulDriver).value = (.ok (), final) ∧
      usedInquiry.Completed b final ∧ final.status = .checkCondition ∧
      final.sense.valid = [0x72, 0x0B] ++ Bytes.zeros 250 ∧
      final.data = .inbound [0x05, 0x80, 0, 0] := by
  have hcdb : usedInquiry.cdb.bytes ≠ [] := by decide
  have hfits : usedInquiry.data.size < UInt32.size := by decide
  obtain ⟨x, hx, hcompleted⟩ := ssp_completion Script.Rack.surroundings boastfulDriver
    ⟨⟨0⟩, 0, .off⟩ (.at 1 0 .zero) usedInquiry hcdb hfits
  have hseen : ((usedInquiry.send ⟨⟨0⟩, 0, .off⟩ (.at 1 0 .zero)).exchanges
      Script.Rack.surroundings boastfulDriver).map
      (fun x => x.response.toOption.map (·.byteAt 72)) = [some openAccept] := by decide +kernel
  have hleft : (fun q : Except Fault Unit × ScsiRequest =>
      (q.2.status, q.2.sense.valid, q.2.data))
      ((usedInquiry.send ⟨⟨0⟩, 0, .off⟩ (.at 1 0 .zero)).run
        Script.Rack.surroundings boastfulDriver).value =
      (.checkCondition, [0x72, 0x0B] ++ Bytes.zeros 250, .inbound [0x05, 0x80, 0, 0]) := by
    decide +kernel
  obtain ⟨y, b, hy, hb, hc⟩ := Except.exists_of_map_toOption hseen
  obtain rfl : y = x := List.singleton_inj.1 (hy.symm.trans hx)
  obtain ⟨final, hvalue, hfinal⟩ := hcompleted b hb hc
  rw [hvalue, Prod.mk.injEq, Prod.mk.injEq] at hleft
  exact ⟨⟨hcdb, hfits⟩, y, b, final, hx, hb, hc, hvalue, hfinal, hleft⟩

end ScsiRequest

end DriveReach
