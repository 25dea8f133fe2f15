import DriveReach.Proofs.Passthrough.Chain
/-!
# Lengths of calls with data

Three calls carry data behind a structure of fixed length: SSP, STP and firmware download. The
payload records how long the data are and the header announces how long the payload is, both in 32
bits. Only the data are checked to fit. A payload that its structure takes over the limit is sent
all the same, and announced too short.

* `DataRequest.course_carryOut`: a request is one call or none, and the lengths in the call.
* `DataRequest.announced_length`: the announcement is exact just when the payload fits 32 bits too.
* `DataRequest.announced_short`: the shortest read by STP for which it is not.
-/

set_option autoImplicit false

namespace DriveReach

open Csmi Dialogue

/-- The payload that sends a firmware image. -/
def firmwarePayload (image : Bytes) (flags : FirmwareFlags) : Bytes :=
  FirmwareReport.putRequest (Bytes.zeros Layout.firmwareDownload.size ++ image)
    (UInt32.ofNat image.length) flags

theorem firmwarePayload_lengths {image : Bytes} {flags : FirmwareFlags}
    (h : image.length < UInt32.size) :
    Lengths Layout.firmwareDownload.size 0 image.length (firmwarePayload image flags) := by
  have hroom : (Bytes.zeros Layout.firmwareDownload.size ++ image).length =
      Layout.firmwareDownload.size + image.length := by
    rw [List.length_append, Bytes.length_zeros]
  refine ⟨h, ?_, ?_⟩
  · rw [firmwarePayload, FirmwareReport.putRequest]
    simp only [Bytes.length_put]
    exact hroom
  · rw [firmwarePayload, FirmwareReport.putRequest, Bytes.le32_put_of_disjoint (by omega),
      Bytes.le32_put_self]
    rw [Bytes.length_put, hroom, Layout.size]
    omega

/-- A firmware image that fits 32 bits is sent in one call, any other in none. -/
theorem Controller.course_downloadFirmware {c : Controller} {image : Bytes} {flags : FirmwareFlags}
    {xs : List Exchange} {q : Except Fault FirmwareReport}
    (h : (c.downloadFirmware image flags).run.Course xs q) :
    (¬ image.length < UInt32.size ∧ xs = []) ∨
      (image.length < UInt32.size ∧
        ∃ x, xs = [x] ∧ c.Sent .firmwareDownload (firmwarePayload image flags) x ∧
          q = (x.reply.bind fun reply => reply.code.check.map fun _ => reply).bind fun reply =>
            FirmwareReport.decode reply.payload) := by
  rw [downloadFirmware, Attempt.course_run_ofExcept_bind] at h
  by_cases hd : image.length < UInt32.size
  · rw [dataLength_eq_ok hd] at h
    exact .inr ⟨hd, course_ask (Attempt.course_run_note_bind.1 h)⟩
  · rw [dataLength, if_neg hd] at h
    exact .inl ⟨hd, h.1⟩

/-! ## Requests with data -/

inductive DataRequest where
  | ssp (request : ScsiRequest) (ep : Endpoint)
  | stp (request : AtaRequest) (ep : Endpoint)
  | firmware (image : Bytes) (flags : FirmwareFlags)

namespace DataRequest

def code : DataRequest → ControlCode
  | ssp .. => .sspPassthrough
  | stp .. => .stpPassthrough
  | firmware .. => .firmwareDownload

/-- The length of the structure in front of the data. -/
def fixedLength : DataRequest → Nat
  | ssp .. => sspFixedLength
  | stp .. => stpFixedLength
  | firmware .. => Layout.firmwareDownload.size

/-- Where the payload records the length of the data. -/
def lengthPlace : DataRequest → Nat
  | ssp .. => 68
  | stp .. => 40
  | firmware .. => 0

def size : DataRequest → Nat
  | ssp request _ => request.data.size
  | stp request _ => request.data.size
  | firmware image _ => image.length

/-- The data fit 32 bits, and a SCSI command has at least one byte. -/
def Accepted : DataRequest → Prop
  | ssp request _ => request.data.size < UInt32.size ∧ request.cdb.bytes ≠ []
  | stp request _ => request.data.size < UInt32.size
  | firmware image _ => image.length < UInt32.size

/-- The request, carried out by a controller. -/
def carryOut (c : Controller) : DataRequest → Dialogue Unit
  | ssp request ep => do let _ ← request.send c ep
  | stp request ep => do let _ ← request.sendStp c ep
  | firmware image flags => do let _ ← (c.downloadFirmware image flags).run

variable {d : DataRequest} {c : Controller} {xs : List Exchange}

/-- An accepted request is one call with the lengths of its data, any other is none. -/
theorem course_carryOut {v : Unit} (h : (d.carryOut c).Course xs v) :
    (¬ d.Accepted ∧ xs = []) ∨ (d.Accepted ∧ ∃ x b, xs = [x] ∧ c.Sent d.code b x ∧
      Lengths d.fixedLength d.lengthPlace d.size b) := by
  cases d with
  | ssp r ep =>
    obtain ⟨ys, zs, q, rfl, hs, rfl, -⟩ := course_bind.1 h
    rw [List.append_nil]
    rcases ScsiRequest.course_send hs with ⟨fault, hp, rfl, -⟩ | ⟨x, b, rfl, hp, hx, -⟩
    · refine .inl ⟨fun ha => ?_, rfl⟩
      have hb : ∃ b, r.payload ep = .ok b := ScsiRequest.exists_payload ha.1 ha.2
      obtain ⟨b, hb⟩ := hb
      cases hp.symm.trans hb
    · have hl := (ScsiRequest.payload_spec hp).2.2
      exact .inr ⟨⟨hl.fits, ScsiRequest.cdb_ne_nil hp⟩, x, b, rfl, hx, hl⟩
  | stp r ep =>
    obtain ⟨ys, zs, q, rfl, hs, rfl, -⟩ := course_bind.1 h
    rw [List.append_nil]
    rcases AtaRequest.course_sendStp hs with ⟨fault, hp, rfl, -⟩ | ⟨x, rfl, ⟨b, hp, hx⟩, -⟩
    · exact .inl ⟨Nat.not_lt.2 (AtaRequest.tooLong_of_stpPayload hp), rfl⟩
    · have hl := (AtaRequest.stpPayload_spec hp).2.2
      exact .inr ⟨hl.fits, x, b, rfl, hx, hl⟩
  | firmware image flags =>
    obtain ⟨ys, zs, q, rfl, hs, rfl, -⟩ := course_bind.1 h
    rw [List.append_nil]
    rcases Controller.course_downloadFirmware hs with h | ⟨hd, x, rfl, hx, -⟩
    · exact .inl h
    · exact .inr ⟨hd, x, _, rfl, hx, firmwarePayload_lengths hd⟩

/-- What the call of a request says about its lengths. -/
structure Announces (d : DataRequest) (x : Exchange) : Prop where
  code : x.code = d.code
  recorded : (x.payload.le32 d.lengthPlace).toNat = d.size
  length : x.payload.length = d.fixedLength + (x.payload.le32 d.lengthPlace).toNat
  announced : x.announced.toNat = x.payload.length % UInt32.size
  /-- The announcement is exact just when the whole payload fits 32 bits. -/
  exact_iff : x.announced.toNat = x.payload.length ↔ d.fixedLength + d.size < UInt32.size

theorem announces_of_sent {x : Exchange} {b : Bytes} (hx : c.Sent d.code b x)
    (hl : Lengths d.fixedLength d.lengthPlace d.size b) : d.Announces x := by
  have hrecorded : (x.payload.le32 d.lengthPlace).toNat = d.size := by
    rw [hx.payload, hl.recorded, UInt32.toNat_ofNat_of_lt' hl.fits]
  have hlength : x.payload.length = d.fixedLength + d.size := by rw [hx.payload, hl.length]
  have hannounced : x.announced.toNat = x.payload.length % UInt32.size := by
    rw [hx.announced, hx.payload]
    exact UInt32.toNat_ofNat'
  refine ⟨hx.code, hrecorded, by rw [hrecorded, hlength], hannounced, ?_⟩
  rw [hannounced, hlength, Nat.mod_eq_iff_lt (by decide)]

theorem announces_carryOut {v : Unit} (h : (d.carryOut c).Course xs v) :
    (¬ d.Accepted ∧ xs = []) ∨ (d.Accepted ∧ ∃ x, xs = [x] ∧ d.Announces x) := by
  rcases course_carryOut h with h | ⟨ha, x, b, rfl, hx, hl⟩
  · exact .inl h
  · exact .inr ⟨ha, x, rfl, announces_of_sent hx hl⟩

/-- **The announced length is the payload's just when that fits 32 bits.** Whatever the driver
answers, a request that is accepted makes one call. Its payload records the length of the data and
is longer than these by the fixed structure; the header announces its length modulo 2^32. A request
that is not accepted makes no call. -/
theorem announced_length {σ : Type} (w : Surroundings σ) (s : σ) (c : Controller)
    (d : DataRequest) :
    (d.Accepted → ∃ x, (d.carryOut c).exchanges w s = [x] ∧ d.Announces x) ∧
      (¬ d.Accepted → (d.carryOut c).exchanges w s = []) := by
  rcases announces_carryOut (course_run w (d.carryOut c) s) with ⟨hn, hx⟩ | ⟨ha, hx⟩
  · exact ⟨fun ha => absurd ha hn, fun _ => hx⟩
  · exact ⟨fun _ => hx, fun hn => absurd ha hn⟩

/-- CHECK POWER MODE by STP announces the 136 bytes in front of no data. -/
theorem announced_length_powerCheck :
    ∃ x, ((DataRequest.stp AtaRequest.powerCheck (.at 1 0 .zero)).carryOut
        ⟨⟨0⟩, 0, .off⟩).exchanges AtaRequest.emulatingDriver () = [x] ∧
      x.payload.length = 136 ∧ x.announced = 136 := by
  have hd : (DataRequest.stp AtaRequest.powerCheck (.at 1 0 .zero)).Accepted :=
    (by decide : 0 < UInt32.size)
  obtain ⟨x, hx, ha⟩ := (announced_length AtaRequest.emulatingDriver () ⟨⟨0⟩, 0, .off⟩ _).1 hd
  have hlength : x.payload.length = 136 := by rw [ha.length, ha.recorded]; rfl
  refine ⟨x, hx, hlength, UInt32.toNat_inj.1 ?_⟩
  rw [ha.exact_iff.2 (by decide), hlength]
  rfl

/-- A payload of just too many bytes for 32 bits is sent, and announced as none. -/
theorem announced_wraps {σ : Type} {w : Surroundings σ} {s : σ} (ha : d.Accepted)
    (hsize : d.fixedLength + d.size = UInt32.size) :
    ∃ x, (d.carryOut c).exchanges w s = [x] ∧ x.payload.length = UInt32.size ∧
      x.announced = 0 := by
  rcases announces_carryOut (course_run w (d.carryOut c) s) with ⟨hn, -⟩ | ⟨-, x, hx, hax⟩
  · exact absurd ha hn
  · have hlength : x.payload.length = UInt32.size := by rw [hax.length, hax.recorded, hsize]
    refine ⟨x, hx, hlength, UInt32.toNat_inj.1 ?_⟩
    rw [hax.announced, hlength]
    rfl

/-- IDENTIFY DEVICE with so much room that the payload of its STP call has 2^32 bytes. -/
def longIdentify : AtaRequest :=
  { command := .identify, data := .inbound (Bytes.zeros 4294967160) }

/-- Its data fit 32 bits, so it is accepted; its call announces a payload of no byte. -/
theorem announced_short :
    ∃ x, ((DataRequest.stp longIdentify (.at 1 0 .zero)).carryOut ⟨⟨0⟩, 0, .off⟩).exchanges
        AtaRequest.emulatingDriver () = [x] ∧
      x.payload.length = 4294967296 ∧ x.announced = 0 := by
  have hsize : (DataRequest.stp longIdentify (.at 1 0 .zero)).size = 4294967160 :=
    Bytes.length_zeros _
  have hd : (DataRequest.stp longIdentify (.at 1 0 .zero)).Accepted :=
    Nat.lt_of_le_of_lt (Nat.le_of_eq hsize) (by decide)
  exact announced_wraps hd (by rw [hsize]; decide +kernel)

end DataRequest

end DriveReach
