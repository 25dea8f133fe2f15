import DriveReach.Proofs.Controller.Decoders
import DriveReach.Proofs.Passthrough.Length
import DriveReach.Proofs.Reports
import DriveReach.Proofs.Steady
/-!
# Queries to a controller

A controller answers thirteen queries, the download of a firmware image among them. Each has its own
room, request fields and decoder, and all come to one of three ends: the call does not go through,
the driver's return code is no success, or the payload that the driver left is decoded.

* `Controller.Query`: the queries by what they answer, with the parts that differ.
* `Query.course_ask`: each is one exchange, and its result is read off that exchange.
* `Query.decode_followedBy`: the room of each is what its decoder needs.
* `Query.settles`: every query comes to one of the three ends, whatever the driver writes.
-/

set_option autoImplicit false

namespace DriveReach

open Csmi Dialogue

/-- The fault that a return code stands for, if it is no success. -/
def Csmi.ReturnCode.refusal? (c : ReturnCode) : Option Fault :=
  match c.outcome with
  | .success => none
  | .notSupported => some (.notSupported c)
  | .permissionDenied => some (.permissionDenied c)
  | .failure => some (.failed c)

namespace Csmi.ReturnCode

variable {c : ReturnCode} {fault : Fault}

/-- A code without a name is a failure. -/
theorem refusal?_of_unlisted (h : c.name? = none) : c.refusal? = some (.failed c) := by
  have hentry : c.entry? = none := Option.map_eq_none_iff.1 h
  rw [refusal?, outcome, hentry]
  rfl

/-- A refusal carries the code. -/
theorem returnCode?_of_refusal? (h : c.refusal? = some fault) : fault.returnCode? = some c := by
  unfold refusal? at h
  split at h <;> cases h <;> rfl

/-- A refusal is no fault without a code. -/
theorem refusal?_ne (h : fault.returnCode? = none) : c.refusal? ≠ some fault :=
  fun hr => nomatch h.symm.trans (returnCode?_of_refusal? hr)

theorem check_eq (c : ReturnCode) : c.check = (c.refusal?.map .error).getD (.ok ()) := by
  rw [check, refusal?]
  cases c.outcome <;> rfl

end Csmi.ReturnCode

/-- The reply with more bytes behind its buffer. -/
def Reply.followedBy (r : Reply) (beyond : Bytes) : Reply := { r with buffer := r.buffer ++ beyond }

theorem Reply.payload_followedBy {r : Reply} (h : headerLength ≤ r.buffer.length) (beyond : Bytes) :
    (r.followedBy beyond).payload = r.payload ++ beyond :=
  List.drop_append_of_le_length h

namespace Exchange

variable {x : Exchange} {reply : Reply}

/-- What is read from a buffer that comes back. -/
def replyIn (x : Exchange) (buffer : Bytes) : Reply where
  code := HeaderLayout.compact.returnCode buffer
  returned := min (HeaderLayout.compact.payloadLength buffer).toNat x.payload.length
  buffer := buffer

theorem replyIn_buffer (h : x.reply = .ok reply) : x.replyIn reply.buffer = reply := by
  unfold Exchange.reply at h
  split at h <;> cases h
  rfl

theorem returned_le (h : x.reply = .ok reply) : reply.returned ≤ reply.payload.length := by
  rw [length_payload_of_reply h, ← replyIn_buffer h]
  exact Nat.min_le_right _ _

/-- The header that comes back is read within the buffer. -/
theorem replyIn_append {buffer : Bytes} (h : headerLength ≤ buffer.length) (beyond : Bytes) :
    x.replyIn (buffer ++ beyond) = (x.replyIn buffer).followedBy beyond := by
  have hlen : 20 ≤ buffer.length := h
  rw [replyIn, HeaderLayout.returnCode, HeaderLayout.payloadLength, HeaderLayout.returnCodeOffset,
    HeaderLayout.lengthOffset, Bytes.le32_append_left (by omega), Bytes.le32_append_left (by omega)]
  rfl

theorem checked_of_reply (h : x.reply = .ok reply) :
    x.checked = (reply.code.refusal?.map .error).getD (.ok reply) := by
  rw [checked, h, Except.bind, ReturnCode.check_eq]
  cases reply.code.refusal? <;> rfl

end Exchange

namespace Controller

/-- A query, by what it answers. -/
inductive Query : Type → Type where
  | driverInfo : Query DriverInfo
  | config : Query ControllerConfig
  | status : Query ControllerStatus
  | downloadFirmware (image : Bytes) (flags : FirmwareFlags) : Query FirmwareReport
  | raidInfo : Query RaidInfo
  | raidConfig (index : UInt32) (maxDrives : Nat) : Query RaidConfig
  | raidFeatures : Query RaidFeatures
  | phyTable : Query PhyTable
  | linkErrors (phy : UInt8) (reset : Bool) : Query LinkErrors
  | sataSignature (phy : UInt8) : Query SataSignature
  | scsiAddress (device : SasLocation) : Query ScsiAddress
  | deviceAddress (device : ScsiAddress) : Query SasLocation
  | connectors : Query (List Connector)

namespace Query

variable {α : Type}

/-- Carry out a query. -/
def ask (c : Controller) : Query α → Attempt α
  | driverInfo => c.driverInfo
  | config => c.config
  | status => c.status
  | downloadFirmware image flags => c.downloadFirmware image flags
  | raidInfo => c.raidInfo
  | raidConfig index maxDrives => c.raidConfig index maxDrives
  | raidFeatures => c.raidFeatures
  | phyTable => c.phyTable
  | linkErrors phy reset => c.linkErrors phy reset
  | sataSignature phy => c.sataSignature phy
  | scsiAddress device => c.scsiAddress device
  | deviceAddress device => c.deviceAddress device
  | connectors => c.connectors

def code : Query α → ControlCode
  | driverInfo => .driverInfo
  | config => .controllerConfig
  | status => .controllerStatus
  | downloadFirmware .. => .firmwareDownload
  | raidInfo => .raidInfo
  | raidConfig .. => .raidConfig
  | raidFeatures => .raidFeatures
  | phyTable => .phyInfo
  | linkErrors .. => .linkErrors
  | sataSignature _ => .sataSignature
  | scsiAddress _ => .scsiAddress
  | deviceAddress _ => .deviceAddress
  | connectors => .connectorInfo

/-- The payload; there is none if the request fields do not fit the room that is made. -/
def payload? : Query α → Option Bytes
  | driverInfo => some (Bytes.zeros Layout.driverInfo.size)
  | config => some (Bytes.zeros Layout.controllerConfig.size)
  | status => some (Bytes.zeros Layout.controllerStatus.size)
  | downloadFirmware image flags =>
    FirmwareReport.putRequest? (Bytes.zeros Layout.firmwareDownload.size ++ image)
      (UInt32.ofNat image.length) flags
  | raidInfo => some (Bytes.zeros Layout.raidInfo.size)
  | raidConfig index maxDrives =>
    RaidConfig.putRequest?
      (Bytes.zeros (RaidConfig.payloadLength (min maxDrives RaidConfig.maxDrives))) index
  | raidFeatures => some (Bytes.zeros Layout.raidFeatures.size)
  | phyTable => some (Bytes.zeros (Layout.phyInfo.size + PhyTable.slack))
  | linkErrors phy reset =>
    LinkErrors.putRequest? (Bytes.zeros Layout.linkErrors.size) phy reset
  | sataSignature phy =>
    (Bytes.zeros Layout.sataSignature.size).within 1 (SataSignature.putRequest · phy)
  | scsiAddress device => ScsiAddress.putRequest? (Bytes.zeros Layout.scsiAddress.size) device
  | deviceAddress device => SasLocation.putRequest? (Bytes.zeros Layout.deviceAddress.size) device
  | connectors => some (Bytes.zeros Layout.connectorInfo.size)

/-- What is decoded from a reply. -/
def decode : Query α → Reply → Except Fault α
  | driverInfo, r => DriverInfo.decode r.payload
  | config, r => ControllerConfig.decode r.payload
  | status, r => ControllerStatus.decode r.payload
  | downloadFirmware .., r => FirmwareReport.decode r.payload
  | raidInfo, r => RaidInfo.decode r.payload
  | raidConfig _ maxDrives, r =>
    RaidConfig.decode r.payload r.returned (min maxDrives RaidConfig.maxDrives)
  | raidFeatures, r => RaidFeatures.decode r.payload
  | phyTable, r => PhyTable.decode (r.payload.take Layout.phyInfo.size)
  | linkErrors .., r => LinkErrors.decode r.payload
  | sataSignature _, r => SataSignature.decode r.payload
  | scsiAddress _, r => ScsiAddress.decode r.payload
  | deviceAddress _, r => SasLocation.decode r.payload
  | connectors, r => Connector.decodeTable r.payload

/-- The structure that the payload opens with. -/
def layout : Query α → Layout
  | driverInfo => .driverInfo
  | config => .controllerConfig
  | status => .controllerStatus
  | downloadFirmware .. => .firmwareDownload
  | raidInfo => .raidInfo
  | raidConfig .. => .raidConfig
  | raidFeatures => .raidFeatures
  | phyTable => .phyInfo
  | linkErrors .. => .linkErrors
  | sataSignature _ => .sataSignature
  | scsiAddress _ => .scsiAddress
  | deviceAddress _ => .deviceAddress
  | connectors => .connectorInfo

/-- The length of the image that is sent along. -/
def imageLength : Query α → Nat
  | downloadFirmware image _ => image.length
  | _ => 0

variable {q : Query α} {c : Controller} {xs : List Exchange} {payload : Bytes}

/-- The room of a query holds its request fields and the structure of the answer. -/
theorem exists_payload (q : Query α) :
    ∃ payload, q.payload? = some payload ∧ q.layout.size ≤ payload.length := by
  have whole (n : Nat) : n ≤ (Bytes.zeros n).length := Nat.le_of_eq (Bytes.length_zeros n).symm
  have filled {need n : Nat} (write : Bytes → Bytes) {room : Bytes} (hneed : need ≤ n)
      (hn : n ≤ room.length) (hput : (write room).length = room.length) :
      ∃ payload, room.within need write = some payload ∧ n ≤ payload.length := by
    obtain ⟨payload, hp, hlen⟩ := Bytes.exists_within write (Nat.le_trans hneed hn) hput
    exact ⟨payload, hp, hlen ▸ hn⟩
  cases q with
  | driverInfo | config | status | raidInfo | raidFeatures | connectors =>
    exact ⟨_, rfl, whole _⟩
  | phyTable => exact ⟨_, rfl, Nat.le_trans (Nat.le_add_right _ _) (whole _)⟩
  | downloadFirmware image flags =>
    have hroom : Layout.firmwareDownload.size ≤
        (Bytes.zeros Layout.firmwareDownload.size ++ image).length := by
      rw [List.length_append, Bytes.length_zeros]
      exact Nat.le_add_right _ _
    exact filled (FirmwareReport.putRequest · (UInt32.ofNat image.length) flags) (Nat.le_refl _)
      hroom (by simp only [FirmwareReport.putRequest, Bytes.length_put])
  | raidConfig index maxDrives =>
    exact filled (RaidConfig.putRequest · index) (by decide : 4 ≤ 36)
      (Nat.le_trans (Nat.le_add_right _ _) (whole _)) (Bytes.length_put ..)
  | linkErrors phy reset =>
    exact filled (LinkErrors.putRequest · phy reset) (by decide : 2 ≤ 20) (whole _)
      (Bytes.length_put ..)
  | sataSignature phy =>
    exact filled (SataSignature.putRequest · phy) (by decide : 1 ≤ 24) (whole _)
      (Bytes.length_put ..)
  | scsiAddress device =>
    exact filled (ScsiAddress.putRequest · device) (by decide : 16 ≤ 20) (whole _)
      (by simp only [ScsiAddress.putRequest, Bytes.length_put])
  | deviceAddress device =>
    exact filled (SasLocation.putRequest · device) (by decide : 4 ≤ 20) (whole _)
      (Bytes.length_put ..)

/-- A query is one exchange, and its result is read off that exchange. -/
theorem course_ask {r : Except Fault α} (hq : q.imageLength < UInt32.size)
    (hp : q.payload? = some payload) (h : (q.ask c).run.Course xs r) :
    ∃ x, xs = [x] ∧ c.Sent q.code payload x ∧ r = x.checked.bind q.decode := by
  cases q with
  | downloadFirmware image flags =>
    rw [payload?, FirmwareReport.putRequest?, Bytes.within_eq_some_iff] at hp
    obtain ⟨-, rfl⟩ := hp
    rcases course_downloadFirmware h with ⟨hlong, -⟩ | ⟨-, hx⟩
    · exact absurd hq hlong
    · exact hx
  | raidConfig index maxDrives =>
    rw [payload?, RaidConfig.putRequest?, Bytes.within_eq_some_iff] at hp
    obtain ⟨-, rfl⟩ := hp
    exact course_raidConfig_decode h
  | linkErrors | sataSignature | scsiAddress | deviceAddress =>
    simp only [payload?, LinkErrors.putRequest?, ScsiAddress.putRequest?, SasLocation.putRequest?,
      Bytes.within_eq_some_iff] at hp
    obtain ⟨-, rfl⟩ := hp
    exact Controller.course_ask h
  | driverInfo | config | status | raidInfo | raidFeatures | connectors =>
    cases hp
    exact Controller.course_ask h
  | phyTable =>
    cases hp
    change c.phyTable.run.Course xs r at h
    exact Controller.course_ask h

/-- A value is decoded from every reply that has room for the structure, and none of it from behind
the reply. -/
theorem decode_followedBy {r : Reply} (hbuffer : headerLength ≤ r.buffer.length)
    (hroom : q.layout.size ≤ r.payload.length) (hret : r.returned ≤ r.payload.length) :
    ∃ v, ∀ beyond, q.decode (r.followedBy beyond) = .ok v := by
  have reads {n : Nat} {decode : Bytes → Except Fault α} (hd : ReadsWithin n decode)
      (hn : n ≤ r.payload.length) :
      ∃ v, ∀ beyond, decode (r.followedBy beyond).payload = .ok v := by
    obtain ⟨v, hv⟩ := hd r.payload hn
    exact ⟨v, fun beyond =>
      (congrArg decode (r.payload_followedBy hbuffer beyond)).trans (hv beyond)⟩
  cases q with
  | driverInfo => exact reads readsWithin_driverInfo hroom
  | config => exact reads readsWithin_controllerConfig hroom
  | status => exact reads readsWithin_controllerStatus hroom
  | downloadFirmware image flags => exact reads readsWithin_firmwareDownload hroom
  | raidInfo => exact reads readsWithin_raidInfo hroom
  | raidConfig index maxDrives => exact reads (readsWithin_raidConfig hroom hret) (Nat.le_refl _)
  | raidFeatures => exact reads readsWithin_raidFeatures hroom
  | phyTable => exact reads (readsWithin_phyInfo.take (Nat.le_refl _)) hroom
  | linkErrors phy reset => exact reads readsWithin_linkErrors hroom
  | sataSignature phy => exact reads readsWithin_sataSignature hroom
  | scsiAddress device => exact reads readsWithin_scsiAddress hroom
  | deviceAddress device => exact reads readsWithin_deviceAddress hroom
  | connectors => exact reads readsWithin_connectorInfo hroom

/-! ## The end of a query -/

/-- The end of a query, by the one exchange that it is. -/
structure Settles (q : Query α) (x : Exchange) (result : Except Fault α) : Prop where
  /-- A transport fault says that the call did not go through, and why. -/
  transport : ∀ reason, result = .error (.transport reason) ↔ x.answer = .error reason
  /-- The driver's refusal is that of its return code. -/
  refused : ∀ reply, x.reply = .ok reply →
    ∀ fault, result = .error fault ↔ reply.code.refusal? = some fault
  unlisted : ∀ reply, x.reply = .ok reply → reply.code.name? = none →
    result = .error (.failed reply.code)
  /-- Without a refusal, the payload that the driver left is decoded. -/
  decoded : ∀ reply, x.reply = .ok reply → reply.code.refusal? = none →
    ∃ v, result = .ok v ∧ q.decode reply = .ok v
  /-- No buffer is too short. -/
  whole : ∀ layout needed got, result ≠ .error (.truncated layout needed got)
  /-- Header and payload are read within the buffer: bytes behind it make no difference. -/
  within : ∀ reply, x.reply = .ok reply → ∀ beyond,
    x.replyIn (reply.buffer ++ beyond) = reply.followedBy beyond ∧
      q.decode (reply.followedBy beyond) = q.decode reply

/-- What comes back to a query that was sent has room for the header and the structure. -/
theorem room_of_sent {x : Exchange} (hx : c.Sent q.code payload x)
    (hroom : q.layout.size ≤ payload.length) {reply : Reply} (h : x.reply = .ok reply) :
    headerLength ≤ reply.buffer.length ∧ q.layout.size ≤ reply.payload.length := by
  have hlen : reply.payload.length = payload.length :=
    (Exchange.length_payload_of_reply h).trans (congrArg List.length hx.payload)
  refine ⟨?_, by omega⟩
  have hpos := q.layout.size_pos
  rw [Reply.payload, List.length_drop] at hlen
  omega

theorem settles_of_reply {x : Exchange} {result : Except Fault α} {reply : Reply}
    (hx : c.Sent q.code payload x) (hroom : q.layout.size ≤ payload.length)
    (hreply : x.reply = .ok reply) (hresult : result = x.checked.bind q.decode) :
    q.Settles x result := by
  obtain ⟨hbuffer, hstructure⟩ := room_of_sent hx hroom hreply
  obtain ⟨v, hv⟩ := q.decode_followedBy hbuffer hstructure (Exchange.returned_le hreply)
  have hdecode : q.decode reply = .ok v := by
    have h := hv []
    rwa [Reply.followedBy, List.append_nil] at h
  have hfault (fault : Fault) : result = .error fault ↔ reply.code.refusal? = some fault := by
    rw [hresult, Exchange.checked_of_reply hreply]
    cases reply.code.refusal? with
    | none => simp [Except.bind, hdecode]
    | some other => simp [Except.bind]
  have hanswer (reason : String) : x.answer ≠ .error reason := by
    intro h
    rw [Exchange.reply, h] at hreply
    cases hreply
  -- the exchange has one reply only
  have same {other : Reply} (h : x.reply = .ok other) : other = reply :=
    Except.ok.inj (h.symm.trans hreply)
  exact {
    transport := fun reason => (hfault _).trans
      (iff_of_false (ReturnCode.refusal?_ne rfl) (hanswer reason))
    refused := fun other h => same h ▸ hfault
    unlisted := fun other h hname => by
      obtain rfl := same h
      exact (hfault _).2 (ReturnCode.refusal?_of_unlisted hname)
    decoded := fun other h hcode => by
      obtain rfl := same h
      refine ⟨v, ?_, hdecode⟩
      rw [hresult, Exchange.checked_of_reply hreply, hcode]
      exact hdecode
    whole := fun layout needed got h => ReturnCode.refusal?_ne rfl ((hfault _).1 h)
    within := fun other h beyond => by
      obtain rfl := same h
      refine ⟨?_, (hv beyond).trans hdecode.symm⟩
      rw [Exchange.replyIn_append hbuffer, Exchange.replyIn_buffer hreply] }

theorem settles_of_sent {x : Exchange} {result : Except Fault α}
    (hx : c.Sent q.code payload x) (hroom : q.layout.size ≤ payload.length)
    (hresult : result = x.checked.bind q.decode) : q.Settles x result := by
  cases hanswer : x.answer with
  | ok written =>
    have hreply : x.reply = .ok (x.replyIn (x.buffer.put 0 written)) := by
      rw [Exchange.reply, hanswer]
      rfl
    exact settles_of_reply hx hroom hreply hresult
  | error reason =>
    have hreply : x.reply = .error (.transport reason) := by
      rw [Exchange.reply, hanswer]
    have hfault : result = .error (.transport reason) := by
      rw [hresult, Exchange.checked, hreply]
      rfl
    have none {other : Reply} : x.reply ≠ .ok other := by
      intro hok
      rw [hreply] at hok
      cases hok
    exact {
      transport := fun other => by
        rw [hfault, hanswer]
        simp
      refused := fun other h => absurd h none
      unlisted := fun other h => absurd h none
      decoded := fun other h => absurd h none
      whole := fun layout needed got h => by
        rw [hfault] at h
        cases h
      within := fun other h => absurd h none }

/-- A query that fails did not go through, or the driver declined it. -/
theorem fault_of_course {fault : Fault} (q : Query α) (hq : q.imageLength < UInt32.size)
    (h : (q.ask c).run.Course xs (.error fault)) :
    (∃ reason, fault = .transport reason) ∨ fault.isDeclined = true := by
  obtain ⟨payload, hpayload, hroom⟩ := q.exists_payload
  obtain ⟨x, rfl, hx, hresult⟩ := q.course_ask hq hpayload h
  have hsettles := settles_of_sent hx hroom hresult
  cases hanswer : x.answer with
  | error reason =>
    exact .inl ⟨reason, Except.error.inj ((hsettles.transport reason).2 hanswer)⟩
  | ok written =>
    have hreply : x.reply = .ok (x.replyIn (x.buffer.put 0 written)) := by
      rw [Exchange.reply, hanswer]
      rfl
    have hrefusal := (hsettles.refused _ hreply fault).1 rfl
    rw [Fault.isDeclined, ReturnCode.returnCode?_of_refusal? hrefusal]
    exact .inr rfl

/-- **Every query settles.** Whatever a driver writes into header and payload, a query is one call,
whose header and request fields fit the room that is made for them. It fails when the call does not
go through or the return code is no success, and never because a buffer is too short. Otherwise it
answers what is decoded from the payload that the driver left, and nothing beyond. -/
theorem settles {σ : Type} (w : Surroundings σ) (c : Controller) (q : Query α)
    (hq : q.imageLength < UInt32.size) (s : σ) :
    ∃ payload x, q.payload? = some payload ∧
      Call.ofBuffer q.code (Bytes.zeros headerLength ++ payload) =
        .ok (Call.ofPayload q.code payload) ∧
      (∀ f, HeaderLayout.compact.write (Bytes.zeros headerLength ++ payload) f =
        HeaderLayout.compact.write (Bytes.zeros headerLength) f ++ payload) ∧
      (q.ask c).run.exchanges w s = [x] ∧ c.Sent q.code payload x ∧
      q.Settles x ((q.ask c).result w s) := by
  obtain ⟨payload, hp, hroom⟩ := q.exists_payload
  have hheader : Layout.header.size ≤ (Bytes.zeros headerLength ++ payload).length := by
    rw [List.length_append, Bytes.length_zeros]
    exact Nat.le_add_right _ _
  obtain ⟨x, hxs, hx, hr⟩ := course_ask hq hp (course_run w (q.ask c).run s)
  refine ⟨payload, x, hp, ?_, fun f => ?_, hxs, hx, settles_of_sent hx hroom hr⟩
  · rw [Call.ofBuffer, Layout.require_eq_ok hheader]
    rfl
  · exact HeaderLayout.write_append (Nat.le_of_eq (Bytes.length_zeros _).symm) f payload

/-- A driver that writes over the whole header, with a code that is no failure, reports an older
image, and goes on writing past the end. -/
def babblingDriver : Surroundings Unit where
  attach s _ _ := (.ok ⟨0⟩, s)
  call s _ _ _ := (.ok (List.replicate 8 0xFF ++ Bytes.toLE 4 1002 ++ List.replicate 48 0xFF ++
    [3, 0, 2, 0] ++ List.replicate 100 0xFF), s)

theorem settles_babblingDriver :
    (downloadFirmware [1, 2, 3, 4] ⟨1⟩).imageLength < UInt32.size ∧
    ∃ payload x, (downloadFirmware [1, 2, 3, 4] ⟨1⟩).payload? = some payload ∧
      ((downloadFirmware [1, 2, 3, 4] ⟨1⟩).ask ⟨⟨0⟩, 0, .off⟩).run.exchanges babblingDriver () =
        [x] ∧
      (downloadFirmware [1, 2, 3, 4] ⟨1⟩).Settles x (.ok ⟨.older, 2⟩) := by
  have hlength : (downloadFirmware [1, 2, 3, 4] ⟨1⟩).imageLength < UInt32.size := by decide
  obtain ⟨payload, x, hp, -, -, hxs, -, hsettles⟩ :=
    settles babblingDriver ⟨⟨0⟩, 0, .off⟩ (downloadFirmware [1, 2, 3, 4] ⟨1⟩) hlength ()
  have hseen : (((downloadFirmware [1, 2, 3, 4] ⟨1⟩).ask ⟨⟨0⟩, 0, .off⟩).result
      babblingDriver ()).toOption.map id = some ⟨.older, 2⟩ := by decide +kernel
  obtain ⟨report, hresult, rfl⟩ := Except.exists_of_toOption_map hseen
  rw [hresult] at hsettles
  exact ⟨hlength, payload, x, hp, hxs, hsettles⟩

end Query

end Controller

end DriveReach
