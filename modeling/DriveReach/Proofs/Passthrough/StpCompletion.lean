import DriveReach.Proofs.Ata.StatusFrame
import DriveReach.Proofs.Controller.Decoders
import DriveReach.Proofs.Passthrough.Results
import DriveReach.Proofs.Passthrough.StpEncoding
import DriveReach.Proofs.Scsi.AtaStatus
import DriveReach.Proofs.Steady
import DriveReach.Script
/-!
# How an ATA command over STP leaves its request

The status block of an answer stands at 44 to 135 of the payload: the connection status, the status
frame at 48, the control registers at 68, the number of bytes moved at 132. The type byte of the
frame decides whether the command completed.

* `Exchange.stpStatus_of_response`: an answer that the driver gave as a success brings its status.
* `AtaRequest.StpStep.answered`: what a status over an accepted connection makes of the request.
* `AtaRequest.stp_completion`: what the driver is handed for a command, and what its answer brings.
-/

set_option autoImplicit false

namespace DriveReach

open Csmi

/-! ## Answers -/

/-- The status in the payload of an STP answer. -/
def Csmi.StpStatus.ofPayload (b : Bytes) : StpStatus where
  connectionStatus := b.byteAt 44
  frame := b.fixed 20 48
  scr := Vector.ofFn fun i => b.le32 (68 + 4 * i)
  dataBytes := b.le32 132

theorem Csmi.StpStatus.decode_drop {b : Bytes} (h : stpFixedLength ≤ b.length) :
    StpStatus.decode (b.drop Layout.stpParameters.size) = .ok (.ofPayload b) := by
  have hfront : Layout.stpParameters.size = 44 := rfl
  have hroom : Layout.stpStatus.size ≤ (b.drop Layout.stpParameters.size).length := by
    rw [List.length_drop]
    exact Nat.le_sub_of_add_le' h
  rw [StpStatus.decode, Layout.require_eq_ok hroom, hfront]
  change Except.ok _ = _
  simp only [Bytes.byteAt_drop, Bytes.fixed_drop, Bytes.le32_drop, ← Nat.add_assoc]
  rfl

theorem Exchange.stpStatus_of_response {x : Exchange} {b : Bytes} (hb : x.response = .ok b)
    (hl : stpFixedLength ≤ b.length) :
    x.stpStatus = .ok (.ofPayload b, b.drop stpFixedLength) := by
  rw [stpStatus, status_of_response hb, StpStatus.decode_drop hl]
  rfl

/-! ## Requests -/

namespace AtaRequest

/-- How the payload of an STP answer over an accepted connection leaves the request: the result of
the delivery, and `final`, the request with what the answer brings. -/
structure Answered (r : AtaRequest) (b : Bytes) (result : Except Fault StpEnd)
    (final : AtaRequest) : Prop where
  completed_iff : result = .ok .completed ↔ b.byteAt 48 = 0x34 ∨ b.byteAt 48 = 0x5F
  registers : b.byteAt 48 = 0x34 ∨ b.byteAt 48 = 0x5F →
    ∃ registers, final.registers = some registers ∧ Ata.Reports (b.fixed 20 48) registers ∧
      final.sense.ataRegisters? =
        some (if r.command.extended then registers else registers.narrow)
  unexpected : b.byteAt 48 ≠ 0x34 → b.byteAt 48 ≠ 0x5F →
    result = .error (.frame (.unexpectedKind (b.byteAt 48))) ∧ final.registers = none ∧
      final.sense = .empty
  statusFrame : final.statusFrame = some (b.fixed 20 48)
  scr : final.scr = some (Vector.ofFn fun i => b.le32 (68 + 4 * i))
  data : final.data = r.data.filled (b.drop 136) (b.le32 132).toNat
  command : final.command = r.command
  timeout : final.timeout = r.timeout

variable {r : AtaRequest} {x : Exchange} {b : Bytes}

theorem data_received (hl : b.length = 136 + r.data.size) :
    (r.received (.ofPayload b) (b.drop stpFixedLength)).data =
      r.data.filled (b.drop 136) (b.le32 132).toNat := by
  have harea : (b.drop stpFixedLength).length = r.data.size := by
    rw [List.length_drop, hl]
    exact Nat.add_sub_cancel_left 136 _
  exact DataBuffer.receive_eq_filled harea

/-- The status of an answer over an accepted connection decides how the request is left. -/
theorem StpStep.answered {q : Except Fault StpEnd × AtaRequest} (h : r.StpStep x q)
    (hb : x.response = .ok b) (hl : b.length = 136 + r.data.size)
    (hc : b.byteAt 44 = openAccept) : r.Answered b q.1 q.2 := by
  have hstatus : x.stpStatus = .ok (.ofPayload b, b.drop stpFixedLength) :=
    Exchange.stpStatus_of_response hb (hl ▸ Nat.le_add_right ..)
  have hcode : Bytes.nth (b.fixed 20 48) 0 = b.byteAt 48 := Bytes.nth_fixed (by decide)
  cases h with
  | emulated he => exact absurd he (Exchange.returnCode_ne_of_response hb)
  | failed hn he => cases hstatus.symm.trans he
  | refused hs hrefused =>
    obtain ⟨rfl, rfl⟩ := Prod.mk.inj (Except.ok.inj (hstatus.symm.trans hs))
    exact absurd hc hrefused
  | @garbled status area fault hs ha hf =>
    obtain ⟨rfl, rfl⟩ := Prod.mk.inj (Except.ok.inj (hstatus.symm.trans hs))
    have hframe : Ata.StatusFrame.parse (b.fixed 20 48).toList = .error fault := hf
    rw [Ata.StatusFrame.parse_toList, hcode] at hframe
    split at hframe
    · cases hframe
    rename_i hregister
    split at hframe
    · cases hframe
    rename_i hsetup
    cases hframe
    exact {
      completed_iff := by simp [hregister, hsetup]
      registers := fun h => (h.elim hregister hsetup).elim
      unexpected := fun _ _ => ⟨rfl, rfl, rfl⟩
      statusFrame := rfl
      scr := rfl
      data := data_received hl
      command := rfl
      timeout := rfl }
  | @completed status area frame hs ha hf =>
    obtain ⟨rfl, rfl⟩ := Prod.mk.inj (Except.ok.inj (hstatus.symm.trans hs))
    have hframe : Ata.StatusFrame.parse (b.fixed 20 48).toList = .ok frame := hf
    obtain ⟨hkind, hreports⟩ := Ata.StatusFrame.reports_registers hframe
    rw [hcode] at hkind
    exact {
      completed_iff := ⟨fun _ => hkind, fun _ => rfl⟩
      registers := fun _ => ⟨_, rfl, hreports, Scsi.ataRegisters?_ataStatusReturn⟩
      unexpected := fun h1 h2 => (hkind.elim h1 h2).elim
      statusFrame := rfl
      scr := rfl
      data := data_received hl
      command := rfl
      timeout := rfl }

/-- **What an STP command says is what was asked, and what it leaves is what was answered.** A
command whose data fit 32 bits is one STP call, whose payload says all of the command and nothing
else; one with more data makes no call. Whatever payload the answer brings, when the driver calls it
a success and the connection was accepted, the command completes exactly when the type byte of the
status frame is 34h or 5Fh, and the request is left with the registers of the frame, also as sense
data. -/
theorem stp_completion {σ : Type} (w : Dialogue.Surroundings σ) (s : σ) (c : Controller)
    (ep : Endpoint) (r : AtaRequest) :
    (r.data.size < UInt32.size →
      ∃ x, (r.sendStp c ep).exchanges w s = [x] ∧ x.channel = c.channel ∧
        x.code = .stpPassthrough ∧ r.Encodes ep x.payload ∧
        ∀ b, x.response = .ok b → b.byteAt 44 = openAccept →
          ∃ result final, ((r.sendStp c ep).run w s).value = (result, final) ∧
            r.Answered b result final) ∧
    (UInt32.size ≤ r.data.size → (r.sendStp c ep).exchanges w s = []) := by
  have hcourse := course_sendStp (Dialogue.course_run w (r.sendStp c ep) s)
  constructor
  · intro hfits
    rcases hcourse with ⟨fault, hp, -, -⟩ | ⟨x, hx, ⟨p, hp, hsent⟩, hstep⟩
    · obtain ⟨p, hb⟩ : ∃ b, r.stpPayload ep = .ok b := exists_stpPayload hfits
      cases hp.symm.trans hb
    have hencodes : r.Encodes ep x.payload := by
      rw [hsent.payload]
      exact encodes_stpPayload hp
    refine ⟨x, hx, hsent.channel, hsent.code, hencodes, fun b hb hc => ⟨_, _, rfl, ?_⟩⟩
    exact hstep.answered hb (by rw [Exchange.length_response hb, hencodes.length]) hc
  · intro hlong
    rcases hcourse with ⟨fault, -, hx, -⟩ | ⟨x, -, ⟨p, hp, -⟩, -⟩
    · exact hx
    · exact absurd (stpPayload_eq_ok.1 hp).1 (Nat.not_lt.2 hlong)

/-- A 48-bit read by a request that holds the results of an earlier command. -/
def usedRead : AtaRequest where
  command := { Ata.Command.ofOpcode Ata.Opcode.readSectorsExt .pioIn .inbound with extended := true }
  data := .inbound [0xEE, 0xEE, 0xEE, 0xEE]
  registers := some .zero
  sense := .ofBytes [0x70, 0, 0x05]

/-- A driver that answers with a PIO Setup frame and less data than asked for. -/
def setupDriver : Script.Rack :=
  [(0, [{ code := ControlCode.stpPassthrough.code, conditions := [], uses := none, refusal := none
          returnCode := .success, payloadLength := none
          patches := [(48, [0x5F, 0, 0x58, 0x00, 0x11, 0x22, 0x33, 0xE0, 0x44, 0x55, 0x66, 0,
            0x08, 0x01, 0, 0x50, 4, 0, 0, 0]), (132, [3]), (136, [1, 2, 3, 4])] }])]

/-- The read completes with the ending status of the frame and all of its address and count, which
the sense data hold as well, and with three bytes of data. A request with too much data makes no
call. -/
theorem stp_completion_usedRead :
    (usedRead.data.size < UInt32.size ∧
      ∃ x b final, (usedRead.sendStp ⟨⟨0⟩, 0, .off⟩ (.at 1 0 .zero)).exchanges
          Script.Rack.surroundings setupDriver = [x] ∧
        x.response = .ok b ∧ b.byteAt 44 = openAccept ∧ b.byteAt 48 = 0x5F ∧
        usedRead.Encodes (.at 1 0 .zero) x.payload ∧
        ((usedRead.sendStp ⟨⟨0⟩, 0, .off⟩ (.at 1 0 .zero)).run
          Script.Rack.surroundings setupDriver).value = (.ok .completed, final) ∧
        usedRead.Answered b (.ok .completed) final ∧
        (final.registers.map fun r => (r.status, r.lba, r.sectorCount)) =
          some (0x50, 0x665544332211, 0x0108) ∧
        final.sense.ataRegisters? = final.registers ∧
        final.data = .inbound [1, 2, 3, 0]) ∧
    let endless : AtaRequest := { usedRead with data := .inbound (Bytes.zeros UInt32.size) }
    UInt32.size ≤ endless.data.size ∧
      (endless.sendStp ⟨⟨0⟩, 0, .off⟩ (.at 1 0 .zero)).exchanges
        Script.Rack.surroundings setupDriver = [] := by
  refine ⟨?_, ?_⟩
  · have hfits : usedRead.data.size < UInt32.size := by decide
    obtain ⟨x, hx, -, -, hencodes, hanswered⟩ := (stp_completion Script.Rack.surroundings
      setupDriver ⟨⟨0⟩, 0, .off⟩ (.at 1 0 .zero) usedRead).1 hfits
    have hseen : ((usedRead.sendStp ⟨⟨0⟩, 0, .off⟩ (.at 1 0 .zero)).exchanges
        Script.Rack.surroundings setupDriver).map (fun x => x.response.toOption.map fun b =>
          (b.byteAt 44, b.byteAt 48)) = [some (openAccept, 0x5F)] := by decide +kernel
    have hleft : (fun q : Except Fault StpEnd × AtaRequest =>
        (q.2.registers.map fun r => (r.status, r.lba, r.sectorCount),
          q.2.sense.ataRegisters? == q.2.registers, q.2.data))
        ((usedRead.sendStp ⟨⟨0⟩, 0, .off⟩ (.at 1 0 .zero)).run
          Script.Rack.surroundings setupDriver).value =
        (some (0x50, 0x665544332211, 0x0108), true, .inbound [1, 2, 3, 0]) := by decide +kernel
    obtain ⟨y, b, hy, hb, hbytes⟩ := Except.exists_of_map_toOption hseen
    obtain rfl : y = x := List.singleton_inj.1 (hy.symm.trans hx)
    obtain ⟨hc, hkind⟩ := Prod.mk.inj hbytes
    obtain ⟨result, final, hvalue, hfinal⟩ := hanswered b hb hc
    obtain rfl : result = .ok .completed := hfinal.completed_iff.2 (.inr hkind)
    rw [hvalue, Prod.mk.injEq, Prod.mk.injEq, beq_iff_eq] at hleft
    exact ⟨hfits, y, b, final, hx, hb, hc, hkind, hencodes, hvalue, hfinal, hleft⟩
  · intro endless
    have hlong : UInt32.size ≤ endless.data.size := Nat.le_of_eq (Bytes.length_zeros _).symm
    exact ⟨hlong, (stp_completion Script.Rack.surroundings setupDriver ⟨⟨0⟩, 0, .off⟩
      (.at 1 0 .zero) endless).2 hlong⟩

end AtaRequest

end DriveReach
