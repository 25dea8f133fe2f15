import DriveReach.Passthrough.AtaChain
import DriveReach.Proofs.Passthrough.Exchange
/-!
# How a delivery ends

`AtaRequest.Settled` has one case for each way in which a delivery can go at a step of the chain,
with the exchanges made, the result, and the request and the endpoint as they are left. Whatever is
said about all deliveries is an induction on it (`AtaRequest.settled_issue`).
-/

set_option autoImplicit false

namespace DriveReach

open Csmi

/-- The SCSI command that carries an ATA command on a route, if the route has one for it. -/
def AtaRoute.cdb? (command : Ata.Command) : AtaRoute → Option Scsi.Cdb
  | stp => none
  | satOverSsp => some (Scsi.AtaPassThrough.cdb16 command)
  | legacyOverSsp => (Scsi.AtaPassThrough.cdb12 command).toOption

/-- The last step takes no 48-bit command. -/
theorem AtaRoute.legacy_of_cdb? {command : Ata.Command} {cdb : Scsi.Cdb}
    (h : legacyOverSsp.cdb? command = some cdb) :
    command.extended = false ∧ cdb.opcode = Scsi.Opcode.ataPassThrough12 ∧ cdb.bytes ≠ [] := by
  by_cases hx : command.extended
  · simp only [cdb?, Scsi.AtaPassThrough.cdb12, hx, if_true] at h
    cases h
  · simp only [cdb?, Scsi.AtaPassThrough.cdb12, hx, if_false, Bool.false_eq_true] at h
    cases h
    exact ⟨by simpa using hx, rfl, List.cons_ne_nil _ _⟩

theorem AtaRoute.bytes_ne_nil {command : Ata.Command} {route : AtaRoute} {cdb : Scsi.Cdb}
    (h : route.cdb? command = some cdb) : cdb.bytes ≠ [] := by
  cases route with
  | stp => cases h
  | satOverSsp =>
    cases h
    exact List.cons_ne_nil _ _
  | legacyOverSsp => exact (legacy_of_cdb? h).2.2

namespace AtaRequest

/-- The result of a delivery whose last step ended inside a SCSI command. -/
def satResult : Except Fault SatEnd → Except Fault Unit
  | .error fault => .error fault
  | .ok .completed => .ok ()
  | .ok .invalidOpcode => .error (.scsi (.checkCondition .illegalRequest
      Scsi.SenseCode.invalidOpcode Scsi.SenseQualifier.none))

/-- A delivery to an endpoint from a step of the chain on: the exchanges, and what it comes to. -/
inductive Settled (c : Controller) (ep : Endpoint) :
    AtaRoute → AtaRequest → List Exchange → Delivery → Prop
  /-- The data are too long for any call. -/
  | tooLong {route : AtaRoute} {r : AtaRequest} {fault : Fault} :
    UInt32.size ≤ r.data.size →
    Settled c ep route r [] (.error fault, { ep with route := route }, r)
  /-- A 48-bit command does not fit the last step. -/
  | legacyRefuses {r : AtaRequest} :
    r.command.extended = true →
    Settled c ep .legacyOverSsp r []
      (.error (.scsi (.needsExtendedCdb r.command.taskFile.command)),
        { ep with route := .legacyOverSsp }, r)
  | stpEnds {r r' : AtaRequest} {x : Exchange} {q : Except Fault StpEnd} :
    r.SentByStp c ep x → r.StpStep x (q, r') → q ≠ .ok .retryAsSsp →
    Settled c ep .stp r [x] (q.map fun _ => (), { ep with route := .stp }, r')
  | stpRetries {r : AtaRequest} {x : Exchange} {xs : List Exchange} {d : Delivery} :
    r.SentByStp c ep x → x.returnCode? = some .scsiEmulation →
    Settled c ep .satOverSsp r xs d → Settled c ep .stp r (x :: xs) d
  | sspEnds {route : AtaRoute} {r : AtaRequest} {cdb : Scsi.Cdb} {x : Exchange} :
    route.cdb? r.command = some cdb → r.SentInSsp c ep cdb x →
    (route = .satOverSsp → ¬ x.RejectsOpcode) →
    Settled c ep route r [x] (satResult (r.settleSat cdb x.sspResult).1, { ep with route := route },
      (r.settleSat cdb x.sspResult).2)
  | satRejected {r : AtaRequest} {cdb : Scsi.Cdb} {x : Exchange} {xs : List Exchange}
    {d : Delivery} :
    AtaRoute.satOverSsp.cdb? r.command = some cdb → r.SentInSsp c ep cdb x → x.RejectsOpcode →
    Settled c ep .legacyOverSsp (r.settleSat cdb x.sspResult).2 xs d →
    Settled c ep .satOverSsp r (x :: xs) d

variable {r : AtaRequest} {c : Controller} {ep : Endpoint} {xs : List Exchange} {d : Delivery}

theorem tooLong_of_payload {cdb : Scsi.Cdb} {fault : Fault} (hc : cdb.bytes ≠ [])
    (h : (r.satRequest cdb).payload ep = .error fault) : UInt32.size ≤ r.data.size := by
  refine Nat.le_of_not_lt fun hd => ?_
  have hb : ∃ b, (r.satRequest cdb).payload ep = .ok b := ScsiRequest.exists_payload hd hc
  obtain ⟨b, hb⟩ := hb
  cases h.symm.trans hb

theorem tooLong_of_stpPayload {fault : Fault} (h : r.stpPayload ep = .error fault) :
    UInt32.size ≤ r.data.size := by
  refine Nat.le_of_not_lt fun hd => ?_
  have hb : ∃ b, r.stpPayload ep = .ok b := exists_stpPayload hd
  obtain ⟨b, hb⟩ := hb
  cases h.symm.trans hb

theorem settled_issueLegacy
    (h : (r.issueLegacy c { ep with route := .legacyOverSsp }).Course xs d) :
    Settled c ep .legacyOverSsp r xs d := by
  unfold issueLegacy at h
  cases hcdb : Scsi.AtaPassThrough.cdb12 r.command with
  | error fault =>
    rw [hcdb] at h
    obtain ⟨rfl, rfl⟩ := h
    by_cases hx : r.command.extended
    · simp only [Scsi.AtaPassThrough.cdb12, hx, if_true, Except.error.injEq] at hcdb
      subst hcdb
      exact .legacyRefuses hx
    · simp only [Scsi.AtaPassThrough.cdb12, hx, if_false, Bool.false_eq_true] at hcdb
      cases hcdb
  | ok cdb =>
    rw [hcdb] at h
    have hroute : AtaRoute.legacyOverSsp.cdb? r.command = some cdb := by
      rw [AtaRoute.cdb?, hcdb]
      rfl
    obtain ⟨ys, zs, q, rfl, hs, hf⟩ := Dialogue.course_bind.1 h
    have hd : zs = [] ∧ d = (satResult q.1, { ep with route := .legacyOverSsp }, q.2) := by
      rcases q with ⟨_ | _ | _, r'⟩ <;> exact hf
    obtain ⟨rfl, rfl⟩ := hd
    rcases course_sendSat hs with ⟨fault, hp, rfl, rfl⟩ | ⟨x, rfl, hx, rfl⟩
    · exact .tooLong (tooLong_of_payload (AtaRoute.bytes_ne_nil hroute) hp)
    · exact .sspEnds hroute hx (nomatch ·)

theorem settled_issueSat (h : (r.issueSat c { ep with route := .satOverSsp }).Course xs d) :
    Settled c ep .satOverSsp r xs d := by
  have hroute : AtaRoute.satOverSsp.cdb? r.command =
      some (Scsi.AtaPassThrough.cdb16 r.command) := rfl
  obtain ⟨ys, zs, q, rfl, hs, hf⟩ := Dialogue.course_bind.1 h
  rcases course_sendSat hs with ⟨fault, hp, rfl, rfl⟩ | ⟨x, rfl, hx, rfl⟩
  · obtain ⟨rfl, rfl⟩ := hf
    exact .tooLong (tooLong_of_payload (AtaRoute.bytes_ne_nil hroute) hp)
  have hx : r.SentInSsp c ep (Scsi.AtaPassThrough.cdb16 r.command) x := hx
  have hends := Settled.sspEnds hroute hx
  have hrej : (r.settleSat (Scsi.AtaPassThrough.cdb16 r.command) x.sspResult).1 =
      .ok .invalidOpcode ↔ x.RejectsOpcode := fst_settleSat_eq_invalidOpcode_iff
  -- Only a rejected operation code goes on to the last step.
  generalize hq : r.settleSat (Scsi.AtaPassThrough.cdb16 r.command) x.sspResult = q
    at hf hrej hends
  rcases q with ⟨fault | _ | _, r'⟩
  · obtain ⟨rfl, rfl⟩ := hf
    exact hends fun _ h => nomatch hrej.2 h
  · obtain ⟨rfl, rfl⟩ := hf
    exact hends fun _ h => nomatch hrej.2 h
  · refine .satRejected hroute hx (hrej.1 rfl) ?_
    rw [hq]
    exact settled_issueLegacy (Dialogue.course_notes_bind.1 hf)

theorem settled_issueStp (h : (r.issueStp c { ep with route := .stp }).Course xs d) :
    Settled c ep .stp r xs d := by
  obtain ⟨ys, zs, q, rfl, hs, hf⟩ := Dialogue.course_bind.1 h
  rcases course_sendStp hs with ⟨fault, hp, rfl, rfl⟩ | ⟨x, rfl, hx, hstep⟩
  · obtain ⟨rfl, rfl⟩ := hf
    exact .tooLong (tooLong_of_stpPayload hp)
  have hx : r.SentByStp c ep x := hx
  rcases hstep.retries_iff with ⟨he, rfl⟩ | ⟨-, hq⟩
  · exact .stpRetries hx he (settled_issueSat hf)
  · rcases q with ⟨fault | _ | _, r'⟩
    · obtain ⟨rfl, rfl⟩ := hf
      exact .stpEnds hx hstep hq
    · obtain ⟨rfl, rfl⟩ := hf
      exact .stpEnds hx hstep hq
    · exact absurd rfl hq

/-- Every delivery goes in one of the ways. -/
theorem settled_issue (h : (r.issue c ep).Course xs d) : Settled c ep ep.route r xs d := by
  obtain ⟨phy, port, address, lun, rate, pmPort, route⟩ := ep
  cases route with
  | stp => exact settled_issueStp h
  | satOverSsp => exact settled_issueSat h
  | legacyOverSsp => exact settled_issueLegacy h

end AtaRequest

end DriveReach
