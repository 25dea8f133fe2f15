import DriveReach.Proofs.Passthrough.Results
/-!
# What a failed exchange leaves of earlier results

The driver can give a call as a success although the exchange with the device failed: the connection
was refused, or the frame that should report the end is none. `AtaRequest.Remains` says what such an
exchange at the end of a delivery leaves in the request.

* `Settled.remains`: every such delivery is in one of the cases.
* `failed_exchange_remains`: so a refused connection lets results of an earlier command pass for its
  own, on STP the status frame and the control registers, on SSP all of them.
-/

set_option autoImplicit false

namespace DriveReach

open Csmi Dialogue

/-- The driver gave a call as a success, but the connection was refused or, by STP, the status frame
is none. -/
inductive Exchange.Miscarried (x : Exchange) : Prop
  | stpRefused {status : StpStatus} {area : Bytes} :
    x.code = .stpPassthrough → x.stpStatus = .ok (status, area) →
    status.connectionStatus ≠ openAccept → Miscarried x
  | stpGarbled {status : StpStatus} {area : Bytes} {fault : Ata.FrameFault} :
    x.code = .stpPassthrough → x.stpStatus = .ok (status, area) →
    Ata.StatusFrame.parse status.frame.toList = .error fault → Miscarried x
  | sspRefused {status : SspStatus} {area : Bytes} :
    x.code = .sspPassthrough → x.sspStatus = .ok (status, area) →
    status.connectionStatus ≠ openAccept → Miscarried x

namespace AtaRequest

/-- The result of a delivery whose last exchange miscarried, and the results in the request. -/
inductive Remains (r : AtaRequest) : List Exchange → Except Fault Unit → AtaResult → Prop
  /-- A refused STP connection takes away the registers and the sense data only. -/
  | stpRefused {x : Exchange} {status : StpStatus} {area : Bytes} :
    x.code = .stpPassthrough → x.stpStatus = .ok (status, area) →
    status.connectionStatus ≠ openAccept →
    Remains r [x] (.error (.failed .connectionFailed)) ⟨none, r.statusFrame, r.scr, .empty⟩
  | stpGarbled {x : Exchange} {status : StpStatus} {area : Bytes} {fault : Ata.FrameFault} :
    x.code = .stpPassthrough → x.stpStatus = .ok (status, area) →
    Ata.StatusFrame.parse status.frame.toList = .error fault →
    Remains r [x] (.error (.frame fault)) ⟨none, some status.frame, some status.scr, .empty⟩
  /-- A refused SSP connection takes nothing away. -/
  | sspRefused {ys : List Exchange} {x : Exchange} {status : SspStatus} {area : Bytes} :
    (∀ y ∈ ys, y.code = .stpPassthrough) →
    x.code = .sspPassthrough → x.sspStatus = .ok (status, area) →
    status.connectionStatus ≠ openAccept →
    Remains r (ys ++ [x]) (.error (.failed .connectionFailed)) r.result
  /-- The exchange before has replaced the results. -/
  | sspRefusedAgain {ys : List Exchange} {y x : Exchange} {before status : SspStatus}
    {areaBefore area : Bytes} :
    y.sspResult = .ok (before, areaBefore) → before.senseBuffer.ataRegisters? = none →
    x.code = .sspPassthrough → x.sspStatus = .ok (status, area) →
    status.connectionStatus ≠ openAccept →
    Remains r (ys ++ [y, x]) (.error (.failed .connectionFailed))
      ⟨none, none, none, before.senseBuffer⟩

variable {r : AtaRequest} {c : Controller} {ep : Endpoint} {xs : List Exchange} {x : Exchange}

/-! ## One exchange -/

theorem stpStatus_of_miscarried (hm : x.Miscarried) (hcode : x.code = .stpPassthrough) :
    ∃ p, x.stpStatus = .ok p := by
  cases hm with
  | stpRefused _ hs => exact ⟨_, hs⟩
  | stpGarbled _ hs => exact ⟨_, hs⟩
  | sspRefused hssp => rw [hcode] at hssp; cases hssp

/-- How a miscarried STP exchange leaves the request. -/
theorem StpStep.remains {q : Except Fault StpEnd × AtaRequest} (h : r.StpStep x q)
    (hcode : x.code = .stpPassthrough) (hm : x.Miscarried) :
    r.Remains [x] (q.1.map fun _ => ()) q.2.result := by
  obtain ⟨p, hs⟩ := stpStatus_of_miscarried hm hcode
  cases h with
  | emulated he => exact absurd he (Exchange.returnCode_ne_of_stpStatus hs)
  | failed _ hf => rw [hf] at hs; cases hs
  | refused hs hc => exact .stpRefused hcode hs hc
  | garbled hs _ hf => exact .stpGarbled hcode hs hf
  | completed hs' hc hf =>
    exfalso
    cases hm with
    | stpRefused _ hs hn => rw [hs'] at hs; cases hs; exact hn hc
    | stpGarbled _ hs hg => rw [hs'] at hs; cases hs; rw [hf] at hg; cases hg
    | sspRefused hssp => rw [hcode] at hssp; cases hssp

/-- A miscarried SSP exchange is a refused connection, and brings nothing. -/
theorem sspResult_of_miscarried (hm : x.Miscarried) (hcode : x.code = .sspPassthrough) :
    ∃ status area, x.sspStatus = .ok (status, area) ∧ status.connectionStatus ≠ openAccept ∧
      x.sspResult = .error (.failed .connectionFailed) := by
  cases hm with
  | stpRefused hstp => rw [hcode] at hstp; cases hstp
  | stpGarbled hstp => rw [hcode] at hstp; cases hstp
  | @sspRefused status area _ hs hc =>
    refine ⟨status, area, hs, hc, ?_⟩
    rw [Exchange.sspResult_eq, hs]
    exact if_pos hc

/-! ## Exchanges in a row -/

/-- Once a delivery has left STP it does not come back. -/
theorem Settled.code_eq_ssp {route : AtaRoute} {d : Delivery} (h : Settled c ep route r xs d)
    (hroute : route ≠ .stp) : ∀ y ∈ xs, y.code = .sspPassthrough := by
  induction h with
  | tooLong => exact fun _ hy => nomatch hy
  | legacyRefuses => exact fun _ hy => nomatch hy
  | stpEnds => exact absurd rfl hroute
  | stpRetries => exact absurd rfl hroute
  | sspEnds _ hx =>
    obtain ⟨b, -, hs⟩ := hx
    exact List.forall_mem_singleton.2 hs.code
  | satRejected _ hx _ _ ih =>
    obtain ⟨b, -, hs⟩ := hx
    exact List.forall_mem_cons.2 ⟨hs.code, ih (by decide)⟩

namespace Remains

variable {result : Except Fault Unit} {left : AtaResult}

theorem isError (h : r.Remains xs result left) : ∃ fault, result = .error fault := by
  cases h <;> exact ⟨_, rfl⟩

/-- An STP exchange in front leaves everything to those that follow. -/
theorem cons_stp {y : Exchange} (h : r.Remains xs result left) (hy : y.code = .stpPassthrough)
    (hxs : ∀ x ∈ xs, x.code = .sspPassthrough) : r.Remains (y :: xs) result left := by
  cases h with
  | stpRefused hcode => rw [hxs _ (List.mem_singleton_self _)] at hcode; cases hcode
  | stpGarbled hcode => rw [hxs _ (List.mem_singleton_self _)] at hcode; cases hcode
  | sspRefused hys hcode hs hc =>
    exact .sspRefused (List.forall_mem_cons.2 ⟨hy, hys⟩) hcode hs hc
  | sspRefusedAgain hbefore hnone hcode hs hc =>
    rw [← List.cons_append]
    exact .sspRefusedAgain hbefore hnone hcode hs hc

/-- An exchange in front that rejected the operation code has replaced the results. -/
theorem cons_rejected {cdb : Scsi.Cdb} {y : Exchange} (hy : y.RejectsOpcode)
    (h : Remains (r.settleSat cdb y.sspResult).2 xs result left)
    (hxs : ∀ x ∈ xs, x.code = .sspPassthrough) : r.Remains (y :: xs) result left := by
  obtain ⟨before, areaBefore, summary, hbefore, -, -, hnone, -⟩ := hy
  cases h with
  | stpRefused hcode => rw [hxs _ (List.mem_singleton_self _)] at hcode; cases hcode
  | stpGarbled hcode => rw [hxs _ (List.mem_singleton_self _)] at hcode; cases hcode
  | @sspRefused ys x status area hys hcode hs hc =>
    have hnil : ys = [] := by
      refine List.eq_nil_iff_forall_not_mem.2 fun z hz => ?_
      have hssp := hxs z (List.mem_append_left _ hz)
      rw [hys z hz] at hssp
      cases hssp
    subst hnil
    rw [hbefore, result_settleSat, hnone]
    change r.Remains ([] ++ [y, x]) _ _
    exact .sspRefusedAgain hbefore hnone hcode hs hc
  | sspRefusedAgain hbefore hnone hcode hs hc =>
    rw [← List.cons_append]
    exact .sspRefusedAgain hbefore hnone hcode hs hc

end Remains

/-- A delivery whose last exchange miscarried failed, and leaves of earlier results what that
exchange leaves. -/
theorem Settled.remains {route : AtaRoute} {d : Delivery} (h : Settled c ep route r xs d)
    (hlast : xs.getLast? = some x) (hm : x.Miscarried) : r.Remains xs d.1 d.2.2.result := by
  induction h with
  | tooLong => cases hlast
  | legacyRefuses => cases hlast
  | stpEnds hx hstep hq =>
    cases hlast
    obtain ⟨b, -, hs⟩ := hx
    exact hstep.remains hs.code hm
  | @stpRetries r y xs d hx he hsat ih =>
    obtain ⟨b, -, hs⟩ := hx
    cases xs with
    | nil =>
      -- A call that asks for SCSI was not given as a success.
      obtain rfl : y = x := by simpa using hlast
      obtain ⟨p, hp⟩ := stpStatus_of_miscarried hm hs.code
      exact absurd he (Exchange.returnCode_ne_of_stpStatus hp)
    | cons z zs => exact (ih hlast).cons_stp hs.code (hsat.code_eq_ssp (by decide))
  | @sspEnds route r cdb y hroute hx hrej =>
    obtain rfl : y = x := by simpa using hlast
    obtain ⟨b, -, hs⟩ := hx
    obtain ⟨status, area, hstatus, hc, hresult⟩ := sspResult_of_miscarried hm hs.code
    rw [hresult]
    change r.Remains ([] ++ [y]) _ _
    exact .sspRefused (fun _ hy => nomatch hy) hs.code hstatus hc
  | @satRejected r cdb y xs d hroute hx hrej hlegacy ih =>
    obtain ⟨b, -, hs⟩ := hx
    cases xs with
    | nil =>
      -- A refused connection brings no sense data, so it cannot reject the operation code.
      obtain rfl : y = x := by simpa using hlast
      obtain ⟨_, _, _, _, hresult⟩ := sspResult_of_miscarried hm hs.code
      obtain ⟨_, _, _, hbefore, -⟩ := hrej
      rw [hresult] at hbefore
      cases hbefore
    | cons z zs => exact (ih hlast).cons_rejected hrej (hlegacy.code_eq_ssp (by decide))

/-- **A failed exchange is reported, and what it leaves of earlier results.** Whatever the driver
answers, a delivery fails when its last call was given as a success but the connection was refused
or the status frame cannot be read. Then the results are those of the last exchanges of the delivery
and none of an earlier command, but for two cases: a refused STP connection leaves the status frame
and the control registers, and a refused SSP connection leaves everything unless an SSP exchange of
the same delivery went before. -/
theorem failed_exchange_remains {σ : Type} (w : Surroundings σ) (s : σ) (c : Controller)
    (ep : Endpoint) (r : AtaRequest) {ys : List Exchange} {x : Exchange}
    (hx : (r.issue c ep).exchanges w s = ys ++ [x]) (hm : x.Miscarried) :
    (∃ fault, ((r.issue c ep).run w s).value.1 = .error fault) ∧
      r.Remains (ys ++ [x]) ((r.issue c ep).run w s).value.1
        ((r.issue c ep).run w s).value.2.2.result := by
  have hsettled := settled_issue (course_run w (r.issue c ep) s)
  rw [hx] at hsettled
  have hremains := hsettled.remains List.getLast?_concat hm
  exact ⟨hremains.isError, hremains⟩

/-- A driver that gives every passthrough call as a success, with a refused connection. -/
def refusingDriver : Surroundings Unit where
  attach s _ _ := (.ok ⟨0⟩, s)
  call s _ code buffer :=
    (.ok (buffer.put (headerLength + if code = .stpPassthrough then 44 else 72) [1]), s)

/-- CHECK POWER MODE in a request that holds the results of an earlier command. -/
def usedRequest : AtaRequest where
  command := .checkPowerMode
  data := .none
  registers := some { Ata.Registers.zero with status := 0x11 }
  statusFrame := some (Vector.replicate 20 0xEE)
  scr := some (Vector.replicate 16 7)
  sense := .ofBytes [0x70, 0, 0x05]

/-- By STP, the used request is left with its status frame and control registers. -/
theorem failed_exchange_remains_usedRequest :
    ∃ x, (usedRequest.issue ⟨⟨0⟩, 0, .off⟩ (.at 1 0 .zero)).exchanges refusingDriver () = [x] ∧
      x.Miscarried ∧
      usedRequest.Remains [x]
        ((usedRequest.issue ⟨⟨0⟩, 0, .off⟩ (.at 1 0 .zero)).run refusingDriver ()).value.1
        ((usedRequest.issue ⟨⟨0⟩, 0, .off⟩ (.at 1 0 .zero)).run
          refusingDriver ()).value.2.2.result := by
  have hstatus : ((usedRequest.issue ⟨⟨0⟩, 0, .off⟩ (.at 1 0 .zero)).exchanges
      refusingDriver ()).map (fun x => (x.code, x.stpStatus.toOption.map (·.1.connectionStatus))) =
        [(.stpPassthrough, some 1)] := by decide +kernel
  obtain ⟨x, hx, hcode⟩ := List.map_eq_singleton_iff.1 hstatus
  have hm : x.Miscarried := by
    rw [Prod.mk.injEq] at hcode
    obtain ⟨hcode, hs⟩ := hcode
    cases hp : x.stpStatus with
    | error fault =>
      rw [hp] at hs
      cases hs
    | ok p =>
      rw [hp] at hs
      have hconnection : p.1.connectionStatus = 1 := Option.some.inj hs
      exact .stpRefused hcode hp (by rw [hconnection]; decide)
  have hlast : (usedRequest.issue ⟨⟨0⟩, 0, .off⟩ (.at 1 0 .zero)).exchanges refusingDriver () =
      [] ++ [x] := hx
  have hremains := failed_exchange_remains refusingDriver () ⟨⟨0⟩, 0, .off⟩ (.at 1 0 .zero)
    usedRequest hlast hm
  exact ⟨x, hx, hm, hremains.2⟩

/-- A refused connection leaves results of an earlier command: by STP the status frame and the
control registers, by SSP all of them. -/
theorem refused_keeps_results :
    let stp := usedRequest.issue ⟨⟨0⟩, 0, .off⟩ (.at 1 0 .zero)
    let ssp := usedRequest.issue ⟨⟨0⟩, 0, .off⟩ { Endpoint.at 1 0 .zero with route := .satOverSsp }
    ((stp.run refusingDriver ()).value.1 = .error (.failed .connectionFailed) ∧
        (stp.exchanges refusingDriver ()).map (·.returnCode?) = [some .success] ∧
        (stp.run refusingDriver ()).value.2.2.statusFrame = some (Vector.replicate 20 0xEE) ∧
        (stp.run refusingDriver ()).value.2.2.scr = some (Vector.replicate 16 7)) ∧
      (ssp.run refusingDriver ()).value.1 = .error (.failed .connectionFailed) ∧
        (ssp.exchanges refusingDriver ()).map (·.returnCode?) = [some .success] ∧
        (ssp.run refusingDriver ()).value.2.2.registers = usedRequest.registers ∧
        (ssp.run refusingDriver ()).value.2.2.statusFrame = some (Vector.replicate 20 0xEE) ∧
        (ssp.run refusingDriver ()).value.2.2.scr = some (Vector.replicate 16 7) ∧
        (ssp.run refusingDriver ()).value.2.2.sense.valid = [0x70, 0, 0x05] := by
  intro stp ssp
  refine ⟨⟨?_, ?_, ?_, ?_⟩, ?_, ?_, ?_, ?_, ?_, ?_⟩ <;> decide +kernel

end AtaRequest

end DriveReach
