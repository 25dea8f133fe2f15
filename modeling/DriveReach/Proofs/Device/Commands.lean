import DriveReach.Device.Basic
import DriveReach.Proofs.Passthrough.Chain
/-!
# Commands at an endpoint

`AtaRoute.Onward` says how calls may move a route: never back, and never to STP again once the
driver asked for SCSI emulation. `Endpoint.Along` adds that they change nothing else and name the
endpoint. Both compose, so they hold for a delivery of an ATA command, for an SSP command, and for
all that a SAT layer issues to serve a SCSI command.

* `Onward.trans`, `Along.trans`: calls after calls.
* `Along.of_chain`, `Along.of_send`: a single command.
* `course_runSat`: a SCSI command served by ATA commands, by induction on what the layer issues.
-/

set_option autoImplicit false

namespace DriveReach

open Csmi

theorem AtaRoute.ne_stp_of_rank_le {first last : AtaRoute} (h : first.rank ≤ last.rank)
    (hf : first ≠ .stp) : last ≠ .stp := by
  rintro rfl
  cases first
  · exact hf rfl
  · exact absurd h (by decide)
  · exact absurd h (by decide)

namespace Exchange

/-- An STP call that the driver answers with SCSI EMULATION. -/
def Emulated (x : Exchange) : Prop :=
  x.code = .stpPassthrough ∧ x.returnCode? = some .scsiEmulation

instance (x : Exchange) : Decidable x.Emulated := inferInstanceAs (Decidable (_ ∧ _))

/-- A call that carries a command to a device. -/
def IsPassthrough (x : Exchange) : Prop := x.code = .sspPassthrough ∨ x.code = .stpPassthrough

/-- The command frame in an STP call. -/
def hostFrame (x : Exchange) : Ata.HostFrame := ⟨x.payload.fixed 20 16⟩

theorem step?_of_stp {x : Exchange} (h : x.code = .stpPassthrough) : x.step? = some .stp := if_pos h

end Exchange

theorem Carries.isPassthrough {command : Ata.Command} {ep : Endpoint} {step : AtaRoute}
    {x : Exchange} (h : Carries command ep step x) : x.IsPassthrough := by
  have hc := h.code
  split at hc
  · exact .inr hc
  · exact .inl hc

/-- Delivering an ATA command makes no calls but those that carry it. -/
theorem AtaRequest.only_issue {r : AtaRequest} {c : Controller} {ep : Endpoint} :
    (r.issue c ep).Only Exchange.IsPassthrough := by
  intro xs d h x hx
  obtain ⟨last, -, hl⟩ := AtaRequest.course_issue h
  obtain ⟨step, hc, -⟩ := hl.carries x hx
  exact hc.isPassthrough

theorem ScsiRequest.only_send {r : ScsiRequest} {c : Controller} {ep : Endpoint} :
    (r.send c ep).Only Exchange.IsPassthrough := by
  intro xs q h
  rcases ScsiRequest.course_send h with ⟨fault, -, rfl, -⟩ | ⟨x, b, rfl, -, hx, -⟩
  · exact fun _ hx => nomatch hx
  · exact List.forall_mem_singleton.2 (.inl hx.code)

/-! ## Routes -/

/-- The exchanges `xs` led from a route to another. -/
structure AtaRoute.Onward (first last : AtaRoute) (xs : List Exchange) : Prop where
  rank_le : first.rank ≤ last.rank
  behindStp : first ≠ .stp → ∀ x ∈ xs, x.code ≠ .stpPassthrough
  leavesStp : ∀ x ∈ xs, x.Emulated → last ≠ .stp
  noStpAfter : xs.Pairwise fun x y => x.Emulated → y.code ≠ .stpPassthrough

namespace AtaRoute.Onward

variable {first middle last : AtaRoute} {xs ys : List Exchange}

theorem of_noStp (h : ∀ x ∈ xs, x.code ≠ .stpPassthrough) : first.Onward first xs where
  rank_le := Nat.le_refl _
  behindStp := fun _ => h
  leavesStp := fun x hx he => absurd he.1 (h x hx)
  noStpAfter := List.pairwise_of_forall_mem_list fun _ _ y hy _ => h y hy

theorem refl (first : AtaRoute) : first.Onward first [] := of_noStp fun _ hx => nomatch hx

theorem trans (h : first.Onward middle xs) (h' : middle.Onward last ys) :
    first.Onward last (xs ++ ys) where
  rank_le := Nat.le_trans h.rank_le h'.rank_le
  behindStp := fun hr => List.forall_mem_append.2
    ⟨h.behindStp hr, h'.behindStp (ne_stp_of_rank_le h.rank_le hr)⟩
  leavesStp := List.forall_mem_append.2
    ⟨fun x hx he => ne_stp_of_rank_le h'.rank_le (h.leavesStp x hx he), h'.leavesStp⟩
  noStpAfter := List.pairwise_append.2
    ⟨h.noStpAfter, h'.noStpAfter, fun x hx y hy he => h'.behindStp (h.leavesStp x hx he) y hy⟩

/-- At most one STP call is answered with SCSI EMULATION. -/
theorem emulated_once (h : first.Onward last xs) :
    xs.Pairwise fun x y => ¬ (x.Emulated ∧ y.Emulated) :=
  h.noStpAfter.imp fun hxy he => hxy he.1 he.2.1

end AtaRoute.Onward

namespace AtaRequest.Chain

variable {command : Ata.Command} {size : Nat} {ep : Endpoint} {route last : AtaRoute}
variable {xs : List Exchange} {result : Except Fault Unit}

theorem code_ne_stp (h : Chain command size ep route xs result last) (hr : route ≠ .stp) :
    ∀ x ∈ xs, x.code ≠ .stpPassthrough := by
  intro x hx
  obtain ⟨step, hs, hge, -⟩ := h.carries x hx
  rw [hs.code, if_neg (AtaRoute.ne_stp_of_rank_le hge hr)]
  decide

theorem noStpAfter (h : Chain command size ep route xs result last) :
    xs.Pairwise fun x y => x.Emulated → y.code ≠ .stpPassthrough := by
  induction h with
  | unsendable => exact .nil
  | stpEnds => exact List.pairwise_singleton _ _
  | stpRetries _ _ hl ih =>
    exact List.pairwise_cons.2 ⟨fun y hy _ => hl.code_ne_stp (by decide) y hy, ih⟩
  | satEnds => exact List.pairwise_singleton _ _
  | satRejected _ _ hl ih =>
    exact List.pairwise_cons.2 ⟨fun y hy _ => hl.code_ne_stp (by decide) y hy, ih⟩
  | legacyEnds => exact List.pairwise_singleton _ _
  | legacyRefuses => exact .nil

theorem onward (h : Chain command size ep route xs result last) : route.Onward last xs where
  rank_le := h.rank_le
  behindStp := h.code_ne_stp
  leavesStp := fun x hx he => (h.leaves_stp_iff x hx (Exchange.step?_of_stp he.1)).2 he.2
  noStpAfter := h.noStpAfter

end AtaRequest.Chain

/-! ## Endpoints -/

/-- The exchanges `xs` led from an endpoint to another, which differs in its route at most. -/
structure Endpoint.Along (ep ep' : Endpoint) (xs : List Exchange) : Prop where
  sameButRoute : ep' = { ep with route := ep'.route }
  onward : ep.route.Onward ep'.route xs
  addressed : ∀ x ∈ xs, AddressedTo ep.phy ep.port ep.sasAddress x.payload
  framed : ∀ x ∈ xs, x.code = .stpPassthrough → x.hostFrame.pmPort = Ata.pmPortOf ep.pmPort

namespace Endpoint.Along

variable {ep ep' ep'' : Endpoint} {xs ys : List Exchange}

theorem refl (ep : Endpoint) : ep.Along ep [] where
  sameButRoute := rfl
  onward := .refl _
  addressed := fun _ hx => nomatch hx
  framed := fun _ hx => nomatch hx

theorem trans (h : ep.Along ep' xs) (h' : ep'.Along ep'' ys) : ep.Along ep'' (xs ++ ys) where
  sameButRoute := by rw [h'.sameButRoute, h.sameButRoute]
  onward := h.onward.trans h'.onward
  addressed := by
    have hto := h'.addressed
    rw [h.sameButRoute] at hto
    exact List.forall_mem_append.2 ⟨h.addressed, hto⟩
  framed := by
    have hfr := h'.framed
    rw [h.sameButRoute] at hfr
    exact List.forall_mem_append.2 ⟨h.framed, hfr⟩

/-- A delivery of an ATA command. -/
theorem of_chain {command : Ata.Command} {size : Nat} {result : Except Fault Unit}
    {last : AtaRoute} (h : AtaRequest.Chain command size ep ep.route xs result last) :
    ep.Along { ep with route := last } xs where
  sameButRoute := rfl
  onward := h.onward
  addressed := fun x hx =>
    let ⟨_, hs, _⟩ := h.carries x hx
    hs.addressed
  framed := by
    intro x hx hc
    obtain ⟨step, hs, -⟩ := h.carries x hx
    have hstep : step = .stp := Option.some.inj (hs.isStep.symm.trans (Exchange.step?_of_stp hc))
    have hf : x.hostFrame = { command with pmPort := ep.pmPort }.toFrame :=
      congrArg Ata.HostFrame.mk (hs.frame hstep)
    rw [hf]
    exact Ata.Command.pmPort_toFrame _

/-- A delivery of an SSP command. -/
theorem of_send {r : ScsiRequest} {c : Controller} {q : Except Fault Unit × ScsiRequest}
    (h : (r.send c ep).Course xs q) :
    ep.Along ep xs ∧ ∀ x ∈ xs, x.code ≠ .stpPassthrough := by
  rcases ScsiRequest.course_send h with ⟨fault, -, rfl, -⟩ | ⟨x, b, rfl, hp, hx, -⟩
  · exact ⟨.refl ep, fun _ hx => nomatch hx⟩
  have hc : x.code ≠ .stpPassthrough := by
    rw [hx.code]
    decide
  have hto := (ScsiRequest.payload_spec hp).1
  rw [← hx.payload] at hto
  have hno : ∀ y ∈ [x], y.code ≠ .stpPassthrough := List.forall_mem_singleton.2 hc
  exact ⟨⟨rfl, .of_noStp hno, List.forall_mem_singleton.2 hto, fun y hy h => absurd h (hno y hy)⟩,
    hno⟩

end Endpoint.Along

namespace Device

/-- Whatever a SAT layer issues to serve a SCSI command changes the endpoint's route at most. -/
theorem course_runSat {c : Controller} {e : SatExchange} {ep : Endpoint} {xs : List Exchange}
    {q : Except Fault Unit × Endpoint × ScsiRequest} (h : (runSat c e ep).Course xs q) :
    ep.Along q.2.1 xs := by
  induction e generalizing ep xs with
  | done result request =>
    obtain ⟨rfl, rfl⟩ := h
    exact .refl ep
  | issue request next ih =>
    obtain ⟨ys, zs, u, rfl, hd, hf⟩ := Dialogue.course_bind.1 h
    obtain ⟨last, hep, hl⟩ := AtaRequest.course_issue hd
    have hn : (u.2.1).Along q.2.1 zs := ih _ _ hf
    exact (Endpoint.Along.of_chain hl).trans (hep ▸ hn)

/-- A SAT layer reaches the device by ATA commands alone. -/
theorem only_runSat {c : Controller} {e : SatExchange} {ep : Endpoint} :
    (runSat c e ep).Only Exchange.IsPassthrough := by
  induction e generalizing ep with
  | done result request => exact Dialogue.only_done
  | issue request next ih => exact Dialogue.only_bind AtaRequest.only_issue fun _ => ih _ _

end Device

end DriveReach
