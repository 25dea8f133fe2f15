import DriveReach.Proofs.Passthrough.Delivery
/-!
# The chain of an ATA command

`AtaRequest.Chain` says which exchanges a delivery may consist of: one case for each way in which a
step of the chain can end. The rest is read off the cases, by induction on them.

* `Settled.chain`: every delivery is a chain.
* `Chain.rank_le`, `Chain.map_step?`: the route only moves on, and the calls are the steps on its
  way.
* `Chain.leaves_stp_iff`, `Chain.reaches_legacy_iff`: what an answer must be for the next step.
* `calls_follow_chain`: all of this for every run of a delivery.
-/

set_option autoImplicit false

namespace DriveReach

open Csmi

/-! ## Steps -/

/-- The steps of the chain, in order. -/
def AtaRoute.chain : List AtaRoute := [.stp, .satOverSsp, .legacyOverSsp]

/-- The steps from one to another. -/
def AtaRoute.span (first last : AtaRoute) : List AtaRoute :=
  chain.filter fun step => first.rank ≤ step.rank && step.rank ≤ last.rank

/-- The step that a call carries out: STP, or ATA PASS-THROUGH inside SSP by its operation code. -/
def Exchange.step? (x : Exchange) : Option AtaRoute :=
  if x.code = .stpPassthrough then some .stp
  else if x.code = .sspPassthrough then
    if x.payload.byteAt 24 = 0x85 then some .satOverSsp
    else if x.payload.byteAt 24 = 0xA1 then some .legacyOverSsp
    else none
  else none

/-- `x` carries out a step of the chain for a command at an endpoint. -/
structure Carries (command : Ata.Command) (ep : Endpoint) (step : AtaRoute) (x : Exchange) :
    Prop where
  isStep : x.step? = some step
  addressed : AddressedTo ep.phy ep.port ep.sasAddress x.payload
  frame : step = .stp →
    x.payload.fixed 20 16 = { command with pmPort := ep.pmPort }.toFrame.bytes

theorem Carries.code {command : Ata.Command} {ep : Endpoint} {step : AtaRoute} {x : Exchange}
    (h : Carries command ep step x) :
    x.code = if step = .stp then .stpPassthrough else .sspPassthrough := by
  have hs := h.isStep
  unfold Exchange.step? at hs
  split at hs
  · rename_i hc
    cases hs
    exact hc
  · split at hs
    · rename_i hc
      rw [hc]
      split at hs
      · cases hs
        rfl
      · split at hs
        · cases hs
          rfl
        · cases hs
    · cases hs

namespace AtaRequest

/-- The steps that make a call on the way from one to another: a 48-bit command makes none at the
last step of the chain. -/
def stepsBetween (extended : Bool) (first last : AtaRoute) : List AtaRoute :=
  (first.span last).filter fun step => !(extended && step == .legacyOverSsp)

section
variable {extended : Bool} {last : AtaRoute}

theorem stepsBetween_self (h : last ≠ .legacyOverSsp) :
    stepsBetween extended last last = [last] := by
  cases extended <;> cases last <;> first | rfl | exact absurd rfl h

theorem stepsBetween_legacy :
    stepsBetween extended .legacyOverSsp .legacyOverSsp =
      if extended then [] else [.legacyOverSsp] := by
  cases extended <;> rfl

theorem stepsBetween_stp :
    stepsBetween extended .stp last = .stp :: stepsBetween extended .satOverSsp last := by
  cases extended <;> cases last <;> rfl

theorem stepsBetween_sat (h : AtaRoute.legacyOverSsp.rank ≤ last.rank) :
    stepsBetween extended .satOverSsp last =
      .satOverSsp :: stepsBetween extended .legacyOverSsp last := by
  cases extended <;> cases last <;> first | rfl | exact absurd h (by decide)

/-- The calls on the way are a part of the chain that begins at the route. -/
theorem stepsBetween_prefix {first : AtaRoute} :
    stepsBetween extended first last <+: AtaRoute.chain.drop first.rank := by
  cases extended <;> cases first <;> cases last <;> decide

end

/-- The exchanges that deliver a command with `size` bytes of data along the chain, from a route to
the one it comes to, and the result. -/
inductive Chain (command : Ata.Command) (size : Nat) (ep : Endpoint) :
    AtaRoute → List Exchange → Except Fault Unit → AtaRoute → Prop
  /-- The data are too long for any call. -/
  | unsendable {route : AtaRoute} {result : Except Fault Unit} :
    UInt32.size ≤ size → Chain command size ep route [] result route
  | stpEnds {x : Exchange} {result : Except Fault Unit} :
    Carries command ep .stp x → x.returnCode? ≠ some .scsiEmulation →
    Chain command size ep .stp [x] result .stp
  | stpRetries {x : Exchange} {xs : List Exchange} {result : Except Fault Unit} {last : AtaRoute} :
    Carries command ep .stp x → x.returnCode? = some .scsiEmulation →
    Chain command size ep .satOverSsp xs result last →
    Chain command size ep .stp (x :: xs) result last
  | satEnds {x : Exchange} {result : Except Fault Unit} :
    Carries command ep .satOverSsp x → ¬ x.RejectsOpcode →
    Chain command size ep .satOverSsp [x] result .satOverSsp
  | satRejected {x : Exchange} {xs : List Exchange} {result : Except Fault Unit}
    {last : AtaRoute} :
    Carries command ep .satOverSsp x → x.RejectsOpcode →
    Chain command size ep .legacyOverSsp xs result last →
    Chain command size ep .satOverSsp (x :: xs) result last
  | legacyEnds {x : Exchange} {result : Except Fault Unit} :
    command.extended = false → Carries command ep .legacyOverSsp x →
    Chain command size ep .legacyOverSsp [x] result .legacyOverSsp
  /-- A 48-bit command does not fit the last step. -/
  | legacyRefuses :
    command.extended = true →
    Chain command size ep .legacyOverSsp []
      (.error (.scsi (.needsExtendedCdb command.taskFile.command))) .legacyOverSsp

/-! ## What a chain makes of the answers -/

namespace Chain

variable {command : Ata.Command} {size : Nat} {ep : Endpoint} {route last : AtaRoute}
variable {xs : List Exchange} {result : Except Fault Unit}

/-- The route only moves on. -/
theorem rank_le (h : Chain command size ep route xs result last) : route.rank ≤ last.rank := by
  induction h with
  | unsendable => exact Nat.le_refl _
  | stpEnds => exact Nat.le_refl _
  | stpRetries _ _ _ ih => exact Nat.le_trans (by decide) ih
  | satEnds => exact Nat.le_refl _
  | satRejected _ _ _ ih => exact Nat.le_trans (by decide) ih
  | legacyEnds => exact Nat.le_refl _
  | legacyRefuses => exact Nat.le_refl _

/-- Every call carries out a step, no earlier than the route and no later than where it comes to. -/
theorem carries (h : Chain command size ep route xs result last) :
    ∀ x ∈ xs, ∃ step, Carries command ep step x ∧ route.rank ≤ step.rank ∧
      step.rank ≤ last.rank := by
  induction h with
  | unsendable => exact fun _ hx => nomatch hx
  | stpEnds hc => exact List.forall_mem_singleton.2 ⟨_, hc, Nat.le_refl _, Nat.le_refl _⟩
  | satEnds hc => exact List.forall_mem_singleton.2 ⟨_, hc, Nat.le_refl _, Nat.le_refl _⟩
  | legacyEnds _ hc => exact List.forall_mem_singleton.2 ⟨_, hc, Nat.le_refl _, Nat.le_refl _⟩
  | legacyRefuses => exact fun _ hx => nomatch hx
  | stpRetries hc _ hl ih =>
    refine List.forall_mem_cons.2 ⟨⟨_, hc, Nat.le_refl _, Nat.zero_le _⟩, fun x hx => ?_⟩
    obtain ⟨step, hs, -, hle⟩ := ih x hx
    exact ⟨step, hs, Nat.zero_le _, hle⟩
  | satRejected hc _ hl ih =>
    refine List.forall_mem_cons.2
      ⟨⟨_, hc, Nat.le_refl _, Nat.le_trans (by decide) hl.rank_le⟩, fun x hx => ?_⟩
    obtain ⟨step, hs, hge, hle⟩ := ih x hx
    exact ⟨step, hs, Nat.le_trans (by decide) hge, hle⟩

/-- A command that can be sent makes the calls of the steps on its way. -/
theorem map_step? (h : Chain command size ep route xs result last) (hs : size < UInt32.size) :
    xs.map Exchange.step? = (stepsBetween command.extended route last).map some := by
  induction h with
  | unsendable hn => exact absurd hs (Nat.not_lt.2 hn)
  | stpEnds hc =>
    rw [stepsBetween_self (by decide), List.map_singleton, hc.isStep]
    rfl
  | satEnds hc =>
    rw [stepsBetween_self (by decide), List.map_singleton, hc.isStep]
    rfl
  | legacyEnds he hc =>
    rw [stepsBetween_legacy, he, List.map_singleton, hc.isStep]
    rfl
  | legacyRefuses he =>
    rw [stepsBetween_legacy, he]
    rfl
  | stpRetries hc _ _ ih => rw [stepsBetween_stp, List.map_cons, hc.isStep, ih]; rfl
  | satRejected hc _ hl ih => rw [stepsBetween_sat hl.rank_le, List.map_cons, hc.isStep, ih]; rfl

/-- A delivery leaves STP exactly when the driver asks for SCSI emulation. -/
theorem leaves_stp_iff (h : Chain command size ep route xs result last) :
    ∀ x ∈ xs, x.step? = some .stp → (last ≠ .stp ↔ x.returnCode? = some .scsiEmulation) := by
  induction h with
  | unsendable => exact fun _ hx => nomatch hx
  | stpEnds hc hn => exact List.forall_mem_singleton.2 fun _ => by simpa using hn
  | stpRetries hc he hl ih =>
    refine List.forall_mem_cons.2 ⟨fun _ => ⟨fun _ => he, fun _ h => ?_⟩, ih⟩
    exact absurd hl.rank_le (by rw [h]; decide)
  | satEnds hc =>
    exact List.forall_mem_singleton.2 fun hx => nomatch hc.isStep.symm.trans hx
  | satRejected hc _ _ ih =>
    exact List.forall_mem_cons.2 ⟨fun hx => (nomatch hc.isStep.symm.trans hx), ih⟩
  | legacyEnds _ hc =>
    exact List.forall_mem_singleton.2 fun hx => nomatch hc.isStep.symm.trans hx
  | legacyRefuses => exact fun _ hx => nomatch hx

/-- A delivery comes to the last step from the one before exactly when the device does not know the
operation code. -/
theorem reaches_legacy_iff (h : Chain command size ep route xs result last) :
    ∀ x ∈ xs, x.step? = some .satOverSsp → (last = .legacyOverSsp ↔ x.RejectsOpcode) := by
  induction h with
  | unsendable => exact fun _ hx => nomatch hx
  | stpEnds hc =>
    exact List.forall_mem_singleton.2 fun hx => nomatch hc.isStep.symm.trans hx
  | stpRetries hc _ _ ih =>
    exact List.forall_mem_cons.2 ⟨fun hx => (nomatch hc.isStep.symm.trans hx), ih⟩
  | satEnds hc hn => exact List.forall_mem_singleton.2 fun _ => by simpa using hn
  | @satRejected x ys result last hc hr hl ih =>
    refine List.forall_mem_cons.2 ⟨fun _ => ⟨fun _ => hr, fun _ => ?_⟩, ih⟩
    have := hl.rank_le
    cases last <;> first | rfl | exact absurd this (by decide)
  | legacyEnds _ hc =>
    exact List.forall_mem_singleton.2 fun hx => nomatch hc.isStep.symm.trans hx
  | legacyRefuses => exact fun _ hx => nomatch hx

/-- A 48-bit command that comes to the last step is refused there. -/
theorem refuses_extended (h : Chain command size ep route xs result last) (hs : size < UInt32.size)
    (he : command.extended = true) (hl : last = .legacyOverSsp) :
    result = .error (.scsi (.needsExtendedCdb command.taskFile.command)) := by
  induction h with
  | unsendable hn => exact absurd hs (Nat.not_lt.2 hn)
  | stpEnds => cases hl
  | stpRetries _ _ _ ih => exact ih hl
  | satEnds => cases hl
  | satRejected _ _ _ ih => exact ih hl
  | legacyEnds hn => rw [he] at hn; cases hn
  | legacyRefuses => rfl

end Chain

/-! ## Deliveries follow the chain -/

section
variable {r : AtaRequest} {c : Controller} {ep : Endpoint} {xs : List Exchange}

theorem step?_of_ssp {x : Exchange} (hc : x.code = .sspPassthrough) :
    (x.payload.byteAt 24 = 0x85 → x.step? = some .satOverSsp) ∧
      (x.payload.byteAt 24 = 0xA1 → x.step? = some .legacyOverSsp) := by
  constructor <;> intro hop <;> simp [Exchange.step?, hc, hop]

theorem SentByStp.carries {x : Exchange} (h : r.SentByStp c ep x) :
    Carries r.command ep .stp x := by
  obtain ⟨b, hp, hx⟩ := h
  obtain ⟨hto, hframe, -⟩ := stpPayload_spec hp
  rw [← hx.payload] at hto hframe
  exact ⟨by simp [Exchange.step?, hx.code], hto, fun _ => hframe⟩

theorem SentInSsp.carries {route : AtaRoute} {cdb : Scsi.Cdb} {x : Exchange}
    (hroute : route.cdb? r.command = some cdb) (h : r.SentInSsp c ep cdb x) :
    Carries r.command ep route x := by
  obtain ⟨b, hp, hx⟩ := h
  obtain ⟨hto, hop, -⟩ := ScsiRequest.payload_spec hp
  rw [← hx.payload] at hto hop
  cases route with
  | stp => cases hroute
  | satOverSsp =>
    cases hroute
    exact ⟨(step?_of_ssp hx.code).1 hop, hto, (nomatch ·)⟩
  | legacyOverSsp =>
    have hopcode := (AtaRoute.legacy_of_cdb? hroute).2.1
    exact ⟨(step?_of_ssp hx.code).2 (hop.trans hopcode), hto, (nomatch ·)⟩

/-- Every delivery is a chain, and the endpoint keeps the step it came to. -/
theorem Settled.chain {route : AtaRoute} {d : Delivery} (h : Settled c ep route r xs d) :
    ∃ last, d.2.1 = { ep with route := last } ∧
      Chain r.command r.data.size ep route xs d.1 last := by
  induction h with
  | tooLong hn => exact ⟨_, rfl, .unsendable hn⟩
  | legacyRefuses he => exact ⟨_, rfl, .legacyRefuses he⟩
  | stpEnds hx hstep hq =>
    refine ⟨_, rfl, .stpEnds hx.carries ?_⟩
    rcases hstep.retries_iff with ⟨-, hretry⟩ | ⟨hn, -⟩
    · exact absurd (congrArg Prod.fst hretry) hq
    · exact hn
  | stpRetries hx he _ ih =>
    obtain ⟨last, hep, hl⟩ := ih
    exact ⟨last, hep, .stpRetries hx.carries he hl⟩
  | @sspEnds route r cdb x hroute hx hrej =>
    have hc := hx.carries hroute
    cases route with
    | stp => cases hroute
    | satOverSsp => exact ⟨_, rfl, .satEnds hc (hrej rfl)⟩
    | legacyOverSsp => exact ⟨_, rfl, .legacyEnds (AtaRoute.legacy_of_cdb? hroute).1 hc⟩
  | satRejected hroute hx hrej _ ih =>
    obtain ⟨last, hep, hl⟩ := ih
    rw [settleSat_spec.1, settleSat_spec.2] at hl
    exact ⟨last, hep, .satRejected (hx.carries hroute) hrej hl⟩

theorem course_issue {d : Delivery} (h : (r.issue c ep).Course xs d) :
    ∃ last, d.2.1 = { ep with route := last } ∧
      Chain r.command r.data.size ep ep.route xs d.1 last :=
  (settled_issue h).chain

end

/-! ## The calls of a delivery -/

/-- What a delivery that ends with `d` has done with the answers `xs` when it came to `last`. -/
structure FollowsChain (r : AtaRequest) (ep : Endpoint) (xs : List Exchange) (d : Delivery)
    (last : AtaRoute) : Prop where
  /-- The endpoint keeps the step that the delivery came to, and nothing else changes. -/
  endpoint : d.2.1 = { ep with route := last }
  onward : ep.route.rank ≤ last.rank
  /-- The calls are the steps from the endpoint's route to the last one, in order, each once. -/
  calls : xs.map Exchange.step? = (stepsBetween r.command.extended ep.route last).map some
  /-- They are a part of the chain that begins at the endpoint's route. -/
  part : stepsBetween r.command.extended ep.route last <+: AtaRoute.chain.drop ep.route.rank
  leavesStp : ∀ x ∈ xs, x.step? = some .stp → (last ≠ .stp ↔ x.returnCode? = some .scsiEmulation)
  reachesLegacy : ∀ x ∈ xs, x.step? = some .satOverSsp → (last = .legacyOverSsp ↔ x.RejectsOpcode)
  callsLegacy : last = .legacyOverSsp →
    (some .legacyOverSsp ∈ xs.map Exchange.step? ↔ r.command.extended = false)
  refusesExtended : last = .legacyOverSsp → r.command.extended = true →
    d.1 = .error (.scsi (.needsExtendedCdb r.command.taskFile.command))

theorem legacy_mem_stepsBetween_iff {extended : Bool} {first : AtaRoute} :
    some .legacyOverSsp ∈ (stepsBetween extended first .legacyOverSsp).map some ↔
      extended = false := by
  cases extended <;> cases first <;> decide

/-- **A delivery follows the chain**: whatever the driver answers, an ATA command whose data fit a
call makes the calls of a part of the chain that begins at the endpoint's route. It goes on from STP
exactly when the driver asks for SCSI emulation, and from ATA PASS-THROUGH (16) exactly when the
device does not know the operation code; a 48-bit command is refused at the last step. The endpoint
is left at the step that the delivery came to, also when the delivery failed. -/
theorem calls_follow_chain {σ : Type} (w : Dialogue.Surroundings σ) (s : σ) (c : Controller)
    (ep : Endpoint) (r : AtaRequest) (hsize : r.data.size < UInt32.size) :
    ∃ last,
      FollowsChain r ep ((r.issue c ep).exchanges w s) ((r.issue c ep).run w s).value last := by
  obtain ⟨last, hep, h⟩ := course_issue (Dialogue.course_run w (r.issue c ep) s)
  have hcalls := h.map_step? hsize
  refine ⟨last, hep, h.rank_le, hcalls, stepsBetween_prefix, h.leaves_stp_iff,
    h.reaches_legacy_iff, ?_, fun hl he => h.refuses_extended hsize he hl⟩
  rintro rfl
  rw [hcalls]
  exact legacy_mem_stepsBetween_iff

/-- A driver that answers every call with SCSI EMULATION. -/
def emulatingDriver : Dialogue.Surroundings Unit where
  attach s _ _ := (.ok ⟨0⟩, s)
  call s _ _ buffer := (.ok (HeaderLayout.compact.setReturnCode buffer .scsiEmulation), s)

/-- CHECK POWER MODE, to be delivered. -/
def powerCheck : AtaRequest := { command := .checkPowerMode, data := .none }

/-- Behind such a driver, a command goes by STP and then inside SSP, where it ends. -/
theorem powerCheck_follows_chain :
    powerCheck.data.size < UInt32.size ∧
      FollowsChain powerCheck (.at 1 0 .zero)
        ((powerCheck.issue ⟨⟨0⟩, 0, .off⟩ (.at 1 0 .zero)).exchanges emulatingDriver ())
        ((powerCheck.issue ⟨⟨0⟩, 0, .off⟩ (.at 1 0 .zero)).run emulatingDriver ()).value
        .satOverSsp := by
  refine ⟨by decide, ?_⟩
  obtain ⟨last, h⟩ := calls_follow_chain emulatingDriver () ⟨⟨0⟩, 0, .off⟩ (.at 1 0 .zero)
    powerCheck (by decide)
  have hl : last = .satOverSsp := by
    have hr := congrArg Endpoint.route h.endpoint
    exact hr.symm.trans (by decide +kernel)
  exact hl ▸ h

end AtaRequest

end DriveReach
