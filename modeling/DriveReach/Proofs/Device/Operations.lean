import DriveReach.Proofs.Device.Commands
import DriveReach.Proofs.Discovery.Opening
/-!
# Operations on an open device

An open device is used by any number of operations in any order, each of which may fail.
`Device.Coherent` is what holds of the device between any two, and `Device.Passage` is what the
calls of any number of operations may do; it composes.

* `Coherent.of_opened`: a device is coherent when it is opened.
* `course_perform`: one operation keeps it coherent, and is a passage.
* `course_performAll`: so does a whole run of operations, by induction on the run.
* `device_runs`: what holds throughout the life of an open device.

The SAT layer belongs to the operation here and not to the device, so that one that answers
differently every time is covered.
-/

set_option autoImplicit false

namespace DriveReach

open Csmi

/-- What can be done with an open device. -/
inductive Operation where
  /-- Issue a command, which the given layer serves if the device needs one. -/
  | issue (layer : SatLayer) (request : Request)
  | refreshSignature
  | linkErrors (reset : Bool)
  | downloadFirmware (image : Bytes) (flags : FirmwareFlags)

namespace Device

/-- Carry out an operation, to whatever result. -/
def perform (d : Device) : Operation → Dialogue Device
  | .issue layer request => do
    let (_, d, _) ← { d with satLayer := layer }.issue request
    return d
  | .refreshSignature => do
    let (_, d) ← d.refreshSignature
    return d
  | .linkErrors reset => do
    let _ ← (d.linkErrors reset).run
    return d
  | .downloadFirmware image flags => do
    let _ ← (d.downloadFirmware image flags).run
    return d

/-- Carry out operations one after the other. -/
def performAll : Device → List Operation → Dialogue Device
  | d, [] => return d
  | d, op :: ops => do
    let d ← d.perform op
    d.performAll ops

/-- What holds of an open device between operations. -/
structure Coherent (d : Device) : Prop where
  /-- The endpoint is that of the context, but for its route. -/
  endpoint : d.endpoint = { d.context.endpoint with route := d.endpoint.route }
  /-- The port multiplier port is that of the signature, 0 without one. -/
  pmPort : d.context.pmPort = (d.context.signature.map (·.pmPort)).getD 0
  /-- A device bound to SSP does not take the route by STP. -/
  offStp : d.context.binding = .ssp → d.endpoint.route ≠ .stp

/-- The exchanges `xs` led from one state of a device to another. -/
structure Passage (d d' : Device) (xs : List Exchange) : Prop where
  context : d'.context =
    { d.context with signature := d'.context.signature, pmPort := d'.context.pmPort }
  onward : d.route.Onward d'.route xs
  addressed : ∀ x ∈ xs, x.IsPassthrough →
    AddressedTo d.context.phy d.context.port d.context.sasAddress x.payload
  /-- A device bound to SSP, or an NVMe device, is sent no STP command. -/
  noStp : d.context.binding = .ssp ∨ d.context.binding = .vendorNvme →
    ∀ x ∈ xs, x.code ≠ .stpPassthrough

variable {d d' d'' : Device} {xs ys : List Exchange}

theorem Coherent.of_opened {target : Discovery.Target} {options : OpenOptions}
    {collaborators : Collaborators} {resolution : Discovery.Resolution}
    {found : Discovery.Located}
    (h : Discovery.Discovered xs target options collaborators d.context resolution found)
    (he : d.endpoint = d.context.endpoint) : d.Coherent where
  endpoint := by rw [he]
  pmPort := h.pmPort
  offStp := by
    intro hb
    rw [he, Context.endpoint, if_pos hb]
    exact (nomatch ·)

/-- The port of a coherent device fits the low half of a byte. -/
theorem Coherent.pmPortOf_pmPort (h : d.Coherent) :
    Ata.pmPortOf d.context.pmPort = d.context.pmPort := by
  rw [h.pmPort]
  cases d.context.signature with
  | none => rfl
  | some signature => exact Ata.HostFrame.pmPortOf_pmPortOf _

theorem Coherent.pmPort_endpoint (h : d.Coherent) : d.endpoint.pmPort = d.context.pmPort :=
  congrArg Endpoint.pmPort h.endpoint

namespace Passage

theorem refl (d : Device) : d.Passage d [] where
  context := rfl
  onward := .refl _
  addressed := fun _ hx => nomatch hx
  noStp := fun _ _ hx => nomatch hx

theorem trans (h : d.Passage d' xs) (h' : d'.Passage d'' ys) : d.Passage d'' (xs ++ ys) where
  context := by rw [h'.context, h.context]
  onward := h.onward.trans h'.onward
  addressed := by
    have hto := h'.addressed
    rw [h.context] at hto
    exact List.forall_mem_append.2 ⟨h.addressed, hto⟩
  noStp := by
    have hno := h'.noStp
    rw [h.context] at hno
    exact fun hb => List.forall_mem_append.2 ⟨h.noStp hb, hno hb⟩

/-- Calls that carry no commands. -/
theorem of_quiet (hc : d'.context =
      { d.context with signature := d'.context.signature, pmPort := d'.context.pmPort })
    (hr : d'.route = d.route) (hq : ∀ x ∈ xs, ¬ x.IsPassthrough) : d.Passage d' xs where
  context := hc
  onward := by
    rw [hr]
    exact .of_noStp fun x hx he => hq x hx (.inr he)
  addressed := fun x hx hp => absurd hp (hq x hx)
  noStp := fun _ x hx he => hq x hx (.inr he)

/-- Commands to the endpoint, which leave the context alone. -/
theorem of_along (hd : d.Coherent) (hc : d'.context = d.context)
    (h : d.endpoint.Along d'.endpoint xs)
    (hn : d.context.binding = .vendorNvme → ∀ x ∈ xs, x.code ≠ .stpPassthrough) :
    d.Passage d' xs where
  context := by rw [hc]
  onward := h.onward
  addressed := by
    have hto := h.addressed
    rw [hd.endpoint] at hto
    exact fun x hx _ => hto x hx
  noStp := by
    rintro (hb | hb)
    · exact h.onward.behindStp (hd.offStp hb)
    · exact hn hb

end Passage

/-! ## Commands -/

theorem Coherent.along (hd : d.Coherent) (hc : d'.context = d.context)
    (h : d.endpoint.Along d'.endpoint xs) : d'.Coherent where
  endpoint := by
    have he := h.sameButRoute
    rw [hd.endpoint] at he
    rw [hc]
    exact he
  pmPort := by rw [hc, hd.pmPort]
  offStp := by
    rw [hc]
    exact fun hb => AtaRoute.ne_stp_of_rank_le h.onward.rank_le (hd.offStp hb)

/-- A command leaves the context alone and changes the endpoint's route at most. -/
theorem course_issueScsi {r : ScsiRequest} {q : Issued} (h : (d.issueScsi r).Course xs q) :
    q.2.1.context = d.context ∧ d.endpoint.Along q.2.1.endpoint xs ∧
      (d.context.binding = .vendorNvme → ∀ x ∈ xs, x.code ≠ .stpPassthrough) := by
  unfold issueScsi at h
  cases hb : d.context.binding with
  | stp =>
    rw [hb] at h
    obtain ⟨rfl, rfl⟩ := h
    exact ⟨rfl, .refl _, (nomatch ·)⟩
  | softwareSat =>
    rw [hb] at h
    obtain ⟨ys, zs, u, rfl, hs, rfl, rfl⟩ := Dialogue.course_bind.1 h
    rw [List.append_nil]
    exact ⟨rfl, course_runSat hs, (nomatch ·)⟩
  | ssp =>
    rw [hb] at h
    obtain ⟨ys, zs, u, rfl, hs, rfl, rfl⟩ := Dialogue.course_bind.1 h
    rw [List.append_nil]
    exact ⟨rfl, (Endpoint.Along.of_send hs).1, (nomatch ·)⟩
  | vendorNvme =>
    rw [hb] at h
    obtain ⟨ys, zs, u, rfl, hs, rfl, rfl⟩ := Dialogue.course_bind.1 h
    rw [List.append_nil]
    exact ⟨rfl, (Endpoint.Along.of_send hs).1, fun _ => (Endpoint.Along.of_send hs).2⟩

theorem course_issueAta {r : AtaRequest} {q : Issued} (h : (d.issueAta r).Course xs q) :
    q.2.1.context = d.context ∧ d.endpoint.Along q.2.1.endpoint xs ∧
      (d.context.binding = .vendorNvme → ∀ x ∈ xs, x.code ≠ .stpPassthrough) := by
  unfold issueAta at h
  cases hb : d.context.binding with
  | vendorNvme =>
    rw [hb] at h
    obtain ⟨rfl, rfl⟩ := h
    exact ⟨rfl, .refl _, fun _ _ hx => nomatch hx⟩
  -- every other binding delivers the command along the chain
  | _ =>
    rw [hb] at h
    obtain ⟨ys, zs, u, rfl, hs, rfl, rfl⟩ := Dialogue.course_bind.1 h
    obtain ⟨last, hep, hl⟩ := AtaRequest.course_issue hs
    rw [List.append_nil]
    exact ⟨rfl, hep ▸ Endpoint.Along.of_chain hl, (nomatch ·)⟩

theorem course_issue {request : Request} {q : Issued} (h : (d.issue request).Course xs q) :
    q.2.1.context = d.context ∧ d.endpoint.Along q.2.1.endpoint xs ∧
      (d.context.binding = .vendorNvme → ∀ x ∈ xs, x.code ≠ .stpPassthrough) := by
  unfold issue at h
  split at h
  · obtain ⟨rfl, rfl⟩ := h
    exact ⟨rfl, .refl _, fun _ _ hx => nomatch hx⟩
  · cases request with
    | scsi r => exact course_issueScsi h
    | ata r => exact course_issueAta h

/-! ## Queries -/

/-- A call that carries no command. -/
abbrev Quiet (x : Exchange) : Prop := ¬ x.IsPassthrough

theorem quiet_ask {α : Type} {c : Controller} {code : ControlCode} {payload : Bytes}
    {decode : Bytes → Except Fault α} (hs : code ≠ .sspPassthrough) (ht : code ≠ .stpPassthrough) :
    (c.ask code payload decode).run.Only Quiet := by
  refine Controller.only_ask fun x hx => ?_
  rintro (he | he)
  · exact hs (hx.code.symm.trans he)
  · exact ht (hx.code.symm.trans he)

theorem quiet_readSignature : d.readSignature.run.Only Quiet :=
  Attempt.only_bind Attempt.only_ofExcept fun _ =>
    Attempt.only_unless fun _ => quiet_ask (by decide) (by decide)

theorem quiet_linkErrors {reset : Bool} : (d.linkErrors reset).run.Only Quiet :=
  Attempt.only_bind Attempt.only_ofExcept fun _ =>
    Attempt.only_unless fun _ => quiet_ask (by decide) (by decide)

theorem quiet_downloadFirmware {image : Bytes} {flags : FirmwareFlags} :
    (d.downloadFirmware image flags).run.Only Quiet :=
  Attempt.only_bind Attempt.only_ofExcept fun _ =>
    Attempt.only_unless fun _ => Attempt.only_bind Attempt.only_ofExcept fun _ =>
      Attempt.only_bind Attempt.only_note fun _ => quiet_ask (by decide) (by decide)

theorem Coherent.withSignature (hd : d.Coherent) (signature : SataSignature) :
    (d.withSignature signature).Coherent where
  endpoint := by
    rw [Device.withSignature, hd.endpoint]
    rfl
  pmPort := rfl
  offStp := hd.offStp

/-! ## Runs -/

/-- **One operation** keeps a device coherent and is a passage; every STP command carries the port
multiplier port that the context had before. -/
theorem course_perform {op : Operation} (hd : d.Coherent) (h : (d.perform op).Course xs d') :
    d'.Coherent ∧ d.Passage d' xs ∧
      ∀ x ∈ xs, x.code = .stpPassthrough → x.hostFrame.pmPort = d.context.pmPort := by
  cases op with
  | issue layer request =>
    obtain ⟨ys, zs, q, rfl, hi, rfl, rfl⟩ := Dialogue.course_bind.1 h
    rw [List.append_nil]
    obtain ⟨hc, ha, hn⟩ := course_issue hi
    have hl : ({ d with satLayer := layer } : Device).Coherent :=
      ⟨hd.endpoint, hd.pmPort, hd.offStp⟩
    refine ⟨hl.along hc ha, Passage.of_along hd hc ha hn, fun x hx hs => ?_⟩
    rw [ha.framed x hx hs, hd.pmPort_endpoint, hd.pmPortOf_pmPort]
  | refreshSignature =>
    obtain ⟨ys, zs, q, rfl, hi, rfl, rfl⟩ := Dialogue.course_bind.1 h
    obtain ⟨us, vs, r, rfl, hr, hf⟩ := Dialogue.course_bind.1 hi
    have hq := quiet_readSignature _ _ hr
    have hs : ∀ x ∈ us, x.code = .stpPassthrough → x.hostFrame.pmPort = d.context.pmPort :=
      fun x hx hs => absurd (.inr hs) (hq x hx)
    cases r with
    | error fault =>
      obtain ⟨rfl, rfl⟩ := hf
      rw [List.append_nil, List.append_nil]
      exact ⟨hd, .of_quiet rfl rfl hq, hs⟩
    | ok signature =>
      obtain ⟨rfl, rfl⟩ := hf
      rw [List.append_nil, List.append_nil]
      exact ⟨hd.withSignature signature, .of_quiet rfl rfl hq, hs⟩
  | linkErrors reset =>
    obtain ⟨ys, zs, q, rfl, hi, rfl, rfl⟩ := Dialogue.course_bind.1 h
    rw [List.append_nil]
    have hq := quiet_linkErrors _ _ hi
    exact ⟨hd, .of_quiet rfl rfl hq, fun x hx hs => absurd (.inr hs) (hq x hx)⟩
  | downloadFirmware image flags =>
    obtain ⟨ys, zs, q, rfl, hi, rfl, rfl⟩ := Dialogue.course_bind.1 h
    rw [List.append_nil]
    have hq := quiet_downloadFirmware _ _ hi
    exact ⟨hd, .of_quiet rfl rfl hq, fun x hx hs => absurd (.inr hs) (hq x hx)⟩

/-- **Any number of operations** keep a device coherent and are a passage. -/
theorem course_performAll {ops : List Operation} (hd : d.Coherent)
    (h : (d.performAll ops).Course xs d') : d'.Coherent ∧ d.Passage d' xs := by
  induction ops generalizing d xs with
  | nil =>
    obtain ⟨rfl, rfl⟩ := h
    exact ⟨hd, .refl _⟩
  | cons op ops ih =>
    obtain ⟨ys, zs, next, rfl, ho, hr⟩ := Dialogue.course_bind.1 h
    obtain ⟨hn, hp, -⟩ := course_perform hd ho
    obtain ⟨hd', hq⟩ := ih hn hr
    exact ⟨hd', hp.trans hq⟩

/-! ## The life of a device -/

/-- The device refuses a request before it makes a call or writes a line, and nothing changes. -/
def Refuses (d : Device) (request : Request) : Prop :=
  ∃ fault, d.issue request = .done (.error fault, d, request)

theorem refuses_scsi (h : d.context.binding = .stp) (r : ScsiRequest) : d.Refuses (.scsi r) := by
  unfold Refuses issue
  split
  · exact ⟨_, rfl⟩
  · refine ⟨.unsupported .scsiOnStp, ?_⟩
    simp only [issueScsi, h]
    rfl

theorem refuses_ata (h : d.context.binding = .vendorNvme) (r : AtaRequest) :
    d.Refuses (.ata r) := by
  unfold Refuses issue
  split
  · exact ⟨_, rfl⟩
  · refine ⟨.unsupported .ataOnNvme, ?_⟩
    simp only [issueAta, h]
    rfl

theorem refreshSignature_failed {σ : Type} {w : Dialogue.Surroundings σ} {s : σ} {fault : Fault}
    (h : (d.refreshSignature.run w s).value = (.error fault, d')) : d' = d := by
  have hc := Dialogue.course_run w d.refreshSignature s
  rw [h] at hc
  obtain ⟨ys, zs, r, -, -, hf⟩ := Dialogue.course_bind.1 hc
  cases r with
  | error fault =>
    obtain ⟨-, hf⟩ := hf
    exact congrArg Prod.snd hf
  | ok signature =>
    obtain ⟨-, hf⟩ := hf
    cases congrArg Prod.fst hf

/-- What holds of an open device `d`, when `xs` are the exchanges of all operations since it was
opened as `d₀`, and the driver goes on as `w` from `s`. -/
structure Lives {σ : Type} (w : Dialogue.Surroundings σ) (s : σ) (d₀ d : Device)
    (xs : List Exchange) : Prop where
  /-- What never changes, and where commands went. -/
  passage : d₀.Passage d xs
  emulatedOnce : xs.Pairwise fun x y => ¬ (x.Emulated ∧ y.Emulated)
  /-- The endpoint and the port multiplier port follow the context. -/
  coherent : d.Coherent
  /-- The route does not go back in the next operation. -/
  onward : ∀ op, d.route.rank ≤ ((d.perform op).run w s).value.route.rank
  /-- An STP command of the next operation carries the port multiplier port of the context. -/
  framed : ∀ op, ∀ x ∈ (d.perform op).exchanges w s, x.code = .stpPassthrough →
    x.hostFrame.pmPort = d.context.pmPort
  refusesScsi : d.context.binding = .stp →
    ∀ layer r, { d with satLayer := layer : Device }.Refuses (.scsi r)
  refusesAta : d.context.binding = .vendorNvme →
    ∀ layer r, { d with satLayer := layer : Device }.Refuses (.ata r)
  /-- A failed query for the signature changes nothing. -/
  failedRefresh : ∀ fault d', (d.refreshSignature.run w s).value = (.error fault, d') → d' = d

/-- **Throughout the life of an open device**, whatever is done with it and whatever the driver
answers, its route only moves on and STP is not tried again once the driver asked for SCSI
emulation; commands keep going to the phy, port and address at which the device was opened; and the
port multiplier port in its commands is the one of its last signature. -/
theorem device_runs {σ : Type} (w : Dialogue.Surroundings σ) (handle : String)
    (options : OpenOptions) (collaborators : Collaborators) (t : σ) (d₀ : Device)
    (hopen : ((openHandle handle options collaborators).run.run w t).value = .ok d₀) (s : σ)
    (ops : List Operation) :
    Lives w ((d₀.performAll ops).run w s).state d₀ ((d₀.performAll ops).run w s).value
      ((d₀.performAll ops).exchanges w s) := by
  have ho := Dialogue.course_run w (openHandle handle options collaborators).run t
  rw [hopen] at ho
  obtain ⟨address, resolution, found, -, hf, he⟩ := course_openHandle ho
  obtain ⟨hd, hp⟩ := course_performAll (.of_opened hf he)
    (Dialogue.course_run w (d₀.performAll ops) s)
  have next (op : Operation) := course_perform hd
    (Dialogue.course_run w (((d₀.performAll ops).run w s).value.perform op)
      ((d₀.performAll ops).run w s).state)
  exact {
    passage := hp
    emulatedOnce := hp.onward.emulated_once
    coherent := hd
    onward := fun op => (next op).2.1.onward.rank_le
    framed := fun op => (next op).2.2
    refusesScsi := fun hb _ => refuses_scsi hb
    refusesAta := fun hb _ => refuses_ata hb
    failedRefresh := fun _ _ => refreshSignature_failed }

/-- A controller with one SATA disk at phy 0. -/
def oneDisk : ControlCode → List Script.Patch
  | .controllerStatus => [(0, [1])]
  | .phyInfo => [(0, [1]), (40, [0x10, 0, 0, 0x01])]
  | _ => []

/-- The disk can be opened, and then this holds whatever is done with it. -/
theorem device_runs_oneDisk :
    ∃ d₀, ((openHandle "csmi:0:0:0:0" {} {}).run.run (Script.steadyDriver oneDisk) ()).value =
        .ok d₀ ∧
      ∀ ops, Lives (Script.steadyDriver oneDisk) () d₀
        ((d₀.performAll ops).run (Script.steadyDriver oneDisk) ()).value
        ((d₀.performAll ops).exchanges (Script.steadyDriver oneDisk) ()) := by
  have hopen : ((openHandle "csmi:0:0:0:0" {} {}).run.run (Script.steadyDriver oneDisk)
      ()).value.toOption.map (·.context.binding) = some .stp := by decide +kernel
  obtain ⟨d₀, hd, -⟩ := Except.exists_of_toOption_map hopen
  exact ⟨d₀, hd, fun ops => device_runs _ _ _ _ () d₀ hd () ops⟩

end Device

end DriveReach
