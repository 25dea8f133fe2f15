import DriveReach.Proofs.Device.Commands
import DriveReach.Proofs.Discovery.Confidence
/-!
# What ties an open device to an identity

A caller who names an identity expects the device that answers to it.

* `opened_identity`: the device answered to the identity itself, or a RAID set has it at the address
  of the device, or the handle is one of the operating system and the driver translated it into that
  address.
* `opened_without_identity`: the last way can not be left out. An address that the driver gives for
  a handle is trusted, and then nothing is asked about the identity.
-/

set_option autoImplicit false

namespace DriveReach

open Csmi Discovery

/-- The endpoint of a unit at a place. -/
def Discovery.Placement.endpoint (p : Placement) (lun : Lun) : Endpoint :=
  { Endpoint.at p.phy p.port p.sasAddress with lun := lun }

/-- The device in a context was asked for its identity, and answered as expected. -/
def Context.Probed (c : Context) (s : Search) (xs : List Exchange) (identity : Identity) : Prop :=
  ∃ ata, Search.Confirms xs identity (s.identify (c.placement.endpoint c.sasLun) ata)

/-! ## Ties -/

section
variable {xs : List Exchange} {options : OpenOptions} {address : LogicalAddress} {c : Context}
variable {identity : Identity}

theorem Target.form_ofAddress_eq_os {path target : UInt8} {wanted : Option Identity}
    (h : (Target.ofAddress address wanted).form = .os path target) :
    address.alternate = true ∧ address.port = path ∧ address.phy = target := by
  unfold Target.ofAddress at h
  dsimp only at h
  split at h
  · rename_i ha
    cases h
    exact ⟨ha, rfl, rfl⟩
  · cases h

/-- A device at an address that was reported is tied to the identity by a RAID set or by the
handle. -/
theorem tied_of_reports {s : Search} {a : SasAddress}
    (hs : s.target = .ofAddress address (some identity)) (h : s.Reports xs a) :
    s.Lists xs identity a ∨
      address.alternate = true ∧ s.Translates xs address.port address.phy a := by
  rcases h with ⟨path, target, hf, ht⟩ | ⟨wanted, hw, hl⟩
  · rw [hs] at hf
    obtain ⟨ha, rfl, rfl⟩ := Target.form_ofAddress_eq_os hf
    exact .inr ⟨ha, ht⟩
  · rw [hs] at hw
    cases hw
    exact .inl hl

theorem Context.Backed.tied
    (h : c.Backed (c.search (.ofAddress address (some identity)) options) xs)
    (hlun : c.sasLun = (Target.ofAddress address (some identity)).sasLun)
    (hpass : c.access.allowsPassthrough = true) :
    c.Probed (c.search (.ofAddress address (some identity)) options) xs identity ∨
      (c.search (.ofAddress address (some identity)) options).Lists xs identity c.sasAddress ∨
      address.alternate = true ∧
        (c.search (.ofAddress address (some identity)) options).Translates xs address.port
          address.phy c.sasAddress := by
  by_cases hb : c.binding = .vendorNvme
  · cases hc : c.confidence with
    | driverAddress =>
      obtain ⟨path, target, hf, ht, hp⟩ := h.driverAddressNvme hc hb
      obtain ⟨ha, rfl, rfl⟩ := Target.form_ofAddress_eq_os hf
      have hsas : c.sasAddress = .packedNvme address.port address.phy address.lun :=
        congrArg Placement.sasAddress hp
      rw [hsas]
      exact .inr (.inr ⟨ha, ht⟩)
    | liveIdentity =>
      obtain ⟨wanted, path, target, hw, -, hans, hp⟩ := h.liveIdentityNvme hc hb
      cases hw
      rw [Context.Probed, hp, hlun]
      exact .inl ⟨false, hans⟩
    | phyOnly =>
      obtain ⟨_, _, -, -, hn | hn, -⟩ := h.phyOnlyNvme hc hb
      · cases hn
      · rw [hpass] at hn
        cases hn
  · cases hc : c.confidence with
    | driverAddress =>
      obtain ⟨a, table, p, hr, -, -, hm, -, hp⟩ := h.driverAddress hc hb
      have hsas : c.sasAddress = p.attached.sasAddress := congrArg Placement.sasAddress hp
      have hat := (List.mem_filter.1 hm).2
      rw [Bool.and_eq_true, beq_iff_eq, ← hsas] at hat
      exact .inr (hat.2 ▸ tied_of_reports rfl hr)
    | liveIdentity =>
      obtain ⟨wanted, table, phys, p, hw, -, -, hs, hp⟩ := h.liveIdentity hc hb
      cases hw
      rw [Context.Probed, hp, hlun]
      exact .inl ⟨p.attached.target.reachesAta, hs.confirmed⟩
    | phyOnly =>
      obtain ⟨_, _, _, hn, -⟩ := h.phyOnly hc hb
      cases hn

end

/-- **An open device is tied to the identity asked for**, when the access level lets it be asked: it
answered to the identity, or a countable RAID drive with the identity is at its address, or the
handle is one of the operating system and the driver translated it into its address. -/
theorem opened_identity {σ : Type} (w : Dialogue.Surroundings σ) (handle : String)
    (options : OpenOptions) (collaborators : Collaborators) (s : σ) (d : Device)
    (identity : Identity) (hid : options.identity = some identity)
    (hopen : ((Device.openHandle handle options collaborators).run.run w s).value = .ok d)
    (hpass : d.context.access.allowsPassthrough = true) :
    ∃ address, LogicalAddress.parse handle = .ok address ∧
      let search := d.context.search (.ofAddress address (some identity)) options
      let xs := (Device.openHandle handle options collaborators).run.exchanges w s
      d.context.Probed search xs identity ∨ search.Lists xs identity d.context.sasAddress ∨
        address.alternate = true ∧
          search.Translates xs address.port address.phy d.context.sasAddress := by
  have h := Dialogue.course_run w (Device.openHandle handle options collaborators).run s
  rw [hopen] at h
  obtain ⟨address, resolution, found, hp, hd, -⟩ := Device.course_openHandle h
  rw [hid] at hd
  exact ⟨address, hp, (hd.backed rfl).tied hd.sasLun hpass⟩

/-- Options that ask for the serial number `S1`. -/
def OpenOptions.serialS1 : OpenOptions := { identity := some ⟨"", "S1"⟩ }

/-- Asking for a serial number opens the disk that the driver has at the path and target. -/
theorem opened_identity_translatedDisk :
    ∃ d, ((Device.openHandle "csmi:0:N:0:6:0" .serialS1 {}).run.run
        (Script.steadyDriver Script.translatedDisk) ()).value = .ok d ∧
      d.context.access.allowsPassthrough = true ∧
      ∃ address, LogicalAddress.parse "csmi:0:N:0:6:0" = .ok address ∧
        let search := d.context.search (.ofAddress address (some ⟨"", "S1"⟩)) .serialS1
        let xs := (Device.openHandle "csmi:0:N:0:6:0" .serialS1 {}).run.exchanges
          (Script.steadyDriver Script.translatedDisk) ()
        d.context.Probed search xs ⟨"", "S1"⟩ ∨
          search.Lists xs ⟨"", "S1"⟩ d.context.sasAddress ∨
          address.alternate = true ∧
            search.Translates xs address.port address.phy d.context.sasAddress := by
  have hopen : ((Device.openHandle "csmi:0:N:0:6:0" .serialS1 {}).run.run
      (Script.steadyDriver Script.translatedDisk) ()).value.toOption.map (·.context.access) =
        some .full := by decide +kernel
  obtain ⟨d, hd, ha⟩ := Except.exists_of_toOption_map hopen
  have hpass : d.context.access.allowsPassthrough = true := by
    rw [ha]
    rfl
  exact ⟨d, hd, hpass, opened_identity _ _ _ {} () d _ rfl hd hpass⟩

/-! ## Openings without a tie -/

/-- A command that can be sent and fits every step is sent. -/
theorem AtaRequest.Chain.exists_passthrough {command : Ata.Command} {size : Nat} {ep : Endpoint}
    {route last : AtaRoute} {xs : List Exchange} {result : Except Fault Unit}
    (h : Chain command size ep route xs result last) (hs : size < UInt32.size)
    (he : command.extended = false) : ∃ x ∈ xs, x.IsPassthrough := by
  cases h with
  | unsendable hn => exact absurd hs (Nat.not_lt.2 hn)
  | stpEnds hc => exact ⟨_, List.mem_cons_self, hc.isPassthrough⟩
  | stpRetries hc => exact ⟨_, List.mem_cons_self, hc.isPassthrough⟩
  | satEnds hc => exact ⟨_, List.mem_cons_self, hc.isPassthrough⟩
  | satRejected hc => exact ⟨_, List.mem_cons_self, hc.isPassthrough⟩
  | legacyEnds _ hc => exact ⟨_, List.mem_cons_self, hc.isPassthrough⟩
  | legacyRefuses hx =>
    rw [he] at hx
    cases hx

namespace Discovery.Search

variable {s : Search} {ep : Endpoint} {xs : List Exchange}

theorem scsiIn_passthrough {cdb : Scsi.Cdb} {length : Nat} {data : Bytes}
    (h : (s.scsiIn ep cdb length).run.Course xs (.ok data)) : ∃ x ∈ xs, x.IsPassthrough := by
  rw [scsiIn, Attempt.course_run_bind_ok] at h
  obtain ⟨ys, zs, q, rfl, hs, h⟩ := h
  rcases ScsiRequest.course_send (Attempt.course_run_lift_ok.1 hs) with
    ⟨fault, -, -, rfl⟩ | ⟨x, b, rfl, -, hx, -⟩
  · cases (Attempt.course_run_ofExcept_bind.1 h).2
  · exact ⟨x, List.mem_cons_self, .inl hx.code⟩

theorem identifyAta_passthrough {reported : Reported}
    (h : (s.identifyAta ep).run.Course xs (.ok reported)) : ∃ x ∈ xs, x.IsPassthrough := by
  rw [identifyAta, Attempt.course_run_bind_ok] at h
  obtain ⟨ys, zs, q, rfl, hi, -⟩ := h
  obtain ⟨last, -, hl⟩ := AtaRequest.course_issue (Attempt.course_run_lift_ok.1 hi)
  have hsize : (DataBuffer.inbound (Bytes.zeros Ata.IdentifyBlock.length)).size < UInt32.size := by
    rw [DataBuffer.size, DataBuffer.bytes, Bytes.length_zeros]
    decide
  obtain ⟨x, hx, hp⟩ := hl.exists_passthrough hsize rfl
  exact ⟨x, List.mem_append_left zs hx, hp⟩

-- The requests of a probe are closed terms; they are not to be unfolded here.
attribute [local irreducible] scsiIn in
theorem identifyScsi_passthrough {reported : Reported}
    (h : (s.identifyScsi ep).run.Course xs (.ok reported)) : ∃ x ∈ xs, x.IsPassthrough := by
  rw [identifyScsi, Attempt.course_run_bind_ok] at h
  obtain ⟨ys, zs, data, rfl, hd, -⟩ := h
  obtain ⟨x, hx, hp⟩ := scsiIn_passthrough hd
  exact ⟨x, List.mem_append_left zs hx, hp⟩

attribute [local irreducible] identifyAta identifyScsi in
theorem identify_passthrough {ata : Bool} {reported : Reported}
    (h : (s.identify ep ata).run.Course xs (.ok reported)) : ∃ x ∈ xs, x.IsPassthrough := by
  unfold identify at h
  split at h
  · exact identifyAta_passthrough h
  · exact identifyScsi_passthrough h

/-- Only commands to a device confirm an identity. -/
theorem Confirms.exists_passthrough {identity : Identity} {ata : Bool}
    (h : Confirms xs identity (s.identify ep ata)) : ∃ x ∈ xs, x.IsPassthrough := by
  obtain ⟨reported, ⟨ys, hi, hc⟩, -⟩ := h
  obtain ⟨x, hx, hp⟩ := identify_passthrough hc
  exact ⟨x, hi.subset hx, hp⟩

/-- Only a query for a RAID set lists a drive. -/
theorem Lists.exists_raidConfig {identity : Identity} {a : SasAddress}
    (h : s.Lists xs identity a) : ∃ x ∈ xs, x.code = .raidConfig := by
  obtain ⟨index, room, config, ⟨ys, hi, hc⟩, -⟩ := h
  rw [Controller.raidConfig, Attempt.course_run_bind_ok] at hc
  obtain ⟨us, vs, reply, rfl, hq, -⟩ := hc
  obtain ⟨x, rfl, hx, -⟩ := Controller.course_query hq
  exact ⟨x, hi.subset List.mem_cons_self, hx.code⟩

end Discovery.Search

/-- **The handle is enough for the driver**: the disk is opened for a serial number that neither it
nor a RAID set was ever asked about. -/
theorem opened_without_identity :
    ∃ d, ((Device.openHandle "csmi:0:N:0:6:0" .serialS1 {}).run.run
        (Script.steadyDriver Script.translatedDisk) ()).value = .ok d ∧
      d.context.access.allowsPassthrough = true ∧
      ∀ search : Search,
        let xs := (Device.openHandle "csmi:0:N:0:6:0" .serialS1 {}).run.exchanges
          (Script.steadyDriver Script.translatedDisk) ()
        ¬ (d.context.Probed search xs ⟨"", "S1"⟩ ∨
          search.Lists xs ⟨"", "S1"⟩ d.context.sasAddress) := by
  have hopen : ((Device.openHandle "csmi:0:N:0:6:0" .serialS1 {}).run.run
      (Script.steadyDriver Script.translatedDisk) ()).value.toOption.map (·.context.access) =
        some .full := by decide +kernel
  have hcalls : ∀ x ∈ (Device.openHandle "csmi:0:N:0:6:0" .serialS1 {}).run.exchanges
      (Script.steadyDriver Script.translatedDisk) (),
      x.code ≠ .sspPassthrough ∧ x.code ≠ .stpPassthrough ∧ x.code ≠ .raidConfig := by
    have hall : ((Device.openHandle "csmi:0:N:0:6:0" .serialS1 {}).run.exchanges
        (Script.steadyDriver Script.translatedDisk) ()).all (fun x =>
          x.code ≠ .sspPassthrough ∧ x.code ≠ .stpPassthrough ∧ x.code ≠ .raidConfig) = true := by
      decide +kernel
    exact fun x hx => of_decide_eq_true (List.all_eq_true.1 hall x hx)
  obtain ⟨d, hd, ha⟩ := Except.exists_of_toOption_map hopen
  refine ⟨d, hd, by rw [ha]; rfl, fun search => ?_⟩
  intro xs htied
  rcases htied with ⟨ata, hc⟩ | hl
  · obtain ⟨x, hx, hp | hp⟩ := hc.exists_passthrough
    · exact (hcalls x hx).1 hp
    · exact (hcalls x hx).2.1 hp
  · obtain ⟨x, hx, hr⟩ := hl.exists_raidConfig
    exact (hcalls x hx).2.2 hr

end DriveReach
