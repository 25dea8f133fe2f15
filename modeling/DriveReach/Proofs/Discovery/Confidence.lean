import DriveReach.Proofs.Discovery.Opening
import DriveReach.Proofs.Discovery.Place
import DriveReach.Proofs.Discovery.Resolve
/-!
# What stands behind a confidence

A device that is opened says how surely it is the one that was meant. `Context.Backed` lists what
the driver or the device must have answered for each tier.

* `Search.Sited`, `course_locate`: the two ways in which a device is located.
* `Discovered.backed`: both back the tier they give.
* `confidence_backed`: every opened device was backed while it was opened.
-/

set_option autoImplicit false

namespace DriveReach

open Csmi Discovery

namespace Discovery.Search

variable {s : Search} {xs ys : List Exchange}

/-- How discovery located a device: in the phy table, or as an NVMe device at a packed address. -/
inductive Sited (s : Search) (xs : List Exchange) : Resolution → Located → Prop
  | inTable {table : PhyTable} {resolution : Resolution} {found : Located} :
    Recorded xs s.controller.phyTable.run (.ok table) →
    s.Placed table xs resolution found.placement → found.binding ≠ .vendorNvme →
    Sited s xs resolution found
  | nvme {path target : UInt8} {confirmed : Bool} {confidence : Confidence} {found : Located} :
    s.target.form = .os path target →
    s.Assured (.packedNvme path target s.target.lun) xs confirmed confidence →
    found.placement = nvmePlacement (.packedNvme path target s.target.lun) confidence →
    found.binding = .vendorNvme →
    Sited s xs (.nvme confirmed) found

theorem Sited.mono {resolution : Resolution} {found : Located} (h : s.Sited ys resolution found)
    (hi : ys <:+: xs) : s.Sited xs resolution found := by
  cases h with
  | inTable ht hp hb => exact .inTable (ht.mono hi) (hp.mono hi) hb
  | nvme hf ha hp hb => exact .nvme hf (ha.mono hi) hp hb

theorem bindingFor_ne_vendorNvme {protocol : Sas.PortProtocol} {satLayer : SatLayer} :
    bindingFor protocol satLayer ≠ .vendorNvme := by
  unfold bindingFor
  split
  · decide
  · split <;> decide

theorem course_locate {satLayer : SatLayer} {resolution : Resolution} {found : Located}
    (h : (s.locate satLayer resolution).run.Course xs (.ok found)) :
    s.Sited xs resolution found := by
  have inTable (hn : ∀ confirmed, resolution ≠ .nvme confirmed)
      (hl : (do
        let table ← s.controller.phyTable
        let placement ← s.place table resolution
        return ⟨placement, bindingFor placement.protocol satLayer,
          .ofPhy s.target.controller placement.port placement.phy s.target.lun⟩ :
          Attempt Located).run.Course xs (.ok found)) : s.Sited xs resolution found := by
    rw [Attempt.course_run_bind_ok] at hl
    obtain ⟨ys, zs, table, rfl, ht, hl⟩ := hl
    rw [Attempt.course_run_bind_ok] at hl
    obtain ⟨us, vs, placement, rfl, hp, rfl, hl⟩ := hl
    cases hl
    rw [List.append_nil]
    exact .inTable (Recorded.of_course ht).append_left
      ((course_place hn hp).mono (List.suffix_append ys us).isInfix) bindingFor_ne_vendorNvme
  cases resolution with
  | address a => exact inTable (fun _ h => nomatch h) h
  | unresolved => exact inTable (fun _ h => nomatch h) h
  | nvme confirmed =>
    unfold locate at h
    dsimp only at h
    split at h
    · rename_i path target hform
      rw [Attempt.course_run_bind_ok] at h
      obtain ⟨ys, zs, confidence, rfl, hc, rfl, h⟩ := h
      cases h
      rw [List.append_nil]
      exact .nvme hform (course_confirmNvme hc) rfl rfl
    · cases h.2

/-! ## Evidence -/

/-- The driver reported an address: as that of the path and target that the handle names, or as that
of a countable RAID drive with the identity asked for. -/
def Reports (s : Search) (xs : List Exchange) (a : SasAddress) : Prop :=
  (∃ path target, s.target.form = .os path target ∧ s.Translates xs path target a) ∨
    ∃ identity, s.target.identity = some identity ∧ s.Lists xs identity a

end Discovery.Search

/-- What the exchanges `xs` of an opening hold for the confidence in a context. -/
structure Context.Backed (c : Context) (s : Search) (xs : List Exchange) : Prop where
  /-- The driver reported the address of the device at the phy, which is attached at one port
  only. -/
  driverAddress : c.confidence = .driverAddress → c.binding ≠ .vendorNvme →
    ∃ a table p, s.Reports xs a ∧
      (a.isZero = false ∨ c.family.traits.zeroAddressValid = true) ∧
      Recorded xs s.controller.phyTable.run (.ok table) ∧ p ∈ table.attachedAt a ∧
      (∀ q ∈ table.attachedAt a, q.port = p.port) ∧ c.placement = .ofPhy p .driverAddress
  /-- The device answered to the identity, and no candidate at another port did. -/
  liveIdentity : c.confidence = .liveIdentity → c.binding ≠ .vendorNvme →
    ∃ identity table phys p, s.target.identity = some identity ∧
      Recorded xs s.controller.phyTable.run (.ok table) ∧
      (phys = table.endDevices ∨ phys = table.attachedAt .zero) ∧
      s.Singled xs identity phys p ∧ c.placement = .ofPhy p .liveIdentity
  /-- No identity was asked for, and the device is at the phy that the handle names. -/
  phyOnly : c.confidence = .phyOnly → c.binding ≠ .vendorNvme →
    ∃ phy table p, s.target.identity = none ∧ s.target.phy? = some phy ∧
      Recorded xs s.controller.phyTable.run (.ok table) ∧ table.phy? phy = some p ∧
      p.hasEndDevice = true ∧ c.placement = .ofPhy p .phyOnly
  /-- The driver reported the very address that path, target and unit pack to. -/
  driverAddressNvme : c.confidence = .driverAddress → c.binding = .vendorNvme →
    ∃ path target, s.target.form = .os path target ∧
      s.Translates xs path target (.packedNvme path target s.target.lun) ∧
      c.placement = Search.nvmePlacement (.packedNvme path target s.target.lun) .driverAddress
  /-- The device at the packed address answered to the identity. -/
  liveIdentityNvme : c.confidence = .liveIdentity → c.binding = .vendorNvme →
    ∃ identity path target, s.target.identity = some identity ∧ s.target.form = .os path target ∧
      Search.Confirms xs identity
        (s.identify (s.nvmeEndpoint (.packedNvme path target s.target.lun)) false) ∧
      c.placement = Search.nvmePlacement (.packedNvme path target s.target.lun) .liveIdentity
  /-- The driver gave no address, and there is no identity to ask for or no way to ask. -/
  phyOnlyNvme : c.confidence = .phyOnly → c.binding = .vendorNvme →
    ∃ path target, s.target.form = .os path target ∧ s.Withholds xs path target ∧
      (s.target.identity = none ∨ c.access.allowsPassthrough = false) ∧
      c.placement = Search.nvmePlacement (.packedNvme path target s.target.lun) .phyOnly

namespace Discovery

variable {xs : List Exchange} {target : Target} {options : OpenOptions}
variable {collaborators : Collaborators} {c : Context} {resolution : Resolution} {found : Located}

theorem Discovered.resolution_eq
    (h : Discovered xs target options collaborators c resolution found) :
    (c.search target options).Resolved xs resolution := by
  obtain ⟨ys, hi, hc⟩ := h.resolved
  exact (Search.course_resolve hc).mono hi

theorem Discovered.sited (h : Discovered xs target options collaborators c resolution found) :
    (c.search target options).Sited xs resolution found := by
  obtain ⟨ys, hi, hc⟩ := h.located
  exact (Search.course_locate hc).mono hi

/-- An address that discovery went by was reported, unless it was known beforehand. -/
theorem reports_of_resolved {s : Search} {a : SasAddress} (hk : s.target.knownAddress = none)
    (h : s.Resolved xs (.address a)) : s.Reports xs a ∧ s.isUsable a = true := by
  cases h with
  | known hs hu =>
    rw [hk] at hs
    cases hs
  | translated hf ht hu => exact ⟨.inl ⟨_, _, hf, ht⟩, hu⟩
  | listed hid hl hu => exact ⟨.inr ⟨_, hid, hl⟩, hu⟩

theorem Discovered.usable (h : Discovered xs target options collaborators c resolution found)
    {a : SasAddress} (hu : (c.search target options).isUsable a = true) :
    a.isZero = false ∨ c.family.traits.zeroAddressValid = true := by
  rw [Search.isUsable, Bool.or_eq_true, Bool.not_eq_true'] at hu
  rw [← h.traits]
  exact hu

/-- A place in the phy table backs its confidence. -/
theorem Discovered.backed_of_placed
    (h : Discovered xs target options collaborators c resolution found)
    (hk : target.knownAddress = none) {table : PhyTable}
    (ht : Recorded xs c.controller.phyTable.run (.ok table))
    (hp : (c.search target options).Placed table xs resolution c.placement)
    (hb : c.binding ≠ .vendorNvme) : c.Backed (c.search target options) xs := by
  generalize hc : c.placement = placement at hp
  cases hp with
  | byAddress hm hports =>
    have hconf : c.confidence = .driverAddress := congrArg Placement.confidence hc
    obtain ⟨hr, hu⟩ := reports_of_resolved hk h.resolution_eq
    exact {
      driverAddress := fun _ _ => ⟨_, table, _, hr, h.usable hu, ht, hm, hports, hc⟩
      liveIdentity := fun he => nomatch hconf.symm.trans he
      phyOnly := fun he => nomatch hconf.symm.trans he
      driverAddressNvme := fun _ hn => absurd hn hb
      liveIdentityNvme := fun _ hn => absurd hn hb
      phyOnlyNvme := fun _ hn => absurd hn hb }
  | byIdentity hid hcand hs =>
    have hconf : c.confidence = .liveIdentity := congrArg Placement.confidence hc
    exact {
      driverAddress := fun he => nomatch hconf.symm.trans he
      liveIdentity := fun _ _ => ⟨_, table, _, _, hid, ht, hcand, hs, hc⟩
      phyOnly := fun he => nomatch hconf.symm.trans he
      driverAddressNvme := fun _ hn => absurd hn hb
      liveIdentityNvme := fun _ hn => absurd hn hb
      phyOnlyNvme := fun _ hn => absurd hn hb }
  | byHandle hid hphy hat he =>
    have hconf : c.confidence = .phyOnly := congrArg Placement.confidence hc
    exact {
      driverAddress := fun he => nomatch hconf.symm.trans he
      liveIdentity := fun he => nomatch hconf.symm.trans he
      phyOnly := fun _ _ => ⟨_, table, _, hid, hphy, ht, hat, he, hc⟩
      driverAddressNvme := fun _ hn => absurd hn hb
      liveIdentityNvme := fun _ hn => absurd hn hb
      phyOnlyNvme := fun _ hn => absurd hn hb }

/-- The place of an NVMe device backs its confidence. -/
theorem Discovered.backed_of_assured {confirmed : Bool} {confidence : Confidence}
    {path unit : UInt8}
    (h : Discovered xs target options collaborators c (.nvme confirmed) found)
    (hf : target.form = .os path unit)
    (ha : (c.search target options).Assured (.packedNvme path unit target.lun) xs confirmed
      confidence)
    (hp : c.placement = Search.nvmePlacement (.packedNvme path unit target.lun) confidence)
    (hb : c.binding = .vendorNvme) : c.Backed (c.search target options) xs := by
  have hconf : c.confidence = confidence := congrArg Placement.confidence hp
  have htable : ∀ {p : Prop}, c.binding ≠ .vendorNvme → p := fun hn => absurd hb hn
  cases ha with
  | reported hc =>
    refine {
      driverAddress := fun _ => htable
      liveIdentity := fun _ => htable
      phyOnly := fun _ => htable
      driverAddressNvme := fun _ _ => ⟨path, unit, hf, ?_, hp⟩
      liveIdentityNvme := fun he => nomatch hconf.symm.trans he
      phyOnlyNvme := fun he => nomatch hconf.symm.trans he }
    subst hc
    cases h.resolution_eq with
    | nvmeConfirmed hf' ht =>
      cases hf.symm.trans hf'
      exact ht
  | answered hid hans =>
    exact {
      driverAddress := fun _ => htable
      liveIdentity := fun _ => htable
      phyOnly := fun _ => htable
      driverAddressNvme := fun he => nomatch hconf.symm.trans he
      liveIdentityNvme := fun _ _ => ⟨_, path, unit, hid, hf, hans, hp⟩
      phyOnlyNvme := fun he => nomatch hconf.symm.trans he }
  | unasked hc hn =>
    refine {
      driverAddress := fun _ => htable
      liveIdentity := fun _ => htable
      phyOnly := fun _ => htable
      driverAddressNvme := fun he => nomatch hconf.symm.trans he
      liveIdentityNvme := fun he => nomatch hconf.symm.trans he
      phyOnlyNvme := fun _ _ => ⟨path, unit, hf, ?_, hn, hp⟩ }
    subst hc
    cases h.resolution_eq with
    | nvmeWithheld hf' hw =>
      cases hf.symm.trans hf'
      exact hw

/-- Every way in which a device is discovered backs the confidence it gives. -/
theorem Discovered.backed (h : Discovered xs target options collaborators c resolution found)
    (hk : target.knownAddress = none) : c.Backed (c.search target options) xs := by
  have hs := h.sited
  cases hs with
  | inTable ht hp hb =>
    rw [← h.placement] at hp
    rw [← h.binding] at hb
    exact h.backed_of_placed hk ht hp hb
  | nvme hf ha hp hb =>
    rw [← h.placement] at hp
    rw [← h.binding] at hb
    exact h.backed_of_assured hf ha hp hb

end Discovery

/-! ## Opened devices -/

/-- **The confidence in an open device is backed**: whatever the handle, the options and the driver,
the driver and the device answered what the tier asks for while the device was opened. -/
theorem confidence_backed {σ : Type} (w : Dialogue.Surroundings σ) (handle : String)
    (options : OpenOptions) (collaborators : Collaborators) (s : σ) (d : Device)
    (hopen : ((Device.openHandle handle options collaborators).run.run w s).value = .ok d) :
    ∃ address, LogicalAddress.parse handle = .ok address ∧
      d.context.Backed (d.context.search (.ofAddress address options.identity) options)
        ((Device.openHandle handle options collaborators).run.exchanges w s) := by
  have h := Dialogue.course_run w (Device.openHandle handle options collaborators).run s
  rw [hopen] at h
  obtain ⟨address, resolution, found, hp, hd, -⟩ := Device.course_openHandle h
  exact ⟨address, hp, hd.backed rfl⟩

/-- A controller with one SATA disk at phy 0, whose address its driver gives for any path and
target. -/
def Script.translatedDisk : ControlCode → List Script.Patch
  | .controllerStatus => [(0, [1])]
  | .deviceAddress => [(4, [0x50, 0, 0, 0, 0, 0, 0, 1])]
  | .phyInfo => [(0, [1]), (40, [0x10, 0, 0, 0x01]), (52, [0x50, 0, 0, 0, 0, 0, 0, 1])]
  | _ => []

theorem confidence_backed_translatedDisk :
    ∃ d, ((Device.openHandle "csmi:0:N:0:6:0" {} {}).run.run
        (Script.steadyDriver Script.translatedDisk) ()).value = .ok d ∧
      d.context.confidence = .driverAddress ∧
      ∃ address, LogicalAddress.parse "csmi:0:N:0:6:0" = .ok address ∧
        d.context.Backed (d.context.search (.ofAddress address none) {})
          ((Device.openHandle "csmi:0:N:0:6:0" {} {}).run.exchanges
            (Script.steadyDriver Script.translatedDisk) ()) := by
  have hopen : ((Device.openHandle "csmi:0:N:0:6:0" {} {}).run.run
      (Script.steadyDriver Script.translatedDisk) ()).value.toOption.map (·.context.confidence) =
        some .driverAddress := by decide +kernel
  obtain ⟨d, hd, hc⟩ := Except.exists_of_toOption_map hopen
  exact ⟨d, hd, hc, confidence_backed _ _ {} {} () d hd⟩

end DriveReach
