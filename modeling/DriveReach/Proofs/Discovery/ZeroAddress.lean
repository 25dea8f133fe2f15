import DriveReach.Proofs.Discovery.Identity
import DriveReach.Proofs.Discovery.Reported
/-!
# The zero address

Drivers of some families report the address of all zeros for the members of a RAID set, and some of
these hide NVMe devices under packed addresses. `Gives` says that the driver gave an address for the
device that was asked for.

* `shared_zero_address`: two or more end devices are at the zero address. At several ports, the
  device is the one that answers to the identity; at one port, nothing is asked and the zero address
  is taken for that of one device.
* `reported_binding`: a driver that packs NVMe addresses reports one for a handle, and the device is
  bound as an NVMe device when it is the packed one. The zero address is packed for path, target
  and unit zero, and for no others.
-/

set_option autoImplicit false

namespace DriveReach

open Csmi Discovery

/-- The driver gave an address: for the handle, or as that of a RAID drive in use with the
identity. -/
def Gives (xs : List Exchange) (identity : Option Identity) (a : SasAddress) : Prop :=
  a ∈ reportedAddresses xs ∨
    ∃ drive ∈ drivesInUse xs,
      (∃ i ∈ identity, i.accepts drive.model drive.serialNumber = true) ∧ drive.sasAddress = a

instance (xs : List Exchange) (identity : Option Identity) (a : SasAddress) :
    Decidable (Gives xs identity a) := by
  unfold Gives
  infer_instance

section
variable {xs rs ls : List Exchange} {s : Search} {satLayer : SatLayer} {resolution : Resolution}
variable {found : Located} {a : SasAddress}

/-- What is behind a packed address that the driver confirmed is bound as an NVMe device, by the
word of the driver alone. -/
theorem Discovery.Search.located_of_confirmed
    (h : (s.locate satLayer (.nvme true)).run.Course xs (.ok found)) :
    found.binding = .vendorNvme ∧ found.placement.confidence = .driverAddress := by
  unfold locate at h
  dsimp only at h
  split at h
  · rw [Attempt.course_run_bind_ok] at h
    obtain ⟨_, _, confidence, -, hc, -, h⟩ := h
    obtain ⟨-, hc⟩ := hc
    cases hc
    cases h
    exact ⟨rfl, rfl⟩
  · cases h.2

/-- A usable address that the driver gives is the resolution, when the device is found in the phy
table. -/
theorem Discovery.Staged.resolution_of_gives
    (h : Staged s satLayer xs rs ls resolution found) (hk : s.target.knownAddress = none)
    (hu : s.isUsable a = true) (hg : Gives xs s.target.identity a)
    (hb : found.binding ≠ .vendorNvme) : resolution = .address a := by
  rcases hg with ha | ⟨drive, hd, ⟨identity, hid, hacc⟩, rfl⟩
  · rw [h.reportedAddresses_eq] at ha
    obtain ⟨path, target, -, hr⟩ := Search.resolve_of_reported hk hu ha h.resolved
    split at hr
    · subst hr
      exact absurd (Search.located_of_confirmed h.located).1 hb
    · exact hr
  · rw [h.drivesInUse_eq] at hd
    exact Search.resolve_of_listed hk hid hd hacc hu h.resolved

/-- A usable address that is reported for a path and target makes the device an NVMe device exactly
when it is the packed one, and then it is all that is gone by. -/
theorem Discovery.Staged.binding_of_reported
    (h : Staged s satLayer xs rs ls resolution found) (hk : s.target.knownAddress = none)
    (hpacks : s.traits.packsNvmeAddress = true) (hu : s.isUsable a = true)
    (ha : a ∈ reportedAddresses xs) :
    ∃ path target, s.target.form = .os path target ∧
      (a = .packedNvme path target s.target.lun →
        found.binding = .vendorNvme ∧ found.placement.confidence = .driverAddress) ∧
      (a ≠ .packedNvme path target s.target.lun → found.binding ≠ .vendorNvme) := by
  rw [h.reportedAddresses_eq] at ha
  obtain ⟨path, target, hform, hr⟩ := Search.resolve_of_reported hk hu ha h.resolved
  have hlocated := h.located
  refine ⟨path, target, hform, fun hnvme => ?_, fun hnvme => ?_⟩
  · rw [if_pos ⟨hpacks, hnvme⟩] at hr
    rw [hr] at hlocated
    exact Search.located_of_confirmed hlocated
  · rw [if_neg fun hn => hnvme hn.2] at hr
    rw [hr] at hlocated
    cases Search.course_locate hlocated with
    | inTable _ _ hb => exact hb

/-- A device that is located by an address is placed in the one table that the driver reports. -/
theorem Discovery.Staged.placed_in_table
    (h : Staged s satLayer xs rs ls (.address a) found) {table : PhyTable}
    (ht : table ∈ reportedTables xs) :
    ∃ ys, ys <:+: xs ∧ (s.placeByAddress table a).run.Course ys (.ok found.placement) := by
  obtain ⟨only, ys, htables, hi, hp⟩ := Search.course_locate_inTable h.located
  rw [h.reportedTables_eq, htables, List.mem_singleton] at ht
  subst ht
  obtain ⟨qs, ps, rfl, -, -⟩ := h.inOrder
  refine ⟨ys, hi.trans ?_, hp⟩
  exact ⟨qs ++ rs, ps, by simp⟩

end

/-! ## Several devices at the zero address -/

/-- **The zero address does not identify a device at several ports.** The driver gave it for the
device that was opened, and has two or more end devices there. When these are at several ports, the
device is one of them and answered to the identity itself. When they are all at one port, they are
taken for a single device with a wide port, and none is asked. -/
theorem shared_zero_address {σ : Type} (w : Dialogue.Surroundings σ) (handle : String)
    (options : OpenOptions) (collaborators : Collaborators) (s : σ) (d : Device)
    (hopen : ((Device.openHandle handle options collaborators).run.run w s).value = .ok d)
    (hvalid : d.context.family.traits.zeroAddressValid = true)
    (hbinding : d.context.binding ≠ .vendorNvme) :
    let xs := (Device.openHandle handle options collaborators).run.exchanges w s
    Gives xs options.identity .zero →
    ∀ table ∈ reportedTables xs, 2 ≤ (table.attachedAt .zero).length →
      (¬ Search.OnePort (table.attachedAt .zero) →
        d.context.confidence = .liveIdentity ∧
          ∃ address identity, LogicalAddress.parse handle = .ok address ∧
            options.identity = some identity ∧
            (∃ p ∈ table.attachedAt .zero, d.context.placement = .ofPhy p .liveIdentity) ∧
            d.context.Probed (d.context.search (.ofAddress address options.identity) options) xs
              identity) ∧
      (Search.OnePort (table.attachedAt .zero) → d.context.confidence = .driverAddress) := by
  intro xs hgives table htable hshared
  have h := Dialogue.course_run w (Device.openHandle handle options collaborators).run s
  rw [hopen] at h
  obtain ⟨address, hparse, h⟩ := Device.openTarget_of_openHandle h
  obtain ⟨resolution, found, hd, -, rs, ls, hstaged⟩ := Device.staged_openTarget h
  have husable : (d.context.search (.ofAddress address options.identity) options).isUsable .zero =
      true := by
    rw [Search.isUsable, Bool.or_eq_true]
    rw [← hd.traits] at hvalid
    exact .inr hvalid
  obtain rfl := hstaged.resolution_of_gives rfl husable hgives (hd.binding ▸ hbinding)
  -- the table that was reported is the one in which the device was placed
  obtain ⟨ys, hi, hplace⟩ := hstaged.placed_in_table htable
  rw [← hd.placement] at hplace
  rcases Search.placeByAddress_cases hplace with ⟨hnone, -⟩ | ⟨hone, p, -, hp⟩ | ⟨hseveral, -, hq⟩
  · rw [hnone] at hshared
    cases hshared
  · exact ⟨absurd hone, fun _ => congrArg Placement.confidence hp⟩
  · refine ⟨fun _ => ?_, fun hone => absurd hone hseveral⟩
    obtain ⟨identity, p, hid, hsingled, hp⟩ := Search.course_placeByIdentity hq
    refine ⟨congrArg Placement.confidence hp, address, identity, hparse, hid,
      ⟨p, hsingled.mem, hp⟩, p.attached.target.reachesAta, ?_⟩
    rw [hp, hd.sasLun]
    exact hsingled.confirmed.mono hi

/-- Two end devices at the zero address, which the driver also gives for any path and target: a SAS
device at phy 0 and port 0, and a SATA disk with the serial number `S1` at phy 1. The driver is one
for which the zero address is valid. -/
def Script.zeroPair (port : UInt8) : ControlCode → List Script.Patch
  | .driverInfo => [(0, [0x69, 0x61, 0x53, 0x74, 0x6F, 0x72])]
  | .controllerStatus => [(0, [1])]
  | .phyInfo =>
    [(0, [2]), (40, [0x10, 0, 0, 0x08]), (88, [1]), (96, [port]), (104, [0x10, 0, 0, 0x01])]
  | .stpPassthrough => [(48, [0x34, 0, 0x50]), (132, [0, 2]), (156, [0x31, 0x53])]
  | _ => []

/-- With the disk at a port of its own, it is asked for its serial number and found by it. -/
theorem shared_zero_address_zeroPair :
    let opening := (Device.openHandle "csmi:0:N:0:6:0" .serialS1 {}).run
    let xs := opening.exchanges (Script.steadyDriver (Script.zeroPair 1)) ()
    ∃ d, (opening.run (Script.steadyDriver (Script.zeroPair 1)) ()).value = .ok d ∧
      ∃ table ∈ reportedTables xs, 2 ≤ (table.attachedAt .zero).length ∧
        d.context.confidence = .liveIdentity ∧
          ∃ address identity, LogicalAddress.parse "csmi:0:N:0:6:0" = .ok address ∧
            OpenOptions.serialS1.identity = some identity ∧
            (∃ p ∈ table.attachedAt .zero, d.context.placement = .ofPhy p .liveIdentity) ∧
            d.context.Probed (d.context.search (.ofAddress address (some ⟨"", "S1"⟩)) .serialS1) xs
              identity := by
  intro opening xs
  have hopen : (opening.run (Script.steadyDriver (Script.zeroPair 1)) ()).value.toOption.map
      (fun d => (d.context.family, d.context.binding)) = some (.intelGeneric, .stp) := by
    decide +kernel
  have hgives : Gives xs OpenOptions.serialS1.identity .zero := by decide +kernel
  have htable : ∃ table ∈ reportedTables xs, 2 ≤ (table.attachedAt .zero).length ∧
      ¬ Search.OnePort (table.attachedAt .zero) := by decide +kernel
  obtain ⟨d, hd, ha⟩ := Except.exists_of_toOption_map hopen
  obtain ⟨hfamily, hbinding⟩ := Prod.mk.inj ha
  obtain ⟨table, ht, htwo, hports⟩ := htable
  exact ⟨d, hd, table, ht, htwo, (shared_zero_address _ _ .serialS1 {} () d hd
    (by rw [hfamily]; rfl) (by rw [hbinding]; decide) hgives table ht htwo).1 hports⟩

/-- **Phys of one port hide that the zero address is shared**: asking for the serial number of the
disk opens the device next to it, and neither was asked. -/
theorem zero_address_trusted :
    let opening := (Device.openHandle "csmi:0:N:0:6:0" .serialS1 {}).run
    let xs := opening.exchanges (Script.steadyDriver (Script.zeroPair 0)) ()
    ∃ d, (opening.run (Script.steadyDriver (Script.zeroPair 0)) ()).value = .ok d ∧
      d.context.family.traits.zeroAddressValid = true ∧ d.context.binding ≠ .vendorNvme ∧
      Gives xs OpenOptions.serialS1.identity .zero ∧
      (∃ table ∈ reportedTables xs, 2 ≤ (table.attachedAt .zero).length) ∧
      d.context.confidence = .driverAddress ∧ d.context.phy = 0 ∧
      ∀ x ∈ xs, ¬ x.IsPassthrough := by
  intro opening xs
  have hopen : (opening.run (Script.steadyDriver (Script.zeroPair 0)) ()).value.toOption.map
      (fun d => (d.context.family, d.context.binding, d.context.confidence, d.context.phy)) =
        some (.intelGeneric, .ssp, .driverAddress, 0) := by decide +kernel
  have hgives : Gives xs OpenOptions.serialS1.identity .zero := by decide +kernel
  have htable : ∃ table ∈ reportedTables xs, 2 ≤ (table.attachedAt .zero).length := by
    decide +kernel
  have hcalls : ∀ x ∈ xs, x.code ≠ .sspPassthrough ∧ x.code ≠ .stpPassthrough := by
    decide +kernel
  obtain ⟨d, hd, ha⟩ := Except.exists_of_toOption_map hopen
  simp only [Prod.mk.injEq] at ha
  obtain ⟨hfamily, hbinding, hconfidence, hphy⟩ := ha
  refine ⟨d, hd, by rw [hfamily]; rfl, by rw [hbinding]; decide, hgives, htable, hconfidence, hphy,
    fun x hx => ?_⟩
  exact not_or.2 (hcalls x hx)

/-! ## The zero address as a packed one -/

theorem SasAddress.packedNvme_eq_zero_iff {path target lun : UInt8} :
    packedNvme path target lun = zero ↔ path = 0 ∧ target = 0 ∧ lun = 0 := by
  constructor
  · intro h
    have hbytes : [0, 0, 0, 0, 0, path, target, lun] = List.replicate 8 0 :=
      congrArg (fun a => a.bytes.toList) h
    simpa [List.replicate] using hbytes
  · rintro ⟨rfl, rfl, rfl⟩
    rfl

/-- **A reported address is a packed one or that of a phy.** For a driver that hides NVMe devices
behind packed addresses and for which the zero address is valid, an opened device is an NVMe device
exactly when the address reported for its handle is the packed one, and then the driver's word is
all there is for it. For path, target and unit zero, and for no others, that is the zero address. -/
theorem reported_binding {σ : Type} (w : Dialogue.Surroundings σ) (handle : String)
    (options : OpenOptions) (collaborators : Collaborators) (s : σ) (d : Device)
    (hopen : ((Device.openHandle handle options collaborators).run.run w s).value = .ok d)
    (hvalid : d.context.family.traits.zeroAddressValid = true)
    (hpacks : d.context.family.traits.packsNvmeAddress = true) :
    ∃ address, LogicalAddress.parse handle = .ok address ∧
      ∀ a ∈ reportedAddresses ((Device.openHandle handle options collaborators).run.exchanges w s),
        (d.context.binding = .vendorNvme ↔
          a = .packedNvme address.port address.phy address.lun) ∧
        (d.context.binding = .vendorNvme → d.context.confidence = .driverAddress) ∧
        (a = .zero → (d.context.binding = .vendorNvme ↔
          address.port = 0 ∧ address.phy = 0 ∧ address.lun = 0)) := by
  have h := Dialogue.course_run w (Device.openHandle handle options collaborators).run s
  rw [hopen] at h
  obtain ⟨address, hparse, h⟩ := Device.openTarget_of_openHandle h
  obtain ⟨resolution, found, hd, -, rs, ls, hstaged⟩ := Device.staged_openTarget h
  rw [← hd.traits] at hvalid hpacks
  refine ⟨address, hparse, fun a ha => ?_⟩
  have husable : (d.context.search (.ofAddress address options.identity) options).isUsable a =
      true := by
    rw [Search.isUsable, Bool.or_eq_true]
    exact .inr hvalid
  obtain ⟨path, target, hform, hyes, hno⟩ := hstaged.binding_of_reported rfl hpacks husable ha
  obtain ⟨-, rfl, rfl⟩ := Target.form_ofAddress_eq_os hform
  rw [← hd.binding] at hyes hno
  have hiff : d.context.binding = .vendorNvme ↔
      a = .packedNvme address.port address.phy address.lun :=
    ⟨fun hb => Decidable.byContradiction fun hn => hno hn hb, fun hn => (hyes hn).1⟩
  refine ⟨hiff, fun hb => ?_, fun hzero => ?_⟩
  · exact (congrArg Placement.confidence hd.placement).trans (hyes (hiff.1 hb)).2
  · rw [hiff, hzero, eq_comm, SasAddress.packedNvme_eq_zero_iff]

/-- A SATA disk at phy 0 with the zero address, which the driver also gives for any path and target.
The driver is one for which that address is valid, and which hides NVMe devices. -/
def Script.zeroDisk : ControlCode → List Script.Patch
  | .driverInfo => [(0, [0x69, 0x61, 0x53, 0x74, 0x6F, 0x72, 0x41])]
  | .controllerStatus => [(0, [1])]
  | .phyInfo => [(0, [1]), (40, [0x10, 0, 0, 0x01])]
  | _ => []

/-- At target 1 the reported address is not the packed one, and the disk is opened as one. -/
theorem reported_binding_zeroDisk :
    let opening := (Device.openHandle "csmi:0:N:0:1:0" {} {}).run
    let xs := opening.exchanges (Script.steadyDriver Script.zeroDisk) ()
    ∃ d, (opening.run (Script.steadyDriver Script.zeroDisk) ()).value = .ok d ∧
      d.context.binding = .stp ∧ SasAddress.zero ∈ reportedAddresses xs ∧
      ∃ address, LogicalAddress.parse "csmi:0:N:0:1:0" = .ok address ∧
        ∀ a ∈ reportedAddresses xs,
          (d.context.binding = .vendorNvme ↔
            a = .packedNvme address.port address.phy address.lun) ∧
          (d.context.binding = .vendorNvme → d.context.confidence = .driverAddress) ∧
          (a = .zero → (d.context.binding = .vendorNvme ↔
            address.port = 0 ∧ address.phy = 0 ∧ address.lun = 0)) := by
  intro opening xs
  have hopen : (opening.run (Script.steadyDriver Script.zeroDisk) ()).value.toOption.map
      (fun d => (d.context.family, d.context.binding)) = some (.intelRst, .stp) := by
    decide +kernel
  have hzero : SasAddress.zero ∈ reportedAddresses xs := by decide +kernel
  obtain ⟨d, hd, ha⟩ := Except.exists_of_toOption_map hopen
  obtain ⟨hfamily, hbinding⟩ := Prod.mk.inj ha
  exact ⟨d, hd, hbinding, hzero, reported_binding _ _ {} {} () d hd (by rw [hfamily]; rfl)
    (by rw [hfamily]; rfl)⟩

/-- **The zero address of a disk is taken for a packed one**: at path, target and unit zero, the
disk that reports it is opened as an NVMe device, confirmed by the driver. -/
theorem zero_address_packed :
    let opening := (Device.openHandle "csmi:0:N:0:0:0" {} {}).run
    let xs := opening.exchanges (Script.steadyDriver Script.zeroDisk) ()
    ∃ d, (opening.run (Script.steadyDriver Script.zeroDisk) ()).value = .ok d ∧
      d.context.family.traits.zeroAddressValid = true ∧
      d.context.family.traits.packsNvmeAddress = true ∧
      reportedAddresses xs = [.zero] ∧
      d.context.binding = .vendorNvme ∧ d.context.confidence = .driverAddress := by
  intro opening xs
  have hopen : (opening.run (Script.steadyDriver Script.zeroDisk) ()).value.toOption.map
      (fun d => (d.context.family, d.context.binding, d.context.confidence)) =
        some (.intelRst, .vendorNvme, .driverAddress) := by decide +kernel
  have hzero : reportedAddresses xs = [.zero] := by decide +kernel
  obtain ⟨d, hd, ha⟩ := Except.exists_of_toOption_map hopen
  simp only [Prod.mk.injEq] at ha
  obtain ⟨hfamily, hbinding, hconfidence⟩ := ha
  exact ⟨d, hd, by rw [hfamily]; rfl, by rw [hfamily]; rfl, hzero, hbinding, hconfidence⟩

end DriveReach
