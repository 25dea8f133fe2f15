import DriveReach.Proofs.Discovery.Opening
import DriveReach.Proofs.Discovery.Place
import DriveReach.Proofs.LogicalAddress
import Mathlib.Data.List.Nodup
/-!
# Opening a device again

The address in the context of an open device is the one under which it is found again: by its phy,
or, for an NVMe device, by the path and target of the operating system.

* `Search.again`: the search for the address of a device that was located.
* `Search.locate_again`: it comes to the same location, whatever led to it the first time.
* `Device.opened_again`: the handle of an open device opens the same device.
-/

set_option autoImplicit false

namespace DriveReach

open Csmi Dialogue

variable {σ : Type} {w : Surroundings σ}

/-! ## Phys by identifier -/

/-- No two phys have an identifier in common. -/
def Csmi.PhyTable.Distinct (t : PhyTable) : Prop := (t.phys.map Phy.identifier).Nodup

instance (t : PhyTable) : Decidable t.Distinct := inferInstanceAs (Decidable (List.Nodup _))

theorem Csmi.PhyTable.Distinct.phy?_identifier {t : PhyTable} (h : t.Distinct) {p : Phy}
    (hp : p ∈ t.phys) : t.phy? p.identifier = some p := by
  cases hq : t.phy? p.identifier with
  | none => exact absurd (List.find?_eq_none.1 hq p hp) (by simp)
  | some q =>
    have hid : q.identifier = p.identifier := by simpa using List.find?_some hq
    rw [List.inj_on_of_nodup_map h (List.mem_of_find?_eq_some hq) hp hid]

namespace Discovery

/-- The place with another confidence. -/
def Located.withConfidence (found : Located) (confidence : Confidence) : Located :=
  { found with placement := { found.placement with confidence := confidence } }

namespace Search

variable {s : Search} {st : σ} {satLayer : SatLayer} {found : Located}

/-- The search for the address of a device that was located, with nothing known but the address. -/
def again (s : Search) (found : Located) : Search :=
  { s with target := .ofAddress (found.address.withBase s.target.base) none }

/-- A place in the phy table is that of an end device at one of its phys. -/
theorem Placed.ofPhy {table : PhyTable} {xs : List Exchange} {resolution : Resolution}
    {placement : Placement} (h : s.Placed table xs resolution placement) :
    ∃ p ∈ table.phys, p.hasEndDevice = true ∧ ∃ confidence, placement = .ofPhy p confidence := by
  cases h with
  | byAddress hm _ =>
    obtain ⟨hp, he⟩ := List.mem_filter.1 hm
    exact ⟨_, hp, (Bool.and_eq_true_iff.1 he).1, _, rfl⟩
  | byIdentity _ hphys hs =>
    rcases hphys with rfl | rfl
    · obtain ⟨hp, he⟩ := List.mem_filter.1 hs.mem
      exact ⟨_, hp, he, _, rfl⟩
    · obtain ⟨hp, he⟩ := List.mem_filter.1 hs.mem
      exact ⟨_, hp, (Bool.and_eq_true_iff.1 he).1, _, rfl⟩
  | byHandle _ _ hat he => exact ⟨_, List.mem_of_find?_eq_some hat, he, _, rfl⟩

/-- That a device is an NVMe device is told by the operating system's address alone. -/
theorem resolveForm_of_nvme (hw : w.Steady) (hknown : s.target.knownAddress = none)
    {confirmed : Bool} (h : s.resolve.result w st = .ok (.nvme confirmed)) :
    s.resolveForm.result w st = .ok (some (.nvme confirmed)) := by
  rw [resolve, hknown] at h
  obtain ⟨decided, hform, h⟩ := hw.result_bind_ok.1 h
  cases decided with
  | some resolution =>
    cases h
    exact hform
  | none =>
    -- an expected identity leads to an address or to nothing
    change s.resolveIdentity.result w st = _ at h
    unfold resolveIdentity at h
    split at h
    · obtain ⟨a, -, h⟩ := hw.result_bind_ok.1 h
      cases a <;> cases h
    · cases h

/-- An NVMe device is found again by path and target. -/
theorem locate_again_nvme (hw : w.Steady) (hknown : s.target.knownAddress = none)
    {confirmed : Bool} (hr : s.resolve.result w st = .ok (.nvme confirmed))
    (hl : (s.locate satLayer (.nvme confirmed)).result w st = .ok found) :
    (s.again found).resolve.result w st = .ok (.nvme confirmed) ∧
      ∃ confidence, ((s.again found).locate satLayer (.nvme confirmed)).result w st =
        .ok (found.withConfidence confidence) := by
  have hform := resolveForm_of_nvme hw hknown hr
  unfold locate at hl
  dsimp only at hl
  split at hl
  · rename_i path target hos
    obtain ⟨confidence, -, hl⟩ := hw.result_bind_ok.1 hl
    cases hl
    constructor
    · refine hw.result_bind_ok.2 ⟨some (.nvme confirmed), ?_, rfl⟩
      rw [← hform, resolveForm, resolveForm, hos]
      rfl
    · cases confirmed with
      | true => exact ⟨.driverAddress, rfl⟩
      | false => exact ⟨.phyOnly, rfl⟩
  · cases hl

/-- A device that is no NVMe device is located in the phy table. -/
theorem locate_inTable {resolution : Resolution} (hn : ∀ confirmed, resolution ≠ .nvme confirmed) :
    s.locate satLayer resolution = (do
      let table ← s.controller.phyTable
      let placement ← s.place table resolution
      return ⟨placement, bindingFor placement.protocol satLayer,
        .ofPhy s.target.controller placement.port placement.phy s.target.lun⟩) := by
  cases resolution with
  | nvme confirmed => exact absurd rfl (hn confirmed)
  | address a => rfl
  | unresolved => rfl

/-- The phy that a target names is taken as it is when there is no more to go by. -/
theorem result_place_phy {table : PhyTable} {p : Phy} (hid : s.target.identity = none)
    (hphy : s.target.phy? = some p.identifier) (hat : table.phy? p.identifier = some p)
    (he : p.hasEndDevice = true) :
    (s.place table .unresolved).result w st = .ok (.ofPhy p .phyOnly) := by
  have hfound : (s.target.phy?.bind table.phy?).filter (·.hasEndDevice) = some p := by
    rw [hphy, Option.bind_some, hat, Option.filter_some_pos he]
  have hplace : s.place table .unresolved = s.placeByHandle table := by
    unfold place
    rw [hid]
  rw [hplace, placeByHandle, hfound]
  rfl

/-- A device in the phy table is found again by its phy. -/
theorem locate_again_inTable (hw : w.Steady) {resolution : Resolution}
    (hn : ∀ confirmed, resolution ≠ .nvme confirmed)
    (hl : (s.locate satLayer resolution).result w st = .ok found)
    (hphys : ∀ table, s.controller.phyTable.result w st = .ok table → table.Distinct) :
    (s.again found).resolve.result w st = .ok .unresolved ∧
      ((s.again found).locate satLayer .unresolved).result w st =
        .ok (found.withConfidence .phyOnly) := by
  rw [locate_inTable hn] at hl
  obtain ⟨table, htable, hl⟩ := hw.result_bind_ok.1 hl
  obtain ⟨placement, hplace, hl⟩ := hw.result_bind_ok.1 hl
  cases hl
  have hcourse := course_run w (s.place table resolution).run st
  rw [show ((s.place table resolution).run.run w st).value = .ok placement from hplace] at hcourse
  obtain ⟨p, hp, he, confidence, rfl⟩ := (course_place hn hcourse).ofPhy
  exact ⟨rfl, hw.result_bind_ok.2 ⟨table, htable, hw.result_bind_ok.2 ⟨.ofPhy p .phyOnly,
    result_place_phy rfl rfl ((hphys table htable).phy?_identifier hp) he, rfl⟩⟩⟩

/-- A device that was located is located again by its address. -/
theorem locate_again (hw : w.Steady) (hknown : s.target.knownAddress = none)
    {resolution : Resolution} (hr : s.resolve.result w st = .ok resolution)
    (hl : (s.locate satLayer resolution).result w st = .ok found)
    (hphys : ∀ table, s.controller.phyTable.result w st = .ok table → table.Distinct) :
    ∃ resolution' confidence, (s.again found).resolve.result w st = .ok resolution' ∧
      ((s.again found).locate satLayer resolution').result w st =
        .ok (found.withConfidence confidence) := by
  by_cases hn : ∃ confirmed, resolution = .nvme confirmed
  · obtain ⟨confirmed, rfl⟩ := hn
    obtain ⟨hr', confidence, hl'⟩ := locate_again_nvme hw hknown hr hl
    exact ⟨_, confidence, hr', hl'⟩
  · obtain ⟨hr', hl'⟩ :=
      locate_again_inTable hw (fun confirmed h => hn ⟨confirmed, h⟩) hl hphys
    exact ⟨_, _, hr', hl'⟩

/-- A device is located under the controller and with the unit that were asked for. -/
theorem address_of_locate (hw : w.Steady) {resolution : Resolution}
    (hl : (s.locate satLayer resolution).result w st = .ok found) :
    found.address.controller = s.target.controller ∧ found.address.lun = s.target.lun := by
  by_cases hn : ∃ confirmed, resolution = .nvme confirmed
  · obtain ⟨confirmed, rfl⟩ := hn
    unfold locate at hl
    dsimp only at hl
    split at hl
    · obtain ⟨confidence, -, hl⟩ := hw.result_bind_ok.1 hl
      cases hl
      exact ⟨rfl, rfl⟩
    · cases hl
  · rw [locate_inTable fun confirmed h => hn ⟨confirmed, h⟩] at hl
    obtain ⟨table, -, hl⟩ := hw.result_bind_ok.1 hl
    obtain ⟨placement, -, hl⟩ := hw.result_bind_ok.1 hl
    cases hl
    exact ⟨rfl, rfl⟩

theorem sasLun_again (hlun : found.address.lun = s.target.lun) :
    (s.again found).target.sasLun = s.target.sasLun := by
  change (#v[0, found.address.lun, 0, 0, 0, 0, 0, 0] : Lun) = _
  rw [hlun]
  rfl

/-- What is particular to a device does not depend on what led to it. -/
theorem particulars_again (hlun : found.address.lun = s.target.lun) (confidence : Confidence)
    (fetchSignature : Bool) :
    (s.again found).particulars (found.withConfidence confidence) fetchSignature =
      s.particulars found fetchSignature := by
  unfold particulars scsiAddressOf
  rw [sasLun_again hlun]
  rfl

end Search

/-- A device that was discovered is discovered again by its address. -/
theorem discover_again (hw : w.Steady) {controller : Controller} {target : Target}
    {options : OpenOptions} {collaborators : Collaborators} {c : Context} {st : σ}
    (hknown : target.knownAddress = none)
    (h : (discover controller target options collaborators).result w st = .ok c)
    (hphys : ∀ table, c.controller.phyTable.result w st = .ok table → table.Distinct) :
    c.address.controller = target.controller ∧ c.address.base = target.base ∧
      ∃ confidence, (discover controller (.ofAddress c.address none)
        { options with identity := none } collaborators).result w st =
          .ok { c with confidence := confidence } := by
  unfold discover at h
  obtain ⟨driver, hdriver, h⟩ := hw.result_bind_ok.1 h
  obtain ⟨config, hconfig, h⟩ := hw.result_bind_ok.1 h
  obtain ⟨status, hstatus, h⟩ := hw.result_bind_ok.1 h
  dsimp only at h
  split at h
  · cases h
  rename_i hgood
  split at h
  · cases h
  rename_i hinfo
  rw [Attempt.result_note_if] at h
  obtain ⟨resolution, hr, h⟩ := hw.result_bind_ok.1 h
  rw [Attempt.result_note_bind] at h
  obtain ⟨found, hl, h⟩ := hw.result_bind_ok.1 h
  obtain ⟨⟨signature, scsiAddress⟩, hp, h⟩ := hw.result_bind_ok.1 h
  cases h
  obtain ⟨resolution', confidence, hr', hl'⟩ := Search.locate_again hw hknown hr hl hphys
  obtain ⟨hcontroller, hlun⟩ := Search.address_of_locate hw hl
  refine ⟨hcontroller, rfl, confidence, ?_⟩
  unfold discover
  refine hw.result_bind_ok.2 ⟨driver, hdriver, hw.result_bind_ok.2 ⟨config, hconfig,
    hw.result_bind_ok.2 ⟨status, hstatus, ?_⟩⟩⟩
  dsimp only
  rw [if_neg hgood, if_neg hinfo, Attempt.result_note_if]
  refine hw.result_bind_ok.2 ⟨resolution', hr', ?_⟩
  rw [Attempt.result_note_bind]
  refine hw.result_bind_ok.2 ⟨_, hl', hw.result_bind_ok.2 ⟨(signature, scsiAddress), ?_, ?_⟩⟩
  · exact (congrArg (·.result w st) (Search.particulars_again hlun confidence
      options.fetchSignature)).trans hp
  · have hsas : (Target.ofAddress (found.address.withBase target.base) none).sasLun =
        target.sasLun := Search.sasLun_again hlun
    simp only [hsas]
    rfl

end Discovery

namespace Device

/-- **The address of an open device is stable.** Its handle opens the same device again, without an
identity, against surroundings that are steady and whose phy table has no two phys of one
identifier. Only the confidence may be another. -/
theorem opened_again (hw : w.Steady) {handle : String} {options : OpenOptions}
    {collaborators : Collaborators} {s : σ} {d : Device}
    (hopen : (openHandle handle options collaborators).result w s = .ok d)
    (hphys : ∀ table, d.context.controller.phyTable.result w s = .ok table → table.Distinct)
    (s' : σ) :
    ∃ confidence, (openHandle d.context.address.text { options with identity := none }
      collaborators).result w s' =
        .ok { d with context := { d.context with confidence := confidence } } := by
  unfold openHandle at hopen
  obtain ⟨_, hversion, hopen⟩ := hw.result_bind_ok.1 hopen
  obtain ⟨address, hparse, hopen⟩ := hw.result_bind_ok.1 hopen
  unfold openTarget at hopen
  obtain ⟨channel, hattach, hopen⟩ := hw.result_bind_ok.1 hopen
  obtain ⟨c, hdiscover, hopen⟩ := hw.result_bind_ok.1 hopen
  rw [Attempt.result_note_bind] at hopen
  cases hopen
  obtain ⟨hcontroller, hbase, confidence, hagain⟩ :=
    Discovery.discover_again hw rfl hdiscover hphys
  refine ⟨confidence, ?_⟩
  rw [Attempt.result, hw.value_eq _ s' s, ← Attempt.result]
  have hread : (Attempt.ofExcept (LogicalAddress.parse c.address.text)).result w s =
      .ok c.address := by
    rw [Attempt.result_ofExcept]
    exact LogicalAddress.parse_text fun h =>
      LogicalAddress.base_of_parse hparse (hbase.symm.trans h)
  have hcontroller' : (Discovery.Target.ofAddress c.address none).controller =
      (Discovery.Target.ofAddress address options.identity).controller := hcontroller
  have hbase' : (Discovery.Target.ofAddress c.address none).base =
      (Discovery.Target.ofAddress address options.identity).base := hbase
  unfold openHandle
  refine hw.result_bind_ok.2 ⟨(), hversion, hw.result_bind_ok.2 ⟨c.address, hread, ?_⟩⟩
  unfold openTarget
  rw [hcontroller', hbase']
  refine hw.result_bind_ok.2 ⟨channel, hattach, hw.result_bind_ok.2 ⟨_, hagain, ?_⟩⟩
  rw [Attempt.result_note_bind]
  rfl

end Device

/-- A controller of two phys with a SATA disk at the second one, whose address its driver gives for
any path and target. -/
def Script.secondPhyDisk : ControlCode → List Script.Patch
  | .controllerStatus => [(0, [1])]
  | .deviceAddress => [(4, [0x50, 0, 0, 0, 0, 0, 0, 1])]
  | .phyInfo => [(0, [2]), (88, [1]), (104, [0x10, 0, 0, 0x01]),
    (116, [0x50, 0, 0, 0, 0, 0, 0, 1])]
  | _ => []

/-- The disk that is opened by path and target is opened again by port and phy, through the same
node. -/
theorem opened_again_secondPhyDisk :
    ∃ d, (Device.openHandle "csmi:0:N:0:6:0:/dev/sg4" {} {}).result
        (Script.steadyDriver Script.secondPhyDisk) () = .ok d ∧
      d.context.address.text = "csmi:0:0:1:0:/dev/sg4" ∧
      ∃ confidence, (Device.openHandle d.context.address.text {} {}).result
        (Script.steadyDriver Script.secondPhyDisk) () =
          .ok { d with context := { d.context with confidence := confidence } } := by
  have hopen : ((Device.openHandle "csmi:0:N:0:6:0:/dev/sg4" {} {}).result
      (Script.steadyDriver Script.secondPhyDisk) ()).toOption.map
        (fun d => (d.context.controller, d.context.address)) =
      some (⟨⟨0⟩, 0, .off⟩, ⟨0, 0, 1, 0, false, some "/dev/sg4"⟩) := by decide +kernel
  obtain ⟨d, hd, hseen⟩ := Except.exists_of_toOption_map hopen
  obtain ⟨hcontroller, haddress⟩ := Prod.mk.inj hseen
  refine ⟨d, hd, by rw [haddress]; decide +kernel, ?_⟩
  refine Device.opened_again (steady_steadyDriver _) hd (fun table htable => ?_) ()
  have hdistinct : ((Controller.phyTable ⟨⟨0⟩, 0, .off⟩).result
      (Script.steadyDriver Script.secondPhyDisk) ()).toOption.map (fun t => decide t.Distinct) =
        some true := by decide +kernel
  rw [← hcontroller, htable] at hdistinct
  exact of_decide_eq_true (Option.some.inj hdistinct)

end DriveReach
