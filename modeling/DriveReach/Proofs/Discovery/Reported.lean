import DriveReach.Proofs.Discovery.Opening
import DriveReach.Proofs.Discovery.Place
import DriveReach.Proofs.Discovery.RaidScan
import DriveReach.Proofs.Reports
/-!
# What the reports of a driver decide

`Resolve.lean` traces a resolution back to a report of the driver. Here is the other direction: an
address that the driver gives decides the resolution, because the driver is asked at most once for a
translation and all RAID drives with the identity must be at one address.

* `resolve_of_reported`: an address reported for a path and target.
* `course_scanRaid_complete`, `resolve_of_listed`: an address at which a RAID drive with the
  identity is.
* `Staged.reportedAddresses_eq`, `Staged.drivesInUse_eq`, `Staged.reportedTables_eq`: the step of a
  discovery that its reports belong to.
-/

set_option autoImplicit false

namespace DriveReach.Discovery

open Csmi Dialogue

namespace Search

variable {s : Search} {xs : List Exchange} {resolution : Resolution}

/-! ## Translations -/

/-- The driver reports at most one address, the one that comes of asking it. -/
theorem reportedAddresses_askDriver {path target : UInt8} {reported : Option SasAddress}
    (h : (s.askDriver path target).run.Course xs (.ok reported)) :
    reportedAddresses xs = reported.toList := by
  unfold askDriver at h
  split at h
  · obtain ⟨rfl, h⟩ := h
    cases h
    rfl
  split at h
  · replace h := Attempt.course_run_note_bind.1 h
    obtain ⟨rfl, h⟩ := h
    cases h
    rfl
  rw [Attempt.course_run_bind_ok] at h
  obtain ⟨ys, zs, location, rfl, hq, rfl, h⟩ := h
  cases h
  rw [List.append_nil]
  cases location with
  | none =>
    obtain ⟨fault, -, hc⟩ := Attempt.course_run_unlessDeclined_none.1 hq
    obtain ⟨x, rfl, -, hx⟩ := Controller.course_deviceAddress hc
    simp [reportedAddresses, hx, Except.toOption]
  | some location =>
    have hc := Attempt.course_run_unlessDeclined_some.1 hq
    obtain ⟨x, rfl, -, hx⟩ := Controller.course_deviceAddress hc
    simp [reportedAddresses, hx, Except.toOption]

/-- A usable address that was reported decides: it is that of an NVMe device when it is the packed
one, and else the device's own. -/
theorem ofReported?_some {path target : UInt8} {a : SasAddress} (hu : s.isUsable a = true) :
    s.ofReported? path target (some a) =
      some (if s.traits.packsNvmeAddress = true ∧ a = .packedNvme path target s.target.lun
        then .nvme true else .address a) := by
  by_cases hn : s.traits.packsNvmeAddress = true ∧ a = .packedNvme path target s.target.lun
  · obtain ⟨hp, rfl⟩ := hn
    simp [ofReported?, hp]
  · simp [ofReported?, hn, hu]

/-- A usable address that the driver reports decides the resolution, and the target has a path and
target for which it was reported. -/
theorem resolve_of_reported {a : SasAddress} (hk : s.target.knownAddress = none)
    (hu : s.isUsable a = true) (ha : a ∈ reportedAddresses xs)
    (h : s.resolve.run.Course xs (.ok resolution)) :
    ∃ path target, s.target.form = .os path target ∧
      resolution = if s.traits.packsNvmeAddress = true ∧ a = .packedNvme path target s.target.lun
        then .nvme true else .address a := by
  rw [resolve, hk, Option.filter_none, Attempt.course_run_bind_ok] at h
  obtain ⟨ys, zs, decided, rfl, hq, h⟩ := h
  -- behind the translation come questions about RAID sets alone
  have hzs : reportedAddresses zs = [] := by
    refine reportedAddresses_eq_nil fun x hx => ?_
    cases decided with
    | some resolution =>
      obtain ⟨rfl, -⟩ := h
      cases hx
    | none =>
      have hcode := only_resolveIdentity _ _ h x hx
      intro hc
      simp [hc] at hcode
  rw [reportedAddresses_append, hzs, List.append_nil] at ha
  unfold resolveForm at hq
  split at hq
  · rename_i path target hform
    rw [Attempt.course_run_bind_ok] at hq
    obtain ⟨us, vs, reported, rfl, hask, rfl, hq⟩ := hq
    rw [List.append_nil, reportedAddresses_askDriver hask, Option.mem_toList] at ha
    cases ha
    rw [ofReported?_some hu] at hq
    cases hq
    exact ⟨path, target, hform, Except.ok.inj h.2⟩
  · obtain ⟨rfl, -⟩ := hq
    cases ha

/-! ## RAID sets -/

/-- A usable address at which a drive with the identity is reported is the one that is found. -/
theorem course_scanRaid_complete {identity : Identity} {found : Option SasAddress}
    (h : (s.scanRaid identity).run.Course xs (.ok found)) {d : RaidDrive}
    (hd : d ∈ drivesInUse xs) (hacc : identity.accepts d.model d.serialNumber = true)
    (hu : s.isUsable d.sasAddress = true) : found = some d.sasAddress := by
  rw [scanRaid, Attempt.course_run_bind_ok] at h
  obtain ⟨ys, zs, answer, rfl, hq, h⟩ := h
  have hys : drivesInUse ys = [] := drivesInUse_of_raidInfo (Attempt.course_run_lift_ok.1 hq)
  rw [drivesInUse_append, hys, List.nil_append] at hd
  cases answer with
  | error fault =>
    dsimp only at h
    split at h
    · obtain ⟨rfl, -⟩ := h
      cases hd
    · cases h.2
  | ok info =>
    rw [Attempt.course_run_bind_ok] at h
    obtain ⟨us, vs, found', rfl, hs, rfl, h⟩ := h
    cases h
    rw [List.append_nil] at hd
    have hmem : d.sasAddress ∈ addressesOf identity (drivesInUse us) :=
      mem_addressesOf.2 ⟨d, hd, hacc, rfl⟩
    have hscanned := scanned_scanSets (Inventory.lastIndex_lt _ info) hs
    cases hscanned with
    | all hsame _ => exact (filter_head?_eq_some_iff hsame).2 ⟨hmem, hu⟩

/-- The usable address of a RAID drive with the identity is the resolution: the sets are not asked
for unless they decide. -/
theorem resolve_of_listed {identity : Identity} {d : RaidDrive}
    (hk : s.target.knownAddress = none) (hid : s.target.identity = some identity)
    (hd : d ∈ drivesInUse xs) (hacc : identity.accepts d.model d.serialNumber = true)
    (hu : s.isUsable d.sasAddress = true) (h : s.resolve.run.Course xs (.ok resolution)) :
    resolution = .address d.sasAddress := by
  rw [resolve, hk, Option.filter_none, Attempt.course_run_bind_ok] at h
  obtain ⟨ys, zs, decided, rfl, hq, h⟩ := h
  have hys : drivesInUse ys = [] :=
    drivesInUse_eq_nil fun x hx hc => nomatch hc.symm.trans (only_resolveForm _ _ hq x hx)
  rw [drivesInUse_append, hys, List.nil_append] at hd
  cases decided with
  | some decided =>
    obtain ⟨rfl, -⟩ := h
    cases hd
  | none =>
    simp only [resolveIdentity, hid] at h
    rw [Attempt.course_run_bind_ok] at h
    obtain ⟨us, vs, found, rfl, hscan, h⟩ := h
    have hvs : drivesInUse vs = [] := by
      cases found with
      | none =>
        obtain ⟨rfl, -⟩ := h
        rfl
      | some a =>
        obtain ⟨rfl, -⟩ := h
        rfl
    rw [drivesInUse_append, hvs, List.append_nil] at hd
    rw [course_scanRaid_complete hscan hd hacc hu] at h
    exact Except.ok.inj h.2

/-! ## The phy table -/

/-- Locating a device in the phy table reports one table, in which it is placed. -/
theorem course_locate_inTable {satLayer : SatLayer} {found : Located} {a : SasAddress}
    (h : (s.locate satLayer (.address a)).run.Course xs (.ok found)) :
    ∃ table ys, reportedTables xs = [table] ∧ ys <:+: xs ∧
      (s.placeByAddress table a).run.Course ys (.ok found.placement) := by
  change (s.controller.phyTable >>= fun table => s.place table (.address a) >>= fun placement =>
    _).run.Course xs (.ok found) at h
  rw [Attempt.course_run_bind_ok] at h
  obtain ⟨ys, zs, table, rfl, ht, h⟩ := h
  rw [Attempt.course_run_bind_ok] at h
  obtain ⟨us, vs, placement, rfl, hp, rfl, h⟩ := h
  cases h
  have hus : reportedTables us = [] := by
    refine reportedTables_eq_nil fun x hx hc => ?_
    rcases (only_place _ _ hp x hx).2 with hp | hp
    · exact nomatch hc.symm.trans hp
    · exact nomatch hc.symm.trans hp
  refine ⟨table, us, ?_, ⟨ys, [], by simp⟩, hp⟩
  obtain ⟨x, rfl, -, hx, -⟩ := Controller.course_phyTable ht
  simp [reportedTables, hx, Except.toOption] at hus ⊢
  exact hus

end Search

/-! ## The steps of a discovery -/

namespace Staged

variable {s : Search} {satLayer : SatLayer} {xs rs ls : List Exchange} {resolution : Resolution}
variable {found : Located}

/-- Before and after the address is resolved, other questions are asked. -/
theorem around_resolve (h : Staged s satLayer xs rs ls resolution found) :
    ∃ us vs, xs = us ++ (rs ++ vs) ∧
      ∀ x ∈ us ++ vs, x.code ≠ .deviceAddress ∧ x.code ≠ .raidConfig := by
  obtain ⟨qs, ps, rfl, hq, hp⟩ := h.inOrder
  refine ⟨qs, ls ++ ps, rfl, fun x hx => ?_⟩
  rcases List.mem_append.1 hx with hx | hx
  · have hcode := hq x hx
    constructor <;> (intro hc; simp [hc] at hcode)
  rcases List.mem_append.1 hx with hx | hx
  · have hcode := Search.only_locate _ _ h.located x hx
    constructor <;> (intro hc; simp [hc, Search.Probes, Exchange.IsPassthrough] at hcode)
  · have hcode := hp x hx
    constructor <;> (intro hc; simp [hc] at hcode)

theorem reportedAddresses_eq (h : Staged s satLayer xs rs ls resolution found) :
    reportedAddresses xs = reportedAddresses rs := by
  obtain ⟨us, vs, rfl, hcodes⟩ := h.around_resolve
  obtain ⟨hus, hvs⟩ := List.forall_mem_append.1 hcodes
  rw [reportedAddresses_append, reportedAddresses_append,
    reportedAddresses_eq_nil fun x hx => (hus x hx).1,
    reportedAddresses_eq_nil fun x hx => (hvs x hx).1, List.nil_append, List.append_nil]

theorem drivesInUse_eq (h : Staged s satLayer xs rs ls resolution found) :
    drivesInUse xs = drivesInUse rs := by
  obtain ⟨us, vs, rfl, hcodes⟩ := h.around_resolve
  obtain ⟨hus, hvs⟩ := List.forall_mem_append.1 hcodes
  rw [drivesInUse_append, drivesInUse_append, drivesInUse_eq_nil fun x hx => (hus x hx).2,
    drivesInUse_eq_nil fun x hx => (hvs x hx).2, List.nil_append, List.append_nil]

/-- Only locating the device asks for the phy table. -/
theorem reportedTables_eq (h : Staged s satLayer xs rs ls resolution found) :
    reportedTables xs = reportedTables ls := by
  obtain ⟨qs, ps, rfl, hq, hp⟩ := h.inOrder
  have hqs : reportedTables qs = [] := reportedTables_eq_nil fun x hx hc => by
    simpa [hc] using hq x hx
  have hrs : reportedTables rs = [] := reportedTables_eq_nil fun x hx hc => by
    simpa [hc] using Search.only_resolve _ _ h.resolved x hx
  have hps : reportedTables ps = [] := reportedTables_eq_nil fun x hx hc => by
    simpa [hc] using hp x hx
  simp [hqs, hrs, hps]

end Staged

end DriveReach.Discovery
