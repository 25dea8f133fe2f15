import DriveReach.Proofs.Discovery.Identity
import DriveReach.Proofs.Inventory.Listed
import DriveReach.Proofs.Inventory.Tally
/-!
# What listed devices are

A survey finds drives that RAID sets name and phys that are free. `Sources` ties both to what the
controller reported, and `FromDrive`, `FromPhy` say what the context of a device can be that was
opened for one of them.

* `course_surveyController`: what a survey finds has such sources.
* `opens_foundOf`: a device opened for a drive is at an address reported for it, or answered to its
  identity.
* `opens_foundAt`: a device opened for a phy is at that phy, whatever it is.
-/

set_option autoImplicit false

namespace DriveReach.Inventory

open Csmi Discovery

variable {plan : Plan} {filter : Filter} {xs ys : List Exchange}

/-! ## Sources of a survey -/

/-- There are devices that no RAID set names: a drive is without a name, or there is no RAID. -/
def Unnamed (xs : List Exchange) (drives : List RaidDrive) : Prop :=
  (∃ d ∈ drives, nameOf d = none) ∨ ∃ x ∈ xs, x.code = .raidInfo ∧ x.succeeds = false

/-- A survey can find the drives and the phys. -/
structure Sources (xs : List Exchange) (filter : Filter) (drives : List RaidDrive)
    (phys : List Phy) : Prop where
  inUse : drives ⊆ drivesInUse xs
  free : phys = [] ∨ filter.skipsPhys = false ∧ Unnamed xs drives ∧
    ∃ table ∈ reportedTables xs, phys.Sublist (freePhys filter table.endDevices
      (claimAddresses table ((leaders drives).filterMap addressOf)))

theorem Unnamed.mono {drives : List RaidDrive} (h : Unnamed ys drives) (hi : ys <:+: xs) :
    Unnamed xs drives :=
  h.imp_right fun ⟨x, hx, hc⟩ => ⟨x, hi.subset hx, hc⟩

theorem Sources.mono {drives : List RaidDrive} {phys : List Phy}
    (h : Sources ys filter drives phys) (hi : ys <:+: xs) : Sources xs filter drives phys := by
  refine ⟨fun d hd => drivesInUse_subset hi (h.inUse hd), h.free.imp_right ?_⟩
  rintro ⟨hskip, hu, table, ht, hsub⟩
  exact ⟨hskip, hu.mono hi, table, reportedTables_subset hi ht, hsub⟩

theorem AnswersSets.subset {c : Controller} {room : Nat} {is : List UInt32}
    {sets : List RaidConfig} (h : AnswersSets c room is xs sets) : sets ⊆ reportedSets xs := by
  induction h with
  | nil => exact List.nil_subset _
  | @answered i is x xs set sets hc _ ih =>
    have hfirst : set ∈ reportedSets ([x] ++ xs) :=
      reportedSets_subset (List.prefix_append [x] xs).isInfix (mem_reportedSets hc)
    have hrest := List.Subset.trans ih (reportedSets_subset (List.suffix_append [x] xs).isInfix)
    exact List.cons_subset.2 ⟨hfirst, hrest⟩
  | @declined i is x xs fault sets _ _ _ ih =>
    exact List.Subset.trans ih (reportedSets_subset (List.suffix_append [x] xs).isInfix)

theorem AnswersRaid.subset {c : Controller} {family : Driver.Family}
    {raid : Option (List RaidDrive)} (h : AnswersRaid c filter family xs raid) :
    raid.getD [] ⊆ drivesInUse xs := by
  cases h with
  | unsupported _ => exact List.nil_subset _
  | @sets x info xs sets _ ha =>
    intro d hd
    obtain ⟨set, hset, hmem⟩ := List.mem_flatMap.1 hd
    have hrep := reportedSets_subset (List.suffix_append [x] xs).isInfix (ha.subset hset)
    exact List.mem_flatMap.2 ⟨set, hrep, (List.mem_filter.1 hmem).1⟩

theorem not_succeeds_of_raidInfo {c : Controller} {x : Exchange} {code : ReturnCode}
    (h : c.raidInfo.run.Course [x] (.error (.notSupported code))) :
    x.code = .raidInfo ∧ x.succeeds = false := by
  obtain ⟨y, hy, hsent, hr⟩ := Controller.course_ask h
  obtain rfl : x = y := List.singleton_inj.1 hy
  refine ⟨hsent.code, ?_⟩
  rw [Bool.eq_false_iff]
  intro hs
  obtain ⟨reply, hreply⟩ := Exchange.checked_of_succeeds hs
  replace hr : Except.error (Fault.notSupported code) =
    x.checked.bind fun reply => RaidInfo.decode reply.payload := hr
  rw [hreply, Except.bind, RaidInfo.decode, Layout.require] at hr
  split at hr
  · cases hr
  · cases hr

theorem AnswersRaid.unnamed {c : Controller} {family : Driver.Family}
    {raid : Option (List RaidDrive)} (h : AnswersRaid c filter family xs raid)
    (hs : seeksPhys filter raid = true) : Unnamed xs (raid.getD []) := by
  cases h with
  | @unsupported x code hc => exact .inr ⟨x, List.mem_singleton_self x, not_succeeds_of_raidInfo hc⟩
  | @sets x info xs sets _ _ =>
    -- only drives without a name leave a shortfall
    rw [seeksPhys_sets, unnamedIn, ne_eq, List.countP_eq_zero] at hs
    simp only [not_forall, decide_eq_true_eq, not_not] at hs
    obtain ⟨⟨d, hd, hn⟩, -⟩ := hs
    exact .inl ⟨d, hd, hn⟩

theorem Surveyed.sources {c : Controller} {found : List Found}
    (h : Surveyed c filter xs (.ok found)) :
    ∃ traits drives phys, Sources xs filter drives phys ∧
      found = (leaders drives).map (foundOf traits) ++ phys.map foundAt := by
  cases h with
  | @named x driver xs raid _ hr _ =>
    have hi : xs <:+: x :: xs := (List.suffix_append [x] xs).isInfix
    refine ⟨(Driver.Family.classify driver.name).traits, raid.getD [], [], ⟨?_, .inl rfl⟩, ?_⟩
    · exact fun d hd => drivesInUse_subset hi (hr.subset hd)
    · rw [List.map_nil, List.append_nil]
      rfl
  | @searched x y driver xs raid table _ hr hs ht =>
    have hxs : xs <:+: x :: xs ++ [y] := ⟨[x], [y], rfl⟩
    have hy : [y] <:+: x :: xs ++ [y] := (List.suffix_append (x :: xs) [y]).isInfix
    have hskip : filter.skipsPhys = false := by
      rw [seeksPhys, Bool.and_eq_true, Bool.not_eq_true'] at hs
      exact hs.2
    refine ⟨_, raid.getD [], soughtPhys filter raid table,
      ⟨?_, .inr ⟨hskip, (hr.unnamed hs).mono hxs, table, ?_, ?_⟩⟩, rfl⟩
    · exact fun d hd => drivesInUse_subset hxs (hr.subset hd)
    · exact reportedTables_subset hy (mem_reportedTables ht)
    · exact Shortfall.cut_sublist _ _ _

theorem course_surveyController {base : Option String} {number : UInt32} {found : List Found}
    (h : (surveyController base number filter).run.Course xs (.ok found)) :
    ∃ traits drives phys, Sources xs filter drives phys ∧
      found = (leaders drives).map (foundOf traits) ++ phys.map foundAt := by
  rw [surveyController, Attempt.course_run_bind_ok] at h
  obtain ⟨ys, zs, channel, rfl, ha, hs⟩ := h
  obtain rfl := Dialogue.course_attach.1 ha
  exact (course_survey hs).sources

/-! ## Devices of drives and phys -/

/-- What the context of a device can be that was opened for a drive. -/
inductive FromDrive (xs : List Exchange) (d : RaidDrive) (c : Context) : Prop
  /-- The device is at an address that was reported for the drive, by its name. It is the drive's
  own unless that is zero. -/
  | byAddress {e : RaidDrive} {table : PhyTable} {p : Phy} :
    e ∈ drivesInUse xs → nameOf e = nameOf d →
    (d.sasAddress.isZero = false → e.sasAddress = d.sasAddress) → table ∈ reportedTables xs →
    p ∈ table.attachedAt e.sasAddress → c.placement = .ofPhy p .driverAddress → FromDrive xs d c
  | byIdentity {s : Search} {identity : Identity} :
    driveIdentity d = some identity → c.confidence = .liveIdentity → c.Probed s xs identity →
    FromDrive xs d c

/-- What the context of a device is that was opened for a phy. -/
def FromPhy (xs : List Exchange) (p : Phy) (c : Context) : Prop :=
  ∃ table ∈ reportedTables xs, ∃ q, table.phy? p.identifier = some q ∧ q.hasEndDevice = true ∧
    c.placement = .ofPhy q .phyOnly

theorem mem_reportedTables_of_recorded {c : Controller} {table : PhyTable}
    (h : Recorded xs c.phyTable.run (.ok table)) : table ∈ reportedTables xs := by
  obtain ⟨ys, hi, hc⟩ := h
  exact reportedTables_subset hi (mem_reportedTables hc)

theorem Lists.exists_drive {s : Search} {identity : Identity} {a : SasAddress}
    (h : s.Lists xs identity a) :
    ∃ e ∈ drivesInUse xs, identity.accepts e.model e.serialNumber = true ∧ e.sasAddress = a := by
  obtain ⟨index, room, set, ⟨ys, hi, hc⟩, e, he, hacc, ha⟩ := h
  have hset := reportedSets_subset hi (mem_reportedSets hc)
  exact ⟨e, List.mem_flatMap.2 ⟨set, hset, he⟩, hacc, ha⟩

/-- A target that is not one of the operating system is found in a phy table. -/
theorem opens_placed {place : Option String × UInt32} {f : Found} {d : Device}
    (hf : ∀ path unit, f.form ≠ .os path unit) (h : Opens plan xs place f d) :
    ∃ s : Search, ∃ table resolution, s.target = f.target place.1 place.2 ∧
      Recorded xs s.resolve.run (.ok resolution) ∧ table ∈ reportedTables xs ∧
      s.Placed table xs resolution d.context.placement ∧ d.context.sasLun = s.target.sasLun := by
  obtain ⟨ys, hi, hc⟩ := h
  obtain ⟨resolution, located, hd, -⟩ := Device.course_openTarget hc
  refine ⟨d.context.search (f.target place.1 place.2) plan.options, ?_⟩
  have hsited := hd.sited
  cases hsited with
  | @inTable table _ _ ht hp _ =>
    rw [← hd.placement] at hp
    exact ⟨table, resolution, rfl, hd.resolved.mono hi,
      mem_reportedTables_of_recorded (ht.mono hi), hp.mono hi, hd.sasLun⟩
  | nvme hform _ _ _ => exact absurd hform (hf _ _)

/-- An address that a drive resolves to was reported for it, and it is the drive's own unless that
is zero. -/
theorem exists_drive_of_resolve {s : Search} {place : Option String × UInt32}
    {traits : Driver.Traits} {d : RaidDrive} {a : SasAddress} (hd : d ∈ drivesInUse xs)
    (hs : s.target = (foundOf traits d).target place.1 place.2)
    (h : Recorded xs s.resolve.run (.ok (.address a))) :
    ∃ e ∈ drivesInUse xs, nameOf e = nameOf d ∧ e.sasAddress = a ∧
      (d.sasAddress.isZero = false → e.sasAddress = d.sasAddress) := by
  obtain ⟨ys, hi, hc⟩ := h
  have hknown : s.target.knownAddress = driveAddress traits d := by rw [hs]; rfl
  have hown : d.sasAddress.isZero = false → a = d.sasAddress := by
    intro hz
    have haddress : s.target.knownAddress = some d.sasAddress := by
      rw [hknown, driveAddress, hz]
      rfl
    have husable : s.isUsable d.sasAddress = true := by
      rw [Search.isUsable, hz]
      rfl
    exact Resolution.address.inj (Search.course_resolve_known haddress husable hc)
  cases Search.course_resolve hc with
  | known hk _ =>
    rw [hknown, driveAddress] at hk
    split at hk
    · cases hk
    · cases hk
      exact ⟨d, hd, rfl, rfl, fun _ => rfl⟩
  | translated hform _ _ =>
    rw [hs] at hform
    cases hform
  | listed hid hl _ =>
    -- the drive was found again by its identity
    rw [hs] at hid
    dsimp only [Found.target, foundOf] at hid
    obtain ⟨e, he, hacc, rfl⟩ := Lists.exists_drive (hl.mono hi)
    exact ⟨e, he, nameOf_eq_of_accepts hid hacc, rfl, hown⟩

theorem opens_foundOf {place : Option String × UInt32} {traits : Driver.Traits} {e : RaidDrive}
    {d : Device} (he : e ∈ drivesInUse xs) (h : Opens plan xs place (foundOf traits e) d) :
    FromDrive xs e d.context := by
  have hform : ∀ path unit, (foundOf traits e).form ≠ .os path unit := fun _ _ he => nomatch he
  obtain ⟨s, table, resolution, hs, hres, ht, hp, hlun⟩ := opens_placed hform h
  generalize hplacement : d.context.placement = placement at hp
  cases hp with
  | byAddress hm _ =>
    obtain ⟨e', he', hname, rfl, hown⟩ := exists_drive_of_resolve he hs hres
    exact .byAddress he' hname hown ht hm hplacement
  | @byIdentity _ identity phys p hid _ hsingled =>
    have hconf : d.context.confidence = .liveIdentity := congrArg Placement.confidence hplacement
    rw [hs] at hid
    dsimp only [Found.target, foundOf] at hid
    refine .byIdentity (s := s) hid hconf ?_
    rw [Context.Probed, hplacement, hlun]
    exact ⟨p.attached.target.reachesAta, hsingled.confirmed⟩
  | byHandle _ hphy _ _ =>
    rw [hs] at hphy
    cases hphy

theorem opens_foundAt {place : Option String × UInt32} {p : Phy} {d : Device}
    (h : Opens plan xs place (foundAt p) d) : FromPhy xs p d.context := by
  have hform : ∀ path unit, (foundAt p).form ≠ .os path unit := fun _ _ he => nomatch he
  obtain ⟨s, table, resolution, hs, hres, ht, hp, -⟩ := opens_placed hform h
  generalize hplacement : d.context.placement = placement at hp
  cases hp with
  | byAddress _ _ =>
    -- nothing that is known of a phy resolves to an address
    obtain ⟨ys, -, hc⟩ := hres
    cases Search.course_resolve hc with
    | known hk _ =>
      rw [hs] at hk
      cases hk
    | translated hform _ _ =>
      rw [hs] at hform
      cases hform
    | listed hid _ _ =>
      rw [hs] at hid
      cases hid
  | byIdentity hid _ _ =>
    rw [hs] at hid
    cases hid
  | byHandle _ hphy hq he =>
    rw [hs] at hphy
    cases hphy
    exact ⟨table, ht, _, hq, he, hplacement⟩

/-- The address of the first disk of scripted controllers. -/
def firstDisk : SasAddress := ⟨#v[0x50, 0, 0, 0, 0, 0, 0, 1]⟩

end DriveReach.Inventory
