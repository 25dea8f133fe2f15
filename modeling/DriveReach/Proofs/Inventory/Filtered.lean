import DriveReach.Proofs.Inventory.Named
/-!
# What the filter of a list is applied to

A filter asks for SATA devices only, or for SAS devices only. A survey applies it to what it finds a
device by (`Origin`): the type in the entry of a RAID set, or the protocols of a phy. The device
that is opened then has the protocols of the phy at which the opening finds it (`Listed`), and these
are not compared with the filter.

* `Surveyed.wanted`: what a survey finds was reported, and the filter wants it.
* `list_filtered`: a listed device is as the filter asks where what it was found by agrees with the
  phy at which it was opened.
* `filter_missed`: where they do not agree, both filters let through what they are to keep out.
-/

set_option autoImplicit false

namespace DriveReach.Inventory

open Csmi Dialogue Discovery

variable {plan : Plan} {filter : Filter} {xs ys : List Exchange}

/-- A device of some protocols is as the filter asks. -/
structure Filter.Admits (filter : Filter) (protocol : Sas.PortProtocol) : Prop where
  sata : filter.sataOnly = true → filter.sasOnly = false → protocol.reachesAta = true
  sas : filter.sasOnly = true → filter.sataOnly = false → protocol.reachesAta = false

theorem Filter.admits_of_wants {protocol : Sas.PortProtocol}
    (h : filter.wants protocol.reachesAta = true) : filter.Admits protocol := by
  unfold Filter.wants at h
  split at h
  · rename_i hata
    rw [Bool.not_eq_true'] at h
    exact ⟨fun _ _ => hata, fun hsas _ => (nomatch h.symm.trans hsas)⟩
  · rename_i hata
    rw [Bool.not_eq_true'] at h
    exact ⟨fun hsata _ => (nomatch h.symm.trans hsata), fun _ _ => Bool.eq_false_iff.2 hata⟩

/-! ## What a survey finds devices by -/

/-- What a survey finds a device by. -/
inductive Origin where
  | drive (e : RaidDrive)
  | phy (p : Phy)

namespace Origin

/-- What the filter is asked about. -/
def isSata : Origin → Bool
  | drive e => e.driveType.isSata
  | phy p => p.attached.target.reachesAta

/-- What is found. -/
def found (traits : Driver.Traits) : Origin → Found
  | drive e => foundOf traits e
  | phy p => foundAt p

/-- A RAID set holds the drive in use, or a phy table the phy with an end device. -/
def Reported (xs : List Exchange) : Origin → Prop
  | drive e => e ∈ drivesInUse xs
  | phy p => ∃ t ∈ reportedTables xs, p ∈ t.endDevices

/-- The opening finds what the survey found at the phy `q` of a table: a phy by its identifier. -/
def Meets (t : PhyTable) (q : Phy) : Origin → Prop
  | drive _ => q ∈ t.endDevices
  | phy p => t.phy? p.identifier = some q ∧ q ∈ t.endDevices

end Origin

theorem AnswersRaid.wanted {c : Controller} {family : Driver.Family}
    {raid : Option (List RaidDrive)} (h : AnswersRaid c filter family xs raid) {e : RaidDrive}
    (he : e ∈ raid.getD []) : e ∈ drivesInUse xs ∧ filter.wants e.driveType.isSata = true := by
  cases raid with
  | none => cases he
  | some drives =>
    rw [Option.getD_some, h.inUse] at he
    exact List.mem_filter.1 he

/-- What a survey finds was reported, and the filter wants it. -/
theorem Surveyed.wanted {c : Controller} {found : List Found}
    (h : Surveyed c filter xs (.ok found)) {f : Found} (hf : f ∈ found) :
    ∃ (origin : Origin) (traits : Driver.Traits), f = origin.found traits ∧ origin.Reported xs ∧
      filter.wants origin.isSata = true := by
  have hraid {driver : DriverInfo} {zs : List Exchange} {raid : Option (List RaidDrive)}
      (hr : AnswersRaid c filter (.classify driver.name) zs raid) (hi : zs <:+: xs)
      (hm : f ∈ foundByRaid (.classify driver.name) raid) :
      ∃ (origin : Origin) (traits : Driver.Traits), f = origin.found traits ∧
        origin.Reported xs ∧ filter.wants origin.isSata = true := by
    obtain ⟨e, he, rfl⟩ := List.mem_map.1 hm
    obtain ⟨huse, hw⟩ := hr.wanted ((leaders_sublist _).subset he)
    exact ⟨.drive e, _, rfl, drivesInUse_subset hi huse, hw⟩
  cases h with
  | @named x driver zs raid _ hr _ => exact hraid hr (List.suffix_append [x] zs).isInfix hf
  | @searched x y driver zs raid table _ hr _ ht =>
    rcases List.mem_append.1 hf with hm | hm
    · exact hraid hr ⟨[x], [y], rfl⟩ hm
    · obtain ⟨p, hp, rfl⟩ := List.mem_map.1 hm
      have hfree := (Shortfall.cut_sublist _ _ _).subset hp
      have htable : table ∈ reportedTables (x :: zs ++ [y]) :=
        reportedTables_subset (List.suffix_append (x :: zs) [y]).isInfix (mem_reportedTables ht)
      refine ⟨.phy p, (Driver.Family.classify driver.name).traits, rfl, ?_,
        (free_freePhys hfree).1⟩
      exact ⟨table, htable, (freePhys_sublist _ _ _).subset hfree⟩

/-! ## Opened devices -/

/-- A device was listed: the exchanges `xs` of a survey report what it was found by, and it was
opened by the exchanges `ys`, which find it at the phy `q`. -/
structure Listed (plan : Plan) (place : Option String × UInt32) (xs ys : List Exchange)
    (origin : Origin) (q : Phy) (d : Device) : Prop where
  reported : origin.Reported xs
  wanted : plan.filter.wants origin.isSata = true
  opened : ∃ traits, (Device.openTarget ((origin.found traits).target place.1 place.2)
    plan.options plan.collaborators).run.Course ys (.ok d)
  met : ∃ t ∈ reportedTables ys, origin.Meets t q
  placement : d.context.placement = .ofPhy q d.context.confidence

theorem Listed.admits {place : Option String × UInt32} {origin : Origin} {q : Phy} {d : Device}
    (h : Listed plan place xs ys origin q d)
    (hagree : origin.isSata = q.attached.target.reachesAta) :
    plan.filter.Admits d.context.protocol := by
  have hprotocol : d.context.protocol = q.attached.target :=
    congrArg Placement.protocol h.placement
  apply Filter.admits_of_wants
  rw [hprotocol, ← hagree]
  exact h.wanted

/-- A phy that the opening finds again, as the only one with its identifier or the first, is the one
that the filter wanted. -/
theorem Listed.admits_of_phy {place : Option String × UInt32} {p q : Phy} {d : Device}
    (h : Listed plan place xs ys (.phy p) q d)
    (hagain : ∀ t ∈ reportedTables ys, t.phy? p.identifier = some p) :
    plan.filter.Admits d.context.protocol := by
  obtain ⟨t, ht, hq, -⟩ := h.met
  obtain rfl : p = q := Option.some.inj ((hagain t ht).symm.trans hq)
  exact h.admits rfl

/-- An opening finds a device at the phy of an end device. -/
theorem placed_at_phy {s : Search} {table : PhyTable} {resolution : Resolution}
    {placement : Placement} (h : s.Placed table xs resolution placement) :
    ∃ q ∈ table.endDevices, ∃ confidence, placement = .ofPhy q confidence := by
  cases h with
  | byAddress hm _ => exact ⟨_, (mem_attachedAt.1 hm).1, _, rfl⟩
  | byIdentity _ hphys hsingled =>
    rcases hphys with rfl | rfl
    · exact ⟨_, hsingled.mem, _, rfl⟩
    · exact ⟨_, (mem_attachedAt.1 hsingled.mem).1, _, rfl⟩
  | byHandle _ _ hq hend => exact ⟨_, List.mem_filter.2 ⟨(mem_of_phy? hq).1, hend⟩, _, rfl⟩

/-- The opening of what was found meets it at a phy. -/
theorem Origin.exists_meets {origin : Origin} {place : Option String × UInt32}
    {traits : Driver.Traits} {d : Device} (h : Opens plan ys place (origin.found traits) d) :
    ∃ q, (∃ t ∈ reportedTables ys, origin.Meets t q) ∧
      d.context.placement = .ofPhy q d.context.confidence := by
  have hplaced {q : Phy} {confidence : Confidence}
      (hp : d.context.placement = .ofPhy q confidence) :
      d.context.placement = .ofPhy q d.context.confidence := by
    have hconf : d.context.confidence = confidence := congrArg Placement.confidence hp
    rw [hconf, hp]
  cases origin with
  | drive e =>
    have hform : ∀ path unit, (foundOf traits e).form ≠ .os path unit := fun _ _ he => nomatch he
    obtain ⟨s, table, resolution, -, -, ht, hp, -⟩ := opens_placed hform h
    obtain ⟨q, hq, confidence, hc⟩ := placed_at_phy hp
    exact ⟨q, ⟨table, ht, hq⟩, hplaced hc⟩
  | phy p =>
    obtain ⟨t, ht, q, hq, hend, hc⟩ := opens_foundAt h
    exact ⟨q, ⟨t, ht, hq, List.mem_filter.2 ⟨(mem_of_phy? hq).1, hend⟩⟩, hplaced hc⟩

/-! ## Lists -/

/-- **A listed device is as the filter asks, as far as the reports agree**: it was found, at a
controller of the candidates, by a drive or a phy that the filter wants, and opened at a phy. When
that phy speaks SATA or STP just as the drive or the phy was to do, a list of SATA devices only has
no other device and a list of SAS devices only has none that speaks them. For a phy this is so when
the phy tables of the opening have that very phy under its identifier. -/
theorem list_filtered {σ : Type} (w : Surroundings σ) (plan : Plan)
    (candidates left : List Candidate) (s : σ) (l : Listing)
    (hrun : ((list plan candidates).run w s).value = (.ok l, left)) :
    ∀ d ∈ l.devices, ∃ place us ys origin q, place ∈ candidates.flatMap Candidate.places ∧
      us <:+: (list plan candidates).exchanges w s ∧
      ys <:+: (list plan candidates).exchanges w s ∧ Listed plan place us ys origin q d ∧
      (origin.isSata = q.attached.target.reachesAta → plan.filter.Admits d.context.protocol) ∧
      ∀ p, origin = .phy p → (∀ t ∈ reportedTables ys, t.phy? p.identifier = some p) →
        plan.filter.Admits d.context.protocol := by
  have h := course_run w (list plan candidates) s
  rw [hrun] at h
  generalize (list plan candidates).exchanges w s = xs at h ⊢
  obtain ⟨hauls, hplaces, hall, hdevices⟩ := course_list h
  intro d hd
  rw [hdevices] at hd
  obtain ⟨haul, hhaul, hd⟩ := List.mem_flatMap.1 hd
  obtain ⟨found, ⟨us, hus, hs⟩, f, hf, ⟨ys, hys, ho⟩⟩ := (hall haul hhaul).exists_opens hd
  rw [surveyController, Attempt.course_run_bind_ok] at hs
  obtain ⟨as, bs, channel, rfl, ha, hs⟩ := hs
  obtain rfl := course_attach.1 ha
  obtain ⟨origin, traits, rfl, hreported, hwanted⟩ := (course_survey hs).wanted hf
  obtain ⟨q, hmet, hplacement⟩ := Origin.exists_meets (Recorded.of_course ho)
  have hlisted : Listed plan haul.place bs ys origin q d :=
    ⟨hreported, hwanted, ⟨traits, ho⟩, hmet, hplacement⟩
  exact ⟨haul.place, bs, ys, origin, q, hplaces.subset (List.mem_map_of_mem hhaul), hus, hys,
    hlisted, hlisted.admits, fun p hp hagain => (hp ▸ hlisted).admits_of_phy hagain⟩

/-- A RAID set of a SATA drive, a SAS drive and a SATA drive without a name, with a disk for each at
a phy. -/
def threeKinds : ControlCode → List Script.Patch
  | .controllerStatus => [(0, [1])]
  | .raidInfo => [(0, [1]), (4, [3])]
  | .raidConfig => [(15, [3]), (84, serialOne), (124, firstDisk.bytes.toList), (141, [1]),
    (144, [3]), (220, serialTwo), (260, secondDisk.bytes.toList), (277, [1]), (280, [1]),
    (413, [1]), (416, [3])]
  | .phyInfo => [(0, [3]), (40, [0x10, 0, 0, 0x01]), (52, firstDisk.bytes.toList),
    (88, [1]), (104, [0x10, 0, 0, 0x08]), (116, secondDisk.bytes.toList),
    (152, [2]), (168, [0x10, 0, 0, 0x01]), (180, [0x50, 0, 0, 0, 0, 0, 0, 3])]
  | _ => []

/-- What a list under a filter has of the devices behind a controller: the phys, and whether they
speak SATA or STP. -/
def sidesOf {σ : Type} (filter : Filter) (w : Surroundings σ) (s : σ) :
    Option (List (UInt8 × Bool)) :=
  ((list ⟨8, filter, {}, {}⟩ [⟨none, [0]⟩]).run w s).value.1.toOption.map
    (·.devices.map fun d => (d.context.phy, d.context.protocol.reachesAta))

/-- The SATA devices are listed by the RAID set and by the search of the phys. -/
theorem list_filtered_threeKinds :
    ∃ l left, ((list ⟨8, ⟨2⟩, {}, {}⟩ [⟨none, [0]⟩]).run (Script.steadyDriver threeKinds)
        ()).value = (.ok l, left) ∧
      l.devices.map (fun d => (d.context.phy, d.context.protocol.reachesAta)) =
        [(0, true), (2, true)] ∧
      ∀ d ∈ l.devices, ∃ place us ys origin q, place ∈ [(none, 0)] ∧
        Listed ⟨8, ⟨2⟩, {}, {}⟩ place us ys origin q d ∧
        (origin.isSata = q.attached.target.reachesAta →
          Filter.Admits ⟨2⟩ d.context.protocol) := by
  have hlist : sidesOf ⟨2⟩ (Script.steadyDriver threeKinds) () = some [(0, true), (2, true)] := by
    decide +kernel
  obtain ⟨l, left, hrun, hsides⟩ := exists_listing hlist
  refine ⟨l, left, hrun, hsides, fun d hd => ?_⟩
  obtain ⟨place, us, ys, origin, q, hplace, -, -, hlisted, hadmits, -⟩ :=
    list_filtered _ _ _ _ () l hrun d hd
  exact ⟨place, us, ys, origin, q, hplace, hlisted, hadmits⟩

/-- A RAID set with one named drive of a type, and a disk that speaks some protocols at a phy. -/
def driveOfType (type protocols : UInt8) : Script.Rack := readyController []
  [setCount 1,
    answering .raidConfig [0] [(15, [1]), (84, serialOne), (124, firstDisk.bytes.toList),
      (141, [1]), (144, [type])],
    tableHolding protocols [(0, firstDisk)]]

/-- Two phys with one identifier behind a controller without RAID: SSP first, then SATA. -/
def physOfOneIdentifier : Script.Rack := readyController []
  [answering .phyInfo [] [(0, [2]), (40, [0x10, 0, 0, 0x08]), (52, firstDisk.bytes.toList),
    (104, [0x10, 0, 0, 0x01]), (116, secondDisk.bytes.toList)]]

/-- A SATA disk that an SSP device replaces after the survey. -/
def diskReplaced : Script.Rack := readyController []
  [once (tableHolding 1 [(0, firstDisk)]), tableHolding 8 [(0, secondDisk)]]

/-- **Both filters let through what they are to keep out**: under SAS only, a SATA disk whose entry
has an unknown type; under SATA only, an SSP device whose entry says SATA, and at phys one that has
its identifier from a SATA disk or has taken its place. -/
theorem filter_missed :
    sidesOf ⟨4⟩ Script.Rack.surroundings (driveOfType 0 1) = some [(0, true)] ∧
    sidesOf ⟨2⟩ Script.Rack.surroundings (driveOfType 3 8) = some [(0, false)] ∧
    sidesOf ⟨2⟩ Script.Rack.surroundings physOfOneIdentifier = some [(0, false)] ∧
    sidesOf ⟨2⟩ Script.Rack.surroundings diskReplaced = some [(0, false)] := by
  refine ⟨?_, ?_, ?_, ?_⟩ <;> decide +kernel

end DriveReach.Inventory
