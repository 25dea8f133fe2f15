import DriveReach.Proofs.Inventory.Origins
/-!
# Devices that a list keeps apart

A list is not to hold a device twice. RAID drives are told apart by their names and phys by their
identifiers, and the phys of drives with an address are left out of the search. `Apart` says what
this comes to for two devices of one controller.

* `Consistent`: what a controller and its devices reported fits together.
* `apart_of_drives`, `apart_of_phys`, `apart_of_drive_phy`: two devices are apart, by what they were
  opened for.
* `list_apart`: any two devices that a list brings from one controller are apart.
* `listed_twice`: none of the conditions in `Consistent` and `Apart` can be left out.
-/

set_option autoImplicit false

namespace DriveReach.Inventory

open Csmi Dialogue Discovery

variable {xs : List Exchange}

/-- A device reported its model and serial number when it was asked at an endpoint. -/
def Answered (xs : List Exchange) (ep : Endpoint) (reported : Reported) : Prop :=
  ∃ (s : Search) (ata : Bool), Recorded xs (s.identify ep ata).run (.ok reported)

/-- What was reported of phys and of drives in use fits together. -/
structure Consistent (xs : List Exchange) : Prop where
  table : ∀ t ∈ reportedTables xs, ∀ t' ∈ reportedTables xs, t = t'
  /-- Every end device is at a phy with an identifier of its own. -/
  identifiers : ∀ t ∈ reportedTables xs, (t.endDevices.map (·.identifier)).Nodup
  /-- No address has two names. -/
  names : ∀ d ∈ drivesInUse xs, ∀ e ∈ drivesInUse xs, d.sasAddress.isZero = false →
    d.sasAddress = e.sasAddress → nameOf d = nameOf e
  /-- No name stands with an address in one place and without one in another. -/
  addresses : ∀ d ∈ drivesInUse xs, ∀ e ∈ drivesInUse xs, nameOf d = nameOf e →
    d.sasAddress.isZero = e.sasAddress.isZero
  /-- No two serial numbers were read at one phy, or at one address. -/
  serials : ∀ ep ep' r r', Answered xs ep r → Answered xs ep' r' →
    ep.phy = ep'.phy ∨ ep.sasAddress.isZero = false ∧ ep.sasAddress = ep'.sasAddress →
    Text.trim r.serial = Text.trim r'.serial

/-- Two devices of one controller are kept apart, as far as a list goes. A device that was asked who
it is and one that was not are not told apart. -/
structure Apart (xs : List Exchange) (c d : Context) : Prop where
  /-- The search takes each phy once. -/
  searched : c.confidence = .phyOnly → d.confidence = .phyOnly → c.phy ≠ d.phy
  /-- Devices that answered to their identities differ in phy and address. -/
  answered : Consistent xs → c.confidence = .liveIdentity → d.confidence = .liveIdentity →
    c.phy ≠ d.phy ∧ (c.sasAddress.isZero = false → c.sasAddress ≠ d.sasAddress)
  /-- Devices that were not asked who they are differ in phy and address. A device at several phys
  is found at each of them by the search, and devices without an address are not told apart. -/
  placed : Consistent xs → c.confidence ≠ .liveIdentity → d.confidence ≠ .liveIdentity →
    c.sasAddress.isZero = false ∨ d.sasAddress.isZero = false →
    c.phy ≠ d.phy ∧
      (c.sasAddress = d.sasAddress → c.confidence = .phyOnly ∧ d.confidence = .phyOnly)

/-! ## Two devices -/

theorem mem_of_phy? {t : PhyTable} {identifier : UInt8} {p : Phy} (h : t.phy? identifier = some p) :
    p ∈ t.phys ∧ p.identifier = identifier := by
  have hfound : (p.identifier == identifier) = true :=
    List.find?_some (p := fun q : Phy => q.identifier == identifier) h
  exact ⟨List.mem_of_find?_eq_some h, beq_iff_eq.1 hfound⟩

/-- The device is at a phy of a reported table. -/
def StandsAt (xs : List Exchange) (c : Context) (p : Phy) : Prop :=
  ∃ t ∈ reportedTables xs, p ∈ t.endDevices ∧ c.phy = p.identifier ∧
    c.sasAddress = p.attached.sasAddress

theorem Consistent.phy_ne (h : Consistent xs) {c d : Context} {p q : Phy} (hc : StandsAt xs c p)
    (hd : StandsAt xs d q) (hne : c.sasAddress ≠ d.sasAddress) : c.phy ≠ d.phy := by
  obtain ⟨t, ht, hp, hphy, hsas⟩ := hc
  obtain ⟨t', ht', hq, hphy', hsas'⟩ := hd
  obtain rfl := h.table t ht t' ht'
  intro heq
  rw [hphy, hphy'] at heq
  have hsame : p = q := List.inj_on_of_nodup_map (h.identifiers t ht) hp hq heq
  apply hne
  rw [hsas, hsas', hsame]

theorem FromDrive.placed {d : RaidDrive} {c : Context} (h : FromDrive xs d c)
    (hnot : c.confidence ≠ .liveIdentity) :
    (∃ e ∈ drivesInUse xs, nameOf e = nameOf d ∧ e.sasAddress = c.sasAddress ∧
      (d.sasAddress.isZero = false → e.sasAddress = d.sasAddress)) ∧ ∃ p, StandsAt xs c p := by
  cases h with
  | byIdentity _ hlive _ => exact absurd hlive hnot
  | @byAddress e t p he hen hown ht hp hc =>
    have hphy : c.phy = p.identifier := congrArg Placement.phy hc
    have hsas : c.sasAddress = p.attached.sasAddress := congrArg Placement.sasAddress hc
    obtain ⟨hpe, hpa⟩ := mem_attachedAt.1 hp
    exact ⟨⟨e, he, hen, hpa.symm.trans hsas.symm, hown⟩, p, t, ht, hpe, hphy, hsas⟩

/-- A device that answered to the identity of a drive reported the serial number in its name. -/
theorem FromDrive.answered {d : RaidDrive} {c : Context} (h : FromDrive xs d c)
    (hlive : c.confidence = .liveIdentity) :
    ∃ reported, Answered xs (c.placement.endpoint c.sasLun) reported ∧
      nameOf d = some (.serial (Text.trim reported.serial)) := by
  cases h with
  | byAddress _ _ _ _ _ hc =>
    have hconf : c.confidence = .driverAddress := congrArg Placement.confidence hc
    exact nomatch hconf.symm.trans hlive
  | @byIdentity s identity hid _ hprobed =>
    obtain ⟨ata, reported, hrec, hacc⟩ := hprobed
    exact ⟨reported, ⟨s, ata, hrec⟩, nameOf_of_accepts hid hacc⟩

theorem FromDrive.not_phyOnly {d : RaidDrive} {c : Context} (h : FromDrive xs d c) :
    c.confidence ≠ .phyOnly := by
  intro hphy
  cases h with
  | byIdentity _ hlive _ =>
    rw [hlive] at hphy
    cases hphy
  | byAddress _ _ _ _ _ hc =>
    have hconf : c.confidence = .driverAddress := congrArg Placement.confidence hc
    rw [hconf] at hphy
    cases hphy

theorem FromPhy.placed {p : Phy} {c : Context} (h : FromPhy xs p c) :
    c.confidence = .phyOnly ∧ c.phy = p.identifier ∧ ∃ q, StandsAt xs c q := by
  obtain ⟨t, ht, q, hq, hend, hc⟩ := h
  have hphy : c.phy = q.identifier := congrArg Placement.phy hc
  obtain ⟨hmem, hqp⟩ := mem_of_phy? hq
  exact ⟨congrArg Placement.confidence hc, hphy.trans hqp, q, t, ht,
    List.mem_filter.2 ⟨hmem, hend⟩, hphy, congrArg Placement.sasAddress hc⟩

theorem FromPhy.not_liveIdentity {p : Phy} {c : Context} (h : FromPhy xs p c) :
    c.confidence ≠ .liveIdentity := by
  intro hlive
  obtain ⟨hconf, -⟩ := h.placed
  rw [hconf] at hlive
  cases hlive

/-- Drives with two names answer with two serial numbers. -/
theorem Consistent.answered {d e : RaidDrive} {c c' : Context} (h : Consistent xs)
    (hne : nameOf d ≠ nameOf e) (hd : FromDrive xs d c) (he : FromDrive xs e c')
    (hlive : c.confidence = .liveIdentity) (hlive' : c'.confidence = .liveIdentity) :
    c.phy ≠ c'.phy ∧ (c.sasAddress.isZero = false → c.sasAddress ≠ c'.sasAddress) := by
  obtain ⟨r, hr, hname⟩ := hd.answered hlive
  obtain ⟨r', hr', hname'⟩ := he.answered hlive'
  have hserial : Text.trim r.serial ≠ Text.trim r'.serial := by
    intro heq
    rw [hname, hname', heq] at hne
    exact hne rfl
  refine ⟨fun hphy => ?_, fun hzero hsas => ?_⟩
  · exact hserial (h.serials _ _ r r' hr hr' (.inl hphy))
  · exact hserial (h.serials _ _ r r' hr hr' (.inr ⟨hzero, hsas⟩))

theorem apart_of_drives {d e : RaidDrive} {c c' : Context} (hne : nameOf d ≠ nameOf e)
    (hd : FromDrive xs d c) (he : FromDrive xs e c') : Apart xs c c' := by
  refine ⟨fun hphy => absurd hphy hd.not_phyOnly, fun hcons => hcons.answered hne hd he,
    fun hcons hlive hlive' hzero => ?_⟩
  obtain ⟨⟨d', hd', hdn, hda, -⟩, p, hp⟩ := hd.placed hlive
  obtain ⟨⟨e', he', hen, hea, -⟩, q, hq⟩ := he.placed hlive'
  -- drives with two names are at two addresses
  have haddr : c.sasAddress ≠ c'.sasAddress := by
    intro heq
    have hnonzero : d'.sasAddress.isZero = false := by
      rw [heq, or_self] at hzero
      rw [hda, heq]
      exact hzero
    have hsame : d'.sasAddress = e'.sasAddress := by rw [hda, heq, hea]
    have hnames := hcons.names d' hd' e' he' hnonzero hsame
    exact hne (hdn.symm.trans (hnames.trans hen))
  exact ⟨hcons.phy_ne hp hq haddr, fun heq => absurd heq haddr⟩

theorem apart_of_phys {p q : Phy} {c c' : Context} (hne : p.identifier ≠ q.identifier)
    (hp : FromPhy xs p c) (hq : FromPhy xs q c') : Apart xs c c' := by
  obtain ⟨hconf, hphy, -⟩ := hp.placed
  obtain ⟨hconf', hphy', -⟩ := hq.placed
  have hphys : c.phy ≠ c'.phy := by rwa [hphy, hphy']
  exact ⟨fun _ _ => hphys, fun _ hlive => absurd hlive hp.not_liveIdentity,
    fun _ _ _ _ => ⟨hphys, fun _ => ⟨hconf, hconf'⟩⟩⟩

theorem apart_of_drive_phy {filter : Filter} {drives : List RaidDrive} {d : RaidDrive} {p : Phy}
    {t : PhyTable} {c c' : Context} (huse : d ∈ drivesInUse xs) (hlead : d ∈ leaders drives)
    (ht : t ∈ reportedTables xs)
    (hfree : p ∈ freePhys filter t.endDevices
      (claimAddresses t ((leaders drives).filterMap addressOf)))
    (hd : FromDrive xs d c) (hp : FromPhy xs p c') : Apart xs c c' := by
  refine ⟨fun hphy => absurd hphy hd.not_phyOnly,
    fun _ _ hlive' => absurd hlive' hp.not_liveIdentity, fun hcons hlive _ hzero => ?_⟩
  obtain ⟨⟨d', hd', hdn, hda, hown⟩, q, hq⟩ := hd.placed hlive
  obtain ⟨-, hphy, r, hr⟩ := hp.placed
  -- the phys of the drive were claimed, and those of a claimed address are not free
  have haddr : c.sasAddress ≠ c'.sasAddress := by
    intro heq
    have hnonzero : d'.sasAddress.isZero = false := by
      rw [heq, or_self] at hzero
      rw [hda, heq]
      exact hzero
    have hdzero : d.sasAddress.isZero = false :=
      (hcons.addresses d' hd' d huse hdn).symm.trans hnonzero
    have haddress : d'.sasAddress ∈ (leaders drives).filterMap addressOf := by
      refine List.mem_filterMap.2 ⟨d, hlead, ?_⟩
      rw [addressOf, hown hdzero, hdzero]
      rfl
    obtain ⟨t', ht', hrend, hrphy, hrsas⟩ := hr
    obtain rfl := hcons.table t ht t' ht'
    have hat : r.attached.sasAddress = d'.sasAddress := by rw [← hrsas, ← heq, hda]
    have hclaimed : Claimed t ((leaders drives).filterMap addressOf) p.identifier :=
      ⟨_, haddress, r, mem_attachedAt.2 ⟨hrend, hat⟩, hrphy.symm.trans hphy⟩
    obtain ⟨-, hlt, hnot⟩ := free_freePhys hfree
    rw [contains_claimAddresses.2 ⟨hlt, hclaimed⟩] at hnot
    cases hnot
  exact ⟨hcons.phy_ne hq hr haddr, fun heq => absurd heq haddr⟩

/-! ## All devices -/

theorem Sources.pairwise {plan : Plan} {place : Option String × UInt32} {traits : Driver.Traits}
    {drives : List RaidDrive} {phys : List Phy} (h : Sources xs plan.filter drives phys) :
    ((leaders drives).map (foundOf traits) ++ phys.map foundAt).Pairwise fun f g =>
      ∀ d e, Opens plan xs place f d → Opens plan xs place g e →
        Apart xs d.context e.context := by
  have huse : ∀ d ∈ leaders drives, d ∈ drivesInUse xs :=
    fun d hd => h.inUse ((leaders_sublist drives).subset hd)
  refine List.pairwise_append.2 ⟨List.pairwise_map.2 ?_, List.pairwise_map.2 ?_, ?_⟩
  · refine (pairwise_leaders drives).imp_of_mem fun {d e} hd he hne c c' hc hc' => ?_
    exact apart_of_drives hne (opens_foundOf (huse d hd) hc) (opens_foundOf (huse e he) hc')
  · have hphys : phys.Pairwise fun p q => p.identifier ≠ q.identifier := by
      rcases h.free with rfl | ⟨-, -, t, -, hsub⟩
      · exact .nil
      · exact (List.pairwise_map.1 (nodup_freePhys _ _ _)).sublist hsub
    exact hphys.imp fun hne c c' hc hc' => apart_of_phys hne (opens_foundAt hc) (opens_foundAt hc')
  · intro f hf g hg c c' hc hc'
    obtain ⟨d, hd, rfl⟩ := List.mem_map.1 hf
    obtain ⟨p, hp, rfl⟩ := List.mem_map.1 hg
    rcases h.free with rfl | ⟨-, -, t, ht, hsub⟩
    · cases hp
    · exact apart_of_drive_phy (huse d hd) hd ht (hsub.subset hp) (opens_foundOf (huse d hd) hc)
        (opens_foundAt hc')

/-- **Devices of one controller are kept apart**, whatever it answers. The search of the phy table
takes each phy once, and when the reports of the controller fit together, two devices that were
placed without asking them differ in phy and address. -/
theorem list_apart {σ : Type} (w : Surroundings σ) (plan : Plan) (base : Option String)
    (number : UInt32) (s : σ) (l : Listing) (left : List Candidate)
    (hrun : ((list plan [⟨base, [number]⟩]).run w s).value = (.ok l, left)) :
    l.devices.Pairwise fun d e =>
      Apart ((list plan [⟨base, [number]⟩]).exchanges w s) d.context e.context := by
  have h := course_run w (list plan [⟨base, [number]⟩]) s
  rw [hrun] at h
  generalize (list plan [⟨base, [number]⟩]).exchanges w s = xs at h ⊢
  obtain ⟨hauls, hplaces, hall, hdevices⟩ := course_list h
  rw [hdevices]
  -- there is one controller, so there is one haul at most
  have hlen : hauls.length ≤ 1 := by
    have := hplaces.length_le
    simpa [Candidate.places] using this
  cases hauls with
  | nil => exact .nil
  | cons haul more =>
    obtain rfl : more = [] := List.length_eq_zero_iff.1 (by simpa using hlen)
    rw [List.flatMap_singleton]
    refine (hall haul (List.mem_singleton_self haul)).pairwise fun found hs => ?_
    obtain ⟨ys, hi, hc⟩ := hs
    obtain ⟨traits, drives, phys, hsources, rfl⟩ := course_surveyController hc
    exact (hsources.mono hi).pairwise

/-- Nothing was asked of devices. -/
theorem not_answered {ep : Endpoint} {reported : Reported}
    (h : ∀ x ∈ xs, x.code ≠ .sspPassthrough ∧ x.code ≠ .stpPassthrough) :
    ¬ Answered xs ep reported := by
  rintro ⟨s, ata, ys, hi, hc⟩
  obtain ⟨x, hx, hp | hp⟩ := Search.identify_passthrough hc
  · exact (h x (hi.subset hx)).1 hp
  · exact (h x (hi.subset hx)).2 hp

/-- A drive by its address and a drive without a name, which is found at the other phy. -/
theorem list_apart_mixedSet :
    ∃ l left, ((list ⟨8, ⟨0⟩, {}, {}⟩ [⟨none, [0]⟩]).run (Script.steadyDriver mixedSet)
        ()).value = (.ok l, left) ∧
      l.devices.map (·.context.confidence) = [.driverAddress, .phyOnly] ∧
      let xs := (list ⟨8, ⟨0⟩, {}, {}⟩ [⟨none, [0]⟩]).exchanges (Script.steadyDriver mixedSet) ()
      Consistent xs ∧ l.devices.Pairwise fun d e => Apart xs d.context e.context := by
  have hlist : ((list ⟨8, ⟨0⟩, {}, {}⟩ [⟨none, [0]⟩]).run (Script.steadyDriver mixedSet)
      ()).value.1.toOption.map (·.devices.map (·.context.confidence)) =
        some [.driverAddress, .phyOnly] := by decide +kernel
  have hcalls : ∀ x ∈ (list ⟨8, ⟨0⟩, {}, {}⟩ [⟨none, [0]⟩]).exchanges
      (Script.steadyDriver mixedSet) (),
      x.code ≠ .sspPassthrough ∧ x.code ≠ .stpPassthrough := by decide +kernel
  obtain ⟨l, left, hrun, hconf⟩ := exists_listing hlist
  refine ⟨l, left, hrun, hconf, ?_, list_apart _ _ none 0 () l left hrun⟩
  exact {
    table := by decide +kernel
    identifiers := by decide +kernel
    names := by decide +kernel
    addresses := by decide +kernel
    serials := fun _ _ _ _ h => absurd h (not_answered hcalls) }

/-! ## Racks -/

/-- A rule that takes the calls of a code whose payload begins with some bytes. -/
def answering (code : ControlCode) (first : Bytes) (patches : List Script.Patch) : Script.Rule :=
  ⟨code.code, [(0, first)], none, none, .success, none, patches⟩

/-- The rule for one call only. -/
def once (rule : Script.Rule) : Script.Rule := { rule with uses := some 1 }

/-- A controller that is ready, with the name of its driver and further rules. -/
def readyController (driver : Bytes) (rules : List Script.Rule) : Script.Rack :=
  [(0, [answering .driverInfo [] [(0, driver)], answering .controllerConfig [] [],
    answering .controllerStatus [] [(0, [1])]] ++ rules)]

/-- There are some RAID sets, with room for two drives. -/
def setCount (sets : UInt8) : Script.Rule := answering .raidInfo [] [(0, [sets]), (4, [2])]

/-- The RAID set of an index holds members with serial numbers and addresses. -/
def setHolding (index : UInt8) (members : List (Bytes × SasAddress)) : Script.Rule :=
  answering .raidConfig [index] <| (15, [UInt8.ofNat members.length]) ::
    members.zipIdx.flatMap fun ((serial, address), i) =>
      [(84 + 136 * i, serial), (124 + 136 * i, address.bytes.toList), (141 + 136 * i, [1]),
        (144 + 136 * i, [3])]

/-- The phy table has disks that speak some protocols, at phys with identifiers and addresses. -/
def tableHolding (protocols : UInt8) (disks : List (UInt8 × SasAddress)) : Script.Rule :=
  answering .phyInfo [] <| (0, [UInt8.ofNat disks.length]) ::
    disks.zipIdx.flatMap fun ((identifier, address), i) =>
      [(24 + 64 * i, [identifier]), (40 + 64 * i, [0x10, 0, 0, protocols]),
        (52 + 64 * i, address.bytes.toList)]

/-- A disk answers IDENTIFY DEVICE with a serial number, in swapped pairs of bytes. -/
def identifying (serial : Bytes) : Script.Rule :=
  answering .stpPassthrough [] [(48, [0x34, 0, 0x50]), (132, [0, 2]), (156, serial)]

def secondDisk : SasAddress := ⟨#v[0x50, 0, 0, 0, 0, 0, 0, 2]⟩

/-- The serial number `S1`. -/
def serialOne : Bytes := [0x53, 0x31]

/-- The serial number `S2`. -/
def serialTwo : Bytes := [0x53, 0x32]

/-! ## Devices listed twice -/

/-- What a list has of the devices behind the controller of a rack. -/
def placesOf (rack : Script.Rack) : Option (List (UInt8 × SasAddress × Confidence)) :=
  ((list ⟨8, ⟨0⟩, {}, {}⟩ [⟨none, [0]⟩]).run Script.Rack.surroundings rack).value.1.toOption.map
    (·.devices.map fun d => (d.context.phy, d.context.sasAddress, d.context.confidence))

/-- A disk that one RAID set has with its serial number and another one without. -/
def diskOfTwoNames : Script.Rack := readyController []
  [setCount 2, setHolding 0 [(serialOne, firstDisk)], setHolding 1 [([], firstDisk)],
    tableHolding 1 [(0, firstDisk)]]

/-- A disk whose entry in a RAID set comes to have its address, beside a drive without a name. -/
def diskOfLateAddress : Script.Rack := readyController []
  [setCount 1, once (setHolding 0 [(serialOne, .zero), ([], .zero)]),
    setHolding 0 [(serialOne, firstDisk)], tableHolding 1 [(0, firstDisk)]]

/-- A disk at two phys of one port, behind a controller without RAID. -/
def diskAtTwoPhys : Script.Rack := readyController []
  [tableHolding 8 [(0, firstDisk), (1, firstDisk)]]

/-- Two disks at phys with one identifier. -/
def disksAtOnePhy : Script.Rack := readyController []
  [setCount 1, setHolding 0 [([], firstDisk), ([], secondDisk)],
    tableHolding 1 [(0, firstDisk), (0, secondDisk)]]

/-- Two disks, one of which takes the place of the other. -/
def disksInTurn : Script.Rack := readyController []
  [setCount 1, setHolding 0 [([], firstDisk), ([], secondDisk)],
    once (tableHolding 1 [(0, firstDisk)]), tableHolding 1 [(0, secondDisk)]]

/-- Two drives without addresses, where the driver takes the zero address for one. -/
def drivesAtZero : Script.Rack := readyController [0x69, 0x61, 0x53, 0x74, 0x6F, 0x72]
  [setCount 1, setHolding 0 [(serialOne, .zero), (serialTwo, .zero)], tableHolding 1 [(0, .zero)]]

/-- A drive by its serial number only, beside another drive; both can be the one disk. -/
def diskAskedOnce (other : SasAddress) : Script.Rack := readyController []
  [setCount 1, setHolding 0 [(serialOne, .zero), ([], other)], tableHolding 1 [(0, firstDisk)],
    identifying [0x31, 0x53]]

/-- Two drives by their serial numbers only, and a disk that answers with both in turn. -/
def diskOfTwoAnswers : Script.Rack := readyController []
  [setCount 1, setHolding 0 [(serialOne, .zero), (serialTwo, .zero)],
    tableHolding 1 [(0, firstDisk)], once (identifying [0x31, 0x53]), identifying [0x32, 0x53]]

/-- **A disk can be listed twice, and two drives can be listed at one phy**: when the reports do not
fit together, at the zero address, at several phys, and when only one of two was asked who it is. -/
theorem listed_twice :
    placesOf diskOfTwoNames =
      some [(0, firstDisk, .driverAddress), (0, firstDisk, .driverAddress)] ∧
    placesOf diskOfLateAddress =
      some [(0, firstDisk, .driverAddress), (0, firstDisk, .phyOnly)] ∧
    placesOf disksAtOnePhy =
      some [(0, firstDisk, .driverAddress), (0, secondDisk, .driverAddress)] ∧
    placesOf disksInTurn =
      some [(0, firstDisk, .driverAddress), (0, secondDisk, .driverAddress)] ∧
    placesOf diskOfTwoAnswers =
      some [(0, firstDisk, .liveIdentity), (0, firstDisk, .liveIdentity)] ∧
    placesOf drivesAtZero = some [(0, .zero, .driverAddress), (0, .zero, .driverAddress)] ∧
    placesOf diskAtTwoPhys = some [(0, firstDisk, .phyOnly), (1, firstDisk, .phyOnly)] ∧
    placesOf (diskAskedOnce firstDisk) =
      some [(0, firstDisk, .liveIdentity), (0, firstDisk, .driverAddress)] ∧
    placesOf (diskAskedOnce .zero) =
      some [(0, firstDisk, .liveIdentity), (0, firstDisk, .phyOnly)] := by
  refine ⟨?_, ?_, ?_, ?_, ?_, ?_, ?_, ?_, ?_⟩ <;> decide +kernel

end DriveReach.Inventory
