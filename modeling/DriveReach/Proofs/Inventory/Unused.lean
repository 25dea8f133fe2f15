import DriveReach.Proofs.Inventory.Origins
/-!
# Drives that are not in use

A RAID set can hold drives that are not in use. They are no devices, and no survey takes them up.

* `unused_not_listed`: when all drives in use are named, no device is listed at the address of such
  a drive, unless it answers to the identity of a drive in use.
* `unused_listed`: a drive in use without a name has the phy table searched, and the search takes
  the phy of a drive that is not in use.
-/

set_option autoImplicit false

namespace DriveReach.Inventory

open Csmi Dialogue Discovery

variable {plan : Plan} {xs : List Exchange}

/-- The RAID sets hold drives with an address, if at all, as drives that are not in use. -/
def UnusedAt (xs : List Exchange) (a : SasAddress) : Prop :=
  ∀ set ∈ reportedSets xs, ∀ d ∈ set.drives, d.sasAddress = a → d.usage.isCountable = false

instance (xs : List Exchange) (a : SasAddress) : Decidable (UnusedAt xs a) :=
  inferInstanceAs (Decidable (∀ set ∈ reportedSets xs, ∀ d ∈ set.drives,
    d.sasAddress = a → d.usage.isCountable = false))

theorem UnusedAt.not_inUse {a : SasAddress} (h : UnusedAt xs a) {d : RaidDrive}
    (hd : d ∈ drivesInUse xs) : d.sasAddress ≠ a := by
  intro ha
  obtain ⟨set, hset, hm⟩ := List.mem_flatMap.1 hd
  obtain ⟨hmem, huse⟩ := List.mem_filter.1 hm
  exact nomatch huse.symm.trans (h set hset d hmem ha)

/-- The device answered to the identity of a drive in use. -/
def AnswersForDrive (xs : List Exchange) (c : Context) : Prop :=
  c.confidence = .liveIdentity ∧ ∃ d ∈ drivesInUse xs, ∃ identity, ∃ s : Search,
    driveIdentity d = some identity ∧ c.Probed s xs identity

theorem FromDrive.answers {a : SasAddress} {d : RaidDrive} {c : Context}
    (h : FromDrive xs d c) (hd : d ∈ drivesInUse xs) (hunused : UnusedAt xs a)
    (hat : c.sasAddress = a) : AnswersForDrive xs c := by
  cases h with
  | @byAddress e table p he _ _ _ hp hplacement =>
    have hsas : c.sasAddress = p.attached.sasAddress := congrArg Placement.sasAddress hplacement
    have hp' : p.attached.sasAddress = e.sasAddress := (mem_attachedAt.1 hp).2
    exact absurd (hp'.symm.trans (hsas.symm.trans hat)) (hunused.not_inUse he)
  | byIdentity hid hlive hprobed => exact ⟨hlive, d, hd, _, _, hid, hprobed⟩

/-- **A drive that is not in use is not listed**, when the RAID queries are answered and no drive in
use is without a name, or phys are not to be searched: no device of a list is at its address, but
for one that itself answers to the identity of a drive in use. -/
theorem unused_not_listed {σ : Type} (w : Surroundings σ) (plan : Plan)
    (candidates left : List Candidate) (s : σ) (l : Listing)
    (hrun : ((list plan candidates).run w s).value = (.ok l, left))
    (hraid : ∀ x ∈ (list plan candidates).exchanges w s, x.code = .raidInfo → x.succeeds = true)
    (hnamed : plan.filter.skipsPhys = true ∨
      ∀ d ∈ drivesInUse ((list plan candidates).exchanges w s), nameOf d ≠ none)
    (a : SasAddress) (hunused : UnusedAt ((list plan candidates).exchanges w s) a) :
    ∀ d ∈ l.devices, d.context.sasAddress = a →
      AnswersForDrive ((list plan candidates).exchanges w s) d.context := by
  have h := course_run w (list plan candidates) s
  rw [hrun] at h
  generalize (list plan candidates).exchanges w s = xs at h hraid hnamed hunused ⊢
  obtain ⟨hauls, -, hall, hdevices⟩ := course_list h
  intro d hd hat
  rw [hdevices] at hd
  obtain ⟨haul, hhaul, hd⟩ := List.mem_flatMap.1 hd
  obtain ⟨found, ⟨ys, hi, hs⟩, f, hf, hopens⟩ := (hall haul hhaul).exists_opens hd
  obtain ⟨traits, drives, phys, hsources, rfl⟩ := course_surveyController hs
  replace hsources := hsources.mono hi
  rcases List.mem_append.1 hf with hf | hf
  · obtain ⟨e, he, rfl⟩ := List.mem_map.1 hf
    have huse : e ∈ drivesInUse xs := hsources.inUse ((leaders_sublist drives).subset he)
    exact (opens_foundOf huse hopens).answers huse hunused hat
  · -- nothing is found at phys: all drives are named, or the search is switched off
    obtain ⟨p, hp, -⟩ := List.mem_map.1 hf
    rcases hsources.free with rfl | ⟨hskip, hunnamed, -⟩
    · cases hp
    · rcases hnamed with hoff | hn
      · exact nomatch hoff.symm.trans hskip
      · rcases hunnamed with ⟨e, he, hnone⟩ | ⟨x, hx, hcode, hfails⟩
        · exact absurd hnone (hn e (hsources.inUse he))
        · exact nomatch (hraid x hx hcode).symm.trans hfails

/-- A RAID set with a drive in use at one disk and a drive that is not in use at another. -/
def idleDisk : ControlCode → List Script.Patch
  | .controllerStatus => [(0, [1])]
  | .raidInfo => [(0, [1]), (4, [2])]
  | .raidConfig => [(15, [2]), (84, [0x53, 0x31]), (124, [0x50, 0, 0, 0, 0, 0, 0, 2]),
    (141, [1]), (144, [3]), (260, [0x50, 0, 0, 0, 0, 0, 0, 1]), (280, [3])]
  | .phyInfo => [(0, [2]), (40, [0x10, 0, 0, 0x01]), (52, [0x50, 0, 0, 0, 0, 0, 0, 1]),
    (88, [1]), (104, [0x10, 0, 0, 0x01]), (116, [0x50, 0, 0, 0, 0, 0, 0, 2])]
  | _ => []

theorem unused_not_listed_idleDisk :
    ∃ l left, ((list ⟨8, ⟨0⟩, {}, {}⟩ [⟨none, [0]⟩]).run (Script.steadyDriver idleDisk)
        ()).value = (.ok l, left) ∧ l.devices.length = 1 ∧
      let xs := (list ⟨8, ⟨0⟩, {}, {}⟩ [⟨none, [0]⟩]).exchanges (Script.steadyDriver idleDisk) ()
      UnusedAt xs firstDisk ∧ (∀ x ∈ xs, x.code = .raidInfo → x.succeeds = true) ∧
        (∀ d ∈ drivesInUse xs, nameOf d ≠ none) ∧
        ∀ d ∈ l.devices, d.context.sasAddress = firstDisk → AnswersForDrive xs d.context := by
  have hlist : ((list ⟨8, ⟨0⟩, {}, {}⟩ [⟨none, [0]⟩]).run (Script.steadyDriver idleDisk)
      ()).value.1.toOption.map (·.devices.length) = some 1 := by decide +kernel
  have hraid : ((list ⟨8, ⟨0⟩, {}, {}⟩ [⟨none, [0]⟩]).exchanges (Script.steadyDriver idleDisk)
      ()).all (fun x => x.code = .raidInfo → x.succeeds = true) = true := by decide +kernel
  have hunused : UnusedAt ((list ⟨8, ⟨0⟩, {}, {}⟩ [⟨none, [0]⟩]).exchanges
      (Script.steadyDriver idleDisk) ()) firstDisk := by decide +kernel
  have hnamed : ∀ d ∈ drivesInUse ((list ⟨8, ⟨0⟩, {}, {}⟩ [⟨none, [0]⟩]).exchanges
      (Script.steadyDriver idleDisk) ()), nameOf d ≠ none := by decide +kernel
  obtain ⟨l, left, hrun, hlen⟩ := exists_listing hlist
  have hraid' := fun x hx => of_decide_eq_true (List.all_eq_true.1 hraid x hx)
  exact ⟨l, left, hrun, hlen, hunused, hraid', hnamed,
    unused_not_listed _ _ _ _ () l hrun hraid' (.inr hnamed) firstDisk hunused⟩

/-- A RAID set with a drive in use that has no name, and a drive that is not in use at the only
disk. -/
def lostDisk : ControlCode → List Script.Patch
  | .controllerStatus => [(0, [1])]
  | .raidInfo => [(0, [1]), (4, [2])]
  | .raidConfig => [(15, [2]), (141, [1]), (144, [3]), (260, [0x50, 0, 0, 0, 0, 0, 0, 1]),
    (280, [3])]
  | .phyInfo => [(0, [1]), (40, [0x10, 0, 0, 0x01]), (52, [0x50, 0, 0, 0, 0, 0, 0, 1])]
  | _ => []

/-- **A drive that is not in use is listed**: the phy table is searched for another drive, and what
the search finds is the drive that no RAID set uses. -/
theorem unused_listed :
    let xs := (list ⟨8, ⟨0⟩, {}, {}⟩ [⟨none, [0]⟩]).exchanges (Script.steadyDriver lostDisk) ()
    (∀ x ∈ xs, x.code = .raidInfo ∨ x.code = .raidConfig → x.succeeds = true) ∧
      (∃ set ∈ reportedSets xs, ∃ d ∈ set.drives, d.sasAddress = firstDisk ∧ d.usage = .notUsed) ∧
      UnusedAt xs firstDisk ∧
      ((count [⟨none, [0]⟩] ⟨0⟩).run (Script.steadyDriver lostDisk) ()).value = ⟨⟨1, 0⟩, []⟩ ∧
      ∃ l left, ((list ⟨8, ⟨0⟩, {}, {}⟩ [⟨none, [0]⟩]).run (Script.steadyDriver lostDisk)
          ()).value = (.ok l, left) ∧
        l.devices.map (fun d => (d.context.sasAddress, d.context.confidence)) =
          [(firstDisk, .phyOnly)] := by
  have hraid : ((list ⟨8, ⟨0⟩, {}, {}⟩ [⟨none, [0]⟩]).exchanges (Script.steadyDriver lostDisk)
      ()).all (fun x => x.code = .raidInfo ∨ x.code = .raidConfig → x.succeeds = true) = true := by
    decide +kernel
  have hlist : ((list ⟨8, ⟨0⟩, {}, {}⟩ [⟨none, [0]⟩]).run (Script.steadyDriver lostDisk)
      ()).value.1.toOption.map
        (·.devices.map fun d => (d.context.sasAddress, d.context.confidence)) =
          some [(firstDisk, .phyOnly)] := by decide +kernel
  obtain ⟨l, left, hrun, hdevices⟩ := exists_listing hlist
  exact ⟨fun x hx => of_decide_eq_true (List.all_eq_true.1 hraid x hx), by decide +kernel,
    by decide +kernel, by decide +kernel, l, left, hrun, hdevices⟩

end DriveReach.Inventory
