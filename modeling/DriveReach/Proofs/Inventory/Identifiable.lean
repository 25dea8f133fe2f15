import DriveReach.Proofs.Controller.RaidSets
import DriveReach.Proofs.Inventory.Named

/-!
# Entries that say enough to be found

Two questions are asked of a drive entry of a RAID set: whether it says enough to find the drive
(`RaidDrive.isIdentifiable`), and whether a survey can name the drive by it (`nameOf`). A model
answers the first and not the second.

* `isIdentifiable_iff`, `nameOf_eq_none_iff`: when each question is answered with yes.
* `Drives.names_iff`, `Drives.leaves_iff`: what a survey does with one entry.
* `identifiable_named`: the two questions differ for entries that hold a model only, and for no
  other, in one step of a survey and in a survey as a whole.
* `model_alone_unnamed`: such an entry.
-/

set_option autoImplicit false

namespace DriveReach

open Csmi Dialogue

/-! ## Decoded entries -/

theorem Text.trim_field (b : Bytes) : trim (field b) = field b := by
  rw [field, trim, String.toList_ofList, trimBy_trimBy]

theorem Csmi.RaidDrive.trim_serialNumber_decode (entry : Bytes) :
    Text.trim (RaidDrive.decode entry).serialNumber = (RaidDrive.decode entry).serialNumber :=
  Text.trim_field _

/-- The drives of a reported set are decoded entries. -/
theorem exists_entry_of_mem_drivesInUse {xs : List Exchange} {d : RaidDrive}
    (h : d ∈ drivesInUse xs) : ∃ entry, d = RaidDrive.decode entry := by
  obtain ⟨set, hset, hd⟩ := List.mem_flatMap.1 h
  obtain ⟨x, -, hx⟩ := List.mem_filterMap.1 hset
  have hmem : d ∈ set.drives := (List.mem_filter.1 hd).1
  unfold Exchange.raidSet? at hx
  split at hx
  · cases hreply : x.checked with
    | error fault =>
      rw [hreply] at hx
      cases hx
    | ok reply =>
      rw [hreply, Except.bind] at hx
      obtain ⟨config, hconfig, he⟩ :=
        Except.exists_of_toOption_map (f := RaidConfig.drives) (congrArg (Option.map _) hx)
      rw [← he, RaidConfig.drives_of_decode hconfig] at hmem
      obtain ⟨i, -, rfl⟩ := List.mem_map.1 hmem
      exact ⟨_, rfl⟩
  · cases hx

namespace Inventory

/-- Of the drive nothing is known but its model. -/
def HasModelOnly (d : RaidDrive) : Prop :=
  d.model ≠ "" ∧ d.serialNumber = "" ∧ d.sasAddress.isZero = true

instance (d : RaidDrive) : Decidable (HasModelOnly d) :=
  inferInstanceAs (Decidable (_ ∧ _ ∧ _))

variable {d : RaidDrive} {traits : Driver.Traits}

theorem isIdentifiable_iff : d.isIdentifiable = true ↔
    d.sasAddress.isZero = false ∨ d.model ≠ "" ∨ d.serialNumber ≠ "" := by
  have hempty (s : String) : s.isEmpty = decide (s = "") := by
    rw [Bool.eq_iff_iff, String.isEmpty_iff, decide_eq_true_iff]
  simp [RaidDrive.isIdentifiable, hempty]

/-- An entry has no name just when it is not identifiable, or by its model only. -/
theorem nameOf_eq_none_iff (h : Text.trim d.serialNumber = d.serialNumber) :
    nameOf d = none ↔ d.isIdentifiable = false ∨ HasModelOnly d := by
  rw [nameOf, h, ← Bool.not_eq_true, isIdentifiable_iff, HasModelOnly]
  by_cases hserial : d.serialNumber = ""
  · cases d.sasAddress.isZero <;> simp [hserial, eq_or_ne]
  · simp [hserial]

/-- The drive is taken up by its own name, its serial number or else its address, and not as one
more drive without a name. -/
def Drives.Names (ds : Drives) (traits : Driver.Traits) (d : RaidDrive) : Prop :=
  (ds.add traits d).unnamed = ds.unnamed ∧
    (d.serialNumber ≠ "" ∧ .serial d.serialNumber ∈ (ds.add traits d).names ∨
      d.serialNumber = "" ∧ d.sasAddress.isZero = false ∧
        .address d.sasAddress ∈ (ds.add traits d).names)

/-- The drive is left to the search of the phys. -/
def Drives.Leaves (ds : Drives) (traits : Driver.Traits) (d : RaidDrive) : Prop :=
  ds.add traits d = { ds with unnamed := ds.unnamed + 1 }

theorem Drives.leaves_iff (ds : Drives) : ds.Leaves traits d ↔ nameOf d = none := by
  constructor
  · intro h
    by_contra hn
    have hcount := congrArg Drives.unnamed h
    rw [add_of_named ds hn] at hcount
    split at hcount <;> simp [extend] at hcount
  · exact add_of_unnamed ds

theorem Drives.mem_names_add (ds : Drives) {name : DriveName} (h : nameOf d = some name) :
    name ∈ (ds.add traits d).names := by
  rw [add_of_named ds (by simp [h])]
  split
  · simp [extend, h]
  · rename_i hold
    simpa [isNew, h] using hold

theorem Drives.names_iff (ds : Drives) (h : Text.trim d.serialNumber = d.serialNumber) :
    ds.Names traits d ↔ nameOf d ≠ none := by
  constructor
  · intro hnames hn
    have hcount := hnames.1
    rw [add_of_unnamed ds hn] at hcount
    exact absurd hcount (Nat.succ_ne_self _)
  · intro hn
    refine ⟨?_, ?_⟩
    · rw [add_of_named ds hn]
      split <;> rfl
    · rw [nameOf, h] at hn
      by_cases hserial : d.serialNumber = ""
      · rw [if_neg (not_not_intro hserial)] at hn
        have hz : d.sasAddress.isZero = false := by
          rw [← Bool.not_eq_true]
          exact fun hz => hn (if_pos hz)
        refine .inr ⟨hserial, hz, ds.mem_names_add ?_⟩
        rw [nameOf, h, if_neg (not_not_intro hserial), hz]
        rfl
      · refine .inl ⟨hserial, ds.mem_names_add ?_⟩
        rw [nameOf, h, if_pos hserial]

/-- The drives in use that the exchanges report, as far as they are wanted. -/
def wantedDrives (filter : Filter) (xs : List Exchange) : List RaidDrive :=
  (drivesInUse xs).filter fun d => filter.wants d.driveType.isSata

theorem AnswersRaid.getD_eq {c : Controller} {filter : Filter} {family : Driver.Family}
    {xs : List Exchange} {raid : Option (List RaidDrive)}
    (h : AnswersRaid c filter family xs raid) : raid.getD [] = wantedDrives filter xs := by
  cases raid with
  | some drives => exact h.inUse
  | none =>
    cases h with
    | unsupported hq => rw [wantedDrives, drivesInUse_of_raidInfo hq]; rfl

theorem trim_of_mem_wantedDrives {filter : Filter} {xs : List Exchange}
    (h : d ∈ wantedDrives filter xs) : Text.trim d.serialNumber = d.serialNumber := by
  obtain ⟨entry, rfl⟩ := exists_entry_of_mem_drivesInUse (List.mem_filter.1 h).1
  exact RaidDrive.trim_serialNumber_decode entry

theorem exists_name_iff {drives : List RaidDrive} (h : d ∈ drives) :
    (∃ name ∈ (Drives.ofDrives traits drives).names, nameOf d = some name) ↔ nameOf d ≠ none := by
  constructor
  · rintro ⟨name, -, hname⟩ hnone
    cases hname.symm.trans hnone
  · intro hn
    obtain ⟨leader, hleader, hname⟩ := exists_leader h hn
    obtain ⟨name, hd⟩ := Option.ne_none_iff_exists'.1 hn
    exact ⟨name, List.mem_filterMap.2 ⟨leader, hleader, hname.trans hd⟩, hd⟩

/-- What the RAID sets come to is a matter of the drives that are in use and wanted. -/
theorem eq_ofDrives_of_surveyRaid {σ : Type} {w : Surroundings σ} {s : σ} {c : Controller}
    {filter : Filter} {family : Driver.Family} {ds : Drives} {shortfall : Shortfall}
    (h : (surveyRaid c filter family.traits).result w s = .ok (ds, shortfall)) :
    ds = .ofDrives family.traits
      (wantedDrives filter ((surveyRaid c filter family.traits).run.exchanges w s)) := by
  rcases course_surveyRaid (course_run w (surveyRaid c filter family.traits).run s) with
    ⟨raid, ha, he⟩ | ⟨fault, -, he⟩
  · rw [← ha.getD_eq]
    exact (Prod.mk.inj (Except.ok.inj (h.symm.trans he))).1
  · cases h.symm.trans he

/-- **An entry that is identifiable is named, unless a model is all it says.** Whatever bytes an
entry holds, whatever the family of the driver and whatever was found before, the entry is taken up
by its serial number or else its nonzero address exactly when it is identifiable and says more than
a model, and otherwise it is left to the search of the phys. In a survey whose RAID questions are
answered, each drive that is in use and wanted is treated so, and the search of the phys is for as
many drives as there are such entries that are not identifiable or say a model only. -/
theorem identifiable_named (family : Driver.Family) :
    (∀ (entry : Bytes) (ds : Drives),
      (ds.Names family.traits (.decode entry) ↔
        (RaidDrive.decode entry).isIdentifiable = true ∧ ¬ HasModelOnly (.decode entry)) ∧
      (ds.Leaves family.traits (.decode entry) ↔
        (RaidDrive.decode entry).isIdentifiable = false ∨ HasModelOnly (.decode entry))) ∧
    ∀ {σ : Type} (w : Surroundings σ) (s : σ) (c : Controller) (filter : Filter)
      (xs : List Exchange) (ds : Drives) (shortfall : Shortfall),
      (surveyRaid c filter family.traits).run.exchanges w s = xs →
      (surveyRaid c filter family.traits).result w s = .ok (ds, shortfall) →
      (∀ d ∈ wantedDrives filter xs, (∃ name ∈ ds.names, nameOf d = some name) ↔
        d.isIdentifiable = true ∧ ¬ HasModelOnly d) ∧
      ds.unnamed =
        (wantedDrives filter xs).countP fun d => d.isIdentifiable = false ∨ HasModelOnly d := by
  have hnamed {d : RaidDrive} (h : Text.trim d.serialNumber = d.serialNumber) :
      nameOf d ≠ none ↔ d.isIdentifiable = true ∧ ¬ HasModelOnly d := by
    rw [ne_eq, nameOf_eq_none_iff h, not_or, Bool.not_eq_false]
  constructor
  · intro entry ds
    have htrim := RaidDrive.trim_serialNumber_decode entry
    exact ⟨(ds.names_iff htrim).trans (hnamed htrim),
      ds.leaves_iff.trans (nameOf_eq_none_iff htrim)⟩
  · intro σ w s c filter xs ds shortfall hx h
    subst hx
    rw [eq_ofDrives_of_surveyRaid h]
    refine ⟨fun d hd => (exists_name_iff hd).trans (hnamed (trim_of_mem_wantedDrives hd)), ?_⟩
    refine List.countP_congr fun d hd => ?_
    rw [decide_eq_true_iff, decide_eq_true_iff]
    exact nameOf_eq_none_iff (trim_of_mem_wantedDrives hd)

/-- A survey of the only controller, whose driver is of no known family. -/
def surveyOnly : Attempt (Drives × Shortfall) :=
  surveyRaid ⟨⟨0⟩, 0, .off⟩ ⟨0⟩ Driver.Family.unknown.traits

/-- One RAID set of three members: by a model, by a serial number, and by nothing. -/
def threeMembers : Script.Rack := readyController []
  [answering .raidInfo [] [(0, [1]), (4, [3])],
    answering .raidConfig [0] [(15, [3]), (36, [0x4D, 0x31]), (141, [1]), (144, [3]),
      (220, serialOne), (277, [1]), (280, [3]), (413, [1]), (416, [3])]]

/-- Two of them are identifiable; only the one with a serial number is named, and the search of the
phys is for two. -/
theorem identifiable_named_threeMembers :
    ∃ xs ds, surveyOnly.run.exchanges Script.Rack.surroundings threeMembers = xs ∧
      surveyOnly.result Script.Rack.surroundings threeMembers = .ok (ds, .upTo 2) ∧
      (wantedDrives ⟨0⟩ xs).map (·.isIdentifiable) = [true, true, false] ∧
      (∀ d ∈ wantedDrives ⟨0⟩ xs, (∃ name ∈ ds.names, nameOf d = some name) ↔
        d.serialNumber = "S1") ∧ ds.unnamed = 2 := by
  have hsought : (surveyOnly.result Script.Rack.surroundings threeMembers).toOption.map
      (·.2) = some (.upTo 2) := by decide +kernel
  obtain ⟨⟨ds, _⟩, hok, rfl⟩ := Except.exists_of_toOption_map hsought
  obtain ⟨hnamed, hunnamed⟩ := (identifiable_named .unknown).2 Script.Rack.surroundings
    threeMembers ⟨⟨0⟩, 0, .off⟩ ⟨0⟩ _ ds (.upTo 2) rfl hok
  have hserial : ∀ d ∈ wantedDrives ⟨0⟩
      (surveyOnly.run.exchanges Script.Rack.surroundings threeMembers),
      (d.isIdentifiable = true ∧ ¬ HasModelOnly d) ↔ d.serialNumber = "S1" := by decide +kernel
  exact ⟨_, ds, rfl, hok, by decide +kernel,
    fun d hd => (hnamed d hd).trans (hserial d hd), hunnamed.trans (by decide +kernel)⟩

/-- The entry of a member of which only the model is known. -/
def modelAlone : Bytes := [0x4D, 0x31] ++ Bytes.zeros 103 ++ [1, 0, 0, 3] ++ Bytes.zeros 27

/-- One RAID set that holds this member and no other. -/
def diskOfModel : Script.Rack := readyController []
  [setCount 1, answering .raidConfig [0] [(15, [1]), (36, modelAlone)]]

/-- **A model alone is identifiable and names nothing.** The entry is that of a drive in use, and is
identifiable, but under no family is the drive named by it. A survey leaves it to the search of the
phys, and a count that does without this search finds nothing. -/
theorem model_alone_unnamed :
    (RaidDrive.decode modelAlone).usage.isCountable = true ∧
    (RaidDrive.decode modelAlone).isIdentifiable = true ∧
    (∀ family : Driver.Family, ({} : Drives).Leaves family.traits (.decode modelAlone) ∧
      ¬ ({} : Drives).Names family.traits (.decode modelAlone)) ∧
    wantedDrives ⟨0⟩ (surveyOnly.run.exchanges Script.Rack.surroundings diskOfModel) =
      [.decode modelAlone] ∧
    (surveyOnly.result Script.Rack.surroundings diskOfModel).toOption.map
      (fun found => (found.1.names, found.1.unnamed)) = some ([], 1) ∧
    ((count [⟨none, [0]⟩] ⟨1⟩).run Script.Rack.surroundings diskOfModel).value =
      ⟨⟨0, 0⟩, []⟩ := by
  have hname : nameOf (.decode modelAlone) = none := by decide +kernel
  have htrim := RaidDrive.trim_serialNumber_decode modelAlone
  refine ⟨by decide +kernel, by decide +kernel, fun family => ⟨?leaves, ?names⟩,
    by decide +kernel, by decide +kernel, by decide +kernel⟩
  case leaves => exact (Drives.leaves_iff {}).2 hname
  case names => exact fun h => (Drives.names_iff {} htrim).1 h hname

end Inventory

end DriveReach
