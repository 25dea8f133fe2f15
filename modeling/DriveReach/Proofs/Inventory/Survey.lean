import DriveReach.Proofs.Inventory.Drives
import DriveReach.Proofs.Inventory.FreePhys
import DriveReach.Proofs.Reports
/-!
# What a survey finds

`Surveyed` says what the exchanges of a survey can be and what it finds then, with one case for each
way in which it can end. The questions come in a fixed order: the driver, the RAID summary, the RAID
sets by rising index, and the phy table when it is needed.

* `AnswersSets`, `BreaksSets`: all RAID sets were answered for, or one of them could not be.
* `AnswersRaid`, `RefusesRaid`: the same for all of the RAID questions.
* `course_survey`: every survey is one of the cases.
-/

set_option autoImplicit false

namespace DriveReach.Inventory

open Csmi

variable {c : Controller} {filter : Filter} {xs : List Exchange}

/-! ## RAID sets -/

/-- The drives of some sets that are in use and wanted. -/
def countedDrives (filter : Filter) (sets : List RaidConfig) : List RaidDrive :=
  sets.flatMap fun set => set.countableDrives.filter fun d => filter.wants d.driveType.isSata

/-- The indices of the RAID sets to ask for, in order. The first one is 1 for one family of drivers
and 0 for all others. -/
def setIndices (family : Driver.Family) (info : RaidInfo) : List UInt32 :=
  let base := if family = .amdRcRaid then 1 else 0
  let sets := if info.maxRaidSets = 0 then info.raidSets.toNat
    else min info.raidSets.toNat info.maxRaidSets.toNat
  (List.range' base (min (base + sets) (UInt32.size - 1) - base)).map UInt32.ofNat

/-- The exchanges ask for the RAID sets of some indices in turn, with room for a number of drives.
The driver answers with the given sets and declines the others. -/
inductive AnswersSets (c : Controller) (room : Nat) :
    List UInt32 → List Exchange → List RaidConfig → Prop
  | nil : AnswersSets c room [] [] []
  | answered {i : UInt32} {is : List UInt32} {x : Exchange} {xs : List Exchange}
    {set : RaidConfig} {sets : List RaidConfig} :
    (c.raidConfig i room).run.Course [x] (.ok set) → AnswersSets c room is xs sets →
    AnswersSets c room (i :: is) (x :: xs) (set :: sets)
  | declined {i : UInt32} {is : List UInt32} {x : Exchange} {xs : List Exchange} {fault : Fault}
    {sets : List RaidConfig} :
    (c.raidConfig i room).run.Course [x] (.error fault) → fault.isDeclined = true →
    AnswersSets c room is xs sets → AnswersSets c room (i :: is) (x :: xs) sets

/-- The exchanges ask for the RAID sets of some indices in turn, up to one that fails although the
driver does not decline it. -/
inductive BreaksSets (c : Controller) (room : Nat) : List UInt32 → List Exchange → Fault → Prop
  | broken {i : UInt32} {is : List UInt32} {x : Exchange} {fault : Fault} :
    (c.raidConfig i room).run.Course [x] (.error fault) → fault.isDeclined = false →
    BreaksSets c room (i :: is) [x] fault
  | answered {i : UInt32} {is : List UInt32} {x : Exchange} {xs : List Exchange}
    {set : RaidConfig} {fault : Fault} :
    (c.raidConfig i room).run.Course [x] (.ok set) → BreaksSets c room is xs fault →
    BreaksSets c room (i :: is) (x :: xs) fault
  | declined {i : UInt32} {is : List UInt32} {x : Exchange} {xs : List Exchange}
    {refusal fault : Fault} :
    (c.raidConfig i room).run.Course [x] (.error refusal) → refusal.isDeclined = true →
    BreaksSets c room is xs fault → BreaksSets c room (i :: is) (x :: xs) fault

theorem Drives.addSet_eq (ds : Drives) (traits : Driver.Traits) (set : RaidConfig) :
    ds.addSet filter traits set =
      (countedDrives filter [set]).foldl (fun ds d => ds.add traits d) ds := by
  simp [Drives.addSet, countedDrives]

theorem countedDrives_cons (set : RaidConfig) (sets : List RaidConfig) :
    countedDrives filter (set :: sets) =
      countedDrives filter [set] ++ countedDrives filter sets := by
  simp [countedDrives]

theorem toNat_succ_of_lt {index : UInt32} (h : index.toNat + 1 < UInt32.size) :
    (index + 1).toNat = index.toNat + 1 := by
  rw [UInt32.toNat_add, UInt32.toNat_one]
  exact Nat.mod_eq_of_lt h

theorem indices_succ {index : UInt32} {count : Nat} (h : index.toNat + 1 < UInt32.size) :
    (List.range' index.toNat (count + 1)).map UInt32.ofNat =
      index :: (List.range' (index + 1).toNat count).map UInt32.ofNat := by
  rw [List.range'_succ, List.map_cons, UInt32.ofNat_toNat, toNat_succ_of_lt h]

/-- Asking for sets from an index on takes up the drives of those that are answered, or ends with
the first fault that is not a refusal. -/
theorem course_surveySets {traits : Driver.Traits} {info : RaidInfo} {count : Nat} {index : UInt32}
    {ds : Drives} {r : Except Fault Drives} (hbound : index.toNat + count < UInt32.size)
    (h : (surveySets c filter traits info count index ds).run.Course xs r) :
    (∃ sets, AnswersSets c info.maxDrivesPerSet.toNat
        ((List.range' index.toNat count).map UInt32.ofNat) xs sets ∧
        r = .ok ((countedDrives filter sets).foldl (fun ds d => ds.add traits d) ds)) ∨
      ∃ fault, BreaksSets c info.maxDrivesPerSet.toNat
        ((List.range' index.toNat count).map UInt32.ofNat) xs fault ∧ r = .error fault := by
  -- the number of sets counts down as the index goes up, which the bound keeps from wrapping
  induction count generalizing index ds xs with
  | zero =>
    obtain ⟨rfl, rfl⟩ := h
    exact .inl ⟨[], .nil, rfl⟩
  | succ count ih =>
    have hnext : (index + 1).toNat = index.toNat + 1 := toNat_succ_of_lt (by omega)
    rw [indices_succ (by omega)]
    rw [surveySets] at h
    rcases Attempt.course_run_bind.1 h with ⟨fault, rfl, hq⟩ | ⟨ys, zs, answer, rfl, hq, h⟩
    · obtain ⟨hd, hc⟩ := Attempt.course_run_unlessDeclined_error.1 hq
      obtain ⟨x, rfl, -⟩ := Controller.course_raidConfig hc
      exact .inr ⟨fault, .broken hc hd, rfl⟩
    · have hrest := ih (by omega) h
      cases answer with
      | none =>
        obtain ⟨fault, hd, hc⟩ := Attempt.course_run_unlessDeclined_none.1 hq
        obtain ⟨x, rfl, -⟩ := Controller.course_raidConfig hc
        rcases hrest with ⟨sets, hs, rfl⟩ | ⟨fault, hs, rfl⟩
        · exact .inl ⟨sets, .declined hc hd hs, rfl⟩
        · exact .inr ⟨fault, .declined hc hd hs, rfl⟩
      | some set =>
        have hc := Attempt.course_run_unlessDeclined_some.1 hq
        obtain ⟨x, rfl, -⟩ := Controller.course_raidConfig hc
        rcases hrest with ⟨sets, hs, rfl⟩ | ⟨fault, hs, rfl⟩
        · refine .inl ⟨set :: sets, .answered hc hs, ?_⟩
          dsimp only
          rw [countedDrives_cons, List.foldl_append, Drives.addSet_eq]
        · exact .inr ⟨fault, .answered hc hs, rfl⟩

/-! ## The RAID questions -/

/-- The exchanges ask for all that the controller knows of RAID drives. The driver does not support
the question, or the sets hold the given drives in use and wanted. -/
inductive AnswersRaid (c : Controller) (filter : Filter) (family : Driver.Family) :
    List Exchange → Option (List RaidDrive) → Prop
  | unsupported {x : Exchange} {code : ReturnCode} :
    c.raidInfo.run.Course [x] (.error (.notSupported code)) →
    AnswersRaid c filter family [x] none
  | sets {x : Exchange} {info : RaidInfo} {xs : List Exchange} {sets : List RaidConfig} :
    c.raidInfo.run.Course [x] (.ok info) →
    AnswersSets c info.maxDrivesPerSet.toNat (setIndices family info) xs sets →
    AnswersRaid c filter family (x :: xs) (some (countedDrives filter sets))

/-- The exchanges ask for all that the controller knows of RAID drives, up to a fault. -/
inductive RefusesRaid (c : Controller) (family : Driver.Family) : List Exchange → Fault → Prop
  | info {x : Exchange} {fault : Fault} :
    c.raidInfo.run.Course [x] (.error fault) → (∀ code, fault ≠ .notSupported code) →
    RefusesRaid c family [x] fault
  | sets {x : Exchange} {info : RaidInfo} {xs : List Exchange} {fault : Fault} :
    c.raidInfo.run.Course [x] (.ok info) →
    BreaksSets c info.maxDrivesPerSet.toNat (setIndices family info) xs fault →
    RefusesRaid c family (x :: xs) fault

theorem firstRaidSet_eq (family : Driver.Family) :
    family.traits.firstRaidSet.toNat = if family = .amdRcRaid then 1 else 0 := by
  cases family <;> rfl

theorem setIndices_eq (family : Driver.Family) (info : RaidInfo) :
    setIndices family info = (List.range' family.traits.firstRaidSet.toNat
      (info.setCount family.traits.firstRaidSet)).map UInt32.ofNat := by
  unfold setIndices RaidInfo.setCount
  rw [firstRaidSet_eq]
  dsimp only
  congr 2
  omega

/-- No index of a RAID set is beyond 32 bits. -/
theorem lastIndex_lt (first : UInt32) (info : RaidInfo) :
    first.toNat + info.setCount first < UInt32.size := by
  have hlt := first.toNat_lt
  have hsize : UInt32.size = 2 ^ 32 := rfl
  unfold RaidInfo.setCount
  dsimp only
  omega

theorem isNotSupported_raidInfo {fault : Fault} (h : c.raidInfo.run.Course xs (.error fault)) :
    fault.isNotSupported = true ↔ ∃ code, fault = .notSupported code := by
  constructor
  · intro hn
    obtain ⟨x, rfl, -, hr⟩ := Controller.course_ask h
    replace hr : Except.error fault =
      x.checked.bind fun reply => RaidInfo.decode reply.payload := hr
    cases hc : x.checked with
    | error other =>
      rw [hc] at hr
      cases hr
      rcases Exchange.fault_of_checked hc with ⟨reason, rfl⟩ | ⟨code, hcode⟩
      · cases hn
      · unfold ReturnCode.check at hcode
        split at hcode <;> cases hcode
        · exact ⟨_, rfl⟩
        · cases hn
        · cases hn
    | ok reply =>
      rw [hc] at hr
      simp only [Except.bind, RaidInfo.decode, Layout.require] at hr
      split at hr
      · cases hr
        cases hn
      · cases hr
  · rintro ⟨code, rfl⟩
    rfl

/-- The drives that the RAID sets name, and how many devices they leave to look for. -/
def shortfallOf : Option (List RaidDrive) → Shortfall
  | none => .unbounded
  | some drives =>
    if drives.countP (nameOf · = none) = 0 then .none else .upTo (drives.countP (nameOf · = none))

theorem course_surveyRaid {family : Driver.Family} {r : Except Fault (Drives × Shortfall)}
    (h : (surveyRaid c filter family.traits).run.Course xs r) :
    (∃ raid, AnswersRaid c filter family xs raid ∧
        r = .ok (.ofDrives family.traits (raid.getD []), shortfallOf raid)) ∨
      ∃ fault, RefusesRaid c family xs fault ∧ r = .error fault := by
  rw [surveyRaid] at h
  rcases Attempt.course_run_bind.1 h with ⟨fault, -, hq⟩ | ⟨ys, zs, answer, rfl, hq, h⟩
  · obtain ⟨_, hv, -⟩ := Attempt.course_run_lift.1 hq
    cases hv
  replace hq := Attempt.course_run_lift_ok.1 hq
  obtain ⟨x, rfl, -⟩ := Controller.course_ask hq
  cases answer with
  | error fault =>
    dsimp only at h
    split at h
    · rename_i hn
      obtain ⟨code, rfl⟩ := (isNotSupported_raidInfo hq).1 hn
      obtain ⟨rfl, rfl⟩ := Attempt.course_run_note_bind.1 h
      exact .inl ⟨none, .unsupported hq, rfl⟩
    · rename_i hn
      obtain ⟨rfl, rfl⟩ := h
      refine .inr ⟨fault, .info hq fun code he => hn ?_, rfl⟩
      rw [he]
      rfl
  | ok info =>
    dsimp only at h
    rcases Attempt.course_run_bind.1 h with ⟨fault, rfl, hs⟩ | ⟨us, vs, ds, rfl, hs, rfl, rfl⟩
    · rcases course_surveySets (lastIndex_lt _ info) hs with ⟨sets, -, he⟩ | ⟨other, hb, he⟩
      · cases he
      · cases he
        rw [← setIndices_eq] at hb
        exact .inr ⟨fault, .sets hq hb, rfl⟩
    · rcases course_surveySets (lastIndex_lt _ info) hs with ⟨sets, ha, he⟩ | ⟨other, -, he⟩
      · cases he
        rw [← setIndices_eq] at ha
        rw [List.append_nil, Drives.foldl_add_empty]
        exact .inl ⟨some (countedDrives filter sets), .sets hq ha, rfl⟩
      · cases he

/-! ## The survey -/

/-- The phy table is to be searched: the RAID sets do not name all drives, and the search is not
switched off. -/
def seeksPhys (filter : Filter) (raid : Option (List RaidDrive)) : Bool :=
  shortfallOf raid != .none && !filter.skipsPhys

/-- What is found of the drives that RAID sets name. -/
def foundByRaid (family : Driver.Family) (raid : Option (List RaidDrive)) : List Found :=
  (leaders (raid.getD [])).map (foundOf family.traits)

/-- The phys of a table at which the devices are found that the RAID sets do not name. -/
def soughtPhys (filter : Filter) (raid : Option (List RaidDrive)) (table : PhyTable) : List Phy :=
  (shortfallOf raid).cut 0 (freePhys filter table.endDevices
    (claimAddresses table ((leaders (raid.getD [])).filterMap addressOf)))

/-- The exchanges of a survey, and what it comes to. -/
inductive Surveyed (c : Controller) (filter : Filter) :
    List Exchange → Except Fault (List Found) → Prop
  | noDriver {x : Exchange} {fault : Fault} :
    c.driverInfo.run.Course [x] (.error fault) → Surveyed c filter [x] (.error fault)
  | noRaid {x : Exchange} {driver : DriverInfo} {xs : List Exchange} {fault : Fault} :
    c.driverInfo.run.Course [x] (.ok driver) →
    RefusesRaid c (.classify driver.name) xs fault → Surveyed c filter (x :: xs) (.error fault)
  | named {x : Exchange} {driver : DriverInfo} {xs : List Exchange}
    {raid : Option (List RaidDrive)} :
    c.driverInfo.run.Course [x] (.ok driver) →
    AnswersRaid c filter (.classify driver.name) xs raid → seeksPhys filter raid = false →
    Surveyed c filter (x :: xs) (.ok (foundByRaid (.classify driver.name) raid))
  | noTable {x y : Exchange} {driver : DriverInfo} {xs : List Exchange}
    {raid : Option (List RaidDrive)} {fault : Fault} :
    c.driverInfo.run.Course [x] (.ok driver) →
    AnswersRaid c filter (.classify driver.name) xs raid → seeksPhys filter raid = true →
    c.phyTable.run.Course [y] (.error fault) → Surveyed c filter (x :: xs ++ [y]) (.error fault)
  | searched {x y : Exchange} {driver : DriverInfo} {xs : List Exchange}
    {raid : Option (List RaidDrive)} {table : PhyTable} :
    c.driverInfo.run.Course [x] (.ok driver) →
    AnswersRaid c filter (.classify driver.name) xs raid → seeksPhys filter raid = true →
    c.phyTable.run.Course [y] (.ok table) →
    Surveyed c filter (x :: xs ++ [y])
      (.ok (foundByRaid (.classify driver.name) raid ++ (soughtPhys filter raid table).map foundAt))

theorem course_survey {r : Except Fault (List Found)} (h : (survey c filter).run.Course xs r) :
    Surveyed c filter xs r := by
  rw [survey] at h
  rcases Attempt.course_run_bind.1 h with ⟨fault, rfl, hq⟩ | ⟨ys, zs, driver, rfl, hq, hraid⟩
  · obtain ⟨x, rfl, -⟩ := Controller.course_ask hq
    exact .noDriver hq
  obtain ⟨x, rfl, -⟩ := Controller.course_ask hq
  rcases Attempt.course_run_bind.1 hraid with
    ⟨fault, rfl, hr⟩ | ⟨us, vs, ⟨ds, shortfall⟩, rfl, hr, hphys⟩
  · rcases course_surveyRaid hr with ⟨raid, -, he⟩ | ⟨other, hf, he⟩
    · cases he
    · cases he
      exact .noRaid hq hf
  rcases course_surveyRaid hr with ⟨raid, ha, he⟩ | ⟨other, -, he⟩
  swap
  · cases he
  cases he
  dsimp only at hphys
  split at hphys
  · rename_i hs
    obtain ⟨rfl, rfl⟩ := hphys
    rw [List.append_nil]
    exact .named hq ha (by simp [seeksPhys, hs])
  rename_i hs
  split at hphys
  · rename_i hskip
    obtain ⟨rfl, rfl⟩ := Attempt.course_run_note_bind.1 hphys
    rw [List.append_nil]
    exact .named hq ha (by simp [seeksPhys, hskip])
  rename_i hskip
  have hseeks : seeksPhys filter raid = true := by simp [seeksPhys, hs, hskip]
  rcases Attempt.course_run_bind.1 hphys with
    ⟨fault, rfl, ht⟩ | ⟨ts, ws, table, rfl, ht, rfl, rfl⟩
  · obtain ⟨y, rfl, -⟩ := Controller.course_phyTable ht
    exact .noTable hq ha hseeks ht
  · obtain ⟨y, rfl, -⟩ := Controller.course_phyTable ht
    rw [searchPhys_eq]
    exact .searched hq ha hseeks ht

end DriveReach.Inventory
