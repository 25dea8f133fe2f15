import DriveReach.Proofs.Discovery.Opening
import DriveReach.Proofs.Inventory.Visit
/-!
# What a count comes to

The number of devices that a count finds is a matter of what the drivers answer. `Contributes` says
it for one controller, without a word about how the survey goes about it: the number of distinct
names in its RAID sets, and what the phy table adds when drives without a name are left over.

* `Surveyed.contributes`: a survey finds that number of devices.
* `count_visits`: a count takes all candidates, visits every controller of each of them once, in
  order, and adds up their contributions and their failures.
-/

set_option autoImplicit false

namespace DriveReach.Inventory

open Csmi

/-- The number of names among drives. -/
def namesIn (drives : List RaidDrive) : Nat := (drives.filterMap nameOf).toFinset.card

/-- The number of drives without a name. -/
def unnamedIn (drives : List RaidDrive) : Nat := drives.countP (nameOf · = none)

/-- The number of devices that a phy table can add to the drives: the identifiers below 32 of wanted
end devices, without the phys of devices whose address is that of the first drive of its name. -/
def physBeside (filter : Filter) (table : PhyTable) (drives : List RaidDrive) : Nat :=
  (freeIdentifiers filter table ((leaders drives).filterMap addressOf)).card

/-- What the exchanges with a controller add to a count; nothing when the controller fails. -/
inductive Contributes (c : Controller) (filter : Filter) : List Exchange → Option Nat → Prop
  | noDriver {x : Exchange} {fault : Fault} :
    c.driverInfo.run.Course [x] (.error fault) → Contributes c filter [x] none
  /-- The RAID summary fails in another way than as not supported, or a RAID set fails although the
  driver does not decline it. -/
  | noRaid {x : Exchange} {driver : DriverInfo} {xs : List Exchange} {fault : Fault} :
    c.driverInfo.run.Course [x] (.ok driver) →
    RefusesRaid c (.classify driver.name) xs fault → Contributes c filter (x :: xs) none
  | sets {x : Exchange} {driver : DriverInfo} {xs : List Exchange} {drives : List RaidDrive} :
    c.driverInfo.run.Course [x] (.ok driver) →
    AnswersRaid c filter (.classify driver.name) xs (some drives) →
    unnamedIn drives = 0 ∨ filter.skipsPhys = true →
    Contributes c filter (x :: xs) (some (namesIn drives))
  | setsAndPhys {x y : Exchange} {driver : DriverInfo} {xs : List Exchange}
    {drives : List RaidDrive} {table : PhyTable} :
    c.driverInfo.run.Course [x] (.ok driver) →
    AnswersRaid c filter (.classify driver.name) xs (some drives) →
    unnamedIn drives ≠ 0 → filter.skipsPhys = false → c.phyTable.run.Course [y] (.ok table) →
    Contributes c filter (x :: xs ++ [y])
      (some (namesIn drives + min (unnamedIn drives) (physBeside filter table drives)))
  /-- Without RAID there is only the phy table, and it is not to be searched. -/
  | nothing {x : Exchange} {driver : DriverInfo} {xs : List Exchange} :
    c.driverInfo.run.Course [x] (.ok driver) →
    AnswersRaid c filter (.classify driver.name) xs none → filter.skipsPhys = true →
    Contributes c filter (x :: xs) (some 0)
  | phys {x y : Exchange} {driver : DriverInfo} {xs : List Exchange} {table : PhyTable} :
    c.driverInfo.run.Course [x] (.ok driver) →
    AnswersRaid c filter (.classify driver.name) xs none → filter.skipsPhys = false →
    c.phyTable.run.Course [y] (.ok table) →
    Contributes c filter (x :: xs ++ [y]) (some (physBeside filter table []))

section
variable {c : Controller} {filter : Filter}

theorem length_foundByRaid (family : Driver.Family) (drives : List RaidDrive) :
    (foundByRaid family (some drives)).length = namesIn drives := by
  rw [foundByRaid, List.length_map, Option.getD_some, length_leaders, namesIn]

theorem length_soughtPhys_sets {drives : List RaidDrive} (table : PhyTable)
    (h : unnamedIn drives ≠ 0) :
    (soughtPhys filter (some drives) table).length =
      min (unnamedIn drives) (physBeside filter table drives) := by
  have hs : shortfallOf (some drives) = .upTo (unnamedIn drives) := if_neg h
  rw [soughtPhys, hs, Option.getD_some, Shortfall.cut, List.length_take, length_freePhys,
    physBeside, Nat.sub_zero]

theorem length_soughtPhys_none (table : PhyTable) :
    (soughtPhys filter none table).length = physBeside filter table [] :=
  length_freePhys filter table []

theorem seeksPhys_sets {drives : List RaidDrive} :
    seeksPhys filter (some drives) = true ↔
      unnamedIn drives ≠ 0 ∧ filter.skipsPhys = false := by
  unfold seeksPhys shortfallOf unnamedIn
  dsimp only
  split <;> simp_all

theorem seeksPhys_none : seeksPhys filter none = true ↔ filter.skipsPhys = false := by
  simp [seeksPhys, shortfallOf]

/-- A survey that is answered for the phy table finds as many devices as its answers say. -/
theorem Surveyed.contributes {xs : List Exchange} {result : Except Fault (List Found)}
    (h : Surveyed c filter xs result)
    (hphys : ∀ x ∈ xs, x.code = .phyInfo → x.succeeds = true) :
    Contributes c filter xs (outcomeOf result) := by
  cases h with
  | noDriver hd => exact .noDriver hd
  | noRaid hd hr => exact .noRaid hd hr
  | @named x driver xs raid hd hr hs =>
    rw [Bool.eq_false_iff, ne_eq] at hs
    cases raid with
    | none =>
      rw [seeksPhys_none, Bool.not_eq_false] at hs
      exact .nothing hd hr hs
    | some drives =>
      rw [seeksPhys_sets] at hs
      have hn := length_foundByRaid (.classify driver.name) drives
      rw [outcomeOf, Except.toOption, Option.map_some, hn]
      refine .sets hd hr ?_
      cases hskip : filter.skipsPhys with
      | true => exact .inr rfl
      | false => exact .inl (not_not.1 fun hu => hs ⟨hu, hskip⟩)
  | @noTable x y driver xs raid fault hd hr hs ht =>
    obtain ⟨z, hz, hcode, -, hok⟩ := Controller.course_phyTable ht
    obtain rfl : y = z := List.singleton_inj.1 hz
    obtain ⟨table, he⟩ := hok (hphys y (by simp) hcode)
    cases he
  | @searched x y driver xs raid table hd hr hs ht =>
    rw [outcomeOf, Except.toOption, Option.map_some, List.length_append, List.length_map]
    cases raid with
    | none =>
      rw [seeksPhys_none] at hs
      rw [length_soughtPhys_none]
      have hnone : (foundByRaid (.classify driver.name) none).length = 0 := rfl
      rw [hnone, Nat.zero_add]
      exact .phys hd hr hs ht
    | some drives =>
      rw [seeksPhys_sets] at hs
      rw [length_foundByRaid, length_soughtPhys_sets table hs.1]
      exact .setsAndPhys hd hr hs.1 hs.2 ht

end

/-- What a visit adds to a count. -/
def Visit.Contributes (filter : Filter) (v : Visit) (outcome : Option Nat) : Prop :=
  match v.opening with
  | .error _ => v.exchanges = [] ∧ outcome = none
  | .ok channel =>
    Inventory.Contributes { channel := channel, number := v.number } filter v.exchanges outcome

theorem Visit.Yields.contributes {filter : Filter} {v : Visit} {result : Except Fault (List Found)}
    (h : v.Yields filter result)
    (hphys : ∀ x ∈ v.exchanges, x.code = .phyInfo → x.succeeds = true) :
    v.Contributes filter (outcomeOf result) := by
  unfold Visit.Yields at h
  unfold Visit.Contributes
  cases ho : v.opening with
  | error fault =>
    rw [ho] at h
    obtain ⟨hx, rfl⟩ := h
    exact ⟨hx, rfl⟩
  | ok channel =>
    rw [ho] at h
    exact h.contributes hphys

/-- A count takes all candidates, visits every controller of each of them once, in order, and adds
up what the visits come to. -/
theorem count_yields {σ : Type} (w : Dialogue.Surroundings σ) (candidates : List Candidate)
    (filter : Filter) (s : σ) :
    ∃ visits results, visits.map Visit.place = candidates.flatMap Candidate.places ∧
      (count candidates filter).turns w s = visits.flatMap Visit.turns ∧
      List.Forall₂ (Visit.Yields filter) visits results ∧
      ((count candidates filter).run w s).value =
        ⟨.ofOutcomes (results.map outcomeOf), []⟩ := by
  have h := Dialogue.went_run w (count candidates filter) s
  generalize (count candidates filter).turns w s = ts at h
  generalize ((count candidates filter).run w s).value = t at h
  obtain ⟨us, vs, u, rfl, hc, hrest⟩ := Dialogue.went_bind.1 h
  obtain ⟨rfl, rfl⟩ : vs = [] ∧ t = u := by
    dsimp only at hrest
    split at hrest
    · exact Dialogue.went_notes_bind.1 (Dialogue.went_notes_bind.1 hrest)
    · exact Dialogue.went_notes_bind.1 hrest
  obtain ⟨visits, results, hplaces, rfl, hyields, rfl⟩ := went_countCandidates hc
  exact ⟨visits, results, hplaces, List.append_nil _, hyields, by simp [Tally.add]⟩

/-- The exchanges of a count are those of its visits. -/
theorem exchanges_visits (visits : List Visit) :
    (visits.flatMap Visit.turns).filterMap Turn.exchange? = visits.flatMap (·.exchanges) := by
  rw [List.filterMap_flatMap]
  exact congrArg (List.flatMap · visits) (funext Visit.filterMap_exchange?_turns)

/-- **A count adds up what the drivers answer**: it takes all candidates, so that none is left, and
visits every controller of each of them once, in order, whatever the others come to. Its devices are
what the visited controllers contribute, and its failures are the controllers that contribute
nothing. -/
theorem count_visits {σ : Type} (w : Dialogue.Surroundings σ) (candidates : List Candidate)
    (filter : Filter) (s : σ)
    (hphys : ∀ x ∈ (count candidates filter).exchanges w s,
      x.code = .phyInfo → x.succeeds = true) :
    ∃ visits outcomes, visits.map Visit.place = candidates.flatMap Candidate.places ∧
      (count candidates filter).turns w s = visits.flatMap Visit.turns ∧
      List.Forall₂ (Visit.Contributes filter) visits outcomes ∧
      ((count candidates filter).run w s).value = ⟨.ofOutcomes outcomes, []⟩ := by
  obtain ⟨visits, results, hplaces, hturns, hyields, hvalue⟩ := count_yields w candidates filter s
  rw [Dialogue.exchanges_eq_turns, hturns, exchanges_visits] at hphys
  -- the exchanges of each visit are among those of the run, so its phy query succeeded
  refine ⟨visits, results.map outcomeOf, hplaces, hturns, ?_, hvalue⟩
  rw [List.forall₂_map_right_iff]
  refine List.forall₂_iff_get.2 ⟨hyields.length_eq, fun i hv hr => ?_⟩
  refine Visit.Yields.contributes (hyields.get hv hr) fun x hx => hphys x ?_
  exact List.mem_flatMap.2 ⟨_, List.get_mem visits ⟨i, hv⟩, hx⟩

/-- A controller with a RAID set of two drives, the second without a name, and with disks at two
phys, the first at the address of the first drive. -/
def mixedSet : ControlCode → List Script.Patch
  | .controllerStatus => [(0, [1])]
  | .raidInfo => [(0, [1]), (4, [2])]
  | .raidConfig => [(15, [2]), (84, [0x53, 0x31]), (124, [0x50, 0, 0, 0, 0, 0, 0, 1]),
    (141, [1]), (144, [3]), (172, [0x4D]), (277, [1]), (280, [3])]
  | .phyInfo => [(0, [2]), (40, [0x10, 0, 0, 0x01]), (52, [0x50, 0, 0, 0, 0, 0, 0, 1]),
    (88, [1]), (104, [0x10, 0, 0, 0x01]), (116, [0x50, 0, 0, 0, 0, 0, 0, 2])]
  | _ => []

/-- Two visits to such a controller find one device for the set and one for the phys each. -/
theorem count_visits_mixedSet :
    (∀ x ∈ (count [⟨none, [0, 1]⟩] ⟨0⟩).exchanges (Script.steadyDriver mixedSet) (),
      x.code = .phyInfo → x.succeeds = true) ∧
    ((count [⟨none, [0, 1]⟩] ⟨0⟩).run (Script.steadyDriver mixedSet) ()).value = ⟨⟨4, 0⟩, []⟩ ∧
    ∃ visits outcomes, visits.map Visit.place = [(none, 0), (none, 1)] ∧
      (count [⟨none, [0, 1]⟩] ⟨0⟩).turns (Script.steadyDriver mixedSet) () =
        visits.flatMap Visit.turns ∧
      List.Forall₂ (Visit.Contributes ⟨0⟩) visits outcomes ∧
      ((count [⟨none, [0, 1]⟩] ⟨0⟩).run (Script.steadyDriver mixedSet) ()).value =
        ⟨.ofOutcomes outcomes, []⟩ := by
  have hall : ((count [⟨none, [0, 1]⟩] ⟨0⟩).exchanges (Script.steadyDriver mixedSet) ()).all
      (fun x => x.code = .phyInfo → x.succeeds = true) = true := by decide +kernel
  have hphys : ∀ x ∈ (count [⟨none, [0, 1]⟩] ⟨0⟩).exchanges (Script.steadyDriver mixedSet) (),
      x.code = .phyInfo → x.succeeds = true :=
    fun x hx => of_decide_eq_true (List.all_eq_true.1 hall x hx)
  exact ⟨hphys, by decide +kernel, count_visits _ _ _ () hphys⟩

end DriveReach.Inventory
