import DriveReach.Proofs.Inventory.Apart
/-!
# Drives that a count has named

The RAID sets of a controller come first in a survey and the phy table last. `Visit.Names` says that
the RAID sets were answered for in a visit, and which drives they hold.

* `AnswersRaid.unique`, `AnswersRaid.not_refuses`: the exchanges decide which drives the RAID sets
  hold, and whether they were answered for.
* `Surveyed.keeps`: what was named is found, unless the phy table is asked for and not given.
* `named_drives_counted`: a count has every drive that a controller names, unless the phy table of
  that controller is not to be had.
* `named_drive_lost`: then the named drives are not counted either.
-/

set_option autoImplicit false

namespace DriveReach.Inventory

open Csmi

variable {c : Controller} {filter : Filter} {xs ys us vs : List Exchange}

/-! ## What the exchanges decide -/

theorem course_raidConfig_unique {index : UInt32} {room : Nat} {x : Exchange}
    {r q : Except Fault RaidConfig} (hr : (c.raidConfig index room).run.Course [x] r)
    (hq : (c.raidConfig index room).run.Course [x] q) : r = q :=
  ((c.stays_raidConfig index room).course_unique hr hq (Eq.refl ([x] ++ []))).2

theorem course_ask_unique {α : Type} {code : ControlCode} {payload : Bytes}
    {decode : Bytes → Except Fault α} {x : Exchange} {r q : Except Fault α}
    (hr : (c.ask code payload decode).run.Course [x] r)
    (hq : (c.ask code payload decode).run.Course [x] q) : r = q :=
  (Controller.stays_ask.course_unique hr hq (Eq.refl ([x] ++ []))).2

/-- The exchanges decide which RAID sets a controller has. -/
theorem AnswersSets.unique {room : Nat} {is : List UInt32} {sets others : List RaidConfig}
    (h : AnswersSets c room is xs sets) (h' : AnswersSets c room is ys others)
    (he : xs ++ us = ys ++ vs) : sets = others := by
  induction h generalizing ys others with
  | nil =>
    cases h'
    rfl
  | answered hc _ ih =>
    cases h' with
    | answered hc' h' =>
      obtain ⟨rfl, hrest⟩ := List.cons.inj he
      cases course_raidConfig_unique hc hc'
      rw [ih h' hrest]
    | declined hc' =>
      obtain ⟨rfl, -⟩ := List.cons.inj he
      cases course_raidConfig_unique hc hc'
  | declined hc hd _ ih =>
    cases h' with
    | answered hc' =>
      obtain ⟨rfl, -⟩ := List.cons.inj he
      cases course_raidConfig_unique hc hc'
    | declined _ _ h' => exact ih h' (List.cons.inj he).2

/-- RAID sets are not both answered for and broken off. -/
theorem AnswersSets.not_breaks {room : Nat} {is : List UInt32} {sets : List RaidConfig}
    {fault : Fault} (h : AnswersSets c room is xs sets) (h' : BreaksSets c room is ys fault)
    (he : xs ++ us = ys ++ vs) : False := by
  induction h generalizing ys with
  | nil => cases h'
  | answered hc _ ih =>
    cases h' with
    | broken hc' =>
      obtain ⟨rfl, -⟩ := List.cons.inj he
      cases course_raidConfig_unique hc hc'
    | answered _ h' => exact ih h' (List.cons.inj he).2
    | declined hc' =>
      obtain ⟨rfl, -⟩ := List.cons.inj he
      cases course_raidConfig_unique hc hc'
  | declined hc hd _ ih =>
    cases h' with
    | broken hc' hd' =>
      obtain ⟨rfl, -⟩ := List.cons.inj he
      cases course_raidConfig_unique hc hc'
      rw [hd] at hd'
      cases hd'
    | answered hc' =>
      obtain ⟨rfl, -⟩ := List.cons.inj he
      cases course_raidConfig_unique hc hc'
    | declined _ _ h' => exact ih h' (List.cons.inj he).2

theorem AnswersRaid.unique {family : Driver.Family} {raid other : Option (List RaidDrive)}
    (h : AnswersRaid c filter family xs raid) (h' : AnswersRaid c filter family ys other)
    (he : xs ++ us = ys ++ vs) : raid = other := by
  cases h with
  | unsupported hq =>
    cases h' with
    | unsupported => rfl
    | sets hq' =>
      obtain ⟨rfl, -⟩ := List.cons.inj he
      cases course_ask_unique hq hq'
  | sets hq ha =>
    cases h' with
    | unsupported hq' =>
      obtain ⟨rfl, -⟩ := List.cons.inj he
      cases course_ask_unique hq hq'
    | sets hq' ha' =>
      obtain ⟨rfl, hrest⟩ := List.cons.inj he
      cases course_ask_unique hq hq'
      rw [ha.unique ha' hrest]

theorem AnswersRaid.not_refuses {family : Driver.Family} {raid : Option (List RaidDrive)}
    {fault : Fault} (h : AnswersRaid c filter family xs raid) (h' : RefusesRaid c family ys fault)
    (he : xs ++ us = ys ++ vs) : False := by
  cases h with
  | unsupported hq =>
    cases h' with
    | info hq' hn =>
      obtain ⟨rfl, -⟩ := List.cons.inj he
      cases course_ask_unique hq hq'
      exact hn _ rfl
    | sets hq' =>
      obtain ⟨rfl, -⟩ := List.cons.inj he
      cases course_ask_unique hq hq'
  | sets hq ha =>
    cases h' with
    | info hq' =>
      obtain ⟨rfl, -⟩ := List.cons.inj he
      cases course_ask_unique hq hq'
    | sets hq' hb =>
      obtain ⟨rfl, hrest⟩ := List.cons.inj he
      cases course_ask_unique hq hq'
      exact ha.not_breaks hb hrest

/-! ## What a survey keeps -/

/-- A survey has every drive that the RAID sets name, unless the phy table is asked for and is not
to be had. -/
theorem Surveyed.keeps {x : Exchange} {driver : DriverInfo} {drives : List RaidDrive}
    {result : Except Fault (List Found)} (h : Surveyed c filter us result)
    (hd : c.driverInfo.run.Course [x] (.ok driver))
    (hr : AnswersRaid c filter (.classify driver.name) xs (some drives))
    (he : us = x :: xs ++ ys) :
    (∃ more, result = .ok (foundByRaid (.classify driver.name) (some drives) ++ more)) ∨
      seeksPhys filter (some drives) = true ∧
        ∃ y ∈ us, ∃ fault, c.phyTable.run.Course [y] (.error fault) ∧ result = .error fault := by
  cases h with
  | noDriver hd' =>
    obtain ⟨rfl, -⟩ := List.cons.inj he
    cases course_ask_unique hd hd'
  | @noRaid x driver zs fault hd' hr' =>
    obtain ⟨rfl, hrest⟩ := List.cons.inj he
    cases course_ask_unique hd hd'
    exact (hr.not_refuses hr' (hrest.symm.trans (List.append_nil zs).symm)).elim
  | @named x driver zs raid hd' hr' _ =>
    obtain ⟨rfl, hrest⟩ := List.cons.inj he
    cases course_ask_unique hd hd'
    cases hr.unique hr' (hrest.symm.trans (List.append_nil zs).symm)
    exact .inl ⟨[], by rw [List.append_nil]⟩
  | noTable hd' hr' hs ht =>
    obtain ⟨rfl, hrest⟩ := List.cons.inj he
    cases course_ask_unique hd hd'
    cases hr.unique hr' hrest.symm
    exact .inr ⟨hs, _, by simp, _, ht, rfl⟩
  | searched hd' hr' =>
    obtain ⟨rfl, hrest⟩ := List.cons.inj he
    cases course_ask_unique hd hd'
    cases hr.unique hr' hrest.symm
    exact .inl ⟨_, rfl⟩

/-- The controller answers for its RAID sets in the visit, and these hold the drives in use and
wanted. -/
def Visit.Names (filter : Filter) (v : Visit) (drives : List RaidDrive) : Prop :=
  ∃ channel x driver xs ys, v.opening = .ok channel ∧ v.exchanges = x :: xs ++ ys ∧
    (Controller.driverInfo { channel := channel, number := v.number }).run.Course [x]
      (.ok driver) ∧
    AnswersRaid { channel := channel, number := v.number } filter (.classify driver.name) xs
      (some drives)

/-- Drives without a name send the visit for the phy table, which the driver does not give. -/
def Visit.LacksTable (filter : Filter) (v : Visit) (drives : List RaidDrive) : Prop :=
  unnamedIn drives ≠ 0 ∧ filter.skipsPhys = false ∧
    ∃ y ∈ v.exchanges, y.code = .phyInfo ∧ y.succeeds = false

/-- The outcome of a visit has all names of the drives that the visit names; there is no outcome
when the phy table is lacking. -/
def Visit.Keeps (filter : Filter) (v : Visit) (outcome : Option Nat) : Prop :=
  ∀ drives, v.Names filter drives →
    (∃ devices, outcome = some devices ∧ namesIn drives ≤ devices) ∨
      outcome = none ∧ v.LacksTable filter drives

theorem Visit.Yields.keeps {v : Visit} {result : Except Fault (List Found)}
    (h : v.Yields filter result) : v.Keeps filter (outcomeOf result) := by
  rintro drives ⟨channel, x, driver, xs, ys, ho, hx, hd, hr⟩
  rw [Visit.Yields, ho] at h
  rcases h.keeps hd hr hx with ⟨more, rfl⟩ | ⟨hs, y, hy, fault, ht, rfl⟩
  · refine .inl ⟨_, rfl, ?_⟩
    rw [List.length_append, length_foundByRaid]
    exact Nat.le_add_right ..
  · obtain ⟨hunnamed, hskip⟩ := seeksPhys_sets.1 hs
    obtain ⟨z, hz, hcode, -, hok⟩ := Controller.course_phyTable ht
    obtain rfl : y = z := List.singleton_inj.1 hz
    refine .inr ⟨rfl, hunnamed, hskip, y, hy, hcode, Bool.eq_false_iff.2 fun hsucceeds => ?_⟩
    obtain ⟨table, he⟩ := hok hsucceeds
    cases he

/-- **A count keeps the drives that RAID sets name as long as the phy table is to be had**: it
visits every controller of every candidate once, in order. Where a controller answers for its RAID
sets, the visit adds at least as many devices as there are names among its drives in use and wanted,
with one exception: the visit adds nothing and counts as a failure when drives without a name are
left over, the search of the phys is not switched off, and the driver does not give the phy
table. -/
theorem named_drives_counted {σ : Type} (w : Dialogue.Surroundings σ)
    (candidates : List Candidate) (filter : Filter) (s : σ) :
    ∃ visits outcomes, visits.map Visit.place = candidates.flatMap Candidate.places ∧
      (count candidates filter).turns w s = visits.flatMap Visit.turns ∧
      List.Forall₂ (Visit.Keeps filter) visits outcomes ∧
      ((count candidates filter).run w s).value = ⟨.ofOutcomes outcomes, []⟩ := by
  obtain ⟨visits, results, hplaces, hturns, hyields, hvalue⟩ := count_yields w candidates filter s
  refine ⟨visits, results.map outcomeOf, hplaces, hturns, ?_, hvalue⟩
  rw [List.forall₂_map_right_iff]
  exact hyields.imp fun _ _ => Visit.Yields.keeps

/-! ## Drives that are lost -/

theorem drivesInUse_cons (x : Exchange) (xs : List Exchange) :
    drivesInUse (x :: xs) = drivesInUse [x] ++ drivesInUse xs := by
  rw [← drivesInUse_append, List.singleton_append]

theorem AnswersSets.inUse {room : Nat} {is : List UInt32} {sets : List RaidConfig}
    (h : AnswersSets c room is xs sets) :
    countedDrives filter sets = (drivesInUse xs).filter fun d => filter.wants d.driveType.isSata := by
  induction h with
  | nil => rfl
  | @answered i is x xs set sets hc _ ih =>
    have hfirst : drivesInUse [x] = set.countableDrives := drivesInUse_of_raidConfig hc
    rw [countedDrives_cons, ih, drivesInUse_cons, List.filter_append, hfirst, countedDrives,
      List.flatMap_singleton]
  | @declined i is x xs fault sets hc _ _ ih =>
    have hfirst : drivesInUse [x] = [] := drivesInUse_of_raidConfig hc
    rw [ih, drivesInUse_cons, hfirst, List.nil_append]

/-- The drives that RAID sets hold are those that the exchanges report. -/
theorem AnswersRaid.inUse {family : Driver.Family} {drives : List RaidDrive}
    (h : AnswersRaid c filter family xs (some drives)) :
    drives = (drivesInUse xs).filter fun d => filter.wants d.driveType.isSata := by
  cases h with
  | @sets x info xs sets hq ha =>
    have hfirst : drivesInUse [x] = [] := drivesInUse_of_raidInfo hq
    rw [ha.inUse, drivesInUse_cons, hfirst, List.nil_append]

theorem BreaksSets.code_eq {room : Nat} {is : List UInt32} {fault : Fault}
    (h : BreaksSets c room is xs fault) : ∀ x ∈ xs, x.code = .raidConfig := by
  have hcode {i : UInt32} {x : Exchange} {r : Except Fault RaidConfig}
      (hc : (c.raidConfig i room).run.Course [x] r) : x.code = .raidConfig := by
    obtain ⟨y, hy, hsent, -⟩ := Controller.course_raidConfig hc
    rw [List.singleton_inj.1 hy, hsent.code]
  induction h with
  | broken hc => exact List.forall_mem_singleton.2 (hcode hc)
  | answered hc _ ih => exact List.forall_mem_cons.2 ⟨hcode hc, ih⟩
  | declined hc _ _ ih => exact List.forall_mem_cons.2 ⟨hcode hc, ih⟩

theorem code_eq_of_ask {α : Type} {code : ControlCode} {payload : Bytes}
    {decode : Bytes → Except Fault α} {x : Exchange} {r : Except Fault α}
    (h : (c.ask code payload decode).run.Course [x] r) : x.code = code := by
  obtain ⟨z, hz, hsent, -⟩ := Controller.course_ask h
  rw [List.singleton_inj.1 hz, hsent.code]

/-- A survey that failed when it asked for the phy table had the RAID questions answered before. -/
theorem Surveyed.exists_raid {zs : List Exchange} {y : Exchange} {fault : Fault}
    (h : Surveyed c filter zs (.error fault)) (hmem : y ∈ zs) (hy : y.code = .phyInfo) :
    ∃ x driver xs z raid, zs = x :: xs ++ [z] ∧ z.code = .phyInfo ∧
      c.driverInfo.run.Course [x] (.ok driver) ∧
      AnswersRaid c filter (.classify driver.name) xs raid := by
  cases h with
  | noDriver hd =>
    rw [List.mem_singleton.1 hmem, code_eq_of_ask hd] at hy
    cases hy
  | noRaid hd hr =>
    rcases List.mem_cons.1 hmem with rfl | hmem
    · cases hy.symm.trans (code_eq_of_ask hd)
    cases hr with
    | info hq =>
      rw [List.mem_singleton.1 hmem, code_eq_of_ask hq] at hy
      cases hy
    | sets hq hb =>
      rcases List.mem_cons.1 hmem with rfl | hmem
      · cases hy.symm.trans (code_eq_of_ask hq)
      · cases hy.symm.trans (hb.code_eq y hmem)
  | noTable hd hr _ ht => exact ⟨_, _, _, _, _, rfl, code_eq_of_ask ht, hd, hr⟩

/-- A visit that failed when it asked for the phy table, but had been given RAID sets, names the
drives that its exchanges report. -/
theorem Visit.Yields.names {v : Visit} {y : Exchange} {fault : Fault}
    (h : v.Yields filter (.error fault)) (hmem : y ∈ v.exchanges) (hy : y.code = .phyInfo)
    (hreported : drivesInUse v.exchanges ≠ []) :
    v.Names filter ((drivesInUse v.exchanges).filter fun d => filter.wants d.driveType.isSata) := by
  unfold Visit.Yields at h
  cases ho : v.opening with
  | error other =>
    rw [ho] at h
    rw [h.1] at hmem
    cases hmem
  | ok channel =>
    rw [ho] at h
    obtain ⟨x, driver, xs, z, raid, hx, hz, hd, hr⟩ := h.exists_raid hmem hy
    have hfirst : drivesInUse [x] = [] := by
      refine drivesInUse_eq_nil fun e he hcode => ?_
      rw [List.mem_singleton.1 he, code_eq_of_ask hd] at hcode
      cases hcode
    have hlast : drivesInUse [z] = [] := by
      refine drivesInUse_eq_nil fun e he hcode => ?_
      rw [List.mem_singleton.1 he, hz] at hcode
      cases hcode
    have hinUse : drivesInUse v.exchanges = drivesInUse xs := by
      rw [hx, drivesInUse_append, drivesInUse_cons, hfirst, hlast, List.nil_append,
        List.append_nil]
    refine ⟨channel, x, driver, xs, [z], ho, hx, hd, ?_⟩
    cases raid with
    | none =>
      cases hr with
      | unsupported hq =>
        rw [hinUse, drivesInUse_of_raidInfo hq] at hreported
        exact absurd rfl hreported
    | some drives =>
      rw [hinUse, ← hr.inUse]
      exact hr

/-- A controller with a RAID set of two drives, the second without a name, that gives no phy
table. -/
def withoutTable : Script.Rack := readyController []
  [setCount 1, setHolding 0 [(serialOne, firstDisk), ([], .zero)]]

/-- Its RAID set names one drive, and the count is none. -/
theorem named_drive_lost : ∃ (v : Visit) (drives : List RaidDrive), v.place = (none, 0) ∧
    (count [⟨none, [0]⟩] ⟨0⟩).turns Script.Rack.surroundings withoutTable = v.turns ∧
    v.Names ⟨0⟩ drives ∧ namesIn drives = 1 ∧
    ((count [⟨none, [0]⟩] ⟨0⟩).run Script.Rack.surroundings withoutTable).value =
      ⟨⟨0, 1⟩, []⟩ := by
  obtain ⟨visits, results, hplaces, hturns, hyields, hvalue⟩ :=
    count_yields Script.Rack.surroundings [⟨none, [0]⟩] ⟨0⟩ withoutTable
  obtain ⟨v, rfl, hplace⟩ := List.map_eq_singleton_iff.1 hplaces
  obtain ⟨r, rs, hv, hrest, rfl⟩ := List.forall₂_cons_left_iff.1 hyields
  obtain rfl := List.forall₂_nil_left_iff.1 hrest
  have hexchanges : (count [⟨none, [0]⟩] ⟨0⟩).exchanges Script.Rack.surroundings withoutTable =
      v.exchanges := by
    rw [Dialogue.exchanges_eq_turns, hturns, exchanges_visits, List.flatMap_singleton]
  have htable : v.exchanges.any (·.code = .phyInfo) = true := by
    rw [← hexchanges]
    decide +kernel
  have hnames : namesIn ((drivesInUse v.exchanges).filter fun d =>
      Filter.wants ⟨0⟩ d.driveType.isSata) = 1 := by
    rw [← hexchanges]
    decide +kernel
  have hcount : ((count [⟨none, [0]⟩] ⟨0⟩).run Script.Rack.surroundings withoutTable).value =
      ⟨⟨0, 1⟩, []⟩ := by decide +kernel
  obtain ⟨y, hmem, hy⟩ := List.any_eq_true.1 htable
  rw [List.flatMap_singleton] at hturns
  cases r with
  | ok found =>
    have hfailures : 0 = 1 := congrArg (·.failures) (hvalue.symm.trans hcount)
    cases hfailures
  | error fault =>
    refine ⟨v, _, hplace, hturns, hv.names hmem (of_decide_eq_true hy) (fun hnil => ?_), hnames,
      hcount⟩
    rw [hnil] at hnames
    cases hnames

end DriveReach.Inventory
