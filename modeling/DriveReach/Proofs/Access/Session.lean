import DriveReach.Proofs.Access.Demand
import DriveReach.Proofs.Inventory.Calls
import DriveReach.Proofs.Inventory.Listed
/-!
# Sessions

A caller opens and lists devices and uses those that were opened, in any order and any number of
times. The policy is asked while a device is opened, and what it granted then goes for all that is
done with the device.

* `course_carryOut`: one action keeps the devices under the level, and makes only calls that the
  level admits, but for those of surveys.
* `course_session`: so does a whole session, by induction on its actions.
* `session_within_access`: what a session never does under a policy that grants too little for it.
-/

set_option autoImplicit false

namespace DriveReach.Session

open Csmi Dialogue Inventory
open Driver (Access)

/-- What a caller can do. Each opening brings its own SAT layer. -/
inductive Action where
  | openHandle (handle : String) (options : OpenOptions) (layer : SatLayer)
  | count (candidates : List Candidate) (filter : Filter)
  | list (capacity : Nat) (filter : Filter) (options : OpenOptions) (layer : SatLayer)
    (candidates : List Candidate)
  /-- Use the device at a place in the list of those that were opened. -/
  | operate (index : Nat) (op : Operation)

/-- Carry out an action with some devices open; more may be open then. -/
def carryOut (policy : String → Access) (devices : List Device) : Action → Dialogue (List Device)
  | .openHandle handle options layer => do
    match ← (Device.openHandle handle options ⟨layer, policy⟩).run with
    | .ok d => return devices ++ [d]
    | .error _ => return devices
  | .count candidates filter => do
    let _ ← count candidates filter
    return devices
  | .list capacity filter options layer candidates => do
    let (result, _) ← list ⟨capacity, filter, options, ⟨layer, policy⟩⟩ candidates
    match result with
    | .ok l => return devices ++ l.devices
    | .error _ => return devices
  | .operate index op =>
    match devices[index]? with
    | some d => do
      let d ← d.perform op
      return devices.set index d
    | none => return devices

/-- Carry out actions one after the other. -/
def session (policy : String → Access) : List Device → List Action → Dialogue (List Device)
  | devices, [] => return devices
  | devices, action :: actions => do
    let devices ← carryOut policy devices action
    session policy devices actions

/-- What holds of the open devices between actions, when the policy grants `level` at most. -/
def Held (level : Access) (devices : List Device) : Prop :=
  ∀ d ∈ devices, d.Coherent ∧ level.atLeast d.context.access = true

/-- A call that the level admits, or one of a survey, for which it is not asked. -/
def Permits (level : Access) (x : Exchange) : Prop :=
  level.Admits x ∨ x.code ∈ ControlCode.surveying

variable {policy : String → Access} {level : Access} {devices devices' : List Device}
variable {xs : List Exchange}

theorem held_of_openTarget {target : Discovery.Target} {options : OpenOptions} {layer : SatLayer}
    {d : Device} (hpolicy : ∀ name, level.atLeast (policy name) = true)
    (h : (Device.openTarget target options ⟨layer, policy⟩).run.Course xs (.ok d)) :
    d.Coherent ∧ level.atLeast d.context.access = true := by
  obtain ⟨resolution, found, hd, he⟩ := Device.course_openTarget h
  refine ⟨.of_opened hd he, ?_⟩
  rw [hd.access]
  exact hpolicy d.context.driverName

/-- **One action** keeps the devices under the level, and makes only permitted calls. -/
theorem course_carryOut {action : Action} (hpolicy : ∀ name, level.atLeast (policy name) = true)
    (hd : Held level devices) (h : (carryOut policy devices action).Course xs devices') :
    Held level devices' ∧ ∀ x ∈ xs, Permits level x := by
  cases action with
  | openHandle handle options layer =>
    obtain ⟨ys, zs, r, rfl, ho, hr⟩ := course_bind.1 h
    have hys : ∀ x ∈ ys, Permits level x := fun x hx =>
      .inl (Device.only_openHandle (fun _ => Device.only_openTarget hpolicy) _ _ ho x hx)
    cases r with
    | error fault =>
      obtain ⟨rfl, rfl⟩ := hr
      rw [List.append_nil]
      exact ⟨hd, hys⟩
    | ok d =>
      obtain ⟨rfl, rfl⟩ := hr
      obtain ⟨address, -, ht⟩ := Device.openTarget_of_openHandle ho
      have hnew : Held level [d] := List.forall_mem_singleton.2 (held_of_openTarget hpolicy ht)
      rw [List.append_nil]
      exact ⟨List.forall_mem_append.2 ⟨hd, hnew⟩, hys⟩
  | count candidates filter =>
    obtain ⟨ys, zs, t, rfl, hc, rfl, rfl⟩ := course_bind.1 h
    rw [List.append_nil]
    refine ⟨hd, fun x hx => .inr ?_⟩
    exact leaves_count .forall_mem (fun _ _ => only_surveyController) _ _ hc x hx
  | list capacity filter options layer candidates =>
    obtain ⟨ys, zs, ⟨result, left⟩, rfl, hl, hr⟩ := course_bind.1 h
    have hys : ∀ x ∈ ys, Permits level x := by
      refine leaves_list .forall_mem (fun _ _ => ?_) (fun _ => ?_) _ _ hl
      · exact only_surveyController.mono fun _ hx => .inr hx
      · exact (Device.only_openTarget hpolicy).mono fun _ hx => .inl hx
    cases result with
    | error fault =>
      obtain ⟨rfl, rfl⟩ := hr
      rw [List.append_nil]
      exact ⟨hd, hys⟩
    | ok l =>
      obtain ⟨rfl, rfl⟩ := hr
      rw [List.append_nil]
      refine ⟨List.forall_mem_append.2 ⟨hd, fun d hm => ?_⟩, hys⟩
      -- every listed device was opened for a device that a survey found
      obtain ⟨hauls, -, hall, hdevices⟩ := course_list hl
      rw [hdevices] at hm
      obtain ⟨haul, hh, hm⟩ := List.mem_flatMap.1 hm
      obtain ⟨found, -, f, -, us, -, ho⟩ := (hall haul hh).exists_opens hm
      exact held_of_openTarget hpolicy ho
  | operate index op =>
    rw [carryOut] at h
    split at h
    · rename_i d hat
      obtain ⟨hcoherent, haccess⟩ := hd d (List.mem_of_getElem? hat)
      obtain ⟨ys, zs, d', rfl, ho, rfl, rfl⟩ := course_bind.1 h
      obtain ⟨hcoherent', hpassage, -⟩ := Device.course_perform hcoherent ho
      -- an operation changes the signature of a context at most
      have haccess' : d'.context.access = d.context.access := by rw [hpassage.context]
      rw [List.append_nil]
      refine ⟨fun e he => ?_, fun x hx => .inl ((Device.only_perform _ _ ho x hx).mono haccess)⟩
      rcases List.mem_or_eq_of_mem_set he with he | rfl
      · exact hd e he
      · exact ⟨hcoherent', haccess'.symm ▸ haccess⟩
    · obtain ⟨rfl, rfl⟩ := h
      exact ⟨hd, fun _ hx => nomatch hx⟩

/-- **Any number of actions** keep the devices under the level, and make only permitted calls. -/
theorem course_session {actions : List Action}
    (hpolicy : ∀ name, level.atLeast (policy name) = true) (hd : Held level devices)
    (h : (session policy devices actions).Course xs devices') :
    Held level devices' ∧ ∀ x ∈ xs, Permits level x := by
  induction actions generalizing devices xs with
  | nil =>
    obtain ⟨rfl, rfl⟩ := h
    exact ⟨hd, fun _ hx => nomatch hx⟩
  | cons action actions ih =>
    obtain ⟨ys, zs, next, rfl, ha, hr⟩ := course_bind.1 h
    obtain ⟨hn, hys⟩ := course_carryOut hpolicy hd ha
    obtain ⟨hd', hzs⟩ := ih hn hr
    exact ⟨hd', List.forall_mem_append.2 ⟨hys, hzs⟩⟩

/-! ## What is never sent -/

/-- **A session stays within the access level.** Under a policy that grants `level` at most to any
driver, whatever is opened, listed and done and whatever the drivers answer: below `restricted`, no
command is sent to a device, be it to find out its identity, and no counters are cleared; below
`full`, no firmware is sent. -/
theorem session_within_access {σ : Type} (w : Surroundings σ) (s : σ) (policy : String → Access)
    (level : Access) (hpolicy : ∀ name, level.atLeast (policy name) = true)
    (actions : List Action) :
    let xs := (session policy [] actions).exchanges w s
    (level.rank < Access.restricted.rank → ∀ x ∈ xs,
      x.code ≠ .sspPassthrough ∧ x.code ≠ .stpPassthrough ∧
        (x.code = .linkErrors → x.payload.byteAt 1 = 0)) ∧
    (level.rank < Access.full.rank → ∀ x ∈ xs, x.code ≠ .firmwareDownload) := by
  intro xs
  have hnone : Held level [] := fun _ hd => nomatch hd
  obtain ⟨-, hxs⟩ := course_session hpolicy hnone (course_run w (session policy [] actions) s)
  have hdemand (x : Exchange) (hx : x ∈ xs) (hc : x.code ∉ ControlCode.surveying) :
      x.demand.rank ≤ level.rank := by
    have hadmits := (hxs x hx).resolve_right hc
    simpa [Access.Admits, Access.atLeast] using hadmits
  constructor
  · intro hlevel x hx
    have hpass : ¬ x.IsPassthrough := by
      intro hp
      have hle := hdemand x hx (by rcases hp with hc | hc <;> (rw [hc]; decide))
      rw [Exchange.demand_of_passthrough hp] at hle
      exact Nat.not_le.2 hlevel hle
    refine ⟨(not_or.1 hpass).1, (not_or.1 hpass).2, fun hc => ?_⟩
    have hle := hdemand x hx (by rw [hc]; decide)
    rw [Exchange.demand_of_linkErrors hc] at hle
    split at hle
    · assumption
    · exact absurd hle (Nat.not_le.2 hlevel)
  · intro hlevel x hx hc
    have hle := hdemand x hx (by rw [hc]; decide)
    rw [Exchange.demand_of_firmwareDownload hc] at hle
    exact Nat.not_le.2 hlevel hle

/-- Open a disk, try to clear its counters and to send it a command and an image, and read the
counters. -/
def tryDisk : List Action :=
  [.openHandle "csmi:0:0:0:0" {} .none, .operate 0 (.linkErrors true),
    .operate 0 (.issue .none (.ata .powerCheck)), .operate 0 (.downloadFirmware [] ⟨0⟩),
    .operate 0 (.linkErrors false)]

/-- With information alone granted, of all this only the opening and the last reading are sent. -/
theorem session_within_access_tryDisk :
    let xs := (session (fun _ => .limited) [] tryDisk).exchanges
      (Script.steadyDriver Device.oneDisk) ()
    xs.map (·.code) = [.driverInfo, .controllerConfig, .controllerStatus, .phyInfo,
        .sataSignature, .linkErrors] ∧
      (∀ x ∈ xs, x.code ≠ .sspPassthrough ∧ x.code ≠ .stpPassthrough ∧
        (x.code = .linkErrors → x.payload.byteAt 1 = 0)) ∧
      ∀ x ∈ xs, x.code ≠ .firmwareDownload := by
  intro xs
  have hcodes : xs.map (·.code) = [.driverInfo, .controllerConfig, .controllerStatus, .phyInfo,
      .sataSignature, .linkErrors] := by decide +kernel
  obtain ⟨hpass, hfirmware⟩ := session_within_access (Script.steadyDriver Device.oneDisk) ()
    (fun _ => .limited) .limited (fun _ => by decide) tryDisk
  exact ⟨hcodes, hpass (by decide), hfirmware (by decide)⟩

end DriveReach.Session
