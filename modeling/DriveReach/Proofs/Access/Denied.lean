import DriveReach.Proofs.Access.Demand
import DriveReach.Proofs.Inventory.Calls
import DriveReach.Proofs.Inventory.Listed
import DriveReach.Proofs.Inventory.Tally
/-!
# Without access

A policy that grants no access to any driver keeps devices from being opened. `Denied` says what is
asked all the same.

* `denied_without_access`: an opening asks only who the driver is. A pass over candidates surveys
  the controllers nevertheless, once their drivers told who they are; it never asks for addresses or
  signatures, and lists no device.
* `surveyed_without_access`: the RAID sets and the phy table are indeed read.
-/

set_option autoImplicit false

namespace DriveReach

open Csmi Dialogue
open Driver (Access)

theorem Exchange.introductory_of_admits_none {x : Exchange} (h : Access.none.Admits x) :
    x.code ∈ ControlCode.introductory := by
  unfold Access.Admits Exchange.demand at h
  cases hc : x.code with
  | driverInfo => decide
  | controllerConfig => decide
  | controllerStatus => decide
  | linkErrors =>
    rw [hc] at h
    dsimp only at h
    split at h
    · cases h
    · cases h
  | _ =>
    rw [hc] at h
    cases h

section
variable {target : Discovery.Target} {options : OpenOptions} {collaborators : Collaborators}

theorem Device.only_openTarget_denied (hnone : ∀ name, collaborators.access name = .none) :
    (openTarget target options collaborators).run.Only fun x =>
      x.code ∈ ControlCode.introductory := by
  have hlevel (name : String) : Access.none.atLeast (collaborators.access name) = true := by
    rw [hnone name]
    rfl
  exact (only_openTarget hlevel).mono fun _ => Exchange.introductory_of_admits_none

/-- An opened device was granted the level for information. -/
theorem Device.not_opened_denied (hnone : ∀ name, collaborators.access name = .none)
    {xs : List Exchange} {d : Device} :
    ¬ (openTarget target options collaborators).run.Course xs (.ok d) := by
  intro h
  obtain ⟨resolution, found, hd, -⟩ := course_openTarget h
  have hinfo : d.context.access.allowsInfo = true := hd.informed
  rw [hd.access, hnone] at hinfo
  cases hinfo

end

/-- What openings and passes do when the driver goes on as `w` from `s` and no access is granted. -/
structure Denied {σ : Type} (w : Surroundings σ) (s : σ) (collaborators : Collaborators) :
    Prop where
  /-- No device is opened, and nothing is asked but who the driver is. -/
  opening : ∀ handle options,
    let opening := (Device.openHandle handle options collaborators).run
    (∀ d, (opening.run w s).value ≠ .ok d) ∧
      ∀ x ∈ opening.exchanges w s, x.code ∈ ControlCode.introductory
  /-- Counting asks what a survey asks, and nothing but for the driver while that is unknown. -/
  counting : ∀ candidates filter,
    let xs := (Inventory.count candidates filter).exchanges w s
    (∀ x ∈ xs, x.code ∈ ControlCode.surveying) ∧ Introduced xs
  /-- Listing does the same, and asks what its openings ask. No device is listed. -/
  listing : ∀ capacity filter options candidates,
    let listing := Inventory.list ⟨capacity, filter, options, collaborators⟩ candidates
    let xs := listing.exchanges w s
    (∀ l left, (listing.run w s).value = (.ok l, left) → l.devices = []) ∧
      (∀ x ∈ xs, x.code ∈ ControlCode.surveying ∨ x.code ∈ ControlCode.introductory) ∧
      Introduced xs

/-- **Without access nothing is opened or listed**, whatever the policy is asked about and whatever
the driver answers, and the addresses and signatures of devices are not asked for. But a pass over
candidates does not ask the policy before it surveys a controller. -/
theorem denied_without_access {σ : Type} (w : Surroundings σ) (s : σ)
    (collaborators : Collaborators) (hnone : ∀ name, collaborators.access name = .none) :
    Denied w s collaborators where
  opening := by
    refine fun handle options => ⟨fun d hopen => ?_, ?_⟩
    · have h := course_run w (Device.openHandle handle options collaborators).run s
      rw [hopen] at h
      obtain ⟨address, -, h⟩ := Device.openTarget_of_openHandle h
      exact Device.not_opened_denied hnone h
    · exact (Device.only_openHandle fun _ => Device.only_openTarget_denied hnone).exchanges w s
  counting := by
    refine fun candidates filter => ⟨?_, ?_⟩
    · exact Inventory.leaves_count .forall_mem (fun _ _ => Inventory.only_surveyController) _ _
        (course_run w _ s)
    · exact Inventory.leaves_count Introduced.additive (fun _ _ => Inventory.leaves_introduced) _ _
        (course_run w _ s)
  listing := by
    refine fun capacity filter options candidates => ⟨fun l left hl => ?_, ?_, ?_⟩
    · have h := course_run w
        (Inventory.list ⟨capacity, filter, options, collaborators⟩ candidates) s
      rw [hl] at h
      obtain ⟨hauls, -, hall, hdevices⟩ := Inventory.course_list h
      rw [hdevices, List.flatMap_eq_nil_iff]
      refine fun haul hh => List.eq_nil_iff_forall_not_mem.2 fun d hd => ?_
      obtain ⟨found, -, f, -, ys, -, hopen⟩ := (hall haul hh).exists_opens hd
      exact Device.not_opened_denied hnone hopen
    · refine Inventory.leaves_list .forall_mem ?_ ?_ _ _ (course_run w _ s)
      · exact fun _ _ => Inventory.only_surveyController.mono fun _ hx => .inl hx
      · exact fun _ => (Device.only_openTarget_denied hnone).mono fun _ hx => .inr hx
    · exact Inventory.leaves_list Introduced.additive (fun _ _ => Inventory.leaves_introduced)
        (fun _ => Device.leaves_introduced) _ _ (course_run w _ s)

theorem denied_without_access_mixedSet :
    (∀ name, ({ access := fun _ => .none } : Collaborators).access name = .none) ∧
      Denied (Script.steadyDriver Inventory.mixedSet) () { access := fun _ => .none } :=
  ⟨fun _ => rfl, denied_without_access _ () { access := fun _ => .none } fun _ => rfl⟩

/-- **The RAID sets and the phy table are read without access**: counting the devices of a
controller, and listing them with a policy that denies every driver, both ask for all that a survey
asks for. -/
theorem surveyed_without_access :
    ((Inventory.count [⟨none, [0]⟩] ⟨0⟩).exchanges (Script.steadyDriver Inventory.mixedSet)
        ()).map (·.code) = ControlCode.surveying ∧
      ControlCode.surveying ⊆ ((Inventory.list ⟨8, ⟨0⟩, {}, { access := fun _ => .none }⟩
        [⟨none, [0]⟩]).exchanges (Script.steadyDriver Inventory.mixedSet) ()).map (·.code) := by
  constructor
  · decide +kernel
  · decide +kernel

end DriveReach
