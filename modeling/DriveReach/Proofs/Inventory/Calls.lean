import DriveReach.Inventory.Listing
import DriveReach.Proofs.Reports
/-!
# The calls of passes

A pass over candidates is a row of surveys, and of openings when it lists devices, so a property of
records that holds of each of these holds of the pass.

* `only_surveyController`: a survey asks for the driver, RAID sets and the phy table.
* `leaves_count`, `leaves_list`: a pass leaves what its parts leave, by induction on controllers and
  candidates.
* `Introduced`: only a driver that told who it is, is asked anything else. Whatever starts with the
  question for the driver leaves this.
-/

set_option autoImplicit false

namespace DriveReach

open Csmi Dialogue

/-! ## Surveys -/

/-- The queries of a survey. -/
def Csmi.ControlCode.surveying : List ControlCode := [.driverInfo, .raidInfo, .raidConfig, .phyInfo]

namespace Inventory

variable {filter : Filter} {base : Option String}

theorem only_surveySets {c : Controller} {traits : Driver.Traits} {info : RaidInfo} {count : Nat}
    {index : UInt32} {ds : Drives} :
    (surveySets c filter traits info count index ds).run.Only fun x => x.code = .raidConfig := by
  induction count generalizing index ds with
  | zero => exact only_done
  | succ count ih =>
    refine Attempt.only_bind (Attempt.only_unlessDeclined ?_) fun set => ?_
    · exact Controller.only_raidConfig fun x hx => hx
    · cases set with
      | none => exact ih
      | some set => exact ih

theorem only_surveyRaid {c : Controller} {traits : Driver.Traits} :
    (surveyRaid c filter traits).run.Only fun x => x.code ∈ ControlCode.surveying := by
  refine Attempt.only_bind (Attempt.only_outcome ?_) fun answer => ?_
  · exact Controller.only_ask fun x hx => by simp [hx.code, ControlCode.surveying]
  cases answer with
  | error fault =>
    dsimp only
    split
    · exact Attempt.only_bind Attempt.only_note fun _ => only_done
    · exact only_done
  | ok info =>
    refine Attempt.only_bind (only_surveySets.mono fun x hx => ?_) fun _ => only_done
    simp [hx, ControlCode.surveying]

theorem only_survey {c : Controller} :
    (survey c filter).run.Only fun x => x.code ∈ ControlCode.surveying := by
  refine Attempt.only_bind ?_ fun driver => Attempt.only_bind only_surveyRaid fun (ds, short) => ?_
  · exact Controller.only_ask fun x hx => by simp [hx.code, ControlCode.surveying]
  dsimp only
  split
  · exact only_done
  split
  · exact Attempt.only_bind Attempt.only_note fun _ => only_done
  · refine Attempt.only_bind ?_ fun _ => only_done
    exact Controller.only_ask fun x hx => by simp [hx.code, ControlCode.surveying]

theorem only_surveyController {number : UInt32} :
    (surveyController base number filter).run.Only fun x => x.code ∈ ControlCode.surveying :=
  Attempt.only_bind only_attach fun _ => only_survey

/-! ## Passes -/

section
variable {P : List Exchange → Prop} {plan : Plan}

theorem leaves_countControllers (hP : Additive P)
    (hs : ∀ number, (surveyController base number filter).run.Leaves P) {numbers : List UInt32}
    {t : Tally} : (countControllers base filter numbers t).Leaves P := by
  induction numbers generalizing t with
  | nil => exact leaves_done hP
  | cons number numbers ih =>
    refine leaves_bind hP (hs number) fun r => ?_
    cases r with
    | ok found => exact ih
    | error fault => exact leaves_notes_bind ih

theorem leaves_countCandidates (hP : Additive P)
    (hs : ∀ base number, (surveyController base number filter).run.Leaves P)
    {candidates : List Candidate} {t : Tally} :
    (countCandidates filter candidates t).Leaves P := by
  induction candidates generalizing t with
  | nil => exact leaves_done hP
  | cons candidate candidates ih =>
    exact leaves_bind hP (leaves_countControllers hP (hs _)) fun _ => ih

theorem leaves_count (hP : Additive P)
    (hs : ∀ base number, (surveyController base number filter).run.Leaves P)
    {candidates : List Candidate} : (count candidates filter).Leaves P := by
  refine leaves_bind hP (leaves_countCandidates hP hs) fun t => ?_
  dsimp only
  split
  · exact leaves_notes_bind (leaves_notes_bind (leaves_done hP))
  · exact leaves_notes_bind (leaves_done hP)

theorem leaves_listFound (hP : Additive P)
    (ho : ∀ target, (Device.openTarget target plan.options plan.collaborators).run.Leaves P)
    {number : UInt32} {found : List Found} {l : Listing} :
    (listFound plan base number found l).Leaves P := by
  induction found generalizing l with
  | nil => exact leaves_done hP
  | cons f found ih =>
    rw [listFound]
    split
    · exact leaves_done hP
    refine leaves_bind hP (ho _) fun r => ?_
    cases r with
    | ok device => exact ih
    | error fault => exact leaves_notes_bind ih

theorem leaves_listControllers (hP : Additive P)
    (hs : ∀ number, (surveyController base number plan.filter).run.Leaves P)
    (ho : ∀ target, (Device.openTarget target plan.options plan.collaborators).run.Leaves P)
    {numbers : List UInt32} {l : Listing} : (listControllers plan base numbers l).Leaves P := by
  induction numbers generalizing l with
  | nil => exact leaves_done hP
  | cons number numbers ih =>
    refine leaves_bind hP (hs number) fun r => ?_
    cases r with
    | error fault => exact leaves_notes_bind ih
    | ok found =>
      refine leaves_bind hP (leaves_listFound hP ho) fun l => ?_
      split
      · exact leaves_done hP
      · exact ih

theorem leaves_listCandidates (hP : Additive P)
    (hs : ∀ base number, (surveyController base number plan.filter).run.Leaves P)
    (ho : ∀ target, (Device.openTarget target plan.options plan.collaborators).run.Leaves P)
    {candidates : List Candidate} {l : Listing} : (listCandidates plan candidates l).Leaves P := by
  induction candidates generalizing l with
  | nil => exact leaves_done hP
  | cons candidate candidates ih =>
    rw [listCandidates]
    split
    · exact leaves_done hP
    refine leaves_bind hP (leaves_listControllers hP (hs _) ho) fun l => ?_
    split
    · exact leaves_done hP
    · exact ih

theorem leaves_list (hP : Additive P)
    (hs : ∀ base number, (surveyController base number plan.filter).run.Leaves P)
    (ho : ∀ target, (Device.openTarget target plan.options plan.collaborators).run.Leaves P)
    {candidates : List Candidate} : (list plan candidates).Leaves P := by
  unfold list
  split
  · exact leaves_done hP
  refine leaves_bind hP (leaves_listCandidates hP hs ho) fun (l, left) => ?_
  dsimp only
  split
  · exact leaves_notes_bind (leaves_notes_bind (leaves_done hP))
  · exact leaves_notes_bind (leaves_done hP)

end

end Inventory

/-! ## Introductions -/

/-- When no driver tells who it is, nothing else is asked. -/
def Introduced (xs : List Exchange) : Prop :=
  (∀ x ∈ xs, x.code = .driverInfo → x.succeeds = false) → ∀ x ∈ xs, x.code = .driverInfo

theorem Introduced.additive : Additive Introduced where
  nil := fun _ _ hx => nomatch hx
  append := by
    intro xs ys hx hy h
    rw [List.forall_mem_append] at h ⊢
    exact ⟨hx h.1, hy h.2⟩

/-- What starts with the question for the driver goes on only when it is answered. -/
theorem Controller.leaves_introduced {α : Type} {c : Controller} {f : DriverInfo → Attempt α} :
    (c.driverInfo >>= f).run.Leaves Introduced := by
  intro xs r h hfail
  rcases Attempt.course_run_bind.1 h with ⟨fault, -, hc⟩ | ⟨ys, zs, driver, rfl, hc, -⟩
  · obtain ⟨x, rfl, hx, -⟩ := course_ask hc
    exact List.forall_mem_singleton.2 hx.code
  · obtain ⟨x, rfl, hx, hr⟩ := course_ask hc
    have hs : x.succeeds = true := by
      change _ = x.checked.bind fun reply => DriverInfo.decode reply.payload at hr
      rw [Exchange.succeeds]
      cases hk : x.checked with
      | error fault =>
        rw [hk] at hr
        cases hr
      | ok reply => rfl
    rw [hfail x (by simp) hx.code] at hs
    cases hs

theorem Device.leaves_introduced {target : Discovery.Target} {options : OpenOptions}
    {collaborators : Collaborators} :
    (openTarget target options collaborators).run.Leaves Introduced :=
  Attempt.leaves_bind Introduced.additive (leaves_attach Introduced.additive) fun _ =>
    Attempt.leaves_bind Introduced.additive Controller.leaves_introduced fun _ =>
      Attempt.leaves_bind Introduced.additive (leaves_notes_bind (leaves_done Introduced.additive))
        fun _ => leaves_done Introduced.additive

theorem Inventory.leaves_introduced {base : Option String} {number : UInt32} {filter : Filter} :
    (surveyController base number filter).run.Leaves Introduced :=
  Attempt.leaves_bind Introduced.additive (leaves_attach Introduced.additive) fun _ =>
    Controller.leaves_introduced

end DriveReach
