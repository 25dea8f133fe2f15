import DriveReach.Inventory.Listing
import DriveReach.Proofs.Discovery.Opening
import DriveReach.Proofs.Inventory.Visit
/-!
# Where listed devices come from

A list opens what its surveys find, in order, as long as there is room. A `Haul` is what it brings
from one controller; `Hauled` says that the exchanges record the survey there and the openings.

* `course_listFound`: one controller brings devices that were opened for part of what was found.
* `course_listCandidates`, `course_list`: the devices of a list are those of its hauls, from at most
  every controller of every candidate, in order.
-/

set_option autoImplicit false

namespace DriveReach.Inventory

open Dialogue

variable {plan : Plan} {xs ys : List Exchange}

/-- The device was opened for what a survey found at a place. -/
def Opens (plan : Plan) (xs : List Exchange) (place : Option String × UInt32) (f : Found)
    (d : Device) : Prop :=
  Recorded xs (Device.openTarget (f.target place.1 place.2) plan.options plan.collaborators).run
    (.ok d)

theorem Opens.mono {place : Option String × UInt32} {f : Found} {d : Device}
    (h : Opens plan ys place f d) (hi : ys <:+: xs) : Opens plan xs place f d :=
  Recorded.mono h hi

/-- The devices that a list brings from one controller. -/
structure Haul where
  place : Option String × UInt32
  devices : List Device

/-- The controller was surveyed, and the devices were opened in order for some of what was found. -/
def Hauled (plan : Plan) (xs : List Exchange) (haul : Haul) : Prop :=
  ∃ (found : List Found) (openings : List (Found × Device)),
    Recorded xs (surveyController haul.place.1 haul.place.2 plan.filter).run (.ok found) ∧
    (openings.map Prod.fst).Sublist found ∧
    (∀ o ∈ openings, Opens plan xs haul.place o.1 o.2) ∧ haul.devices = openings.map Prod.snd

namespace Hauled

variable {haul : Haul}

theorem mono (h : Hauled plan ys haul) (hi : ys <:+: xs) : Hauled plan xs haul := by
  obtain ⟨found, openings, hs, hsub, ho, hd⟩ := h
  exact ⟨found, openings, hs.mono hi, hsub, fun o hm => (ho o hm).mono hi, hd⟩

theorem exists_opens (h : Hauled plan xs haul) {d : Device} (hd : d ∈ haul.devices) :
    ∃ found, Recorded xs (surveyController haul.place.1 haul.place.2 plan.filter).run (.ok found) ∧
      ∃ f ∈ found, Opens plan xs haul.place f d := by
  obtain ⟨found, openings, hs, hsub, ho, hdevices⟩ := h
  rw [hdevices] at hd
  obtain ⟨o, hm, rfl⟩ := List.mem_map.1 hd
  exact ⟨found, hs, o.1, hsub.subset (List.mem_map_of_mem hm), ho o hm⟩

/-- Devices are apart when what was found is apart. -/
theorem pairwise (h : Hauled plan xs haul) {R : Device → Device → Prop}
    (hR : ∀ found,
      Recorded xs (surveyController haul.place.1 haul.place.2 plan.filter).run (.ok found) →
      found.Pairwise fun f g =>
        ∀ d e, Opens plan xs haul.place f d → Opens plan xs haul.place g e → R d e) :
    haul.devices.Pairwise R := by
  obtain ⟨found, openings, hs, hsub, ho, hdevices⟩ := h
  rw [hdevices, List.pairwise_map]
  have hpairs := List.pairwise_map.1 ((hR found hs).sublist hsub)
  exact hpairs.imp_of_mem fun hm hm' hr => hr _ _ (ho _ hm) (ho _ hm')

end Hauled

theorem course_listFound {base : Option String} {number : UInt32} {found : List Found}
    {l l' : Listing} (h : (listFound plan base number found l).Course xs l') :
    ∃ openings : List (Found × Device), (openings.map Prod.fst).Sublist found ∧
      (∀ o ∈ openings, Opens plan xs (base, number) o.1 o.2) ∧
      l'.devices = l.devices ++ openings.map Prod.snd := by
  induction found generalizing l xs with
  | nil =>
    obtain ⟨-, rfl⟩ := h
    exact ⟨[], .slnil, (fun _ hm => nomatch hm), (List.append_nil _).symm⟩
  | cons f found ih =>
    rw [listFound] at h
    split at h
    · obtain ⟨-, rfl⟩ := h
      exact ⟨[], List.nil_sublist _, (fun _ hm => nomatch hm), (List.append_nil _).symm⟩
    · obtain ⟨ys, zs, r, rfl, ho, hnext⟩ := course_bind.1 h
      have hzs : zs <:+: ys ++ zs := (List.suffix_append ys zs).isInfix
      cases r with
      | ok d =>
        obtain ⟨openings, hsub, hall, hl⟩ := ih hnext
        have hopens : Opens plan (ys ++ zs) (base, number) f d :=
          (Recorded.of_course ho).append_left
        refine ⟨(f, d) :: openings, hsub.cons_cons f, ?_, ?_⟩
        · exact List.forall_mem_cons.2 ⟨hopens, fun o hm => (hall o hm).mono hzs⟩
        · rw [hl, Listing.withDevice, List.append_assoc, List.singleton_append, List.map_cons]
      | error fault =>
        obtain ⟨openings, hsub, hall, hl⟩ := ih (course_notes_bind.1 hnext)
        exact ⟨openings, hsub.cons f, fun o hm => (hall o hm).mono hzs, hl⟩

theorem course_listControllers {base : Option String} {numbers : List UInt32} {l l' : Listing}
    (h : (listControllers plan base numbers l).Course xs l') :
    ∃ hauls : List Haul,
      (hauls.map Haul.place).Sublist (numbers.map fun number => (base, number)) ∧
      (∀ haul ∈ hauls, Hauled plan xs haul) ∧
      l'.devices = l.devices ++ hauls.flatMap Haul.devices := by
  induction numbers generalizing l xs with
  | nil =>
    obtain ⟨-, rfl⟩ := h
    exact ⟨[], .slnil, (fun _ hm => nomatch hm), (List.append_nil _).symm⟩
  | cons number numbers ih =>
    rw [listControllers] at h
    obtain ⟨ys, zs, r, rfl, hs, hnext⟩ := course_bind.1 h
    cases r with
    | error fault =>
      obtain ⟨hauls, hsub, hall, hl⟩ := ih (course_notes_bind.1 hnext)
      refine ⟨hauls, hsub.cons _, fun haul hm => ?_, hl⟩
      exact (hall haul hm).mono (List.suffix_append ys zs).isInfix
    | ok found =>
      obtain ⟨us, vs, l₁, rfl, hf, hrest⟩ := course_bind.1 hnext
      obtain ⟨openings, hsub, hall, hl₁⟩ := course_listFound hf
      have hus : us <:+: ys ++ (us ++ vs) := ⟨ys, vs, by rw [List.append_assoc]⟩
      have hvs : vs <:+: ys ++ (us ++ vs) := ⟨ys ++ us, [], by simp⟩
      have hhaul : Hauled plan (ys ++ (us ++ vs)) ⟨(base, number), openings.map Prod.snd⟩ :=
        ⟨found, openings, (Recorded.of_course hs).append_left, hsub,
          fun o hm => (hall o hm).mono hus, rfl⟩
      split at hrest
      · -- the capacity ran out: this is the last haul
        obtain ⟨-, rfl⟩ := hrest
        refine ⟨[⟨(base, number), openings.map Prod.snd⟩], ?_, ?_, ?_⟩
        · exact (List.nil_sublist _).cons_cons _
        · exact List.forall_mem_singleton.2 hhaul
        · rw [hl₁, List.flatMap_singleton]
      · obtain ⟨hauls, hsubs, halls, hl⟩ := ih hrest
        refine ⟨⟨(base, number), openings.map Prod.snd⟩ :: hauls, hsubs.cons_cons _, ?_, ?_⟩
        · exact List.forall_mem_cons.2 ⟨hhaul, fun haul hm => (halls haul hm).mono hvs⟩
        · rw [hl, hl₁, List.append_assoc, List.flatMap_cons]

theorem course_listCandidates {candidates left : List Candidate} {l l' : Listing}
    (h : (listCandidates plan candidates l).Course xs (l', left)) :
    ∃ hauls : List Haul, (hauls.map Haul.place).Sublist (candidates.flatMap Candidate.places) ∧
      (∀ haul ∈ hauls, Hauled plan xs haul) ∧
      l'.devices = l.devices ++ hauls.flatMap Haul.devices := by
  induction candidates generalizing l xs with
  | nil =>
    obtain ⟨-, he⟩ := h
    cases he
    exact ⟨[], .slnil, (fun _ hm => nomatch hm), (List.append_nil _).symm⟩
  | cons candidate candidates ih =>
    rw [listCandidates] at h
    split at h
    · obtain ⟨-, he⟩ := h
      cases he
      exact ⟨[], List.nil_sublist _, (fun _ hm => nomatch hm), (List.append_nil _).symm⟩
    · obtain ⟨ys, zs, l₁, rfl, hc, hrest⟩ := course_bind.1 h
      obtain ⟨hauls, hsub, hall, hl₁⟩ := course_listControllers hc
      have hyall : ∀ haul ∈ hauls, Hauled plan (ys ++ zs) haul :=
        fun haul hm => (hall haul hm).mono (List.prefix_append ys zs).isInfix
      rw [List.flatMap_cons]
      split at hrest
      · obtain ⟨-, he⟩ := hrest
        cases he
        exact ⟨hauls, hsub.trans (List.sublist_append_left _ _), hyall, hl₁⟩
      · obtain ⟨hauls', hsub', hall', hl⟩ := ih hrest
        refine ⟨hauls ++ hauls', ?_, List.forall_mem_append.2 ⟨hyall, fun haul hm => ?_⟩, ?_⟩
        · rw [List.map_append]
          exact hsub.append hsub'
        · exact (hall' haul hm).mono (List.suffix_append ys zs).isInfix
        · rw [hl, hl₁, List.append_assoc, List.flatMap_append]

theorem course_list {candidates left : List Candidate} {l : Listing}
    (h : (list plan candidates).Course xs (.ok l, left)) :
    ∃ hauls : List Haul, (hauls.map Haul.place).Sublist (candidates.flatMap Candidate.places) ∧
      (∀ haul ∈ hauls, Hauled plan xs haul) ∧ l.devices = hauls.flatMap Haul.devices := by
  unfold list at h
  split at h
  · obtain ⟨-, he⟩ := h
    cases he
  · obtain ⟨ys, zs, ⟨l', left'⟩, rfl, hc, hrest⟩ := course_bind.1 h
    have hend : zs = [] ∧ l = l' := by
      dsimp only at hrest
      split at hrest
      · obtain ⟨rfl, he⟩ := course_notes_bind.1 (course_notes_bind.1 hrest)
        cases he
        exact ⟨rfl, rfl⟩
      · obtain ⟨rfl, he⟩ := course_notes_bind.1 hrest
        cases he
        exact ⟨rfl, rfl⟩
    obtain ⟨rfl, rfl⟩ := hend
    rw [List.append_nil]
    exact course_listCandidates hc

/-- A list that comes to devices, given by what is seen of them. -/
theorem exists_listing {α : Type} {r : Except Fault Listing × List Candidate} {f : Listing → α}
    {v : α} (h : r.1.toOption.map f = some v) : ∃ l left, r = (.ok l, left) ∧ f l = v := by
  obtain ⟨l, hl, hv⟩ := Except.exists_of_toOption_map h
  exact ⟨l, r.2, Prod.ext hl rfl, hv⟩

end DriveReach.Inventory
