import DriveReach.Inventory.Survey
import DriveReach.Proofs.Inventory.PhySet
import Mathlib.Data.Finset.Card
import Mathlib.Data.List.Dedup
/-!
# Phys that are free for the fallback

The search of the phy table finds a device at each phy that is wanted, has an identifier below 32
and is not claimed, once per identifier. `freePhys` are the phys it would find if it were never
enough, and `searchPhys_eq` says that it stops behind as many of them as it needs.

* `free_freePhys`, `covers_freePhys`, `nodup_freePhys`: which phys these are.
* `length_freePhys`: how many, as a number of identifiers.
-/

set_option autoImplicit false

namespace DriveReach.Inventory

open Csmi

/-! ## Claimed phys -/

theorem mem_attachedAt {t : PhyTable} {a : SasAddress} {p : Phy} :
    p ∈ t.attachedAt a ↔ p ∈ t.endDevices ∧ p.attached.sasAddress = a := by
  rw [PhyTable.attachedAt, PhyTable.endDevices, List.mem_filter, List.mem_filter, Bool.and_eq_true,
    beq_iff_eq, and_assoc]

/-- A device with one of the addresses is attached at a phy with the identifier. -/
def Claimed (table : PhyTable) (addresses : List SasAddress) (phy : UInt8) : Prop :=
  ∃ a ∈ addresses, ∃ p ∈ table.attachedAt a, p.identifier = phy

instance (table : PhyTable) (addresses : List SasAddress) (phy : UInt8) :
    Decidable (Claimed table addresses phy) :=
  inferInstanceAs (Decidable (∃ a ∈ addresses, ∃ p ∈ table.attachedAt a, p.identifier = phy))

theorem contains_claimAddresses {table : PhyTable} {addresses : List SasAddress} {phy : UInt8} :
    (claimAddresses table addresses).contains phy = true ↔
      phy < 32 ∧ Claimed table addresses phy := by
  have hfold : claimAddresses table addresses =
      ((addresses.flatMap table.attachedAt).map (·.identifier)).foldl
        (fun s p => (s.claim p).2) .empty := by
    rw [List.foldl_map, claimAddresses]
  rw [hfold, PhySet.contains_foldl_claim, PhySet.contains_empty]
  simp only [Bool.false_eq_true, false_or, List.mem_map, List.mem_flatMap, Claimed]
  refine and_congr_right fun _ => ?_
  constructor
  · rintro ⟨p, ⟨a, ha, hp⟩, he⟩
    exact ⟨a, ha, p, hp, he⟩
  · rintro ⟨a, ha, p, hp, he⟩
    exact ⟨p, ⟨a, ha, hp⟩, he⟩

/-! ## Free phys -/

/-- The wanted phys that are not claimed, the first one of each identifier. -/
def freePhys (filter : Filter) : List Phy → PhySet → List Phy
  | [], _ => []
  | p :: phys, claimed =>
    if filter.wants p.attached.target.reachesAta ∧ (claimed.claim p.identifier).1 then
      p :: freePhys filter phys (claimed.claim p.identifier).2
    else freePhys filter phys claimed

/-- The number of devices that a shortfall still allows when `found` of them are there. -/
def Shortfall.cut {α : Type} (s : Shortfall) (found : Nat) (as : List α) : List α :=
  match s with
  | none => []
  | upTo count => as.take (count - found)
  | unbounded => as

theorem Shortfall.cut_cons {α : Type} (s : Shortfall) (found : Nat) (a : α) (as : List α) :
    s.cut found (a :: as) = if s.exceeds found then a :: s.cut (found + 1) as else [] := by
  cases s with
  | none => rfl
  | unbounded => rfl
  | upTo count =>
    unfold cut exceeds
    by_cases h : found < count
    · obtain ⟨more, hmore⟩ : ∃ more, count - found = more + 1 := ⟨count - found - 1, by omega⟩
      have hnext : count - (found + 1) = more := by omega
      simp [h, hmore, hnext]
    · have hnone : count - found = 0 := by omega
      simp [h, hnone]

theorem Shortfall.cut_of_not_exceeds {α : Type} {s : Shortfall} {found : Nat}
    (h : s.exceeds found = false) (as : List α) : s.cut found as = [] := by
  cases s with
  | none => rfl
  | unbounded => cases h
  | upTo count =>
    have hnone : count - found = 0 := by
      have hle : ¬ found < count := of_decide_eq_false h
      omega
    rw [cut, hnone, List.take_zero]

theorem Shortfall.cut_sublist {α : Type} (s : Shortfall) (found : Nat) (as : List α) :
    (s.cut found as).Sublist as := by
  cases s with
  | none => exact List.nil_sublist as
  | unbounded => exact List.Sublist.refl as
  | upTo count => exact List.take_sublist _ as

theorem searchPhys_eq (filter : Filter) (s : Shortfall) (phys : List Phy) (claimed : PhySet)
    (found : Nat) :
    searchPhys filter s phys claimed found =
      (s.cut found (freePhys filter phys claimed)).map foundAt := by
  induction phys generalizing claimed found with
  | nil =>
    rw [freePhys, searchPhys]
    cases s <;> simp [Shortfall.cut]
  | cons p phys ih =>
    rw [searchPhys, freePhys]
    cases he : s.exceeds found with
    | false => simp [Shortfall.cut_of_not_exceeds he]
    | true =>
      cases hw : filter.wants p.attached.target.reachesAta with
      | false => simp [ih]
      | true =>
        cases hc : claimed.claim p.identifier with
        | mk granted after =>
          cases granted with
          | true => simp [ih, Shortfall.cut_cons, he]
          | false =>
            -- a claim that is not granted changes nothing
            have hsame : after = claimed := by
              unfold PhySet.claim at hc
              split at hc <;> cases hc
              rfl
            simp [ih, hsame]

section
variable {filter : Filter} {phys : List Phy} {claimed : PhySet}

theorem freePhys_sublist (filter : Filter) (phys : List Phy) (claimed : PhySet) :
    (freePhys filter phys claimed).Sublist phys := by
  induction phys generalizing claimed with
  | nil => exact .slnil
  | cons p phys ih =>
    unfold freePhys
    split
    · exact (ih _).cons_cons p
    · exact (ih _).cons p

/-- A free phy is wanted, has an identifier below 32 and is not claimed. -/
theorem free_freePhys {p : Phy} (h : p ∈ freePhys filter phys claimed) :
    filter.wants p.attached.target.reachesAta = true ∧ p.identifier < 32 ∧
      claimed.contains p.identifier = false := by
  induction phys generalizing claimed with
  | nil => cases h
  | cons q phys ih =>
    unfold freePhys at h
    split at h
    · rename_i hq
      rw [PhySet.claim_fst, decide_eq_true_eq] at hq
      rcases List.mem_cons.1 h with rfl | h
      · exact hq
      · obtain ⟨hw, hlt, hnot⟩ := ih h
        rw [PhySet.contains_claim, Bool.or_eq_false_iff] at hnot
        exact ⟨hw, hlt, hnot.1⟩
    · exact ih h

theorem nodup_freePhys (filter : Filter) (phys : List Phy) (claimed : PhySet) :
    ((freePhys filter phys claimed).map (·.identifier)).Nodup := by
  induction phys generalizing claimed with
  | nil => exact .nil
  | cons p phys ih =>
    unfold freePhys
    split
    · rename_i hp
      rw [List.map_cons, List.nodup_cons]
      refine ⟨fun hm => ?_, ih _⟩
      -- what is found behind `p` is not claimed, but `p` is
      obtain ⟨q, hq, he⟩ := List.mem_map.1 hm
      have hnot := (free_freePhys hq).2.2
      rw [PhySet.claim_fst, decide_eq_true_eq] at hp
      rw [PhySet.contains_claim, he] at hnot
      simp [hp.2.1] at hnot
    · exact ih _

theorem covers_freePhys {p : Phy} (hp : p ∈ phys)
    (hw : filter.wants p.attached.target.reachesAta = true) (hlt : p.identifier < 32)
    (hnot : claimed.contains p.identifier = false) :
    p.identifier ∈ (freePhys filter phys claimed).map (·.identifier) := by
  induction phys generalizing claimed with
  | nil => cases hp
  | cons q phys ih =>
    unfold freePhys
    split
    · rename_i hq
      rw [List.map_cons, List.mem_cons]
      by_cases he : p.identifier = q.identifier
      · exact .inl he
      · rcases List.mem_cons.1 hp with rfl | hp
        · exact absurd rfl he
        · refine .inr (ih hp ?_)
          rw [PhySet.contains_claim, hnot]
          simp [he]
    · rename_i hq
      rcases List.mem_cons.1 hp with rfl | hp
      · exact absurd ⟨hw, by rw [PhySet.claim_fst]; exact decide_eq_true ⟨hlt, hnot⟩⟩ hq
      · exact ih hp hnot

end

/-- The identifiers below 32 of wanted end devices that are not claimed. -/
def freeIdentifiers (filter : Filter) (table : PhyTable) (addresses : List SasAddress) :
    Finset UInt8 :=
  (((table.endDevices.filter fun p => filter.wants p.attached.target.reachesAta).map
    (·.identifier)).toFinset).filter fun phy => phy < 32 ∧ ¬ Claimed table addresses phy

theorem length_freePhys (filter : Filter) (table : PhyTable) (addresses : List SasAddress) :
    (freePhys filter table.endDevices (claimAddresses table addresses)).length =
      (freeIdentifiers filter table addresses).card := by
  have hset : ((freePhys filter table.endDevices (claimAddresses table addresses)).map
      (·.identifier)).toFinset = freeIdentifiers filter table addresses := by
    ext phy
    simp only [freeIdentifiers, Finset.mem_filter, List.mem_toFinset, List.mem_map,
      List.mem_filter]
    constructor
    · rintro ⟨p, hp, rfl⟩
      obtain ⟨hw, hlt, hnot⟩ := free_freePhys hp
      have hmem := (freePhys_sublist _ _ _).subset hp
      refine ⟨⟨p, ⟨hmem, hw⟩, rfl⟩, hlt, fun hc => ?_⟩
      rw [contains_claimAddresses.2 ⟨hlt, hc⟩] at hnot
      cases hnot
    · rintro ⟨⟨p, ⟨hmem, hw⟩, rfl⟩, hlt, hfree⟩
      refine List.mem_map.1 (covers_freePhys hmem hw hlt ?_)
      rw [Bool.eq_false_iff]
      exact fun hc => hfree (contains_claimAddresses.1 hc).2
  rw [← hset, List.toFinset_card_of_nodup (nodup_freePhys _ _ _), List.length_map]

end DriveReach.Inventory
