import DriveReach.Discovery.Resolve
import DriveReach.Proofs.Course
/-!
# Where an address comes from

`Search.Resolved` has one case for each way in which discovery can come to a resolution, with what
the driver reported on that way.

* `mergeMatches_eq_some`, `course_scanSets`: an address found in RAID sets is that of a countable
  drive with the expected identity, by induction on the drives and on the sets.
* `course_resolve`: every resolution is one of the cases.
-/

set_option autoImplicit false

namespace DriveReach.Discovery.Search

open Csmi

variable {s : Search} {xs ys : List Exchange}

/-! ## Reports of the driver -/

/-- The question for the device behind a path and target of the operating system. -/
def translation (s : Search) (path target : UInt8) : Attempt SasLocation :=
  s.controller.deviceAddress ⟨s.target.controller.toUInt8, path, target, s.target.lun⟩

/-- The driver translated a path and target into an address. -/
def Translates (s : Search) (xs : List Exchange) (path target : UInt8) (a : SasAddress) : Prop :=
  ∃ location, Recorded xs (s.translation path target).run (.ok location) ∧ location.address = a

/-- The driver has no address for a path and target: it is not to be asked, or it declined. -/
def Withholds (s : Search) (xs : List Exchange) (path target : UInt8) : Prop :=
  s.traits.skipsDeviceAddress = true ∨ UInt8.size ≤ s.target.controller.toNat ∨
    ∃ fault, fault.isDeclined = true ∧ Recorded xs (s.translation path target).run (.error fault)

/-- A RAID set has a countable drive with an identity, at an address. -/
def Lists (s : Search) (xs : List Exchange) (identity : Identity) (a : SasAddress) : Prop :=
  ∃ index room config, Recorded xs (s.controller.raidConfig index room).run (.ok config) ∧
    ∃ drive ∈ config.countableDrives,
      identity.accepts drive.model drive.serialNumber = true ∧ drive.sasAddress = a

theorem Translates.mono {path target : UInt8} {a : SasAddress}
    (h : s.Translates ys path target a) (hi : ys <:+: xs) : s.Translates xs path target a :=
  let ⟨location, hr, ha⟩ := h
  ⟨location, hr.mono hi, ha⟩

theorem Withholds.mono {path target : UInt8} (h : s.Withholds ys path target) (hi : ys <:+: xs) :
    s.Withholds xs path target :=
  h.imp_right (Or.imp_right fun ⟨fault, hd, hr⟩ => ⟨fault, hd, hr.mono hi⟩)

theorem Lists.mono {identity : Identity} {a : SasAddress} (h : s.Lists ys identity a)
    (hi : ys <:+: xs) : s.Lists xs identity a :=
  let ⟨index, room, config, hr, hd⟩ := h
  ⟨index, room, config, hr.mono hi, hd⟩

/-- How discovery came to a resolution. -/
inductive Resolved (s : Search) (xs : List Exchange) : Resolution → Prop
  | known {a : SasAddress} :
    s.target.knownAddress = some a → s.isUsable a = true → Resolved s xs (.address a)
  | translated {path target : UInt8} {a : SasAddress} :
    s.target.form = .os path target → s.Translates xs path target a → s.isUsable a = true →
    Resolved s xs (.address a)
  | listed {identity : Identity} {a : SasAddress} :
    s.target.identity = some identity → s.Lists xs identity a → s.isUsable a = true →
    Resolved s xs (.address a)
  | nvmeConfirmed {path target : UInt8} :
    s.target.form = .os path target →
    s.Translates xs path target (.packedNvme path target s.target.lun) →
    Resolved s xs (.nvme true)
  | nvmeWithheld {path target : UInt8} :
    s.target.form = .os path target → s.Withholds xs path target → Resolved s xs (.nvme false)
  | unresolved : Resolved s xs .unresolved

theorem Resolved.mono {resolution : Resolution} (h : s.Resolved ys resolution) (hi : ys <:+: xs) :
    s.Resolved xs resolution := by
  cases h with
  | known hk hu => exact .known hk hu
  | translated hf ht hu => exact .translated hf (ht.mono hi) hu
  | listed hw hl hu => exact .listed hw (hl.mono hi) hu
  | nvmeConfirmed hf ht => exact .nvmeConfirmed hf (ht.mono hi)
  | nvmeWithheld hf hw => exact .nvmeWithheld hf (hw.mono hi)
  | unresolved => exact .unresolved

/-! ## RAID sets -/

theorem mergeMatches_eq_some {identity : Identity} {found : Option SasAddress} {a : SasAddress}
    {drives : List RaidDrive} (h : mergeMatches identity found drives = .ok (some a)) :
    found = some a ∨ ∃ drive ∈ drives,
      identity.accepts drive.model drive.serialNumber = true ∧ drive.sasAddress = a := by
  induction drives generalizing found with
  | nil => exact .inl (Except.ok.inj h)
  | cons drive drives ih =>
    have later {found' : Option SasAddress} (h : mergeMatches identity found' drives = .ok (some a))
        (hf : found' = some a → found = some a ∨ ∃ d ∈ drive :: drives,
          identity.accepts d.model d.serialNumber = true ∧ d.sasAddress = a) :
        found = some a ∨ ∃ d ∈ drive :: drives,
          identity.accepts d.model d.serialNumber = true ∧ d.sasAddress = a := by
      rcases ih h with hs | ⟨d, hd, ha⟩
      · exact hf hs
      · exact .inr ⟨d, List.mem_cons_of_mem _ hd, ha⟩
    unfold mergeMatches at h
    split at h
    · rename_i hw
      split at h
      · exact later h fun hs => .inr ⟨drive, List.mem_cons_self, hw, Option.some.inj hs⟩
      · split at h
        · exact later h .inl
        · cases h
    · exact later h .inl

theorem course_scanSets {identity : Identity} {info : RaidInfo} {count : Nat} {index : UInt32}
    {found : Option SasAddress} {a : SasAddress}
    (h : (s.scanSets identity info count index found).run.Course xs (.ok (some a))) :
    found = some a ∨ s.Lists xs identity a := by
  induction count generalizing index found xs with
  | zero => exact .inl (Except.ok.inj h.2).symm
  | succ count ih =>
    rw [scanSets, Attempt.course_run_bind_ok] at h
    obtain ⟨ys, zs, answer, rfl, hs, h⟩ := h
    cases answer with
    | none =>
      rcases ih h with hf | hl
      · exact .inl hf
      · exact .inr (hl.mono (List.suffix_append ys zs).isInfix)
    | some config =>
      replace h := Attempt.course_run_ofExcept_bind.1 h
      cases hm : mergeMatches identity found config.countableDrives with
      | error fault =>
        rw [hm] at h
        cases h.2
      | ok merged =>
        rw [hm] at h
        rcases ih h with rfl | hl
        · rcases mergeMatches_eq_some hm with hf | hd
          · exact .inl hf
          · have hr := Recorded.of_course (Attempt.course_run_unlessDeclined_some.1 hs)
            exact .inr ⟨index, _, config, hr.append_left, hd⟩
        · exact .inr (hl.mono (List.suffix_append ys zs).isInfix)

theorem course_scanRaid {identity : Identity} {a : SasAddress}
    (h : (s.scanRaid identity).run.Course xs (.ok (some a))) :
    s.Lists xs identity a ∧ s.isUsable a = true := by
  rw [scanRaid, Attempt.course_run_bind_ok] at h
  obtain ⟨ys, zs, answer, rfl, -, h⟩ := h
  cases answer with
  | error fault =>
    dsimp only at h
    split at h
    · cases h.2
    · cases h.2
  | ok info =>
    rw [Attempt.course_run_bind_ok] at h
    obtain ⟨us, vs, found, rfl, hs, rfl, h⟩ := h
    obtain ⟨hf, hu⟩ := Option.filter_eq_some_iff.1 (Except.ok.inj h).symm
    subst hf
    rcases course_scanSets hs with hn | hl
    · cases hn
    · refine ⟨hl.mono ?_, hu⟩
      rw [List.append_nil]
      exact (List.suffix_append ys us).isInfix

/-! ## Translations -/

theorem course_askDriver {path target : UInt8} {reported : Option SasAddress}
    (h : (s.askDriver path target).run.Course xs (.ok reported)) :
    (∀ a, reported = some a → s.Translates xs path target a) ∧
      (reported = none → s.Withholds xs path target) := by
  unfold askDriver at h
  split at h
  · rename_i hskip
    cases h.2
    exact ⟨fun _ ha => (nomatch ha), fun _ => .inl hskip⟩
  split at h
  · rename_i hnum
    cases (Attempt.course_run_note_bind.1 h).2
    exact ⟨fun _ ha => (nomatch ha), fun _ => .inr (.inl hnum)⟩
  rw [Attempt.course_run_bind_ok] at h
  obtain ⟨ys, zs, location, rfl, hq, rfl, h⟩ := h
  cases h
  rw [List.append_nil]
  cases location with
  | none =>
    obtain ⟨fault, hd, hc⟩ := Attempt.course_run_unlessDeclined_none.1 hq
    exact ⟨fun _ ha => (nomatch ha), fun _ => .inr (.inr ⟨fault, hd, .of_course hc⟩)⟩
  | some location =>
    have hr := Recorded.of_course (Attempt.course_run_unlessDeclined_some.1 hq)
    exact ⟨fun a ha => ⟨location, hr, Option.some.inj ha⟩, (nomatch ·)⟩

theorem course_resolveForm {resolution : Resolution}
    (h : s.resolveForm.run.Course xs (.ok (some resolution))) : s.Resolved xs resolution := by
  unfold resolveForm at h
  split at h
  · rename_i path target hform
    rw [Attempt.course_run_bind_ok] at h
    obtain ⟨ys, zs, reported, rfl, hq, rfl, h⟩ := h
    rw [List.append_nil]
    obtain ⟨ht, hw⟩ := course_askDriver hq
    replace h := (Except.ok.inj h).symm
    unfold ofReported? at h
    dsimp only at h
    split at h
    · rename_i hn
      cases h
      rw [Bool.and_eq_true, beq_iff_eq] at hn
      exact .nvmeWithheld hform (hw hn.2)
    · split at h
      · rename_i hn
        cases h
        rw [Bool.and_eq_true, beq_iff_eq] at hn
        exact .nvmeConfirmed hform (ht _ hn.2)
      · obtain ⟨a, ha, rfl⟩ := Option.map_eq_some_iff.1 h
        obtain ⟨hr, hu⟩ := Option.filter_eq_some_iff.1 ha
        exact .translated hform (ht a hr) hu
  · cases h.2

theorem course_resolveIdentity {resolution : Resolution}
    (h : s.resolveIdentity.run.Course xs (.ok resolution)) : s.Resolved xs resolution := by
  unfold resolveIdentity at h
  split at h
  · rename_i identity hid
    rw [Attempt.course_run_bind_ok] at h
    obtain ⟨ys, zs, found, rfl, hq, h⟩ := h
    cases found with
    | none =>
      cases h.2
      exact .unresolved
    | some a =>
      obtain ⟨rfl, h⟩ := h
      cases h
      rw [List.append_nil]
      obtain ⟨hl, hu⟩ := course_scanRaid hq
      exact .listed hid hl hu
  · cases h.2
    exact .unresolved

/-- Every resolution has come in one of the ways of `Resolved`. -/
theorem course_resolve {resolution : Resolution} (h : s.resolve.run.Course xs (.ok resolution)) :
    s.Resolved xs resolution := by
  unfold resolve at h
  split at h
  · rename_i a ha
    obtain ⟨hk, hu⟩ := Option.filter_eq_some_iff.1 ha
    cases h.2
    exact .known hk hu
  · rw [Attempt.course_run_bind_ok] at h
    obtain ⟨ys, zs, decided, rfl, hq, h⟩ := h
    cases decided with
    | none => exact (course_resolveIdentity h).mono (List.suffix_append ys zs).isInfix
    | some resolution' =>
      obtain ⟨rfl, h⟩ := h
      cases h
      rw [List.append_nil]
      exact course_resolveForm hq

/-- A usable address that was known beforehand is the resolution. -/
theorem course_resolve_known {a : SasAddress} {resolution : Resolution}
    (hk : s.target.knownAddress = some a) (hu : s.isUsable a = true)
    (h : s.resolve.run.Course xs (.ok resolution)) : resolution = .address a := by
  rw [resolve, hk, Option.filter_some_pos hu] at h
  exact Except.ok.inj h.2

end DriveReach.Discovery.Search
