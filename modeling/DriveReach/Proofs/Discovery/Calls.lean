import DriveReach.Discovery.Discover
import DriveReach.Proofs.Device.Commands
/-!
# The calls of discovery

Each step of discovery makes calls of its own kinds, whatever it is answered, so that a call in the
record of a discovery tells of which step it is.

* `only_resolve`: resolving the address asks for a translation and for RAID sets.
* `only_place`, `only_locate`: locating the device asks for the phy table, and sends commands to
  devices when the access level allows it.
* `only_particulars`: what is particular to a kind of device is its signature or its OS address.
-/

set_option autoImplicit false

namespace DriveReach.Discovery.Search

open Csmi Dialogue

variable {s : Search} {ep : Endpoint}

/-! ## Resolving the address -/

theorem only_askDriver {path target : UInt8} :
    (s.askDriver path target).run.Only fun x => x.code = .deviceAddress := by
  unfold askDriver
  split
  · exact only_done
  split
  · exact Attempt.only_bind Attempt.only_note fun _ => only_done
  · refine Attempt.only_bind (Attempt.only_unlessDeclined ?_) fun _ => only_done
    exact Controller.only_ask fun x hx => hx.code

theorem only_resolveForm : s.resolveForm.run.Only fun x => x.code = .deviceAddress := by
  unfold resolveForm
  split
  · exact Attempt.only_bind only_askDriver fun _ => only_done
  · exact only_done

theorem only_scanSets {identity : Identity} {info : RaidInfo} {count : Nat} {index : UInt32}
    {found : Option SasAddress} :
    (s.scanSets identity info count index found).run.Only fun x => x.code = .raidConfig := by
  induction count generalizing index found with
  | zero => exact only_done
  | succ count ih =>
    refine Attempt.only_bind (Attempt.only_unlessDeclined ?_) fun answer => ?_
    · exact Controller.only_raidConfig fun x hx => hx
    · cases answer with
      | none => exact ih
      | some config => exact Attempt.only_bind Attempt.only_ofExcept fun _ => ih

theorem only_scanRaid {identity : Identity} :
    (s.scanRaid identity).run.Only fun x => x.code ∈ [.raidInfo, .raidConfig] := by
  refine Attempt.only_bind (Attempt.only_outcome ?_) fun answer => ?_
  · exact Controller.only_ask fun x hx => by simp [hx.code]
  · cases answer with
    | error fault =>
      dsimp only
      split
      · exact only_done
      · exact only_done
    | ok info =>
      refine Attempt.only_bind (only_scanSets.mono fun x hx => ?_) fun _ => only_done
      simp [hx]

theorem only_resolveIdentity :
    s.resolveIdentity.run.Only fun x => x.code ∈ [.raidInfo, .raidConfig] := by
  unfold resolveIdentity
  split
  · refine Attempt.only_bind only_scanRaid fun found => ?_
    cases found with
    | none => exact only_done
    | some a => exact only_done
  · exact only_done

theorem only_resolve :
    s.resolve.run.Only fun x => x.code ∈ [.deviceAddress, .raidInfo, .raidConfig] := by
  unfold resolve
  split
  · exact only_done
  · refine Attempt.only_bind (only_resolveForm.mono fun x hx => by simp [hx]) fun decided => ?_
    cases decided with
    | none => exact only_resolveIdentity.mono fun x hx => List.mem_cons_of_mem _ hx
    | some resolution => exact only_done

/-! ## Locating the device -/

theorem only_identifyAta : (s.identifyAta ep).run.Only Exchange.IsPassthrough := by
  refine Attempt.only_bind (Attempt.only_lift AtaRequest.only_issue) fun ⟨result, _, request⟩ => ?_
  refine Attempt.only_bind Attempt.only_ofExcept fun _ => Attempt.only_unless fun _ => ?_
  split
  · exact only_done
  · exact only_done

theorem only_scsiIn {cdb : Scsi.Cdb} {length : Nat} :
    (s.scsiIn ep cdb length).run.Only Exchange.IsPassthrough := by
  refine Attempt.only_bind (Attempt.only_lift ScsiRequest.only_send) fun ⟨result, request⟩ => ?_
  exact Attempt.only_bind Attempt.only_ofExcept fun _ => Attempt.only_unless fun _ => only_done

theorem only_identifyScsi : (s.identifyScsi ep).run.Only Exchange.IsPassthrough :=
  Attempt.only_bind only_scsiIn fun _ => Attempt.only_bind Attempt.only_ofExcept fun _ =>
    Attempt.only_bind only_scsiIn fun _ => Attempt.only_bind Attempt.only_ofExcept fun _ =>
      only_done

theorem only_identify {ata : Bool} : (s.identify ep ata).run.Only Exchange.IsPassthrough := by
  unfold identify
  split
  · exact only_identifyAta
  · exact only_identifyScsi

theorem only_answers? {identity : Identity} {ata : Bool} {silent : Fault → String} :
    (s.answers? identity ep ata silent).Only Exchange.IsPassthrough := by
  refine only_bind only_identify fun result => ?_
  cases result with
  | ok reported => exact only_done
  | error fault => exact only_notes_bind only_done

theorem only_askPhys {identity : Identity} {found : Option Phy} {phys : List Phy} :
    (s.askPhys identity found phys).run.Only Exchange.IsPassthrough := by
  induction phys generalizing found with
  | nil => exact only_done
  | cons p phys ih =>
    refine Attempt.only_bind (Attempt.only_lift only_answers?) fun answer => ?_
    split
    · cases found with
      | none => exact ih
      | some earlier =>
        dsimp only
        split
        · exact ih
        · exact only_done
    · exact ih

/-- A command to a device, where the access level allows one. -/
def Probes (s : Search) (x : Exchange) : Prop := s.access.allowsPassthrough = true ∧ x.IsPassthrough

theorem only_placeByIdentity {phys : List Phy} : (s.placeByIdentity phys).run.Only s.Probes := by
  unfold placeByIdentity
  split
  · split
    · exact Attempt.only_bind Attempt.only_note fun _ => only_done
    · rename_i hpass
      have hallow : s.access.allowsPassthrough = true := by simpa using hpass
      refine Attempt.only_bind (only_askPhys.mono fun x hx => ⟨hallow, hx⟩) fun found => ?_
      cases found with
      | none => exact only_done
      | some p => exact only_done
  · exact only_done

theorem only_placeByAddress {table : PhyTable} {a : SasAddress} :
    (s.placeByAddress table a).run.Only s.Probes := by
  unfold placeByAddress
  split
  · exact only_placeByIdentity
  · split
    · exact only_done
    split
    · exact only_placeByIdentity
    · exact only_done

theorem only_placeByHandle {table : PhyTable} : (s.placeByHandle table).run.Only s.Probes := by
  unfold placeByHandle
  split
  · exact only_done
  · exact Attempt.only_bind Attempt.only_note fun _ => only_done

theorem only_place {table : PhyTable} {resolution : Resolution} :
    (s.place table resolution).run.Only s.Probes := by
  unfold place
  split
  · exact only_placeByAddress
  · exact only_placeByIdentity
  · exact only_placeByHandle

-- The probe at hand is a closed computation but for the controller; it is not to be unfolded.
attribute [local irreducible] answers? in
theorem only_confirmNvme {packed : SasAddress} {confirmed : Bool} :
    (s.confirmNvme packed confirmed).run.Only s.Probes := by
  unfold confirmNvme
  split
  · exact only_done
  split
  · split
    · exact only_done
    · rename_i hpass
      have hallow : s.access.allowsPassthrough = true := by simpa using hpass
      refine Attempt.only_bind (Attempt.only_lift (only_answers?.mono fun x hx => ⟨hallow, hx⟩))
        fun answer => ?_
      split
      · exact only_done
      · exact only_done
  · exact only_done

theorem only_locate {satLayer : SatLayer} {resolution : Resolution} :
    (s.locate satLayer resolution).run.Only fun x => x.code = .phyInfo ∨ s.Probes x := by
  have inTable : (do
      let table ← s.controller.phyTable
      let placement ← s.place table resolution
      return ⟨placement, bindingFor placement.protocol satLayer,
        .ofPhy s.target.controller placement.port placement.phy s.target.lun⟩ :
        Attempt Located).run.Only fun x => x.code = .phyInfo ∨ s.Probes x :=
    Attempt.only_bind (Controller.only_ask fun x hx => .inl hx.code) fun _ =>
      Attempt.only_bind (only_place.mono fun x hx => .inr hx) fun _ => only_done
  cases resolution with
  | address a => exact inTable
  | unresolved => exact inTable
  | nvme confirmed =>
    unfold locate
    dsimp only
    split
    · exact Attempt.only_bind (only_confirmNvme.mono fun x hx => .inr hx) fun _ => only_done
    · exact only_done

/-! ## Particulars -/

theorem only_particulars {found : Located} {fetchSignature : Bool} :
    (s.particulars found fetchSignature).run.Only
      fun x => x.code ∈ [.sataSignature, .scsiAddress] := by
  unfold particulars
  split
  · exact only_done
  split
  · split
    · refine Attempt.only_bind (Attempt.only_unlessDeclined ?_) fun _ => only_done
      exact Controller.only_ask fun x hx => by simp [hx.code]
    · exact only_done
  · refine Attempt.only_bind (Attempt.only_unlessDeclined ?_) fun _ => only_done
    exact Controller.only_ask fun x hx => by simp [hx.code]

end DriveReach.Discovery.Search
