import DriveReach.Device.Basic
import DriveReach.Proofs.Transcript
/-!
# Where dialogues attach

Opening a device attaches once, to the controller of its target; from there on discovery only calls.

* `AttachesTo`: whatever the dialogue is answered, it attaches only to controllers of some kind.
* `stays_discover`: discovery attaches to nothing, one lemma for each of its steps.
* `Device.attachesTo_openTarget`: opening a target attaches to the controller of the target alone.
-/

set_option autoImplicit false

namespace DriveReach

open Csmi Dialogue

/-! ## Attachments -/

namespace Dialogue

variable {α β σ : Type} {p q : Option String → UInt32 → Prop}

/-- The dialogue attaches only to controllers that `p` holds of, whatever it is answered. -/
def AttachesTo (p : Option String → UInt32 → Prop) : Dialogue α → Prop
  | done _ => True
  | note _ next => next.AttachesTo p
  | attach base controller next => p base controller ∧ ∀ answer, (next answer).AttachesTo p
  | call _ _ _ next => ∀ answer, (next answer).AttachesTo p

theorem attachesTo_bind {d : Dialogue α} {f : α → Dialogue β} (hd : d.AttachesTo p)
    (hf : ∀ a, (f a).AttachesTo p) : (d >>= f).AttachesTo p := by
  change (d.bind f).AttachesTo p
  induction d with
  | done a => exact hf a
  | note line next ih => exact ih hd
  | attach base controller next ih => exact ⟨hd.1, fun answer => ih answer (hd.2 answer)⟩
  | call channel code buffer next ih => exact fun answer => ih answer (hd answer)

theorem Stays.attachesTo {d : Dialogue α} (hd : d.Stays) : d.AttachesTo p := by
  induction d with
  | done a => exact trivial
  | note line next ih => exact ih hd
  | attach base controller next ih => exact hd.elim
  | call channel code buffer next ih => exact fun answer => ih answer (hd answer)

theorem AttachesTo.mono {d : Dialogue α} (hd : d.AttachesTo p)
    (hpq : ∀ base controller, p base controller → q base controller) : d.AttachesTo q := by
  induction d with
  | done a => exact trivial
  | note line next ih => exact ih hd
  | attach base controller next ih =>
    exact ⟨hpq _ _ hd.1, fun answer => ih answer (hd.2 answer)⟩
  | call channel code buffer next ih => exact fun answer => ih answer (hd answer)

/-- A dialogue that attaches first, and then to nothing. -/
theorem attachesTo_attach_bind {base : Option String} {controller : UInt32}
    {f : Except Fault Channel → Dialogue β} (hf : ∀ answer, (f answer).Stays) :
    (attach base controller .done >>= f).AttachesTo fun b n => (b, n) = (base, controller) :=
  ⟨rfl, fun answer => (hf answer).attachesTo⟩

/-- The attachments in a run are those that the dialogue may make. -/
theorem AttachesTo.event {d : Dialogue α} (hd : d.AttachesTo p) (w : Surroundings σ) (s : σ)
    {base : Option String} {controller : UInt32}
    (h : Event.attached base controller ∈ (d.run w s).events) : p base controller := by
  induction d generalizing s with
  | done a => cases h
  | note line next ih =>
    rcases List.mem_cons.1 h with he | h
    · cases he
    · exact ih hd s h
  | attach base' controller' next ih =>
    rcases List.mem_cons.1 h with he | h
    · cases he
      exact hd.1
    · exact ih _ (hd.2 _) _ h
  | call channel code buffer next ih =>
    rcases List.mem_cons.1 h with he | h
    · cases he
    · exact ih _ (hd _) _ h

end Dialogue

/-! ## Commands to devices -/

theorem ScsiRequest.stays_send {r : ScsiRequest} {c : Controller} {ep : Endpoint} :
    (r.send c ep).Stays := by
  refine stays_bind ?_ fun result => ?_
  · refine Attempt.stays_bind trivial fun payload => ?_
    refine Attempt.stays_bind (Call.stays_issue _ _) fun reply => ?_
    refine Attempt.stays_bind trivial fun _ => Attempt.stays_bind trivial fun status => ?_
    split
    · exact Attempt.stays_bind Attempt.stays_note fun _ => trivial
    · exact trivial
  · cases result with
    | error fault => exact trivial
    | ok answer => exact stays_bind stays_notes fun _ => trivial

namespace AtaRequest

variable {r : AtaRequest} {c : Controller} {ep : Endpoint}

theorem stays_sendSat {cdb : Scsi.Cdb} : (r.sendSat c ep cdb).Stays := by
  refine stays_bind ScsiRequest.stays_send fun ⟨result, scsi⟩ => ?_
  cases result with
  | error fault => exact trivial
  | ok _ => exact trivial

theorem stays_issueLegacy : (r.issueLegacy c ep).Stays := by
  unfold issueLegacy
  split
  · exact trivial
  · refine stays_bind stays_sendSat fun ⟨result, request⟩ => ?_
    split <;> exact trivial

theorem stays_issueSat : (r.issueSat c ep).Stays := by
  refine stays_bind stays_sendSat fun ⟨result, request⟩ => ?_
  split
  · exact trivial
  · exact trivial
  · exact stays_bind stays_notes fun _ => stays_issueLegacy

theorem stays_completeStp {payload : Bytes} : (r.completeStp ep payload).Stays := by
  unfold completeStp
  split
  · exact trivial
  split
  · exact stays_bind stays_notes fun _ => trivial
  dsimp only
  split
  · exact trivial
  · exact stays_bind stays_notes fun _ => trivial

theorem stays_sendStp : (r.sendStp c ep).Stays := by
  refine stays_bind ?_ fun result => ?_
  · exact Attempt.stays_bind trivial fun payload => Call.stays_issue _ _
  · cases result with
    | error fault => exact trivial
    | ok reply =>
      dsimp only
      split
      · exact stays_bind stays_notes fun _ => trivial
      split
      · exact trivial
      · exact stays_completeStp

theorem stays_issue : (r.issue c ep).Stays := by
  unfold issue
  split
  · refine stays_bind stays_sendStp fun ⟨result, request⟩ => ?_
    split
    · exact trivial
    · exact trivial
    · exact stays_issueSat
  · exact stays_issueSat
  · exact stays_issueLegacy

end AtaRequest

/-! ## Discovery -/

namespace Attempt

theorem stays_ofExcept {α : Type} {result : Except Fault α} : (ofExcept result).run.Stays := trivial

/-- A check in front attaches to nothing. -/
theorem stays_unless {β : Type} {c : Prop} [Decidable c] {fault : Fault} {a : Attempt β}
    (ha : a.run.Stays) :
    (if c then (throw fault : Attempt Unit) >>= fun _ => a else a).run.Stays := by
  split
  · exact trivial
  · exact ha

theorem stays_note_if {β : Type} {c : Prop} [Decidable c] {level : LogLevel} {text : String}
    {a : Attempt β} (ha : a.run.Stays) :
    (if c then note level text >>= fun _ => a else a).run.Stays := by
  split
  · exact stays_bind stays_note fun _ => ha
  · exact ha

end Attempt

namespace Discovery

namespace Search

variable {s : Search} {ep : Endpoint}

theorem stays_resolveForm : s.resolveForm.run.Stays := by
  unfold resolveForm
  split
  · refine Attempt.stays_bind ?_ fun _ => trivial
    unfold askDriver
    split
    · exact trivial
    split
    · exact Attempt.stays_bind Attempt.stays_note fun _ => trivial
    · exact Attempt.stays_bind (Attempt.stays_unlessDeclined Controller.stays_ask) fun _ => trivial
  · exact trivial

theorem stays_scanSets {identity : Identity} {info : RaidInfo} {count : Nat} {index : UInt32}
    {found : Option SasAddress} :
    (s.scanSets identity info count index found).run.Stays := by
  induction count generalizing index found with
  | zero => exact trivial
  | succ count ih =>
    refine Attempt.stays_bind (Attempt.stays_unlessDeclined (Controller.stays_raidConfig _ _ _))
      fun answer => ?_
    cases answer with
    | none => exact ih
    | some config => exact Attempt.stays_bind trivial fun _ => ih

theorem stays_scanRaid {identity : Identity} : (s.scanRaid identity).run.Stays := by
  refine Attempt.stays_bind (Attempt.stays_outcome Controller.stays_ask) fun answer => ?_
  cases answer with
  | error fault =>
    dsimp only
    split <;> exact trivial
  | ok info => exact Attempt.stays_bind stays_scanSets fun _ => trivial

theorem stays_resolve : s.resolve.run.Stays := by
  unfold resolve
  split
  · exact trivial
  · refine Attempt.stays_bind stays_resolveForm fun decided => ?_
    cases decided with
    | some resolution => exact trivial
    | none =>
      dsimp only
      unfold resolveIdentity
      split
      · refine Attempt.stays_bind stays_scanRaid fun found => ?_
        cases found <;> exact trivial
      · exact trivial

theorem stays_scsiIn {cdb : Scsi.Cdb} {length : Nat} : (s.scsiIn ep cdb length).run.Stays := by
  refine Attempt.stays_bind (Attempt.stays_lift ScsiRequest.stays_send) fun ⟨result, request⟩ => ?_
  exact Attempt.stays_bind trivial fun _ => Attempt.stays_unless trivial

-- The commands of a probe are closed computations but for the controller; they are not to be
-- unfolded.
attribute [local irreducible] AtaRequest.issue in
theorem stays_identifyAta : (s.identifyAta ep).run.Stays := by
  refine Attempt.stays_bind (Attempt.stays_lift AtaRequest.stays_issue)
    fun ⟨result, _, request⟩ => ?_
  refine Attempt.stays_bind Attempt.stays_ofExcept fun _ => Attempt.stays_unless ?_
  split <;> exact trivial

attribute [local irreducible] scsiIn in
theorem stays_identifyScsi : (s.identifyScsi ep).run.Stays := by
  refine Attempt.stays_bind stays_scsiIn fun data => ?_
  refine Attempt.stays_bind Attempt.stays_ofExcept fun inquiry => ?_
  refine Attempt.stays_bind stays_scsiIn fun page => ?_
  exact Attempt.stays_bind Attempt.stays_ofExcept fun _ => Attempt.stays_ofExcept

attribute [local irreducible] identifyAta identifyScsi in
theorem stays_identify {ata : Bool} : (s.identify ep ata).run.Stays := by
  cases ata with
  | true => exact stays_identifyAta
  | false => exact stays_identifyScsi

theorem stays_answers? {identity : Identity} {ata : Bool} {silent : Fault → String} :
    (s.answers? identity ep ata silent).Stays := by
  refine stays_bind stays_identify fun result => ?_
  cases result with
  | ok reported => exact trivial
  | error fault => exact stays_bind stays_notes fun _ => trivial

theorem stays_askPhys {identity : Identity} {found : Option Phy} {phys : List Phy} :
    (s.askPhys identity found phys).run.Stays := by
  induction phys generalizing found with
  | nil => exact trivial
  | cons p phys ih =>
    refine Attempt.stays_bind (Attempt.stays_lift stays_answers?) fun answer => ?_
    split
    · cases found with
      | none => exact ih
      | some earlier =>
        dsimp only
        split
        · exact ih
        · exact trivial
    · exact ih

theorem stays_placeByIdentity {phys : List Phy} : (s.placeByIdentity phys).run.Stays := by
  unfold placeByIdentity
  split
  · split
    · exact Attempt.stays_bind Attempt.stays_note fun _ => trivial
    · refine Attempt.stays_bind stays_askPhys fun found => ?_
      cases found <;> exact trivial
  · exact trivial

theorem stays_place {table : PhyTable} {resolution : Resolution} :
    (s.place table resolution).run.Stays := by
  unfold place
  split
  · unfold placeByAddress
    split
    · exact stays_placeByIdentity
    split
    · exact trivial
    split
    · exact stays_placeByIdentity
    · exact trivial
  · exact stays_placeByIdentity
  · unfold placeByHandle
    split
    · exact trivial
    · exact Attempt.stays_bind Attempt.stays_note fun _ => trivial

-- The probe at hand is a closed computation but for the controller; it is not to be unfolded.
attribute [local irreducible] answers? in
theorem stays_confirmNvme {packed : SasAddress} {confirmed : Bool} :
    (s.confirmNvme packed confirmed).run.Stays := by
  unfold confirmNvme
  split
  · exact trivial
  split
  · split
    · exact trivial
    · refine Attempt.stays_bind (Attempt.stays_lift stays_answers?) fun answer => ?_
      split <;> exact trivial
  · exact trivial

theorem stays_locate {satLayer : SatLayer} {resolution : Resolution} :
    (s.locate satLayer resolution).run.Stays := by
  have inTable : (do
      let table ← s.controller.phyTable
      let placement ← s.place table resolution
      return ⟨placement, bindingFor placement.protocol satLayer,
        .ofPhy s.target.controller placement.port placement.phy s.target.lun⟩ :
        Attempt Located).run.Stays :=
    Attempt.stays_bind Controller.stays_ask fun _ => Attempt.stays_bind stays_place fun _ => trivial
  cases resolution with
  | address a => exact inTable
  | unresolved => exact inTable
  | nvme confirmed =>
    unfold locate
    dsimp only
    split
    · exact Attempt.stays_bind stays_confirmNvme fun _ => trivial
    · exact trivial

theorem stays_particulars {found : Located} {fetchSignature : Bool} :
    (s.particulars found fetchSignature).run.Stays := by
  unfold particulars
  split
  · exact trivial
  split
  · split
    · exact Attempt.stays_bind (Attempt.stays_unlessDeclined Controller.stays_ask) fun _ => trivial
    · exact trivial
  · exact Attempt.stays_bind (Attempt.stays_unlessDeclined Controller.stays_ask) fun _ => trivial

end Search

theorem stays_discover {controller : Controller} {target : Target} {options : OpenOptions}
    {collaborators : Collaborators} :
    (discover controller target options collaborators).run.Stays := by
  refine Attempt.stays_bind Controller.stays_ask fun driver => ?_
  refine Attempt.stays_bind Controller.stays_ask fun config => ?_
  refine Attempt.stays_bind Controller.stays_ask fun status => ?_
  refine Attempt.stays_unless (Attempt.stays_unless (Attempt.stays_note_if ?_))
  refine Attempt.stays_bind Search.stays_resolve fun resolution => ?_
  refine Attempt.stays_bind Attempt.stays_note fun _ => ?_
  refine Attempt.stays_bind Search.stays_locate fun found => ?_
  exact Attempt.stays_bind Search.stays_particulars fun _ => trivial

end Discovery

/-- Opening a device attaches to the controller of its target, and to no other. -/
theorem Device.attachesTo_openTarget {target : Discovery.Target} {options : OpenOptions}
    {collaborators : Collaborators} :
    (openTarget target options collaborators).run.AttachesTo fun b n =>
      (b, n) = (target.base, target.controller) := by
  refine attachesTo_attach_bind fun answer => ?_
  cases answer with
  | error fault => exact trivial
  | ok channel =>
    refine Attempt.stays_bind Discovery.stays_discover fun context => ?_
    exact Attempt.stays_bind Attempt.stays_note fun _ => trivial

end DriveReach
