import DriveReach.Proofs.Device.Operations
/-!
# What calls demand

`Exchange.demand` is the least access level at which a call may be made, by what the call does: the
queries that tell who the driver is need none, other queries need `limited`, and so on. A level
admits the calls that demand no more than it grants.

* `admits_of_unprivileged`, `admits_of_info`, `admits_of_passthrough`: what passing the check for a
  level admits.
* `only_discover`, `only_openTarget`: opening a device makes only calls that its policy admits.
* `only_perform`: so does every operation on an open device.
-/

set_option autoImplicit false

namespace DriveReach

open Csmi Dialogue
open Driver (Access)

/-- The queries that are made before the driver is known. -/
def Csmi.ControlCode.introductory : List ControlCode :=
  [.driverInfo, .controllerConfig, .controllerStatus]

/-- The queries of discovery that are made once it is known. -/
def Csmi.ControlCode.informative : List ControlCode :=
  [.raidInfo, .raidConfig, .phyInfo, .sataSignature, .scsiAddress, .deviceAddress]

/-- The least access level at which the call may be made. To read link errors is a query; to clear
them takes as much as a passthrough command. -/
def Exchange.demand (x : Exchange) : Access :=
  match x.code with
  | .driverInfo | .controllerConfig | .controllerStatus => .none
  | .sspPassthrough | .stpPassthrough => .restricted
  | .linkErrors => if x.payload.byteAt 1 = 0 then .limited else .restricted
  | .firmwareDownload => .full
  | _ => .limited

theorem Exchange.demand_of_passthrough {x : Exchange} (h : x.IsPassthrough) :
    x.demand = .restricted := by
  rcases h with h | h <;> rw [demand, h]

theorem Exchange.demand_of_firmwareDownload {x : Exchange} (h : x.code = .firmwareDownload) :
    x.demand = .full := by
  rw [demand, h]

theorem Exchange.demand_of_linkErrors {x : Exchange} (h : x.code = .linkErrors) :
    x.demand = if x.payload.byteAt 1 = 0 then .limited else .restricted := by
  rw [demand, h]

namespace Driver.Access

variable {level granted : Access} {x : Exchange}

theorem atLeast_trans {a b c : Access} (hab : a.atLeast b = true) (hbc : b.atLeast c = true) :
    a.atLeast c = true := by
  simp only [atLeast, decide_eq_true_eq] at hab hbc ⊢
  exact Nat.le_trans hbc hab

theorem atLeast_none {a : Access} : a.atLeast .none = true := by simp [atLeast, rank]

def Admits (level : Access) (x : Exchange) : Prop := level.atLeast x.demand = true

instance (level : Access) (x : Exchange) : Decidable (level.Admits x) :=
  inferInstanceAs (Decidable (_ = true))

theorem Admits.mono (h : granted.Admits x) (hl : level.atLeast granted = true) : level.Admits x :=
  atLeast_trans hl h

theorem admits_of_introductory (hx : x.code ∈ ControlCode.introductory) : level.Admits x := by
  have hd : x.demand = .none := by
    simp only [ControlCode.introductory, List.mem_cons, List.not_mem_nil, or_false] at hx
    rcases hx with hx | hx | hx <;> rw [Exchange.demand, hx]
  rw [Admits, hd]
  exact atLeast_none

theorem admits_of_passthrough (h : level.allowsPassthrough = true) (hx : x.IsPassthrough) :
    level.Admits x := by
  rw [Admits, Exchange.demand_of_passthrough hx]
  exact h

theorem admits_of_informative (h : level.allowsInfo = true)
    (hx : x.code ∈ ControlCode.informative) : level.Admits x := by
  have hd : x.demand = .limited := by
    simp only [ControlCode.informative, List.mem_cons, List.not_mem_nil, or_false] at hx
    rcases hx with hx | hx | hx | hx | hx | hx <;> rw [Exchange.demand, hx]
  rw [Admits, hd]
  exact h

end Driver.Access

/-! ## Opening a device -/

section
variable {target : Discovery.Target} {options : OpenOptions} {collaborators : Collaborators}
variable {level : Access}

/-- Discovery asks about the device only after the check for information, and asks the device itself
only after the check for commands. -/
theorem Discovery.only_discover {controller : Controller}
    (hlevel : ∀ name, level.atLeast (collaborators.access name) = true) :
    (discover controller target options collaborators).run.Only level.Admits := by
  have introductory {α : Type} {code : ControlCode} {payload : Bytes}
      {decode : Bytes → Except Fault α} (hc : code ∈ ControlCode.introductory) :
      (controller.ask code payload decode).run.Only level.Admits :=
    Controller.only_ask fun x hx => Access.admits_of_introductory (hx.code ▸ hc)
  refine Attempt.only_bind (introductory (by decide)) fun driver => ?_
  refine Attempt.only_bind (introductory (by decide)) fun config => ?_
  refine Attempt.only_bind (introductory (by decide)) fun status => ?_
  -- from here on the access level is known, and allows information
  refine Attempt.only_unless fun _ => Attempt.only_unless fun hinfo => ?_
  have informative {x : Exchange} {codes : List ControlCode}
      (hcodes : codes ⊆ ControlCode.informative) (hx : x.code ∈ codes) : level.Admits x := by
    refine (Access.admits_of_informative ?_ (hcodes hx)).mono (hlevel driver.name)
    simpa using hinfo
  refine Attempt.only_note_if (Attempt.only_bind ?_ fun resolution => ?_)
  · exact Search.only_resolve.mono fun x hx => informative (by decide) hx
  refine Attempt.only_bind Attempt.only_note fun _ => Attempt.only_bind ?_ fun found => ?_
  · refine Search.only_locate.mono fun x hx => ?_
    rcases hx with hx | ⟨hallow, hx⟩
    · exact informative (by decide) (List.mem_singleton.2 hx)
    · exact (Access.admits_of_passthrough hallow hx).mono (hlevel driver.name)
  refine Attempt.only_bind ?_ fun _ => only_done
  exact Search.only_particulars.mono fun x hx => informative (by decide) hx

theorem Device.only_openTarget (hlevel : ∀ name, level.atLeast (collaborators.access name) = true) :
    (openTarget target options collaborators).run.Only level.Admits :=
  Attempt.only_bind only_attach fun _ =>
    Attempt.only_bind (Discovery.only_discover hlevel) fun _ =>
      Attempt.only_bind Attempt.only_note fun _ => only_done

/-- Reading a handle makes no calls. -/
theorem Device.only_openHandle {p : Exchange → Prop} {handle : String}
    (ho : ∀ target, (openTarget target options collaborators).run.Only p) :
    (openHandle handle options collaborators).run.Only p :=
  Attempt.only_bind Attempt.only_ofExcept fun _ =>
    Attempt.only_bind Attempt.only_ofExcept fun _ => ho _

end

/-! ## Operations -/

namespace Device

variable {d : Device}

theorem allowed_of_require {allowed : Access → Bool} {u : Unit} (h : d.require allowed = .ok u) :
    allowed d.context.access = true := by
  unfold require at h
  split at h
  · assumption
  · cases h

theorem only_issueScsi {r : ScsiRequest} : (d.issueScsi r).Only Exchange.IsPassthrough := by
  unfold issueScsi
  split
  · exact only_done
  · exact only_bind only_runSat fun _ => only_done
  · exact only_bind ScsiRequest.only_send fun _ => only_done
  · exact only_bind ScsiRequest.only_send fun _ => only_done

theorem only_issueAta {r : AtaRequest} : (d.issueAta r).Only Exchange.IsPassthrough := by
  unfold issueAta
  split
  · exact only_done
  -- every other binding delivers the command along the chain
  all_goals exact only_bind AtaRequest.only_issue fun _ => only_done

theorem only_issue {request : Request} : (d.issue request).Only d.context.access.Admits := by
  unfold issue
  split
  · exact only_done
  · rename_i hreq
    have admits {x : Exchange} (hx : x.IsPassthrough) : d.context.access.Admits x :=
      Access.admits_of_passthrough (allowed_of_require hreq) hx
    cases request with
    | scsi r => exact only_issueScsi.mono fun _ => admits
    | ata r => exact only_issueAta.mono fun _ => admits

theorem only_readSignature : d.readSignature.run.Only d.context.access.Admits := by
  refine Attempt.only_ofExcept_bind fun _ hreq => Attempt.only_unless fun _ => ?_
  refine Controller.only_ask fun x hx => Access.admits_of_informative (allowed_of_require hreq) ?_
  rw [hx.code]
  decide

/-- The second byte of the request says whether the counters are to be cleared. -/
theorem demand_linkErrors {c : Controller} {phy : UInt8} {reset : Bool} {x : Exchange}
    (hx : c.Sent .linkErrors
      (LinkErrors.putRequest (Bytes.zeros Layout.linkErrors.size) phy reset) x) :
    x.demand = if reset then .restricted else .limited := by
  have hbyte : x.payload.byteAt 1 = if reset then 1 else 0 := by
    rw [hx.payload, LinkErrors.putRequest]
    exact Bytes.byteAt_put_mem (by decide) (by simp) (by decide)
  rw [Exchange.demand_of_linkErrors hx.code, hbyte]
  cases reset <;> rfl

theorem only_linkErrors {reset : Bool} : (d.linkErrors reset).run.Only d.context.access.Admits := by
  refine Attempt.only_ofExcept_bind fun _ hreq => Attempt.only_unless fun _ => ?_
  refine Controller.only_ask fun x hx => ?_
  rw [Access.Admits, demand_linkErrors hx]
  have hallowed := allowed_of_require hreq
  cases reset with
  | true => exact hallowed
  | false => exact hallowed

theorem only_downloadFirmware {image : Bytes} {flags : FirmwareFlags} :
    (d.downloadFirmware image flags).run.Only d.context.access.Admits := by
  refine Attempt.only_ofExcept_bind fun _ hreq => Attempt.only_unless fun _ => ?_
  refine Attempt.only_bind Attempt.only_ofExcept fun _ =>
    Attempt.only_bind Attempt.only_note fun _ => Controller.only_ask fun x hx => ?_
  rw [Access.Admits, Exchange.demand_of_firmwareDownload hx.code]
  exact allowed_of_require hreq

/-- **An operation** makes only calls that the access level of the device admits. -/
theorem only_perform {op : Operation} : (d.perform op).Only d.context.access.Admits := by
  cases op with
  | issue layer request =>
    -- the layer that comes with the command leaves the context as it is
    exact only_bind (only_issue (d := { d with satLayer := layer })) fun _ => only_done
  | refreshSignature =>
    refine only_bind (only_bind only_readSignature fun r => ?_) fun _ => only_done
    cases r with
    | error fault => exact only_done
    | ok signature => exact only_done
  | linkErrors reset => exact only_bind only_linkErrors fun _ => only_done
  | downloadFirmware image flags => exact only_bind only_downloadFirmware fun _ => only_done

end Device

end DriveReach
