import DriveReach.Device.Basic
import DriveReach.Proofs.Discovery.Calls
import DriveReach.Proofs.Steady
import DriveReach.Script
/-!
# Opening a device

What is known of a device that was opened: `Discovered` ties its context to the two steps of
discovery that the exchanges of the opening record, the resolution of its address and the location
found with it. `Staged` says which of the exchanges belong to which step.

* `staged_discover`, `staged_openTarget`: every successful discovery is of this kind, and its
  exchanges are those of the steps, in order.
* `course_openTarget`, `course_openHandle`: the same without the steps.
-/

set_option autoImplicit false

namespace DriveReach

/-- The place in a context. -/
def Context.placement (c : Context) : Discovery.Placement :=
  ⟨c.port, c.phy, c.protocol, c.sasAddress, c.confidence⟩

/-- The search that a context came of. -/
def Context.search (c : Context) (target : Discovery.Target) (options : OpenOptions) :
    Discovery.Search :=
  ⟨c.controller, target, options.timeout, c.traits, c.access⟩

namespace Discovery

variable {xs : List Exchange} {target : Target} {options : OpenOptions}
variable {collaborators : Collaborators} {c : Context}

/-- The exchanges `xs` resolved the target's address and located it, and the context says where. -/
structure Discovered (xs : List Exchange) (target : Target) (options : OpenOptions)
    (collaborators : Collaborators) (c : Context) (resolution : Resolution) (found : Located) :
    Prop where
  resolved : Recorded xs (c.search target options).resolve.run (.ok resolution)
  located : Recorded xs ((c.search target options).locate collaborators.satLayer resolution).run
    (.ok found)
  placement : c.placement = found.placement
  binding : c.binding = found.binding
  sasLun : c.sasLun = target.sasLun
  traits : c.traits = c.family.traits
  access : c.access = collaborators.access c.driverName
  informed : c.access.allowsInfo = true
  pmPort : c.pmPort = (c.signature.map (·.pmPort)).getD 0

/-- The exchanges `xs` of a discovery by its steps: `rs` resolve the address and `ls` locate the
device. In front are the questions about the driver, behind those that are particular to the kind of
device. -/
structure Staged (s : Search) (satLayer : SatLayer) (xs rs ls : List Exchange)
    (resolution : Resolution) (found : Located) : Prop where
  resolved : s.resolve.run.Course rs (.ok resolution)
  located : (s.locate satLayer resolution).run.Course ls (.ok found)
  inOrder : ∃ qs ps, xs = qs ++ (rs ++ (ls ++ ps)) ∧
    (∀ x ∈ qs, x.code ∈ [.driverInfo, .controllerConfig, .controllerStatus]) ∧
    ∀ x ∈ ps, x.code ∈ [.sataSignature, .scsiAddress]

theorem Staged.recorded_resolve {s : Search} {satLayer : SatLayer} {rs ls : List Exchange}
    {resolution : Resolution} {found : Located} (h : Staged s satLayer xs rs ls resolution found) :
    Recorded xs s.resolve.run (.ok resolution) := by
  obtain ⟨qs, ps, rfl, -, -⟩ := h.inOrder
  exact (Recorded.of_course h.resolved).append_left.append_right

theorem Staged.recorded_locate {s : Search} {satLayer : SatLayer} {rs ls : List Exchange}
    {resolution : Resolution} {found : Located} (h : Staged s satLayer xs rs ls resolution found) :
    Recorded xs (s.locate satLayer resolution).run (.ok found) := by
  obtain ⟨qs, ps, rfl, -, -⟩ := h.inOrder
  exact (Recorded.of_course h.located).append_left.append_right.append_right

theorem staged_discover {controller : Controller}
    (h : (discover controller target options collaborators).run.Course xs (.ok c)) :
    ∃ resolution found, Discovered xs target options collaborators c resolution found ∧
      ∃ rs ls,
        Staged (c.search target options) collaborators.satLayer xs rs ls resolution found := by
  unfold discover at h
  rw [Attempt.course_run_bind_ok] at h
  obtain ⟨xs₁, _, driver, rfl, h₁, h⟩ := h
  rw [Attempt.course_run_bind_ok] at h
  obtain ⟨xs₂, _, config, rfl, h₂, h⟩ := h
  rw [Attempt.course_run_bind_ok] at h
  obtain ⟨xs₃, _, status, rfl, h₃, h⟩ := h
  obtain ⟨x₁, rfl, hx₁, -⟩ := Controller.course_ask h₁
  obtain ⟨x₂, rfl, hx₂, -⟩ := Controller.course_ask h₂
  obtain ⟨x₃, rfl, hx₃, -⟩ := Controller.course_ask h₃
  dsimp only at h
  split at h
  · cases h.2
  split at h
  · cases h.2
  rename_i hinfo
  rw [Attempt.course_run_note_if, Attempt.course_run_bind_ok] at h
  obtain ⟨rs, xs₄, resolution, rfl, hres, h⟩ := h
  rw [Attempt.course_run_note_bind, Attempt.course_run_bind_ok] at h
  obtain ⟨ls, xs₅, found, rfl, hloc, h⟩ := h
  rw [Attempt.course_run_bind_ok] at h
  obtain ⟨ps, _, ⟨signature, scsiAddress⟩, rfl, hpar, rfl, h⟩ := h
  cases h
  have staged : Staged ⟨controller, target, options.timeout,
      (Driver.Family.classify driver.name).traits, collaborators.access driver.name⟩
      collaborators.satLayer ([x₁] ++ ([x₂] ++ ([x₃] ++ (rs ++ (ls ++ (ps ++ [])))))) rs ls
      resolution found := by
    refine ⟨hres, hloc, [x₁, x₂, x₃], ps, by simp, ?_, Search.only_particulars _ _ hpar⟩
    simp [hx₁.code, hx₂.code, hx₃.code]
  exact ⟨resolution, found, ⟨staged.recorded_resolve, staged.recorded_locate, rfl, rfl, rfl, rfl,
    rfl, by simpa using hinfo, rfl⟩, rs, ls, staged⟩

end Discovery

theorem Device.staged_openTarget {target : Discovery.Target} {options : OpenOptions}
    {collaborators : Collaborators} {xs : List Exchange} {d : Device}
    (h : (openTarget target options collaborators).run.Course xs (.ok d)) :
    ∃ resolution found,
      Discovery.Discovered xs target options collaborators d.context resolution found ∧
      d.endpoint = d.context.endpoint ∧
      ∃ rs ls, Discovery.Staged (d.context.search target options) collaborators.satLayer xs rs ls
        resolution found := by
  rw [openTarget, Attempt.course_run_bind_ok] at h
  obtain ⟨_, zs, channel, rfl, ha, h⟩ := h
  obtain rfl := Dialogue.course_attach.1 ha
  rw [Attempt.course_run_bind_ok] at h
  obtain ⟨us, vs, context, rfl, hd, h⟩ := h
  rw [Attempt.course_run_note_bind] at h
  obtain ⟨rfl, h⟩ := h
  cases h
  obtain ⟨resolution, found, hf, hs⟩ := Discovery.staged_discover hd
  rw [List.nil_append, List.append_nil]
  exact ⟨resolution, found, hf, rfl, hs⟩

/-- A device that was opened was discovered, and its endpoint is that of its context. -/
theorem Device.course_openTarget {target : Discovery.Target} {options : OpenOptions}
    {collaborators : Collaborators} {xs : List Exchange} {d : Device}
    (h : (openTarget target options collaborators).run.Course xs (.ok d)) :
    ∃ resolution found,
      Discovery.Discovered xs target options collaborators d.context resolution found ∧
      d.endpoint = d.context.endpoint :=
  let ⟨resolution, found, hf, he, _⟩ := staged_openTarget h
  ⟨resolution, found, hf, he⟩

/-- Opening the device that a handle names is opening its target, once the handle is read. -/
theorem Device.openTarget_of_openHandle {handle : String} {options : OpenOptions}
    {collaborators : Collaborators} {xs : List Exchange} {d : Device}
    (h : (openHandle handle options collaborators).run.Course xs (.ok d)) :
    ∃ address, LogicalAddress.parse handle = .ok address ∧
      (openTarget (.ofAddress address options.identity) options collaborators).run.Course xs
        (.ok d) := by
  rw [openHandle, Attempt.course_run_bind_ok] at h
  obtain ⟨_, _, _, rfl, ⟨rfl, -⟩, h⟩ := h
  rw [Attempt.course_run_bind_ok] at h
  obtain ⟨_, ys, address, rfl, ⟨rfl, hp⟩, h⟩ := h
  exact ⟨address, hp.symm, h⟩

theorem Device.course_openHandle {handle : String} {options : OpenOptions}
    {collaborators : Collaborators} {xs : List Exchange} {d : Device}
    (h : (openHandle handle options collaborators).run.Course xs (.ok d)) :
    ∃ address resolution found, LogicalAddress.parse handle = .ok address ∧
      Discovery.Discovered xs (.ofAddress address options.identity) options collaborators d.context
        resolution found ∧
      d.endpoint = d.context.endpoint := by
  obtain ⟨address, hp, ht⟩ := openTarget_of_openHandle h
  obtain ⟨resolution, found, hf, he⟩ := Device.course_openTarget ht
  exact ⟨address, resolution, found, hp, hf, he⟩

/-- A driver that takes every call and writes the patches of its code into the payload. -/
def Script.steadyDriver (patches : Csmi.ControlCode → List Patch) : Dialogue.Surroundings Unit where
  attach s _ _ := (.ok ⟨0⟩, s)
  call s _ code buffer :=
    (.ok (buffer.take Csmi.headerLength ++ overlay (buffer.drop Csmi.headerLength) (patches code)),
      s)

theorem steady_steadyDriver (patches : Csmi.ControlCode → List Script.Patch) :
    (Script.steadyDriver patches).Steady := ⟨fun _ _ _ _ => rfl, fun _ _ _ _ _ => rfl⟩

end DriveReach
