import DriveReach.Proofs.Exchange
/-!
# Reports of controllers

What a controller reported in an exchange: `Exchange.checked` is the reply to a call that the driver
carried out, and `raidSet?`, `phyTable?` and `location?` are the RAID set, the phy table and the
location of a device in it.

* `course_raidConfig`, `course_phyTable`, `course_deviceAddress`: each of these questions is one
  exchange, and its answer is what the exchange reports.
* `reportedSets`, `reportedTables`, `drivesInUse`, `reportedAddresses`: what was reported in a
  record of exchanges.
-/

set_option autoImplicit false

namespace DriveReach

open Csmi Dialogue

namespace Exchange

/-- What came back, when the call went through and its return code is a success. -/
def checked (x : Exchange) : Except Fault Reply :=
  x.reply.bind fun reply => reply.code.check.map fun _ => reply

/-- The driver carried the call out. -/
def succeeds (x : Exchange) : Bool := x.checked.toOption.isSome

/-- The RAID set that the driver reported. The payload offers room for a whole number of drives. -/
def raidSet? (x : Exchange) : Option RaidConfig :=
  if x.code = .raidConfig then
    (x.checked.bind fun reply => RaidConfig.decode reply.payload reply.returned
      ((x.payload.length - Layout.raidConfig.size) / RaidDrive.length)).toOption
  else none

/-- The phy table that the driver reported. -/
def phyTable? (x : Exchange) : Option PhyTable :=
  if x.code = .phyInfo then
    (x.checked.bind fun reply =>
      PhyTable.decode (reply.payload.take Layout.phyInfo.size)).toOption
  else none

/-- The location that the driver reported for an address of the operating system. -/
def location? (x : Exchange) : Option SasLocation :=
  if x.code = .deviceAddress then
    (x.checked.bind fun reply => SasLocation.decode reply.payload).toOption
  else none

variable {x : Exchange} {reply : Reply}

theorem length_payload_of_reply (h : x.reply = .ok reply) :
    reply.payload.length = x.payload.length := by
  unfold Exchange.reply at h
  split at h
  · cases h
  · cases h
    simp [Reply.payload, payload]

theorem reply_of_checked (h : x.checked = .ok reply) : x.reply = .ok reply := by
  unfold checked at h
  cases hr : x.reply with
  | error fault =>
    rw [hr] at h
    cases h
  | ok other =>
    rw [hr] at h
    cases hc : other.code.check with
    | error fault =>
      simp only [Except.bind, hc, Except.map] at h
      cases h
    | ok _ =>
      simp only [Except.bind, hc, Except.map] at h
      exact h

theorem checked_of_succeeds (h : x.succeeds = true) : ∃ reply, x.checked = .ok reply := by
  unfold succeeds at h
  cases hc : x.checked with
  | error fault =>
    rw [hc] at h
    cases h
  | ok reply => exact ⟨reply, rfl⟩

theorem fault_of_checked {fault : Fault} (h : x.checked = .error fault) :
    (∃ reason, fault = .transport reason) ∨ ∃ code : ReturnCode, code.check = .error fault := by
  unfold checked at h
  cases hr : x.reply with
  | error other =>
    rw [hr] at h
    cases h
    unfold Exchange.reply at hr
    split at hr
    · cases hr
      exact .inl ⟨_, rfl⟩
    · cases hr
  | ok reply =>
    rw [hr] at h
    cases hc : reply.code.check with
    | error other =>
      simp only [Except.bind, hc, Except.map] at h
      cases h
      exact .inr ⟨_, hc⟩
    | ok _ =>
      simp only [Except.bind, hc, Except.map] at h
      cases h

end Exchange

namespace Controller

variable {c : Controller} {xs : List Exchange}

theorem Sent.length_raidConfig {index : UInt32} {maxDrives : Nat} {x : Exchange}
    (h : c.Sent .raidConfig (RaidConfig.putRequest
      (Bytes.zeros (RaidConfig.payloadLength (min maxDrives RaidConfig.maxDrives))) index) x) :
    x.payload.length =
      Layout.raidConfig.size + min maxDrives RaidConfig.maxDrives * RaidDrive.length := by
  rw [h.payload, RaidConfig.putRequest, Bytes.length_put, Bytes.length_zeros,
    RaidConfig.payloadLength, Nat.min_assoc, Nat.min_self]

/-- The payload of a question for a RAID set tells for how many drives there is room. -/
theorem Sent.room {index : UInt32} {maxDrives : Nat} {x : Exchange}
    (h : c.Sent .raidConfig (RaidConfig.putRequest
      (Bytes.zeros (RaidConfig.payloadLength (min maxDrives RaidConfig.maxDrives))) index) x) :
    (x.payload.length - Layout.raidConfig.size) / RaidDrive.length =
      min maxDrives RaidConfig.maxDrives := by
  rw [h.length_raidConfig, Nat.add_sub_cancel_left]
  exact Nat.mul_div_cancel _ (by decide)

/-- Asking for a RAID set is one exchange, whose payload is decoded as far as it came back. -/
theorem course_raidConfig_decode {index : UInt32} {maxDrives : Nat} {r : Except Fault RaidConfig}
    (h : (c.raidConfig index maxDrives).run.Course xs r) :
    ∃ x, xs = [x] ∧ c.Sent .raidConfig (RaidConfig.putRequest
      (Bytes.zeros (RaidConfig.payloadLength (min maxDrives RaidConfig.maxDrives))) index) x ∧
      r = x.checked.bind fun reply =>
        RaidConfig.decode reply.payload reply.returned (min maxDrives RaidConfig.maxDrives) := by
  rw [raidConfig, Attempt.course_run_bind] at h
  rcases h with ⟨fault, rfl, hq⟩ | ⟨ys, zs, reply, rfl, hq, h⟩
  · obtain ⟨x, rfl, hx, hr⟩ := course_query hq
    have hc : x.checked = .error fault := hr.symm
    exact ⟨x, rfl, hx, by rw [hc]; rfl⟩
  · obtain ⟨x, rfl, hx, hr⟩ := course_query hq
    have hc : x.checked = .ok reply := hr.symm
    refine ⟨x, ?_⟩
    rw [hc, Except.bind]
    replace h := Attempt.course_run_ofExcept_bind.1 h
    cases hd : RaidConfig.decode reply.payload reply.returned
        (min maxDrives RaidConfig.maxDrives) with
    | error fault =>
      rw [hd] at h
      obtain ⟨rfl, rfl⟩ := h
      exact ⟨rfl, hx, rfl⟩
    | ok config =>
      rw [hd] at h
      rcases Attempt.course_run_bind.1 h with ⟨fault, -, hl⟩ | ⟨us, vs, _, rfl, hn, rfl, rfl⟩
      · obtain ⟨_, hv, -⟩ := Attempt.course_run_lift.1 hl
        cases hv
      · rw [Dialogue.course_notes.1 (Attempt.course_run_lift_ok.1 hn)]
        exact ⟨rfl, hx, rfl⟩

/-- Asking for a RAID set is one exchange, and the set is what the exchange reports. -/
theorem course_raidConfig {index : UInt32} {maxDrives : Nat} {r : Except Fault RaidConfig}
    (h : (c.raidConfig index maxDrives).run.Course xs r) :
    ∃ x, xs = [x] ∧ c.Sent .raidConfig (RaidConfig.putRequest
      (Bytes.zeros (RaidConfig.payloadLength (min maxDrives RaidConfig.maxDrives))) index) x ∧
      x.raidSet? = r.toOption := by
  obtain ⟨x, rfl, hx, rfl⟩ := course_raidConfig_decode h
  refine ⟨x, rfl, hx, ?_⟩
  rw [Exchange.raidSet?, if_pos hx.code, hx.room]

/-- Asking for the phy table is one exchange, and the table is what the exchange reports. It is
there when the call was carried out. -/
theorem course_phyTable {r : Except Fault PhyTable} (h : c.phyTable.run.Course xs r) :
    ∃ x, xs = [x] ∧ x.code = .phyInfo ∧ x.phyTable? = r.toOption ∧
      (x.succeeds = true → ∃ table, r = .ok table) := by
  obtain ⟨x, rfl, hx, hr⟩ := course_ask h
  have hr' : r = x.checked.bind fun reply =>
    PhyTable.decode (reply.payload.take Layout.phyInfo.size) := hr
  refine ⟨x, rfl, hx.code, ?_, ?_⟩
  · rw [Exchange.phyTable?, if_pos hx.code, hr']
  · intro hs
    obtain ⟨reply, hreply⟩ := Exchange.checked_of_succeeds hs
    have hlen : (reply.payload.take Layout.phyInfo.size).length = Layout.phyInfo.size := by
      rw [List.length_take, Exchange.length_payload_of_reply (Exchange.reply_of_checked hreply),
        hx.payload, Bytes.length_zeros]
      omega
    have hreq : Layout.phyInfo.require (reply.payload.take Layout.phyInfo.size) = .ok () := by
      rw [Layout.require, if_neg (by omega)]
    rw [hr', hreply, Except.bind, PhyTable.decode, hreq]
    exact ⟨_, rfl⟩

/-- Asking for the device behind an address of the operating system is one exchange, and the
location is what the exchange reports. -/
theorem course_deviceAddress {device : ScsiAddress} {r : Except Fault SasLocation}
    (h : (c.deviceAddress device).run.Course xs r) :
    ∃ x, xs = [x] ∧ x.code = .deviceAddress ∧ x.location? = r.toOption := by
  obtain ⟨x, rfl, hx, rfl⟩ := course_ask h
  refine ⟨x, rfl, hx.code, ?_⟩
  rw [Exchange.location?, if_pos hx.code]
  rfl

end Controller

/-! ## Records -/

/-- The RAID sets that were reported. -/
def reportedSets (xs : List Exchange) : List RaidConfig := xs.filterMap Exchange.raidSet?

/-- The phy tables that were reported. -/
def reportedTables (xs : List Exchange) : List PhyTable := xs.filterMap Exchange.phyTable?

/-- The drives in use that were reported. -/
def drivesInUse (xs : List Exchange) : List RaidDrive :=
  (reportedSets xs).flatMap RaidConfig.countableDrives

/-- The addresses that were reported for devices of the operating system. -/
def reportedAddresses (xs : List Exchange) : List SasAddress :=
  xs.filterMap fun x => x.location?.map (·.address)

section
variable {c : Controller} {xs ys : List Exchange}

theorem drivesInUse_nil : drivesInUse [] = [] := rfl

@[simp] theorem drivesInUse_append : drivesInUse (xs ++ ys) = drivesInUse xs ++ drivesInUse ys := by
  rw [drivesInUse, reportedSets, List.filterMap_append, List.flatMap_append]
  rfl

@[simp] theorem reportedTables_append :
    reportedTables (xs ++ ys) = reportedTables xs ++ reportedTables ys := List.filterMap_append

@[simp] theorem reportedAddresses_append :
    reportedAddresses (xs ++ ys) = reportedAddresses xs ++ reportedAddresses ys :=
  List.filterMap_append

/-- Calls of other kinds report no drives. -/
theorem drivesInUse_eq_nil (h : ∀ x ∈ xs, x.code ≠ .raidConfig) : drivesInUse xs = [] := by
  have hnone : reportedSets xs = [] :=
    List.filterMap_eq_nil_iff.2 fun x hx => by rw [Exchange.raidSet?, if_neg (h x hx)]
  rw [drivesInUse, hnone, List.flatMap_nil]

theorem reportedTables_eq_nil (h : ∀ x ∈ xs, x.code ≠ .phyInfo) : reportedTables xs = [] :=
  List.filterMap_eq_nil_iff.2 fun x hx => by rw [Exchange.phyTable?, if_neg (h x hx)]

theorem reportedAddresses_eq_nil (h : ∀ x ∈ xs, x.code ≠ .deviceAddress) :
    reportedAddresses xs = [] :=
  List.filterMap_eq_nil_iff.2 fun x hx => by rw [Exchange.location?, if_neg (h x hx)]; rfl

theorem reportedSets_subset (h : ys <:+: xs) : reportedSets ys ⊆ reportedSets xs :=
  (h.sublist.filterMap _).subset

theorem reportedTables_subset (h : ys <:+: xs) : reportedTables ys ⊆ reportedTables xs :=
  (h.sublist.filterMap _).subset

theorem drivesInUse_subset (h : ys <:+: xs) : drivesInUse ys ⊆ drivesInUse xs := by
  intro d hd
  obtain ⟨set, hset, hmem⟩ := List.mem_flatMap.1 hd
  exact List.mem_flatMap.2 ⟨set, reportedSets_subset h hset, hmem⟩

theorem mem_reportedSets {index : UInt32} {room : Nat} {set : RaidConfig}
    (h : (c.raidConfig index room).run.Course xs (.ok set)) : set ∈ reportedSets xs := by
  obtain ⟨x, rfl, -, hx⟩ := Controller.course_raidConfig h
  exact List.mem_filterMap.2 ⟨x, List.mem_singleton_self x, hx⟩

/-- The drives in use that come of asking for one RAID set. -/
theorem drivesInUse_of_raidConfig {index : UInt32} {room : Nat} {r : Except Fault RaidConfig}
    (h : (c.raidConfig index room).run.Course xs r) :
    drivesInUse xs = match r with
      | .ok set => set.countableDrives
      | .error _ => [] := by
  obtain ⟨x, rfl, -, hx⟩ := Controller.course_raidConfig h
  rw [drivesInUse, reportedSets]
  cases r with
  | error fault =>
    rw [List.filterMap_cons_none hx]
    rfl
  | ok set =>
    rw [List.filterMap_cons_some hx, List.filterMap_nil, List.flatMap_singleton]

/-- No drives come of the RAID summary. -/
theorem drivesInUse_of_raidInfo {r : Except Fault RaidInfo}
    (h : c.raidInfo.run.Course xs r) : drivesInUse xs = [] := by
  obtain ⟨x, rfl, hx, -⟩ := Controller.course_ask h
  refine drivesInUse_eq_nil fun y hy hcode => ?_
  obtain rfl := List.mem_singleton.1 hy
  exact nomatch hcode.symm.trans hx.code

theorem mem_reportedTables {table : PhyTable} (h : c.phyTable.run.Course xs (.ok table)) :
    table ∈ reportedTables xs := by
  obtain ⟨x, rfl, -, hx, -⟩ := Controller.course_phyTable h
  exact List.mem_filterMap.2 ⟨x, List.mem_singleton_self x, hx⟩

end

end DriveReach
