import DriveReach.Proofs.Passthrough.Encoding
import DriveReach.Proofs.Reports
/-!
# Lengths of commands

A command is copied from bytes, built for its purpose, or started as zeros, and bytes of it can then
be replaced in place: `Scsi.Origin`, `Scsi.Cdb.edited`. An SSP call refuses a command of no byte and
one of more than 40.

* `Scsi.Cdb.ofBytes_eq_ok`: which bytes are a command.
* `Scsi.Origin.length_build_eq_zero`, `Scsi.Cdb.length_edited`: zeros of length 0 are the only
  command of no byte, and no edit changes a length.
* `Exchange.sspResult_ne_scsi`, `ScsiRequest.payload_eq_scsi_iff`: a SCSI fault of an SSP call comes
  from its payload, not from what the driver answers.
* `ScsiRequest.made_commands_sent`: what follows for commands that are sent.
-/

set_option autoImplicit false

namespace DriveReach

open Csmi

/-! ## Commands -/

namespace Scsi

/-- The ways to make a command. -/
inductive Origin where
  | bytes (b : Bytes)
  | testUnitReady
  | requestSense (allocation : UInt8)
  | inquiry (vpd : Bool) (page : UInt8) (allocation : UInt16)
  | readCapacity10
  | read16 (lba : UInt64) (blocks : UInt32)
  | write16 (lba : UInt64) (blocks : UInt32)
  | reportLuns (select : UInt8) (allocation : UInt32)
  | ataPassThrough16 (command : Ata.Command)
  | ataPassThrough12 (command : Ata.Command)
  | zeros (length : Nat)

/-- The command made. -/
def Origin.build : Origin → Except Fault Cdb
  | bytes b => Cdb.ofBytes b
  | testUnitReady => .ok Cdb.testUnitReady
  | requestSense allocation => .ok (Cdb.requestSense allocation)
  | inquiry vpd page allocation => .ok (Cdb.inquiry vpd page allocation)
  | readCapacity10 => .ok Cdb.readCapacity10
  | read16 lba blocks => .ok (Cdb.read16 lba blocks)
  | write16 lba blocks => .ok (Cdb.write16 lba blocks)
  | reportLuns select allocation => .ok (Cdb.reportLuns select allocation)
  | ataPassThrough16 command => .ok (AtaPassThrough.cdb16 command)
  | ataPassThrough12 command => AtaPassThrough.cdb12 command
  | zeros length => .ok (Cdb.zeroed length)

namespace Cdb

variable {c : Cdb} {b : Bytes}

theorem length_zeroed (n : Nat) : (zeroed n).length = min n 40 := Bytes.length_zeros _

/-- The command with bytes replaced, one after the other. -/
def edited (c : Cdb) (edits : List (Nat × UInt8)) : Cdb :=
  edits.foldl (fun c e => c.setByte e.1 e.2) c

@[simp] theorem length_setByte (i : Nat) (x : UInt8) : (c.setByte i x).length = c.length :=
  List.length_set

@[simp] theorem length_edited (edits : List (Nat × UInt8)) : (c.edited edits).length = c.length := by
  induction edits generalizing c with
  | nil => rfl
  | cons e edits ih =>
    have hstep : (c.edited (e :: edits)).length = (c.setByte e.1 e.2).length := ih
    rw [hstep, length_setByte]

theorem isEmpty_iff : c.isEmpty = true ↔ c.length = 0 := by
  rw [isEmpty, List.isEmpty_iff, length, List.length_eq_zero_iff]

/-- Bytes are a command, and stay what they are, when they are 1 to 40. -/
theorem ofBytes_eq_ok : ofBytes b = .ok c ↔ 1 ≤ b.length ∧ b.length ≤ 40 ∧ c.bytes = b := by
  obtain ⟨bytes, hbytes⟩ := c
  unfold ofBytes
  by_cases he : b.isEmpty
  · rw [if_pos he]
    rw [List.isEmpty_iff] at he
    subst he
    simp
  · have hpos : 1 ≤ b.length := by
      rw [List.isEmpty_iff] at he
      exact List.length_pos_iff.2 he
    rw [if_neg he]
    by_cases hl : b.length ≤ maxCdbLength
    · rw [dif_pos hl, Except.ok.injEq, mk.injEq]
      exact ⟨fun h => ⟨hpos, hl, h.symm⟩, fun h => h.2.2.symm⟩
    · rw [dif_neg hl]
      exact ⟨(nomatch ·), fun h => absurd h.2.1 hl⟩

end Cdb

/-- Only zeros of length 0 are a command of no byte. -/
theorem Origin.length_build_eq_zero {origin : Origin} {c : Cdb} (h : origin.build = .ok c) :
    c.length = 0 ↔ origin = .zeros 0 := by
  cases origin with
  | bytes b =>
    obtain ⟨hpos, -, rfl⟩ := Cdb.ofBytes_eq_ok.1 h
    have hne : c.length ≠ 0 := Nat.ne_of_gt hpos
    exact ⟨fun hz => absurd hz hne, (nomatch ·)⟩
  | zeros n =>
    cases h
    rw [Cdb.length_zeroed, zeros.injEq]
    omega
  | ataPassThrough12 command =>
    rw [build, AtaPassThrough.cdb12] at h
    split at h
    · cases h
    · cases h
      exact ⟨(nomatch ·), (nomatch ·)⟩
  | _ =>
    cases h
    exact ⟨(nomatch ·), (nomatch ·)⟩

end Scsi

/-! ## Calls -/

namespace Exchange

variable {x : Exchange} {fault : Scsi.Fault}

theorem response_eq : x.response = x.checked.map Reply.payload := by
  unfold response checked
  cases x.reply with
  | error fault => rfl
  | ok reply =>
    simp only [bind, Except.bind]
    cases reply.code.check <;> rfl

/-- The driver does not answer with a SCSI fault. -/
theorem response_ne_scsi : x.response ≠ .error (.scsi fault) := by
  intro h
  rw [response_eq] at h
  cases hc : x.checked with
  | ok reply =>
    rw [hc] at h
    cases h
  | error other =>
    rw [hc] at h
    obtain rfl : other = .scsi fault := Except.error.inj h
    rcases fault_of_checked hc with ⟨reason, hreason⟩ | ⟨code, hcode⟩
    · cases hreason
    · unfold ReturnCode.check at hcode
      split at hcode <;> cases hcode

/-- Nor is its answer read as one. -/
theorem sspResult_ne_scsi : x.sspResult ≠ .error (.scsi fault) := by
  intro h
  rw [sspResult_eq, sspStatus] at h
  cases hb : x.response with
  | error other =>
    rw [status, hb] at h
    obtain rfl : other = .scsi fault := Except.error.inj h
    exact response_ne_scsi hb
  | ok b =>
    rw [status_of_response hb] at h
    cases hd : SspStatus.decode (b.drop Layout.sspParameters.size) with
    | error other =>
      rw [hd] at h
      obtain rfl : other = .scsi fault := Except.error.inj h
      unfold SspStatus.decode Layout.require at hd
      split at hd <;> cases hd
    | ok status =>
      rw [hd] at h
      simp only [Except.map, Except.bind] at h
      split at h <;> cases h

end Exchange

namespace ScsiRequest

variable {r : ScsiRequest} {c : Controller} {ep : Endpoint} {x : Exchange} {fault : Scsi.Fault}

/-- The only SCSI fault of a payload is that there is no command byte. -/
theorem payload_eq_scsi_iff : r.payload ep = .error (.scsi fault) ↔
    r.cdb.length = 0 ∧ r.data.size < UInt32.size ∧ fault = .emptyCdb := by
  rw [Scsi.Cdb.length, List.length_eq_zero_iff]
  by_cases hd : r.data.size < UInt32.size
  · by_cases hc : r.cdb.bytes = []
    · have hpayload : r.payload ep = .error (.scsi .emptyCdb) := by
        have hcheck : (r.parameters ep).check (Bytes.zeros sspFixedLength) =
            .error (.scsi .emptyCdb) := SspParameters.check_nil _ hc
        have hencode : (r.parameters ep).encode (Bytes.zeros sspFixedLength) =
            .error (.scsi .emptyCdb) := by
          rw [SspParameters.encode_eq, hcheck]
          rfl
        rw [payload, dataLength_eq_ok hd]
        simp only [bind, Except.bind]
        rw [← parameters, hencode]
      rw [hpayload, Except.error.injEq, Fault.scsi.injEq]
      exact ⟨fun h => ⟨hc, hd, h.symm⟩, fun h => h.2.2.symm⟩
    · obtain ⟨b, hb⟩ : ∃ b, r.payload ep = .ok b := exists_payload hd hc
      rw [hb]
      constructor
      · intro h
        cases h
      · intro h
        exact absurd h.1 hc
  · rw [payload, dataLength, if_neg hd]
    constructor
    · intro h
      cases h
    · intro h
      exact absurd h.2.1 hd

theorem fst_settle_ne_scsi : (r.settle x.sspResult).1 ≠ .error (.scsi fault) := by
  intro h
  cases hr : x.sspResult with
  | ok p =>
    rw [hr] at h
    cases h
  | error other =>
    rw [hr] at h
    obtain rfl : other = .scsi fault := Except.error.inj h
    exact Exchange.sspResult_ne_scsi hr

/-- The only SCSI fault of an SSP call is that there is no command byte. -/
theorem fst_send_eq_scsi_iff {xs : List Exchange} {q : Except Fault Unit × ScsiRequest}
    (h : (r.send c ep).Course xs q) : q.1 = .error (.scsi fault) ↔
      r.cdb.length = 0 ∧ r.data.size < UInt32.size ∧ fault = .emptyCdb := by
  rw [← payload_eq_scsi_iff]
  rcases course_send h with ⟨other, hp, -, rfl⟩ | ⟨x, b, -, hp, -, rfl⟩
  · rw [hp, Except.error.injEq, Except.error.injEq]
  · rw [hp]
    exact ⟨fun hq => absurd hq fst_settle_ne_scsi, (nomatch ·)⟩

/-- **A command that is made can be sent.** Bytes are a command when they are 1 to 40, and stay what
they are. However a command is made and its bytes are replaced then, it has at most 40 bytes, and at
least one unless it was started as zeros of length 0. Whatever the driver answers, an SSP call does
not fail with a SCSI fault, so the command is neither too long for it nor empty, but for that start
with data whose length fits 32 bits. -/
theorem made_commands_sent {σ : Type} (w : Dialogue.Surroundings σ) (s : σ) (c : Controller)
    (ep : Endpoint) :
    (∀ b : Bytes, ((∃ cdb, Scsi.Cdb.ofBytes b = .ok cdb) ↔ 1 ≤ b.length ∧ b.length ≤ 40) ∧
      ∀ cdb, Scsi.Cdb.ofBytes b = .ok cdb → cdb.bytes = b) ∧
    ∀ (origin : Scsi.Origin) (cdb : Scsi.Cdb) (edits : List (Nat × UInt8)) (r : ScsiRequest),
      origin.build = .ok cdb → r.cdb = cdb.edited edits →
      (1 ≤ r.cdb.length ↔ origin ≠ .zeros 0) ∧ r.cdb.length ≤ 40 ∧
      (r.cdb.isEmpty = true ↔ origin = .zeros 0) ∧
      ∀ fault, ((r.send c ep).run w s).value.1 = .error (.scsi fault) ↔
        fault = .emptyCdb ∧ origin = .zeros 0 ∧ r.data.size < UInt32.size := by
  refine ⟨fun b => ⟨?_, fun cdb h => (Scsi.Cdb.ofBytes_eq_ok.1 h).2.2⟩, ?_⟩
  · constructor
    · rintro ⟨cdb, h⟩
      obtain ⟨hpos, hle, -⟩ := Scsi.Cdb.ofBytes_eq_ok.1 h
      exact ⟨hpos, hle⟩
    · rintro ⟨hpos, hle⟩
      exact ⟨⟨b, hle⟩, Scsi.Cdb.ofBytes_eq_ok.2 ⟨hpos, hle, rfl⟩⟩
  · intro origin cdb edits r hbuild hcdb
    have hlen : r.cdb.length = 0 ↔ origin = .zeros 0 := by
      rw [hcdb, Scsi.Cdb.length_edited]
      exact Scsi.Origin.length_build_eq_zero hbuild
    refine ⟨?_, r.cdb.length_le, Scsi.Cdb.isEmpty_iff.trans hlen, fun fault => ?_⟩
    · rw [Nat.one_le_iff_ne_zero]
      exact not_congr hlen
    · have hsend : ((r.send c ep).run w s).value.1 = .error (.scsi fault) ↔
          r.cdb.length = 0 ∧ r.data.size < UInt32.size ∧ fault = .emptyCdb :=
        fst_send_eq_scsi_iff (Dialogue.course_run w (r.send c ep) s)
      rw [hsend, hlen]
      constructor
      · rintro ⟨ho, hd, hf⟩
        exact ⟨hf, ho, hd⟩
      · rintro ⟨hf, ho, hd⟩
        exact ⟨ho, hd, hf⟩

/-- A command started as zeros of length 0. -/
def emptyCommand : ScsiRequest where
  cdb := Scsi.Cdb.zeroed 0
  data := .none

/-- It has no byte, whatever is replaced, and cannot be sent. -/
theorem made_command_not_sent :
    (Scsi.Origin.zeros 0).build = .ok emptyCommand.cdb ∧ emptyCommand.cdb.length = 0 ∧
      emptyCommand.cdb.isEmpty = true ∧ emptyCommand.cdb.edited [(0, 0x12)] = emptyCommand.cdb ∧
      ((emptyCommand.send ⟨⟨0⟩, 0, .off⟩ (.at 1 0 .zero)).run Script.Rack.surroundings
        []).value.1 = .error (.scsi .emptyCdb) :=
  ⟨rfl, rfl, rfl, rfl, rfl⟩

/-- An INQUIRY, written into zeros that are longer than a command can be. -/
def longCommand : ScsiRequest where
  cdb := (Scsi.Cdb.zeroed 41).edited [(0, 0x12), (4, 36), (40, 0xFF)]
  data := .inbound (Bytes.zeros 36)

/-- It is cut to 40 bytes, and what happens to it on its way is no SCSI fault. -/
theorem made_commands_sent_longCommand :
    (Scsi.Origin.zeros 41).build = .ok (Scsi.Cdb.zeroed 41) ∧
      longCommand.cdb.bytes = [0x12, 0, 0, 0, 36] ++ Bytes.zeros 35 ∧
      1 ≤ longCommand.cdb.length ∧ longCommand.cdb.length ≤ 40 ∧
      ((longCommand.send ⟨⟨0⟩, 0, .off⟩ (.at 1 0 .zero)).run Script.Rack.surroundings
        []).value.1 ≠ .error (.scsi .emptyCdb) := by
  have hbuild : (Scsi.Origin.zeros 41).build = .ok (Scsi.Cdb.zeroed 41) := rfl
  have horigin : Scsi.Origin.zeros 41 ≠ .zeros 0 := by
    rw [Ne, Scsi.Origin.zeros.injEq]
    decide
  obtain ⟨-, hmade⟩ :=
    made_commands_sent Script.Rack.surroundings [] ⟨⟨0⟩, 0, .off⟩ (.at 1 0 .zero)
  obtain ⟨hpos, hle, -, hsend⟩ := hmade (.zeros 41) _ _ longCommand hbuild rfl
  exact ⟨hbuild, by decide, hpos.2 horigin, hle, fun h => horigin ((hsend _).1 h).2.1⟩

end ScsiRequest

end DriveReach
