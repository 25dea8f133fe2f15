import DriveReach.Proofs.Passthrough.Exchange
import DriveReach.Script
/-!
# What the payload of an SSP call says

The parameters of an SSP call are eight fields, none of which reaches into the next
(`SspParameters.fields`, `SspParameters.ordered_fields`), so each is read back as it was written and
all bytes between them stay (`Bytes.byteAt_putAll_of_mem`, `Bytes.byteAt_putAll_of_notCovered`).

* `SspParameters.encode_eq`: encoding is a check and the writing of the fields.
* `SspParameters.run_encodeInPlace`: a writer that works in place does the same, and has written
  nothing when it fails.
* `SspParameters.command_putAll`: the two command fields together hold the command.
* `ScsiRequest.ssp_call_encodes`: what the driver is handed for a command says all of the command
  and nothing else.
-/

set_option autoImplicit false

namespace DriveReach

open Csmi

/-! ## Parameters -/

namespace Csmi.SspParameters

variable (p : SspParameters) {payload b : Bytes}

/-- The part of the command in the first field. -/
def baseCdb : Bytes := p.cdb.take baseCdbLength

/-- The part of the command in the second field. -/
def additionalCdb : Bytes := p.cdb.drop baseCdbLength

/-- The number of dwords that the second part takes up. -/
def additionalDwords : Nat := (p.additionalCdb.length + 3) / 4

/-- What the parameters write, and where. -/
def fields : List Bytes.Field :=
  [(0, [p.phy, p.port, p.rate]),
    (4, p.destination.bytes.toList),
    (12, p.lun.toList),
    (20, [UInt8.ofNat p.baseCdb.length, UInt8.ofNat p.additionalDwords]),
    (24, p.baseCdb),
    (40, Bytes.toLE 4 p.flags.bits.toNat),
    (44, p.additionalCdb),
    (68, Bytes.toLE 4 p.dataLength.toNat)]

/-- What is checked before anything is written. -/
def check (payload : Bytes) : Except Fault Unit := do
  if p.cdb.isEmpty then throw (.scsi .emptyCdb)
  if Scsi.maxCdbLength < p.cdb.length then throw (.scsi (.cdbTooLong p.cdb.length))
  Layout.sspParameters.require payload

/-- Encoding checks the parameters and writes their fields. -/
theorem encode_eq : p.encode payload = (p.check payload).map fun _ => payload.putAll p.fields := by
  unfold encode check
  by_cases he : p.cdb.isEmpty
  · simp only [he, if_true]
    rfl
  by_cases hlong : Scsi.maxCdbLength < p.cdb.length
  · simp only [he, hlong, if_true]
    rfl
  simp only [he, hlong, if_false]
  cases Layout.sspParameters.require payload <;> rfl

/-! ### In place -/

/-- The encoder that writes into the payload itself: the checks, then one field after the other. The
payload is left as the writing has brought it, also on failure. -/
def encodeInPlace : ExceptT Fault (StateM Bytes) Unit := do
  let payload ← get
  ExceptT.mk (pure (p.check payload))
  p.fields.forM fun f => modify fun payload => payload.put f.1 f.2

theorem run_forM_put (fields : List Bytes.Field) (payload : Bytes) :
    (fields.forM fun f => (modify fun payload => Bytes.put payload f.1 f.2 :
      ExceptT Fault (StateM Bytes) Unit)).run.run payload = (.ok (), payload.putAll fields) := by
  induction fields generalizing payload with
  | nil => rfl
  | cons f fields ih => exact ih (payload.put f.1 f.2)

/-- Writing in place is encoding. When it fails, the payload is as it was. -/
theorem run_encodeInPlace (payload : Bytes) : p.encodeInPlace.run.run payload =
    match p.encode payload with
    | .ok b => (.ok (), b)
    | .error fault => (.error fault, payload) := by
  rw [encode_eq]
  change (ExceptT.bindCont (fun _ => _) (p.check payload) : StateM Bytes _).run payload = _
  cases p.check payload with
  | error fault => rfl
  | ok _ => exact run_forM_put p.fields payload

theorem check_nil (h : p.cdb = []) : p.check payload = .error (.scsi .emptyCdb) := by
  rw [check, if_pos (by simp [h])]
  rfl

theorem check_long (h : Scsi.maxCdbLength < p.cdb.length) :
    p.check payload = .error (.scsi (.cdbTooLong p.cdb.length)) := by
  have hne : ¬ p.cdb.isEmpty := by
    rw [List.isEmpty_iff]
    rintro he
    simp [he] at h
  rw [check, if_neg hne, if_pos h]
  rfl

/-! ### Reading back -/

/-- A payload says what the parameters are. -/
structure Reads (p : SspParameters) (b : Bytes) : Prop where
  phy : b.byteAt 0 = p.phy
  port : b.byteAt 1 = p.port
  rate : b.byteAt 2 = p.rate
  destination : SasAddress.read b 4 = p.destination
  lun : b.fixed 8 12 = p.lun
  flags : b.le32 40 = p.flags.bits
  dataLength : b.le32 68 = p.dataLength
  baseWidth : (b.byteAt 20).toNat ≤ 16
  additionalWidth : 4 * (b.byteAt 21).toNat ≤ 24
  /-- The two command fields, each as long as its length says, hold the command and zeros up to the
  next dword. -/
  command : ∃ pad < 4, (b.slice 24 16).take (b.byteAt 20).toNat ++
    (b.slice 44 24).take (4 * (b.byteAt 21).toNat) = p.cdb ++ Bytes.zeros pad
  /-- All other bytes in front of the data are zero, the status block among them. -/
  reserved (i : Nat) : i = 3 ∨ 22 ≤ i ∧ i < 24 ∨ 24 + (b.byteAt 20).toNat ≤ i ∧ i < 40 ∨
    44 + 4 * (b.byteAt 21).toNat ≤ i ∧ i < 68 ∨ 72 ≤ i ∧ i < 340 → b.byteAt i = 0

variable {p}

theorem length_baseCdb_le : p.baseCdb.length ≤ 16 := List.length_take_le ..

theorem length_additionalCdb_dwords : p.additionalCdb.length ≤ 4 * p.additionalDwords ∧
    4 * p.additionalDwords < p.additionalCdb.length + 4 := by
  unfold additionalDwords
  omega

theorem length_additionalCdb_le (h : p.cdb.length ≤ Scsi.maxCdbLength) :
    p.additionalCdb.length ≤ 24 := by
  have hcdb : p.cdb.length ≤ 40 := h
  rw [additionalCdb, List.length_drop, baseCdbLength]
  omega

/-- The fields stand one behind the other. -/
theorem ordered_fields (h : p.cdb.length ≤ Scsi.maxCdbLength) : Bytes.Ordered p.fields := by
  have hbase := length_baseCdb_le (p := p)
  have hadditional := length_additionalCdb_le h
  simp only [Bytes.Ordered, fields, List.pairwise_cons, List.forall_mem_cons, Bytes.Field.stop,
    List.length_cons, List.length_nil, Vector.length_toList, Bytes.length_toLE]
  simp
  omega

section
variable (hc : p.cdb.length ≤ Scsi.maxCdbLength) (hl : 72 ≤ payload.length)
include hc

/-- Bytes that belong to no field stay: those between the fields, those behind the two parts of the
command, and all behind the parameters. -/
theorem byteAt_putAll_of_reserved {i : Nat}
    (hi : i = 3 ∨ 22 ≤ i ∧ i < 24 ∨ 24 + p.baseCdb.length ≤ i ∧ i < 40 ∨
      44 + p.additionalCdb.length ≤ i ∧ i < 68 ∨ 72 ≤ i) :
    (payload.putAll p.fields).byteAt i = payload.byteAt i := by
  have hbase := length_baseCdb_le (p := p)
  have hadditional := length_additionalCdb_le hc
  refine Bytes.byteAt_putAll_of_notCovered fun f hf => ?_
  simp only [fields, List.mem_cons, List.not_mem_nil, or_false] at hf
  rcases hf with rfl | rfl | rfl | rfl | rfl | rfl | rfl | rfl <;>
    simp only [Bytes.Field.Covers, Bytes.Field.stop, List.length_cons, List.length_nil,
      Vector.length_toList, Bytes.length_toLE] <;> omega

/-- Every field stands in the 72 bytes of the parameters. -/
theorem stop_le {f : Bytes.Field} (hf : f ∈ p.fields) : f.stop ≤ 72 := by
  have hbase := length_baseCdb_le (p := p)
  have hadditional := length_additionalCdb_le hc
  simp only [fields, List.mem_cons, List.not_mem_nil, or_false] at hf
  rcases hf with rfl | rfl | rfl | rfl | rfl | rfl | rfl | rfl <;>
    simp [Bytes.Field.stop] <;> omega

include hl

theorem byteAt_width (i : Nat) (hi : 20 ≤ i) (hlt : i < 22) :
    (payload.putAll p.fields).byteAt i =
      Bytes.byteAt [UInt8.ofNat p.baseCdb.length, UInt8.ofNat p.additionalDwords] (i - 20) := by
  have hmem : (20, [UInt8.ofNat p.baseCdb.length, UInt8.ofNat p.additionalDwords]) ∈ p.fields := by
    simp [fields]
  exact Bytes.byteAt_putAll_of_mem (ordered_fields hc) hmem ⟨hi, hlt⟩ (by omega)

theorem toNat_baseWidth : ((payload.putAll p.fields).byteAt 20).toNat = p.baseCdb.length := by
  have hbase := length_baseCdb_le (p := p)
  rw [byteAt_width hc hl 20 (by omega) (by omega)]
  exact UInt8.toNat_ofNat_of_lt' (by unfold UInt8.size; omega)

theorem toNat_additionalWidth :
    ((payload.putAll p.fields).byteAt 21).toNat = p.additionalDwords := by
  have hadditional := length_additionalCdb_le hc
  have hdwords := length_additionalCdb_dwords (p := p)
  rw [byteAt_width hc hl 21 (by omega) (by omega)]
  exact UInt8.toNat_ofNat_of_lt' (by unfold UInt8.size; omega)

theorem slice_baseCdb : (payload.putAll p.fields).slice 24 p.baseCdb.length = p.baseCdb := by
  have hmem : (24, p.baseCdb) ∈ p.fields := by simp [fields]
  exact Bytes.slice_putAll_of_mem (ordered_fields hc) hmem (Nat.le_trans (stop_le hc hmem) hl)

theorem slice_additionalCdb :
    (payload.putAll p.fields).slice 44 p.additionalCdb.length = p.additionalCdb := by
  have hmem : (44, p.additionalCdb) ∈ p.fields := by simp [fields]
  exact Bytes.slice_putAll_of_mem (ordered_fields hc) hmem (Nat.le_trans (stop_le hc hmem) hl)

section
variable (hz : ∀ i < 340, payload.byteAt i = 0)
include hz

/-- The encoder does not write the padding of the last dword: it is zero because it was before. -/
theorem slice_additionalDwords : (payload.putAll p.fields).slice 44 (4 * p.additionalDwords) =
    p.additionalCdb ++ Bytes.zeros (4 * p.additionalDwords - p.additionalCdb.length) := by
  have hadditional := length_additionalCdb_le hc
  have hdwords := length_additionalCdb_dwords (p := p)
  have hsplit : 4 * p.additionalDwords =
      p.additionalCdb.length + (4 * p.additionalDwords - p.additionalCdb.length) := by omega
  have hpad : (payload.putAll p.fields).slice (44 + p.additionalCdb.length)
      (4 * p.additionalDwords - p.additionalCdb.length) =
      Bytes.zeros (4 * p.additionalDwords - p.additionalCdb.length) := by
    refine Bytes.slice_eq_zeros (by rw [Bytes.length_putAll]; omega) fun i hi hlt => ?_
    rw [byteAt_putAll_of_reserved hc (by omega)]
    exact hz i (by omega)
  rw [hsplit, Bytes.slice_add, slice_additionalCdb hc hl, hpad, ← hsplit]

/-- The two command fields, each as long as its length says, hold the command. -/
theorem command_putAll :
    let b := payload.putAll p.fields
    (b.slice 24 16).take (b.byteAt 20).toNat ++ (b.slice 44 24).take (4 * (b.byteAt 21).toNat) =
      p.cdb ++ Bytes.zeros (4 * p.additionalDwords - p.additionalCdb.length) := by
  have hadditional := length_additionalCdb_le hc
  have hdwords := length_additionalCdb_dwords (p := p)
  have hwidth : 4 * p.additionalDwords ≤ 24 := by omega
  dsimp only
  rw [toNat_baseWidth hc hl, toNat_additionalWidth hc hl, Bytes.take_slice, Bytes.take_slice,
    Nat.min_eq_left length_baseCdb_le, Nat.min_eq_left hwidth, slice_baseCdb hc hl,
    slice_additionalDwords hc hl hz, ← List.append_assoc]
  exact congrArg (· ++ _) (List.take_append_drop _ _)

/-- Written over zeros, the fields say what the parameters are. -/
theorem reads_putAll : p.Reads (payload.putAll p.fields) := by
  have ho := ordered_fields hc
  have hstop {f : Bytes.Field} (hf : f ∈ p.fields) : f.stop ≤ payload.length :=
    Nat.le_trans (stop_le hc hf) hl
  have hbase := toNat_baseWidth hc hl
  have hbaseLe := length_baseCdb_le (p := p)
  have hadditional := toNat_additionalWidth hc hl
  have hadditionalLe := length_additionalCdb_le hc
  have hdwords := length_additionalCdb_dwords (p := p)
  have hhead {i : Nat} (hi : i < 3) :
      (payload.putAll p.fields).byteAt i = Bytes.byteAt [p.phy, p.port, p.rate] i :=
    Bytes.byteAt_putAll_front ho List.mem_cons_self hi (by omega)
  refine {
    phy := hhead (by omega)
    port := hhead (by omega)
    rate := hhead (by omega)
    destination := ?destination
    lun := ?lun
    flags := ?flags
    dataLength := ?dataLength
    baseWidth := by omega
    additionalWidth := by omega
    command := ⟨_, by omega, command_putAll hc hl hz⟩
    reserved := fun i hi => ?reserved }
  case destination => exact SasAddress.read_putAll ho (by simp [fields]) (by omega)
  case lun => exact Bytes.fixed_putAll_toList ho (by simp [fields]) (by omega)
  case flags =>
    have hmem : (40, Bytes.toLE 4 p.flags.bits.toNat) ∈ p.fields := by simp [fields]
    exact Bytes.le32_putAll_of_mem ho hmem (hstop hmem) rfl
  case dataLength =>
    have hmem : (68, Bytes.toLE 4 p.dataLength.toNat) ∈ p.fields := by simp [fields]
    exact Bytes.le32_putAll_of_mem ho hmem (hstop hmem) rfl
  case reserved =>
    rw [byteAt_putAll_of_reserved hc (by omega)]
    exact hz i (by omega)

end

end

end Csmi.SspParameters

/-! ## Requests -/

namespace ScsiRequest

/-- A payload says what a command asks of an endpoint. -/
structure Encodes (r : ScsiRequest) (ep : Endpoint) (b : Bytes) : Prop where
  length : b.length = 340 + r.data.size
  phy : b.byteAt 0 = ep.phy
  port : b.byteAt 1 = ep.port
  rate : b.byteAt 2 = ep.rate
  destination : SasAddress.read b 4 = ep.sasAddress
  lun : b.fixed 8 12 = ep.lun
  direction : b.le32 40 = match r.data with
    | .inbound _ => 1
    | .outbound _ => 2
    | .none => 4
  size : (b.le32 68).toNat = r.data.size
  baseWidth : (b.byteAt 20).toNat ≤ 16
  additionalWidth : 4 * (b.byteAt 21).toNat ≤ 24
  /-- The two command fields, each as long as its length says, hold the command and zeros up to the
  next dword. -/
  command : ∃ pad < 4, (b.slice 24 16).take (b.byteAt 20).toNat ++
    (b.slice 44 24).take (4 * (b.byteAt 21).toNat) = r.cdb.bytes ++ Bytes.zeros pad
  data : b.drop 340 = match r.data with
    | .outbound content => content
    | d => Bytes.zeros d.size
  /-- All other bytes are zero, the status block at 72 to 339 among them. -/
  reserved (i : Nat) : i = 3 ∨ 22 ≤ i ∧ i < 24 ∨ 24 + (b.byteAt 20).toNat ≤ i ∧ i < 40 ∨
    44 + 4 * (b.byteAt 21).toNat ≤ i ∧ i < 68 ∨ 72 ≤ i ∧ i < 340 → b.byteAt i = 0

variable {r : ScsiRequest} {ep : Endpoint} {b : Bytes}

/-- A payload is zeros and the data, with the fields of the parameters written over the zeros. -/
theorem payload_eq_putAll (h : r.payload ep = .ok b) :
    b = (Bytes.zeros sspFixedLength ++ r.data.staged).putAll (r.parameters ep).fields := by
  obtain ⟨-, head, hencode, rfl⟩ := payload_eq_ok.1 h
  have hfront : 72 ≤ sspFixedLength := by decide
  have hstop : ∀ f ∈ (r.parameters ep).fields, f.stop ≤ (Bytes.zeros sspFixedLength).length := by
    intro f hf
    rw [Bytes.length_zeros]
    exact Nat.le_trans (SspParameters.stop_le r.cdb.length_le hf) hfront
  rw [SspParameters.encode_eq] at hencode
  cases hcheck : (r.parameters ep).check (Bytes.zeros sspFixedLength) with
  | error fault =>
    rw [hcheck] at hencode
    cases hencode
  | ok _ =>
    rw [hcheck] at hencode
    rw [Bytes.putAll_append_left hstop, ← Except.ok.inj hencode]

theorem encodes_payload (h : r.payload ep = .ok b) : r.Encodes ep b := by
  obtain ⟨hfits, head, hencode, rfl⟩ := payload_eq_ok.1 h
  have hfront : (Bytes.zeros sspFixedLength).length = 340 := Bytes.length_zeros _
  have hhead : head.length = 340 := (SspParameters.encode_spec hencode).1.trans hfront
  have hzero : ∀ i < 340, (Bytes.zeros sspFixedLength ++ r.data.staged).byteAt i = 0 := by
    intro i hi
    rw [Bytes.byteAt_append_left (by rwa [hfront]), Bytes.byteAt_zeros]
  have hreads : (r.parameters ep).Reads (head ++ r.data.staged) := by
    rw [payload_eq_putAll h]
    refine SspParameters.reads_putAll r.cdb.length_le ?_ hzero
    rw [List.length_append, hfront]
    omega
  exact {
    length := by rw [List.length_append, hhead, DataBuffer.length_staged]
    phy := hreads.phy
    port := hreads.port
    rate := hreads.rate
    destination := hreads.destination
    lun := hreads.lun
    direction := by rw [hreads.flags, parameters]; cases r.data <;> rfl
    size := by rw [hreads.dataLength]; exact UInt32.toNat_ofNat_of_lt' hfits
    baseWidth := hreads.baseWidth
    additionalWidth := hreads.additionalWidth
    command := hreads.command
    data := by rw [List.drop_left' hhead]; cases r.data <;> rfl
    reserved := hreads.reserved }

/-- **The driver is handed all of a command, and nothing else.** Whatever it answers, a command of
at least one byte whose data fit 32 bits is one SSP call, with a payload that says what the command
asks of the endpoint; all other bytes of the payload are zero. An encoder that is given no command
byte or more than 40 fails before it has written a byte. -/
theorem ssp_call_encodes {σ : Type} (w : Dialogue.Surroundings σ) (s : σ) (c : Controller)
    (ep : Endpoint) (r : ScsiRequest) :
    (r.cdb.bytes ≠ [] → r.data.size < UInt32.size →
      ∃ x, (r.send c ep).exchanges w s = [x] ∧ x.channel = c.channel ∧ x.code = .sspPassthrough ∧
        r.Encodes ep x.payload) ∧
    ∀ (p : SspParameters) (payload : Bytes) (fault : Fault),
      p.cdb = [] ∧ fault = .scsi .emptyCdb ∨
        40 < p.cdb.length ∧ fault = .scsi (.cdbTooLong p.cdb.length) →
      p.encode payload = .error fault ∧
        p.encodeInPlace.run.run payload = (.error fault, payload) := by
  refine ⟨fun hcdb hfits => ?_, fun p payload fault hbad => ?_⟩
  · rcases course_send (Dialogue.course_run w (r.send c ep) s) with
      ⟨fault, hp, -, -⟩ | ⟨x, b, hx, hp, hsent, -⟩
    · obtain ⟨b, hb⟩ : ∃ b, r.payload ep = .ok b := exists_payload hfits hcdb
      cases hp.symm.trans hb
    · refine ⟨x, hx, hsent.channel, hsent.code, ?_⟩
      rw [hsent.payload]
      exact encodes_payload hp
  · have hcheck : p.check payload = .error fault := by
      rcases hbad with ⟨hnil, rfl⟩ | ⟨hlong, rfl⟩
      · exact p.check_nil hnil
      · exact p.check_long hlong
    have hencode : p.encode payload = .error fault := by
      rw [SspParameters.encode_eq, hcheck]
      rfl
    exact ⟨hencode, by rw [SspParameters.run_encodeInPlace, hencode]⟩

/-- A command of 18 bytes that sends three bytes. -/
def wideCommand : ScsiRequest where
  cdb := ⟨[0x7F, 0, 0, 0, 0, 0, 0, 10, 0, 0, 0, 0, 0, 0, 0, 0, 0xA1, 0xA2], by decide⟩
  data := .outbound [1, 2, 3]

/-- Its last two bytes go into the second command field, which is one dword long. With 41 bytes in
their place the encoder leaves the payload as it was. -/
theorem ssp_call_encodes_wideCommand :
    (wideCommand.cdb.bytes ≠ [] ∧ wideCommand.data.size < UInt32.size) ∧
    (∃ x, (wideCommand.send ⟨⟨0⟩, 0, .off⟩ (.at 1 0 .zero)).exchanges
        Script.Rack.surroundings [] = [x] ∧ wideCommand.Encodes (.at 1 0 .zero) x.payload ∧
      x.payload.slice 20 2 = [16, 1] ∧ x.payload.slice 44 24 = [0xA1, 0xA2] ++ Bytes.zeros 22) ∧
    { wideCommand.parameters (.at 1 0 .zero) with
        cdb := Bytes.zeros 41 }.encodeInPlace.run.run [7] =
      (.error (.scsi (.cdbTooLong 41)), [7]) := by
  obtain ⟨hsend, hfail⟩ := ssp_call_encodes Script.Rack.surroundings [] ⟨⟨0⟩, 0, .off⟩
    (.at 1 0 .zero) wideCommand
  have hcdb : wideCommand.cdb.bytes ≠ [] := by decide
  have hfits : wideCommand.data.size < UInt32.size := by decide
  obtain ⟨x, hx, -, -, hencodes⟩ := hsend hcdb hfits
  have hfields : ((wideCommand.send ⟨⟨0⟩, 0, .off⟩ (.at 1 0 .zero)).exchanges
      Script.Rack.surroundings []).map (fun x => (x.payload.slice 20 2, x.payload.slice 44 24)) =
      [([16, 1], [0xA1, 0xA2] ++ Bytes.zeros 22)] := by decide +kernel
  rw [hx, List.map_singleton, List.singleton_inj, Prod.mk.injEq] at hfields
  exact ⟨⟨hcdb, hfits⟩, ⟨x, hx, hencodes, hfields⟩,
    (hfail _ [7] _ (.inr ⟨by decide, rfl⟩)).2⟩

end ScsiRequest

end DriveReach
