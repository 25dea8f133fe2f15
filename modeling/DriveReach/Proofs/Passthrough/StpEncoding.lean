import DriveReach.Proofs.Passthrough.Payload
/-!
# What the payload of an STP call says

As in an SSP call, the parameters are fields that stand one behind the other
(`StpParameters.fields`, `StpParameters.ordered_fields`), written into zeros, and the data stand
behind the status block.

* `StpParameters.encode_eq`: encoding is a check and the writing of the fields.
* `StpParameters.reads_putAll`: written over zeros, the fields say what the parameters are.
* `AtaRequest.encodes_stpPayload`: a payload says all of a command and nothing else.
-/

set_option autoImplicit false

namespace DriveReach

open Csmi

/-! ## Parameters -/

namespace Csmi.StpParameters

variable (p : StpParameters) {payload b : Bytes}

/-- What the parameters write, and where. -/
def fields : List Bytes.Field :=
  [(0, [p.phy, p.port, p.rate]),
    (4, p.destination.bytes.toList),
    (16, p.frame.toList),
    (36, Bytes.toLE 4 p.flags.bits.toNat),
    (40, Bytes.toLE 4 p.dataLength.toNat)]

/-- Encoding checks the room and writes the fields. -/
theorem encode_eq : p.encode payload =
    (Layout.stpParameters.require payload).map fun _ => payload.putAll p.fields := by
  unfold encode
  cases Layout.stpParameters.require payload <;> rfl

/-- The fields stand one behind the other. -/
theorem ordered_fields : Bytes.Ordered p.fields := by
  simp [Bytes.Ordered, fields, Bytes.Field.stop]

/-- A payload says what the parameters are; the bytes between the fields and those of the status
block are zero. -/
structure Reads (p : StpParameters) (b : Bytes) : Prop where
  phy : b.byteAt 0 = p.phy
  port : b.byteAt 1 = p.port
  rate : b.byteAt 2 = p.rate
  destination : SasAddress.read b 4 = p.destination
  frame : b.fixed 20 16 = p.frame
  flags : b.le32 36 = p.flags.bits
  dataLength : b.le32 40 = p.dataLength
  reserved (i : Nat) : i = 3 ∨ 12 ≤ i ∧ i < 16 ∨ 44 ≤ i ∧ i < 136 → b.byteAt i = 0

variable {p}

/-- Every field stands in the 44 bytes of the parameters. -/
theorem stop_le {f : Bytes.Field} (hf : f ∈ p.fields) : f.stop ≤ 44 := by
  simp only [fields, List.mem_cons, List.not_mem_nil, or_false] at hf
  rcases hf with rfl | rfl | rfl | rfl | rfl <;> simp [Bytes.Field.stop]

/-- Bytes that belong to no field stay. -/
theorem byteAt_putAll_of_reserved {i : Nat} (hi : i = 3 ∨ 12 ≤ i ∧ i < 16 ∨ 44 ≤ i) :
    (payload.putAll p.fields).byteAt i = payload.byteAt i := by
  refine Bytes.byteAt_putAll_of_notCovered fun f hf => ?_
  simp only [fields, List.mem_cons, List.not_mem_nil, or_false] at hf
  rcases hf with rfl | rfl | rfl | rfl | rfl <;>
    simp only [Bytes.Field.Covers, Bytes.Field.stop, List.length_cons, List.length_nil,
      Vector.length_toList, Bytes.length_toLE] <;> omega

/-- Written over zeros, the fields say what the parameters are. -/
theorem reads_putAll (hl : 44 ≤ payload.length) (hz : ∀ i < 136, payload.byteAt i = 0) :
    p.Reads (payload.putAll p.fields) := by
  have hstop {f : Bytes.Field} (hf : f ∈ p.fields) : f.stop ≤ payload.length :=
    Nat.le_trans (stop_le hf) hl
  have hhead {i : Nat} (hi : i < 3) :
      (payload.putAll p.fields).byteAt i = Bytes.byteAt [p.phy, p.port, p.rate] i :=
    Bytes.byteAt_putAll_front p.ordered_fields List.mem_cons_self hi (by omega)
  refine {
    phy := hhead (by omega)
    port := hhead (by omega)
    rate := hhead (by omega)
    destination := ?destination
    frame := ?frame
    flags := ?flags
    dataLength := ?dataLength
    reserved := fun i hi => ?reserved }
  case destination =>
    exact SasAddress.read_putAll p.ordered_fields (by simp [fields]) (by omega)
  case frame => exact Bytes.fixed_putAll_toList p.ordered_fields (by simp [fields]) (by omega)
  case flags =>
    have hmem : (36, Bytes.toLE 4 p.flags.bits.toNat) ∈ p.fields := by simp [fields]
    exact Bytes.le32_putAll_of_mem p.ordered_fields hmem (hstop hmem) rfl
  case dataLength =>
    have hmem : (40, Bytes.toLE 4 p.dataLength.toNat) ∈ p.fields := by simp [fields]
    exact Bytes.le32_putAll_of_mem p.ordered_fields hmem (hstop hmem) rfl
  case reserved =>
    rw [byteAt_putAll_of_reserved (by omega)]
    exact hz i (by omega)

end Csmi.StpParameters

/-! ## Requests -/

namespace AtaRequest

/-- A payload says what a command asks of an endpoint. -/
structure Encodes (r : AtaRequest) (ep : Endpoint) (b : Bytes) : Prop where
  length : b.length = 136 + r.data.size
  phy : b.byteAt 0 = ep.phy
  port : b.byteAt 1 = ep.port
  rate : b.byteAt 2 = ep.rate
  destination : SasAddress.read b 4 = ep.sasAddress
  /-- The frame is for the endpoint's port multiplier port, not for that of the command. -/
  frame : b.fixed 20 16 = { r.command with pmPort := ep.pmPort }.toFrame.bytes
  flags : b.le32 36 =
    (match r.command.protocol with
      | .nonData => 0
      | .pioIn | .pioOut => 0x10
      | .dma => 0x20
      | .packet => 0x40
      | .dmaQueued | .fpdma => 0x80
      | .deviceDiagnostic => 0x100
      | .deviceReset => 0x200) |||
    (match r.data with
      | .inbound _ => 1
      | .outbound _ => 2
      | .none => 4)
  size : (b.le32 40).toNat = r.data.size
  data : b.drop 136 = match r.data with
    | .outbound content => content
    | d => Bytes.zeros d.size
  /-- All other bytes are zero, the status block at 44 to 135 among them. -/
  reserved (i : Nat) : i = 3 ∨ 12 ≤ i ∧ i < 16 ∨ 44 ≤ i ∧ i < 136 → b.byteAt i = 0

variable {r : AtaRequest} {ep : Endpoint} {b : Bytes}

theorem encodes_stpPayload (h : r.stpPayload ep = .ok b) : r.Encodes ep b := by
  obtain ⟨hfits, head, hencode, rfl⟩ := stpPayload_eq_ok.1 h
  have hfront : (Bytes.zeros stpFixedLength).length = 136 := Bytes.length_zeros _
  have hhead : head = (Bytes.zeros stpFixedLength).putAll (r.stpParameters ep).fields := by
    have hroom : Layout.stpParameters.require (Bytes.zeros stpFixedLength) = .ok () :=
      if_neg (by rw [hfront]; decide)
    rw [StpParameters.encode_eq, hroom] at hencode
    exact (Except.ok.inj hencode).symm
  have hlength : head.length = 136 := by rw [hhead, Bytes.length_putAll, hfront]
  have hreads : (r.stpParameters ep).Reads head := by
    rw [hhead]
    exact StpParameters.reads_putAll (by rw [hfront]; decide) fun i _ => Bytes.byteAt_zeros
  have hbyte {i : Nat} (hi : i < 136) : (head ++ r.data.staged).byteAt i = head.byteAt i :=
    Bytes.byteAt_append_left (by rwa [hlength])
  exact {
    length := by rw [List.length_append, hlength, DataBuffer.length_staged]
    phy := (hbyte (by decide)).trans hreads.phy
    port := (hbyte (by decide)).trans hreads.port
    rate := (hbyte (by decide)).trans hreads.rate
    destination := by
      rw [SasAddress.read, Bytes.fixed_append_left (by rw [hlength]; decide)]
      exact hreads.destination
    frame := by
      rw [Bytes.fixed_append_left (by rw [hlength]; decide)]
      exact hreads.frame
    flags := by
      have hbits : (r.stpParameters ep).flags.bits =
          StpFlags.protocolBits r.command.protocol ||| StpFlags.directionBits r.data.direction := rfl
      rw [Bytes.le32_append_left (by rw [hlength]; decide), hreads.flags, hbits]
      refine congr (congrArg HOr.hOr ?_) ?_
      · cases r.command.protocol <;> rfl
      · cases r.data <;> rfl
    size := by
      rw [Bytes.le32_append_left (by rw [hlength]; decide), hreads.dataLength]
      exact UInt32.toNat_ofNat_of_lt' hfits
    data := by rw [List.drop_left' hlength]; cases r.data <;> rfl
    reserved := fun i hi => (hbyte (by omega)).trans (hreads.reserved i hi) }

end AtaRequest

end DriveReach
