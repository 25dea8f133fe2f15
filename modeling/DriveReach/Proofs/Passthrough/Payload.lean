import DriveReach.Passthrough.AtaChain
import DriveReach.Proofs.Bytes
/-!
# Payloads of passthrough calls

SSP and STP payloads open with the same fields, which say where the command goes: `AddressedTo`.
Behind them, an SSP payload carries the command bytes and an STP payload the command frame.

* `ScsiRequest.payload_eq_ok`, `AtaRequest.stpPayload_eq_ok`: a payload is the encoded parameters
  and the data.
* `ScsiRequest.payload_spec`, `AtaRequest.stpPayload_spec`: what can be read from a payload.
* `Lengths`: how long a payload is, and what length of its data it records.
* `ScsiRequest.exists_payload`, `AtaRequest.exists_stpPayload`: data whose length fits 32 bits can
  be sent.
* `Ata.Command.pmPort_toFrame`: the frame carries the low half of the port multiplier port.
-/

set_option autoImplicit false

namespace DriveReach

open Csmi

/-- The payload of a passthrough call names a phy, a port and an address. -/
structure AddressedTo (phy port : UInt8) (address : SasAddress) (b : Bytes) : Prop where
  phy : b.byteAt 0 = phy
  port : b.byteAt 1 = port
  address : SasAddress.read b 4 = address

namespace AddressedTo

variable {phy port : UInt8} {address : SasAddress} {b p : Bytes}

theorem head {rate : UInt8} (h : 12 ≤ b.length) :
    AddressedTo phy port address ((b.put 0 [phy, port, rate]).put 4 address.bytes.toList) := by
  have hb {i : Nat} (hi : i < 3) :
      ((b.put 0 [phy, port, rate]).put 4 address.bytes.toList).byteAt i =
        Bytes.byteAt [phy, port, rate] i := by
    rw [Bytes.byteAt_put_of_disjoint (by omega),
      Bytes.byteAt_put_mem (by omega) (by simpa using hi) (by omega)]
    rfl
  refine ⟨hb (by omega), hb (by omega), ?_⟩
  rw [SasAddress.read, Bytes.fixed_put_self (by rw [Bytes.length_put]; omega)]

/-- Whatever is written behind the address leaves it in place. -/
theorem put {off : Nat} (h : AddressedTo phy port address b) (ho : 12 ≤ off) :
    AddressedTo phy port address (b.put off p) where
  phy := by rw [Bytes.byteAt_put_of_disjoint (by omega), h.phy]
  port := by rw [Bytes.byteAt_put_of_disjoint (by omega), h.port]
  address := by
    rw [SasAddress.read, Bytes.fixed_put_of_disjoint (by omega)]
    exact h.address

theorem append (h : AddressedTo phy port address b) (hl : 12 ≤ b.length) :
    AddressedTo phy port address (b ++ p) where
  phy := by rw [Bytes.byteAt_append_left (by omega), h.phy]
  port := by rw [Bytes.byteAt_append_left (by omega), h.port]
  address := by
    rw [SasAddress.read, Bytes.fixed_append_left (by omega)]
    exact h.address

end AddressedTo

theorem SasAddress.read_putAll {a : SasAddress} {fields : List Bytes.Field} {b : Bytes} {off : Nat}
    (ho : Bytes.Ordered fields) (hf : (off, a.bytes.toList) ∈ fields) (hl : off + 8 ≤ b.length) :
    SasAddress.read (b.putAll fields) off = a :=
  congrArg SasAddress.mk (Bytes.fixed_putAll_toList ho hf hl)

/-- A payload has `fixed` bytes in front of `size` bytes of data, and records their number at
`place`. -/
structure Lengths (fixed place size : Nat) (b : Bytes) : Prop where
  fits : size < UInt32.size
  length : b.length = fixed + size
  recorded : b.le32 place = UInt32.ofNat size

theorem Lengths.append {fixed place size : Nat} {b p : Bytes} (hf : size < UInt32.size)
    (hb : b.length = fixed) (hp : p.length = size) (hplace : place + 4 ≤ fixed)
    (hr : b.le32 place = UInt32.ofNat size) : Lengths fixed place size (b ++ p) where
  fits := hf
  length := by rw [List.length_append, hb, hp]
  recorded := by rw [Bytes.le32_append_left (by omega), hr]

theorem dataLength_eq_ok {n : Nat} (h : n < UInt32.size) : dataLength n = .ok (UInt32.ofNat n) :=
  if_pos h

theorem DataBuffer.length_staged (d : DataBuffer) : d.staged.length = d.size := by
  cases d with
  | outbound content => rfl
  | none => exact Bytes.length_zeros _
  | inbound room => exact Bytes.length_zeros _

/-! ## SSP -/

namespace Csmi.SspParameters

variable {p : SspParameters} {payload b : Bytes}

theorem encode_eq_ok (hc : p.cdb ≠ []) (hl : p.cdb.length ≤ Scsi.maxCdbLength)
    (hp : Layout.sspParameters.size ≤ payload.length) : ∃ b, p.encode payload = .ok b := by
  have h1 : p.cdb.isEmpty = false := by simpa using hc
  have h2 : ¬ Scsi.maxCdbLength < p.cdb.length := by omega
  have h3 : Layout.sspParameters.require payload = .ok () := if_neg (by omega)
  unfold encode
  simp only [h1, h2, h3, if_false, Bool.false_eq_true]
  exact ⟨_, rfl⟩

theorem encode_spec (h : p.encode payload = .ok b) :
    b.length = payload.length ∧ AddressedTo p.phy p.port p.destination b ∧
      b.byteAt 24 = p.cdb.byteAt 0 ∧ b.le32 68 = p.dataLength := by
  by_cases h1 : p.cdb.isEmpty
  · simp only [encode, h1, if_true] at h
    cases h
  by_cases h2 : Scsi.maxCdbLength < p.cdb.length
  · simp only [encode, h1, h2, if_true] at h
    cases h
  by_cases h3 : payload.length < Layout.sspParameters.size
  · simp only [encode, h1, h2, if_false, Layout.require, h3, if_true] at h
    cases h
  simp only [encode, h1, h2, if_false, Layout.require, h3, bind, Except.bind, pure,
    Except.pure, Bool.false_eq_true] at h
  obtain rfl := Except.ok.inj h
  have hroom : 72 ≤ payload.length := by simpa [Layout.size] using h3
  have hcdb : 0 < p.cdb.length := List.length_pos_iff.2 (by simpa using h1)
  refine ⟨by simp, ?_, ?_, Bytes.le32_put_self (by simpa using hroom)⟩
  · exact ((((((AddressedTo.head (by omega)).put (by omega)).put (by omega)).put (by omega)).put
      (by omega)).put (by omega)).put (by omega)
  · have htake : Bytes.byteAt (p.cdb.take baseCdbLength) 0 = p.cdb.byteAt 0 := by
      cases hp : p.cdb with
      | nil => simp [hp] at hcdb
      | cons c cs => rfl
    rw [Bytes.byteAt_put_of_disjoint (by omega), Bytes.byteAt_put_of_disjoint (by omega),
      Bytes.byteAt_put_of_disjoint (by omega),
      Bytes.byteAt_put_mem (by omega) (by simp [baseCdbLength]; omega) (by simp; omega)]
    exact htake

end Csmi.SspParameters

namespace ScsiRequest

variable {r : ScsiRequest} {ep : Endpoint} {b : Bytes}

/-- The parameters of the command's SSP call. -/
def parameters (r : ScsiRequest) (ep : Endpoint) : SspParameters where
  phy := ep.phy
  port := ep.port
  rate := ep.rate
  destination := ep.sasAddress
  lun := ep.lun
  cdb := r.cdb.bytes
  flags := .ofDirection r.data.direction
  dataLength := UInt32.ofNat r.data.size

/-- The payload is the parameters, written into zeros, and the data. -/
theorem payload_eq_ok :
    r.payload ep = .ok b ↔ r.data.size < UInt32.size ∧
      ∃ head, (r.parameters ep).encode (Bytes.zeros sspFixedLength) = .ok head ∧
        b = head ++ r.data.staged := by
  unfold payload
  by_cases hd : r.data.size < UInt32.size
  · rw [dataLength_eq_ok hd]
    simp only [Except.bind, bind, hd, true_and]
    rw [← parameters]
    cases (r.parameters ep).encode (Bytes.zeros sspFixedLength) with
    | error fault => simp
    | ok head => simp [pure, Except.pure, eq_comm]
  · rw [dataLength, if_neg hd]
    simp [bind, Except.bind, hd]

theorem exists_payload (hd : r.data.size < UInt32.size) (hc : r.cdb.bytes ≠ []) :
    ∃ b, r.payload ep = .ok b := by
  have hroom : Layout.sspParameters.size ≤ (Bytes.zeros sspFixedLength).length := by
    rw [Bytes.length_zeros]
    decide
  obtain ⟨head, hb⟩ := SspParameters.encode_eq_ok (p := r.parameters ep) hc r.cdb.length_le hroom
  exact ⟨_, payload_eq_ok.2 ⟨hd, head, hb, rfl⟩⟩

theorem cdb_ne_nil (h : r.payload ep = .ok b) : r.cdb.bytes ≠ [] := by
  obtain ⟨-, head, hw, -⟩ := payload_eq_ok.1 h
  intro hc
  have hempty : (r.parameters ep).cdb.isEmpty := by simp [parameters, hc]
  have herror : (r.parameters ep).encode (Bytes.zeros sspFixedLength) =
      .error (.scsi .emptyCdb) := by
    rw [SspParameters.encode, if_pos hempty]
    rfl
  rw [herror] at hw
  cases hw

/-- An SSP payload is addressed to the endpoint and carries the operation code, and has the lengths
of its data. -/
theorem payload_spec (h : r.payload ep = .ok b) :
    AddressedTo ep.phy ep.port ep.sasAddress b ∧ b.byteAt 24 = r.cdb.opcode ∧
      Lengths sspFixedLength 68 r.data.size b := by
  obtain ⟨hd, head, hw, rfl⟩ := payload_eq_ok.1 h
  obtain ⟨hlen, hto, hop, hsize⟩ := SspParameters.encode_spec hw
  rw [Bytes.length_zeros] at hlen
  refine ⟨hto.append (by rw [hlen]; decide), ?_,
    .append hd hlen r.data.length_staged (by decide) hsize⟩
  rw [Bytes.byteAt_append_left (by rw [hlen]; decide), hop]
  rfl

end ScsiRequest

/-! ## Command frames -/

theorem Bytes.nth_setNumber_of_notMem {n i : Nat} {places : List Nat} (h : i ∉ places) :
    ∀ (v : Vector UInt8 n) (x : Nat), nth (setNumber v places x) i = nth v i := by
  induction places with
  | nil => exact fun _ _ => rfl
  | cons j places ih =>
    intro v x
    rw [List.mem_cons, not_or] at h
    rw [setNumber, ih h.2, nth_setIfInBounds, if_neg fun hj => h.1 hj.1.symm]

namespace Ata

namespace HostFrame

variable {f : HostFrame}

theorem byte_setByte_of_ne {i j : Nat} {b : UInt8} (h : i ≠ j) :
    (f.setByte i b).byte j = f.byte j := by
  rw [byte, setByte, Bytes.nth_setIfInBounds, if_neg fun hj => h hj.1]
  rfl

theorem byte_one_setFeatures {x : UInt16} : (f.setFeatures x).byte 1 = f.byte 1 :=
  Bytes.nth_setNumber_of_notMem (by decide) _ _

theorem byte_one_setLba {x : UInt64} : (f.setLba x).byte 1 = f.byte 1 :=
  Bytes.nth_setNumber_of_notMem (by decide) _ _

theorem byte_one_setCount {x : UInt16} : (f.setCount x).byte 1 = f.byte 1 :=
  Bytes.nth_setNumber_of_notMem (by decide) _ _

theorem byte_one_setAuxiliary {x : UInt32} : (f.setAuxiliary x).byte 1 = f.byte 1 :=
  Bytes.nth_setNumber_of_notMem (by decide) _ _

theorem pmPortOf_or (b port : UInt8) : pmPortOf (b &&& 0xF0 ||| port &&& 0x0F) = pmPortOf port := by
  apply UInt8.eq_of_toBitVec_eq
  apply BitVec.eq_of_getLsbD_eq
  intro i hi
  simp only [pmPortOf, UInt8.toBitVec_and, UInt8.toBitVec_or, BitVec.getLsbD_and,
    BitVec.getLsbD_or]
  match i with
  | 0 | 1 | 2 | 3 | 4 | 5 | 6 | 7 => simp

theorem pmPortOf_pmPortOf (b : UInt8) : pmPortOf (pmPortOf b) = pmPortOf b := by
  rw [pmPortOf, pmPortOf, UInt8.and_assoc, UInt8.and_self]

theorem pmPort_setPmPort {port : UInt8} : (f.setPmPort port).pmPort = pmPortOf port := by
  rw [pmPort, setPmPort, setByte, byte, Bytes.nth_setIfInBounds, if_pos ⟨rfl, by omega⟩]
  exact pmPortOf_or _ port

end HostFrame

/-- The frame of a command carries the low half of its port multiplier port. -/
theorem Command.pmPort_toFrame (c : Command) : c.toFrame.pmPort = pmPortOf c.pmPort := by
  have h : c.toFrame.byte 1 = (HostFrame.blank.setPmPort c.pmPort).byte 1 := by
    unfold toFrame
    split <;>
      simp only [HostFrame.byte_one_setFeatures, HostFrame.byte_one_setCount,
        HostFrame.byte_one_setLba, HostFrame.byte_one_setAuxiliary, HostFrame.setDevice,
        HostFrame.setControl, HostFrame.setIcc, HostFrame.setCommand,
        HostFrame.byte_setByte_of_ne (show 7 ≠ 1 by decide),
        HostFrame.byte_setByte_of_ne (show 15 ≠ 1 by decide),
        HostFrame.byte_setByte_of_ne (show 14 ≠ 1 by decide),
        HostFrame.byte_setByte_of_ne (show 2 ≠ 1 by decide)]
  rw [HostFrame.pmPort, h]
  exact HostFrame.pmPort_setPmPort

end Ata

/-! ## STP -/

namespace Csmi.StpParameters

variable {p : StpParameters} {payload b : Bytes}

theorem encode_eq_ok (hp : Layout.stpParameters.size ≤ payload.length) :
    ∃ b, p.encode payload = .ok b := by
  have h : Layout.stpParameters.require payload = .ok () := if_neg (by omega)
  unfold encode
  rw [h]
  exact ⟨_, rfl⟩

theorem encode_spec (h : p.encode payload = .ok b) :
    b.length = payload.length ∧ AddressedTo p.phy p.port p.destination b ∧
      b.fixed 20 16 = p.frame ∧ b.le32 40 = p.dataLength := by
  by_cases hp : payload.length < Layout.stpParameters.size
  · simp only [encode, Layout.require, hp, if_true] at h
    cases h
  simp only [encode, Layout.require, hp, if_false] at h
  cases h
  have hroom : 44 ≤ payload.length := by simpa [Layout.size] using hp
  refine ⟨by simp, ?_, ?_, Bytes.le32_put_self (by simpa using hroom)⟩
  · exact (((AddressedTo.head (by omega)).put (by omega)).put (by omega)).put (by omega)
  · rw [Bytes.fixed_put_of_disjoint (by omega), Bytes.fixed_put_of_disjoint (by omega),
      Bytes.fixed_put_self (by simp; omega)]

end Csmi.StpParameters

namespace AtaRequest

variable {r : AtaRequest} {ep : Endpoint} {b : Bytes}

/-- The parameters of the command's STP call. -/
def stpParameters (r : AtaRequest) (ep : Endpoint) : StpParameters where
  phy := ep.phy
  port := ep.port
  rate := ep.rate
  destination := ep.sasAddress
  frame := (r.commandAt ep).toFrame.bytes
  flags := .ofCommand r.command.protocol r.data.direction
  dataLength := UInt32.ofNat r.data.size

/-- The payload is the parameters, written into zeros, and the data. -/
theorem stpPayload_eq_ok :
    r.stpPayload ep = .ok b ↔ r.data.size < UInt32.size ∧
      ∃ head, (r.stpParameters ep).encode (Bytes.zeros stpFixedLength) = .ok head ∧
        b = head ++ r.data.staged := by
  unfold stpPayload
  by_cases hd : r.data.size < UInt32.size
  · rw [dataLength_eq_ok hd]
    simp only [Except.bind, bind, hd, true_and]
    rw [← stpParameters]
    cases (r.stpParameters ep).encode (Bytes.zeros stpFixedLength) with
    | error fault => simp
    | ok head => simp [pure, Except.pure, eq_comm]
  · rw [dataLength, if_neg hd]
    simp [bind, Except.bind, hd]

theorem exists_stpPayload (hd : r.data.size < UInt32.size) : ∃ b, r.stpPayload ep = .ok b := by
  have hroom : Layout.stpParameters.size ≤ (Bytes.zeros stpFixedLength).length := by
    rw [Bytes.length_zeros]
    decide
  obtain ⟨head, hb⟩ := StpParameters.encode_eq_ok (p := r.stpParameters ep) hroom
  exact ⟨_, stpPayload_eq_ok.2 ⟨hd, head, hb, rfl⟩⟩

/-- An STP payload is addressed to the endpoint and carries the command's frame for it, and has the
lengths of its data. -/
theorem stpPayload_spec (h : r.stpPayload ep = .ok b) :
    AddressedTo ep.phy ep.port ep.sasAddress b ∧
      b.fixed 20 16 = (r.commandAt ep).toFrame.bytes ∧ Lengths stpFixedLength 40 r.data.size b := by
  obtain ⟨hd, head, hw, rfl⟩ := stpPayload_eq_ok.1 h
  obtain ⟨hlen, hto, hf, hsize⟩ := StpParameters.encode_spec hw
  rw [Bytes.length_zeros] at hlen
  refine ⟨hto.append (by rw [hlen]; decide), ?_,
    .append hd hlen r.data.length_staged (by decide) hsize⟩
  rw [Bytes.fixed_append_left (by rw [hlen]; decide), hf]
  rfl

end AtaRequest

end DriveReach
