import DriveReach.Proofs.Controller.Decoders
import Mathlib.Tactic.Choose
/-!
# Payloads of fixed size

Fourteen decoders read a structure of fixed size. Each of them checks the length once and then reads
by offsets of its own, so it is right only when every offset stays inside that one length. `Decodes`
says so of a decoder. A structure that holds a table is read entry by entry, and an entry that was
cut out of it has an end of its own: `Tabled` says that the entries are whole and that nothing is
read past the end of one.

* `decodes_of_require`: what `ReadsWithin` says of a decoder is all that is needed.
* `PhyTable.holds_of_decode`: the phys are those of the first slots, at most 32.
* `payloads_decoded`: the fourteen decoders, and the three tables.
-/

set_option autoImplicit false

namespace DriveReach.Csmi

variable {α : Type} {layout : Layout} {b : Bytes}

/-! ## Structures -/

/-- The decoder reads a structure and nothing else. -/
structure Decodes (layout : Layout) (decode : Bytes → Except Fault α) : Prop where
  /-- A value is read from every byte string with room for the structure, and from no other. -/
  ok_iff : ∀ b, (∃ v, decode b = .ok v) ↔ layout.size ≤ b.length
  /-- Any other is refused, with the length that is needed and the one that is there. -/
  truncated : ∀ b, b.length < layout.size →
    decode b = .error (.truncated layout layout.size b.length)
  /-- The value is made of the bytes of the structure. -/
  reads : ∃ read : Vector UInt8 layout.size → α, ∀ b, layout.size ≤ b.length →
    decode b = .ok (read (b.fixed layout.size 0))
  /-- What stands behind the structure makes no difference, so nothing behind it is read. -/
  behind : ∀ b beyond, layout.size ≤ b.length → decode (b ++ beyond) = decode b

theorem ReadsWithin.exists_read {n : Nat} {decode : Bytes → Except Fault α}
    (h : ReadsWithin n decode) :
    ∃ read : Vector UInt8 n → α, ∀ b, n ≤ b.length → decode b = .ok (read (b.fixed n 0)) := by
  -- the value for a vector is the one that its bytes alone are decoded to
  choose read hread using h
  refine ⟨fun v => read v.toList (Nat.le_of_eq Vector.length_toList.symm), fun b hb => ?_⟩
  have hwhole := hread (b.fixed n 0).toList (Nat.le_of_eq Vector.length_toList.symm) (b.drop n)
  rwa [Bytes.toList_fixed_append_drop hb] at hwhole

/-- A decoder that checks the length first, and keeps to that length, reads the structure. -/
theorem decodes_of_require {f : Bytes → α}
    (h : ReadsWithin layout.size fun b => do
      layout.require b
      return f b) :
    Decodes layout fun b => do
      layout.require b
      return f b := by
  obtain ⟨read, hread⟩ := h.exists_read
  have hshort (b : Bytes) (hb : b.length < layout.size) :
      (do layout.require b; return f b : Except Fault α) =
        .error (.truncated layout layout.size b.length) := by
    rw [Layout.require_eq_error hb]
    rfl
  refine {
    ok_iff := fun b => ⟨fun ⟨v, hv⟩ => Nat.le_of_not_lt fun hb => ?_, fun hb => ⟨_, hread b hb⟩⟩
    truncated := hshort
    reads := ⟨read, hread⟩
    behind := fun b beyond hb => ?_ }
  · rw [hshort b hb] at hv
    cases hv
  · have hlong : layout.size ≤ (b ++ beyond).length := by
      rw [List.length_append]
      exact Nat.le_add_right_of_le hb
    rw [hread b hb, hread _ hlong, Bytes.fixed_append_left (by rwa [Nat.zero_add])]

/-! ## Tables -/

/-- The entries of a table: pieces of one width, one behind the other from an offset. -/
def entries (b : Bytes) (off width count : Nat) : List Bytes :=
  (List.range count).map fun i => b.slice (off + width * i) width

variable {off width count : Nat}

theorem chunks_drop_eq_entries (h : off + width * count ≤ b.length) :
    Bytes.chunks width count (b.drop off) = entries b off width count := by
  rw [Bytes.chunks_eq_map (by rw [List.length_drop]; omega), entries]
  congr 1
  funext i
  rw [Bytes.slice_drop]

theorem length_of_mem_entries (h : off + width * count ≤ b.length) {e : Bytes}
    (he : e ∈ entries b off width count) : e.length = width := by
  obtain ⟨i, hi, rfl⟩ := List.mem_map.1 he
  have hlast : width * (i + 1) ≤ width * count := Nat.mul_le_mul_left _ (List.mem_range.1 hi)
  rw [Nat.mul_succ] at hlast
  exact Bytes.length_slice (by omega)

/-- What is read from an entry is a matter of its first `n` bytes. -/
def KeepsTo (n : Nat) (read : Bytes → α) : Prop :=
  ∀ e beyond, n ≤ e.length → read (e ++ beyond) = read e

/-- A table inside a structure: its entries are whole, and each is read by itself. -/
structure Tabled (layout : Layout) (off width count : Nat) (read : Bytes → α) : Prop where
  inside : off + width * count ≤ layout.size
  whole : ∀ b, layout.size ≤ b.length → ∀ e ∈ entries b off width count, e.length = width
  keeps : KeepsTo width read

theorem tabled_of_keepsTo {read : Bytes → α} (hin : off + width * count ≤ layout.size)
    (hkeeps : KeepsTo width read) : Tabled layout off width count read where
  inside := hin
  whole := fun _ hb _ he => length_of_mem_entries (Nat.le_trans hin hb) he
  keeps := hkeeps

theorem keepsTo_phy (index : Nat) : KeepsTo Phy.length (Phy.decode index) := by
  intro e beyond h
  rw [Phy.length] at h
  simp (disch := omega) only [Phy.decode, SasIdentify.read, SasAddress.read,
    Bytes.byteAt_append_left, Bytes.fixed_append_left]

theorem keepsTo_connector : KeepsTo Connector.length Connector.decode := by
  intro e beyond h
  rw [Connector.length] at h
  simp (disch := omega) only [Connector.decode, Bytes.byteAt_append_left, Bytes.slice_append_left,
    Bytes.le32_append_left]

/-- The level in an entry of the RAID features. -/
def RaidType.read (e : Bytes) : RaidType := ⟨e.byteAt 0, e.le32 8⟩

theorem keepsTo_raidType : KeepsTo RaidFeatures.typeLength RaidType.read := by
  intro e beyond h
  rw [RaidFeatures.typeLength] at h
  simp (disch := omega) only [RaidType.read, Bytes.byteAt_append_left, Bytes.le32_append_left]

theorem keepsTo_identify : KeepsTo SasIdentify.length (SasIdentify.read · 0) := by
  intro e beyond h
  rw [SasIdentify.length] at h
  simp (disch := omega) only [SasIdentify.read, SasAddress.read, Bytes.byteAt_append_left,
    Bytes.fixed_append_left]

/-- An introduction is read from its own 28 bytes. -/
theorem SasIdentify.read_slice (e : Bytes) (off : Nat) :
    read (e.slice off SasIdentify.length) 0 = read e off := by
  rw [SasIdentify.length]
  simp (disch := omega) only [read, SasAddress.read, Bytes.byteAt_slice, Bytes.fixed_slice,
    Nat.zero_add, Nat.add_zero]

/-- The table holds the phys of a buffer, each from the slot of its place. -/
structure PhyTable.Holds (table : PhyTable) (b : Bytes) : Prop where
  reported : table.reported = b.byteAt 0
  length : table.phys.length = min (b.byteAt 0).toNat 32
  slot : ∀ i < table.phys.length,
    table.phys[i]? = some (Phy.decode i (b.slice (4 + 64 * i) 64))

theorem PhyTable.holds_of_decode {table : PhyTable} (h : decode b = .ok table) :
    table.Holds b := by
  unfold decode at h
  obtain ⟨hlong, rfl⟩ := eq_of_require h
  have hwhole : 4 + Phy.length * min (b.byteAt 0).toNat slots ≤ b.length := by
    rw [Layout.size] at hlong
    rw [Phy.length, slots]
    omega
  have hlength : (entries b 4 Phy.length (min (b.byteAt 0).toNat slots)).length =
      min (b.byteAt 0).toNat slots := by rw [entries, List.length_map, List.length_range]
  rw [chunks_drop_eq_entries hwhole]
  refine {
    reported := rfl
    length := by rw [List.length_mapIdx, hlength, slots]
    slot := fun i hi => ?_ }
  rw [List.length_mapIdx, hlength] at hi
  rw [List.getElem?_mapIdx, entries, List.getElem?_map, List.getElem?_range hi]
  rfl

theorem RaidFeatures.raidTypes_of_decode {features : RaidFeatures} (h : decode b = .ok features) :
    features.raidTypes = ((entries b 60 108 24).takeWhile fun e => e.byteAt 0 ≠ 0xFF).map
      RaidType.read := by
  unfold decode at h
  obtain ⟨hlong, rfl⟩ := eq_of_require h
  have hwhole : typesOffset + typeLength * typeSlots ≤ b.length :=
    Nat.le_trans (by decide) hlong
  dsimp only
  rw [chunks_drop_eq_entries hwhole]
  rfl

theorem Connector.eq_of_decodeTable {connectors : List Connector}
    (h : decodeTable b = .ok connectors) :
    connectors = ((entries b 0 36 32).map decode).filter (·.isUsed) := by
  unfold decodeTable at h
  obtain ⟨hlong, rfl⟩ := eq_of_require h
  have hwhole : 0 + length * slots ≤ b.length := Nat.le_trans (by decide) hlong
  have hentries : Bytes.chunks length slots b = entries b 0 length slots :=
    chunks_drop_eq_entries hwhole
  rw [hentries]
  rfl

/-- **Every payload is read from its own bytes.** Each of the fourteen decoders of a structure of
fixed size reads a value from exactly the byte strings that are long enough, refuses the others with
both lengths, and makes the value of the bytes of the structure, whatever stands behind them. Three
of the structures hold a table, whose entries are inside it and are each read by itself. The phys
are as many as the driver counts, at most 32, and each is read from the slot of its place; the RAID
levels end at the first FFh, and connectors that say nothing are left out. -/
theorem payloads_decoded :
    (Decodes .driverInfo DriverInfo.decode ∧ Decodes .controllerConfig ControllerConfig.decode ∧
      Decodes .controllerStatus ControllerStatus.decode ∧ Decodes .raidInfo RaidInfo.decode ∧
      Decodes .raidFeatures RaidFeatures.decode ∧ Decodes .phyInfo PhyTable.decode ∧
      Decodes .linkErrors LinkErrors.decode ∧ Decodes .sataSignature SataSignature.decode ∧
      Decodes .connectorInfo Connector.decodeTable ∧ Decodes .scsiAddress ScsiAddress.decode ∧
      Decodes .deviceAddress SasLocation.decode ∧
      Decodes .firmwareDownload FirmwareReport.decode ∧
      Decodes .sspStatus SspStatus.decode ∧ Decodes .stpStatus StpStatus.decode) ∧
    ((∀ index, Tabled .phyInfo 4 64 32 (Phy.decode index)) ∧
      Tabled .raidFeatures 60 108 24 RaidType.read ∧
      Tabled .connectorInfo 0 36 32 Connector.decode ∧
      KeepsTo 28 (SasIdentify.read · 0) ∧
      ∀ index e, (Phy.decode index e).identify = .read (e.slice 0 28) 0 ∧
        (Phy.decode index e).attached = .read (e.slice 36 28) 0) ∧
    ∀ b,
      (∀ table, PhyTable.decode b = .ok table → table.Holds b) ∧
      (∀ features, RaidFeatures.decode b = .ok features → features.raidTypes =
        ((entries b 60 108 24).takeWhile fun e => e.byteAt 0 ≠ 0xFF).map RaidType.read) ∧
      ∀ connectors, Connector.decodeTable b = .ok connectors →
        connectors = ((entries b 0 36 32).map Connector.decode).filter (·.isUsed) := by
  refine ⟨?structures, ?tables, fun b => ⟨fun _ h => PhyTable.holds_of_decode h,
    fun _ h => RaidFeatures.raidTypes_of_decode h, fun _ h => Connector.eq_of_decodeTable h⟩⟩
  case structures =>
    exact ⟨decodes_of_require readsWithin_driverInfo,
      decodes_of_require readsWithin_controllerConfig,
      decodes_of_require readsWithin_controllerStatus, decodes_of_require readsWithin_raidInfo,
      decodes_of_require readsWithin_raidFeatures, decodes_of_require readsWithin_phyInfo,
      decodes_of_require readsWithin_linkErrors, decodes_of_require readsWithin_sataSignature,
      decodes_of_require readsWithin_connectorInfo, decodes_of_require readsWithin_scsiAddress,
      decodes_of_require readsWithin_deviceAddress,
      decodes_of_require readsWithin_firmwareDownload, decodes_of_require readsWithin_sspStatus,
      decodes_of_require readsWithin_stpStatus⟩
  case tables =>
    exact ⟨fun index => tabled_of_keepsTo (by decide) (keepsTo_phy index),
      tabled_of_keepsTo (by decide) keepsTo_raidType,
      tabled_of_keepsTo (by decide) keepsTo_connector, keepsTo_identify,
      fun index e => ⟨(SasIdentify.read_slice e 0).symm, (SasIdentify.read_slice e 36).symm⟩⟩

/-- The table of a driver that counts 200 phys and writes behind the table. -/
def crowdedTable : Bytes := Bytes.put (200 :: Bytes.zeros 2051) 2008 [7] ++ [0xAA, 0xAA]

/-- It holds 32 phys, the last of them from the last slot; cut by one byte it holds none. -/
theorem payloads_decoded_crowdedTable :
    (∃ table, PhyTable.decode crowdedTable = .ok table ∧ table.reported = 200 ∧
      table.phys.length = 32 ∧
      table.phys[31]?.map (fun p => (p.index, p.identifier)) = some (31, 7)) ∧
    PhyTable.decode (crowdedTable.take 2051) = .error (.truncated .phyInfo 2052 2051) := by
  have hlength : crowdedTable.length = 2054 := by decide +kernel
  obtain ⟨⟨-, -, -, -, -, hphys, -⟩, -, htables⟩ := payloads_decoded
  obtain ⟨table, htable⟩ := (hphys.ok_iff crowdedTable).2 (by rw [hlength]; decide)
  have hholds := (htables crowdedTable).1 table htable
  have hcount : table.phys.length = 32 := hholds.length.trans (by decide +kernel)
  refine ⟨⟨table, htable, hholds.reported.trans (by decide +kernel), hcount, ?_⟩, ?_⟩
  · rw [hholds.slot 31 (by rw [hcount]; decide)]
    decide +kernel
  · have hcut : (crowdedTable.take 2051).length = 2051 := by rw [List.length_take, hlength]; rfl
    rw [hphys.truncated _ (by rw [hcut]; decide), hcut]
    rfl

end DriveReach.Csmi
