import DriveReach.Proofs.Controller.Queries
import DriveReach.Script
/-!
# The drives of a RAID set

A set lists as many drives as the driver counts, as there is room for, and as came back whole: the
least of the three.

* `Csmi.RaidConfig.drives_of_decode`: which bytes the drives of a set are read from.
* `Csmi.RaidConfig.decode_congr`: bytes behind the reported length make no difference.
* `Controller.drives_of_raidConfig`: what this comes to when a driver is asked for a set.
-/

set_option autoImplicit false

namespace DriveReach

open Csmi Dialogue

namespace Csmi.RaidConfig

variable {b b' : Bytes} {returned capacity : Nat} {config : RaidConfig}

theorem driveCount_eq (b : Bytes) (returned capacity : Nat) : driveCount b returned capacity =
    min (min (b.byteAt 15).toNat capacity) ((min returned b.length - 36) / 136) := by
  rw [driveCount, RaidDrive.length, Layout.size]
  omega

/-- All drives that are read stand within the bytes that came back. -/
theorem driveCount_le (b : Bytes) (returned capacity : Nat) :
    136 * driveCount b returned capacity ≤ min returned b.length - 36 := by
  rw [driveCount_eq]
  omega

/-- A set is decoded from every buffer that holds the part before the drives. -/
theorem exists_decode (h : 36 ≤ b.length) (returned capacity : Nat) :
    ∃ config, decode b returned capacity = .ok config := by
  have hroom : Layout.raidConfig.require b = .ok () := Layout.require_eq_ok h
  rw [decode, hroom]
  exact ⟨_, rfl⟩

theorem decode_eq_error (h : b.length < 36) (returned capacity : Nat) :
    decode b returned capacity = .error (.truncated .raidConfig 36 b.length) := by
  have hroom : Layout.raidConfig.require b = .error (.truncated .raidConfig 36 b.length) :=
    Layout.require_eq_error h
  rw [decode, hroom]
  rfl

/-- The drives of a set are read one behind the other. -/
theorem drives_of_decode (h : decode b returned capacity = .ok config) :
    config.drives = (List.range (driveCount b returned capacity)).map fun i =>
      RaidDrive.decode (b.slice (36 + 136 * i) 136) := by
  unfold decode at h
  obtain ⟨-, rfl⟩ := eq_of_require h
  have hcount := driveCount_le b returned capacity
  have hwhole : RaidDrive.length * driveCount b returned capacity ≤
      (b.drop Layout.raidConfig.size).length := by
    rw [List.length_drop, RaidDrive.length, Layout.size]
    omega
  dsimp only
  rw [Bytes.chunks_eq_map hwhole, List.map_map]
  congr 1
  funext i
  rw [Function.comp, Bytes.slice_drop]
  rfl

/-- Bytes behind the reported length make no difference. -/
theorem decode_congr (hb : max 36 returned ≤ b.length) (hfixed : b.take 36 = b'.take 36)
    (hreported : b.take returned = b'.take returned) :
    decode b returned capacity = decode b' returned capacity := by
  have hfront : b.take (max 36 returned) = b'.take (max 36 returned) := by
    rcases Nat.le_total 36 returned with h | h
    · rwa [Nat.max_eq_right h]
    · rwa [Nat.max_eq_left h]
  have hlength : max 36 returned ≤ (b.take (max 36 returned)).length := by
    rw [List.length_take]
    omega
  obtain ⟨v, hv⟩ := readsWithin_raidConfig (Nat.le_max_left 36 returned)
    (Nat.le_max_right 36 returned) (b.take (max 36 returned)) hlength
  have hread (c : Bytes) (hc : b.take (max 36 returned) = c.take (max 36 returned)) :
      decode c returned capacity = .ok v := by
    have hwhole := hv (c.drop (max 36 returned))
    rwa [hc, List.take_append_drop] at hwhole
  rw [hread b rfl, hread b' hfront]

end Csmi.RaidConfig

namespace Controller

/-- A question for a RAID set is one exchange, whose reply is decoded with the room there was. -/
theorem exists_exchange_raidConfig {σ : Type} (w : Surroundings σ) (s : σ) (c : Controller)
    (index : UInt32) (maxDrives : Nat) :
    ∃ x, (c.raidConfig index maxDrives).run.exchanges w s = [x] ∧ 36 ≤ x.payload.length ∧
      (c.raidConfig index maxDrives).result w s = x.checked.bind fun reply =>
        RaidConfig.decode reply.payload reply.returned (min maxDrives 255) := by
  obtain ⟨x, hx, hsent, hresult⟩ :=
    course_raidConfig_decode (course_run w (c.raidConfig index maxDrives).run s)
  exact ⟨x, hx, hsent.length_raidConfig ▸ Nat.le_add_right .., hresult⟩

/-- A reply that the driver gave as a success brings a set. -/
theorem result_raidConfig {σ : Type} {w : Surroundings σ} {s : σ} {c : Controller}
    {index : UInt32} {maxDrives : Nat} {x : Exchange} {reply : Reply}
    (hx : (c.raidConfig index maxDrives).run.exchanges w s = [x]) (hreply : x.checked = .ok reply) :
    max 36 reply.returned ≤ reply.payload.length ∧
      (c.raidConfig index maxDrives).result w s =
        RaidConfig.decode reply.payload reply.returned (min maxDrives 255) := by
  obtain ⟨y, hy, hroom, hresult⟩ := exists_exchange_raidConfig w s c index maxDrives
  obtain rfl : y = x := List.singleton_inj.1 (hy.symm.trans hx)
  have hanswer := Exchange.reply_of_checked hreply
  have hlength := Exchange.length_payload_of_reply hanswer
  have hreturned := Exchange.returned_le hanswer
  refine ⟨by omega, ?_⟩
  rw [hresult, hreply]
  rfl

/-- **A set lists the drives that came back, and no more than were asked for.** Decoding fails only
for want of the part before the drives. It reads as many drives as the driver counts, as there is
room for, and as stand whole in what came back, and each from its own bytes. So no answer brings
more drives than were asked for, or than 255; and answers that agree on the part before the drives
and on all bytes within the length they report bring the same set. -/
theorem drives_of_raidConfig :
    (∀ (b : Bytes) (returned capacity : Nat),
      (b.length < 36 → RaidConfig.decode b returned capacity =
        .error (.truncated .raidConfig 36 b.length)) ∧
      (36 ≤ b.length → ∃ config, RaidConfig.decode b returned capacity = .ok config ∧
        config.drives.length =
          min (min (b.byteAt 15).toNat capacity) ((min returned b.length - 36) / 136) ∧
        ∀ i < config.drives.length, 36 + 136 * (i + 1) ≤ min returned b.length ∧
          config.drives[i]? = some (RaidDrive.decode (b.slice (36 + 136 * i) 136)))) ∧
    (∀ {σ : Type} (w : Surroundings σ) (s : σ) (c : Controller) (index : UInt32) (maxDrives : Nat)
      (config : RaidConfig), (c.raidConfig index maxDrives).result w s = .ok config →
      config.drives.length ≤ min maxDrives 255) ∧
    ∀ {σ τ : Type} (w : Surroundings σ) (s : σ) (v : Surroundings τ) (t : τ) (c d : Controller)
      (index other : UInt32) (maxDrives : Nat) (x y : Exchange) (p q : Reply),
      (c.raidConfig index maxDrives).run.exchanges w s = [x] →
      (d.raidConfig other maxDrives).run.exchanges v t = [y] →
      x.checked = .ok p → y.checked = .ok q → p.returned = q.returned →
      p.payload.take 36 = q.payload.take 36 →
      p.payload.take p.returned = q.payload.take p.returned →
      ∃ config, (c.raidConfig index maxDrives).result w s = .ok config ∧
        (d.raidConfig other maxDrives).result v t = .ok config := by
  refine ⟨fun b returned capacity => ⟨fun h => ?short, fun h => ?whole⟩,
    fun w s c index maxDrives config h => ?bounded,
    fun w s v t c d index other maxDrives x y p q hx hy hp hq hreturned hfixed hreported => ?same⟩
  case short => exact RaidConfig.decode_eq_error h returned capacity
  case whole =>
    obtain ⟨config, hconfig⟩ := RaidConfig.exists_decode h returned capacity
    have hdrives := RaidConfig.drives_of_decode hconfig
    have hlength : config.drives.length = RaidConfig.driveCount b returned capacity := by
      rw [hdrives, List.length_map, List.length_range]
    refine ⟨config, hconfig, hlength.trans (RaidConfig.driveCount_eq b returned capacity),
      fun i hi => ⟨?_, ?_⟩⟩
    · have hwhole := RaidConfig.driveCount_le b returned capacity
      omega
    · rw [hdrives, List.getElem?_map, List.getElem?_range (hlength ▸ hi)]
      rfl
  case bounded =>
    obtain ⟨x, -, -, hresult⟩ := exists_exchange_raidConfig w s c index maxDrives
    rw [hresult] at h
    cases hreply : x.checked with
    | error fault =>
      rw [hreply] at h
      cases h
    | ok reply =>
      rw [hreply] at h
      rw [RaidConfig.drives_of_decode h, List.length_map, List.length_range,
        RaidConfig.driveCount_eq]
      omega
  case same =>
    obtain ⟨hroom, hresult⟩ := result_raidConfig hx hp
    obtain ⟨-, hresult'⟩ := result_raidConfig hy hq
    obtain ⟨config, hconfig⟩ := RaidConfig.exists_decode (Nat.le_trans (Nat.le_max_left ..) hroom)
      p.returned (min maxDrives 255)
    refine ⟨config, hresult.trans hconfig, ?_⟩
    rw [hresult', ← hreturned, ← RaidConfig.decode_congr hroom hfixed hreported, hconfig]

/-- A driver that counts 200 drives, reports the length of one and a part, and writes on behind. -/
def countingDriver (behind : UInt8) : Script.Rack :=
  [(0, [{ code := ControlCode.raidConfig.code, conditions := [], uses := none, refusal := none
          returnCode := .success, payloadLength := some 182
          patches := [(0, [7]), (15, [200]), (160, [3]), (181, [9]), (182, [behind])] }])]

/-- What the driver wrote within the length it reports. -/
def countedFront : Bytes :=
  Bytes.put (Bytes.put (Bytes.put (Bytes.put (Bytes.zeros 182) 0 [7]) 15 [200]) 160 [3]) 181 [9]

/-- Four drives are asked for, and one is listed, whatever stands behind the reported length. A
buffer of 35 bytes holds no set. -/
theorem drives_of_raidConfig_countingDriver :
    let ask := (⟨⟨0⟩, 0, .off⟩ : Controller).raidConfig 7 4
    (∃ x y p q config, ask.run.exchanges Script.Rack.surroundings (countingDriver 0xAA) = [x] ∧
      ask.run.exchanges Script.Rack.surroundings (countingDriver 0xBB) = [y] ∧
      x.checked = .ok p ∧ y.checked = .ok q ∧ p.returned = 182 ∧ p.returned = q.returned ∧
      p.payload.take 36 = q.payload.take 36 ∧
      p.payload.take p.returned = q.payload.take p.returned ∧ p.payload ≠ q.payload ∧
      ask.result Script.Rack.surroundings (countingDriver 0xAA) = .ok config ∧
      ask.result Script.Rack.surroundings (countingDriver 0xBB) = .ok config ∧
      config.drives.length = 1 ∧ config.drives.length ≤ min 4 255) ∧
    (Bytes.zeros 35).length < 36 ∧
    RaidConfig.decode (Bytes.zeros 35) 35 4 = .error (.truncated .raidConfig 36 35) := by
  intro ask
  refine ⟨?_, by decide, (drives_of_raidConfig.1 (Bytes.zeros 35) 35 4).1 (by decide)⟩
  have seen (behind : UInt8) (h : behind = 0xAA ∨ behind = 0xBB) :
      (ask.run.exchanges Script.Rack.surroundings (countingDriver behind)).map (fun x =>
        x.checked.toOption.map fun p =>
          (p.returned, p.payload.take 36, p.payload.take 182, p.payload.byteAt 182)) =
      [some (182, countedFront.take 36, countedFront, behind)] := by
    rcases h with rfl | rfl <;> decide +kernel
  obtain ⟨x, p, hx, hp, hreply⟩ := Except.exists_of_map_toOption (seen 0xAA (.inl rfl))
  obtain ⟨y, q, hy, hq, hreply'⟩ := Except.exists_of_map_toOption (seen 0xBB (.inr rfl))
  simp only [Prod.mk.injEq] at hreply hreply'
  obtain ⟨hreturned, hfixed, hreported, hbehind⟩ := hreply
  obtain ⟨hreturned', hfixed', hreported', hbehind'⟩ := hreply'
  have hsame : p.returned = q.returned := hreturned.trans hreturned'.symm
  have hfront : p.payload.take 36 = q.payload.take 36 := hfixed.trans hfixed'.symm
  have hwithin : p.payload.take p.returned = q.payload.take p.returned := by
    rw [hreturned, hreported, hreported']
  have hdiffer : p.payload ≠ q.payload := by
    intro h
    rw [h, hbehind'] at hbehind
    exact absurd hbehind (by decide)
  obtain ⟨config, hconfig, hconfig'⟩ := drives_of_raidConfig.2.2 _ _ _ _ _ _ _ _ _ _ _ _ _ hx hy
    hp hq hsame hfront hwithin
  have hlength : (ask.result Script.Rack.surroundings (countingDriver 0xAA)).toOption.map
      (·.drives.length) = some 1 := by decide +kernel
  rw [hconfig] at hlength
  exact ⟨x, y, p, q, config, hx, hy, hp, hq, hreturned, hsame, hfront, hwithin, hdiffer, hconfig,
    hconfig', Option.some.inj hlength, drives_of_raidConfig.2.1 _ _ _ _ _ _ hconfig⟩

end Controller

end DriveReach
