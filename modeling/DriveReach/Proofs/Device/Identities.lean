import DriveReach.Inventory.Survey
import DriveReach.Proofs.Ata.IdentifyText
import DriveReach.Proofs.Inventory.Drives
import DriveReach.Scsi.Inquiry
/-!
# Identities read in three ways

The model and serial number of a drive come from a RAID set, from IDENTIFY data or from a Unit
Serial Number page, and each pads and reads them in its own way: a field that ends at its first NUL,
words with the first character in the high byte and unprintable characters left out, a field with
spaces and NULs around it.

* `Text.field_of_holds`, `Text.fieldText_of_holds`: of a field that holds a text, with spaces in
  front and spaces and NULs behind (`Text.Holds`), each way of reading gives the text without the
  blanks around it, as `Ata.IdentifyBlock.text_of_holds` does for words.
* `identities_agree`: so the identity of a listed drive is the one that the drive itself reports.
-/

set_option autoImplicit false

namespace DriveReach

open Ata Csmi

/-! ## Fields -/

namespace Text

variable {field : Bytes} {s : String}

/-- The codes of printable characters are ASCII, and none is NUL. -/
theorem codes_bounds (hs : Printable s) : ∀ x ∈ codes s, x < 0x80 ∧ x ≠ 0 := by
  intro x hx
  obtain ⟨c, hc, rfl⟩ := List.mem_map.1 hx
  obtain ⟨hlow, hhigh⟩ := toNat_of_isShown (hs c hc)
  have hcode := toNat_code (hs c hc)
  constructor
  · rw [UInt8.lt_iff_toNat_lt, hcode]
    exact Nat.lt_of_le_of_lt hhigh (by decide)
  · intro hzero
    rw [hzero] at hcode
    change 0 = c.toNat at hcode
    omega

theorem ascii_of_holds (hs : Printable s) {n : Nat} {tail : Bytes}
    (htail : ∀ x ∈ tail, x = 0x20 ∨ x = 0) :
    ∀ x ∈ List.replicate n 0x20 ++ codes s ++ tail, x < 0x80 := by
  intro x hx
  rw [List.mem_append, List.mem_append] at hx
  rcases hx with (hx | hx) | hx
  · rw [List.eq_of_mem_replicate hx]
    decide
  · exact (codes_bounds hs x hx).1
  · rcases htail x hx with rfl | rfl <;> decide

/-- A field that is read up to its first NUL. -/
theorem field_of_holds (hs : Printable s) (h : Holds field s) : Text.field field = trim s := by
  obtain ⟨n, tail, rfl, htail⟩ := h
  have hfront : ∀ x ∈ List.replicate n 0x20 ++ codes s, decide (x ≠ 0) = true := by
    intro x hx
    rw [decide_eq_true_iff]
    rcases List.mem_append.1 hx with hx | hx
    · rw [List.eq_of_mem_replicate hx]
      decide
    · exact (codes_bounds hs x hx).2
  have hspaces : ∀ x ∈ tail.takeWhile (· ≠ 0), x = 0x20 := by
    intro x hx
    have hne := List.mem_takeWhile_imp hx
    exact (htail x (List.takeWhile_subset _ hx)).resolve_right (of_decide_eq_true hne)
  rw [Text.field, List.takeWhile_append_of_pos hfront,
    decode_of_ascii (ascii_of_holds hs fun x hx => .inl (hspaces x hx)), map_holds hs,
    trimBy_append, trim]
  · intro c hc
    rw [List.eq_of_mem_replicate hc]
    rfl
  · intro c hc
    obtain ⟨x, hx, rfl⟩ := List.mem_map.1 hc
    rw [hspaces x hx]
    rfl

/-- A field that is read without the spaces and NULs around it. -/
theorem fieldText_of_holds (hs : Printable s) (h : Holds field s) :
    Scsi.fieldText field = trim s := by
  obtain ⟨n, tail, rfl, htail⟩ := h
  rw [Scsi.fieldText, decode_of_ascii (ascii_of_holds hs htail), map_holds hs, trimBy_append, trim]
  · refine congrArg _ (trimBy_congr fun c hc => ?_)
    have hne : c ≠ '\x00' := by
      rintro rfl
      exact absurd (hs _ hc) (by decide)
    rw [isBlank_of_isShown (hs c hc), beq_eq_false_iff_ne.2 hne, Bool.or_false]
  · intro c hc
    rw [List.eq_of_mem_replicate hc]
    rfl
  · intro c hc
    obtain ⟨x, hx, rfl⟩ := List.mem_map.1 hc
    rcases htail x hx with rfl | rfl <;> rfl

end Text

/-! ## One drive -/

/-- A RAID entry, IDENTIFY data and a Unit Serial Number page hold one model and serial number, each
with a padding of its own. The widths of the fields bound both texts. -/
structure Described (entry : Bytes) (block : IdentifyBlock) (page : Bytes) (model serial : String) :
    Prop where
  listedModel : Text.Holds (entry.slice 0 40) model
  listedSerial : Text.Holds (entry.slice 48 40) serial
  reportedModel : Text.Holds (block.readingOrder 27 20) model
  reportedSerial : Text.Holds (block.readingOrder 10 10) serial
  pageLength : 4 ≤ page.length
  pageCode : page.byteAt 1 = Scsi.VpdPage.unitSerialNumber
  pageSerial : Text.Holds (page.slice 4 (page.be16 2).toNat) serial

variable {entry page : Bytes} {block : IdentifyBlock} {model serial : String}

theorem Described.listed (h : Described entry block page model serial)
    (hmodel : Text.Printable model) (hserial : Text.Printable serial) :
    (RaidDrive.decode entry).model = Text.trim model ∧
      (RaidDrive.decode entry).serialNumber = Text.trim serial :=
  ⟨Text.field_of_holds hmodel h.listedModel, Text.field_of_holds hserial h.listedSerial⟩

theorem Described.identified (h : Described entry block page model serial)
    (hmodel : Text.Printable model) (hserial : Text.Printable serial) :
    block.modelNumber = Text.trim model ∧ block.serialNumber = Text.trim serial :=
  ⟨IdentifyBlock.text_of_holds hmodel (by decide) h.reportedModel,
    IdentifyBlock.text_of_holds hserial (by decide) h.reportedSerial⟩

theorem Described.paged (h : Described entry block page model serial)
    (hserial : Text.Printable serial) : Scsi.parseUnitSerial page = .ok (Text.trim serial) := by
  have hpage : ¬ (page.length < 4 ∨ page.byteAt 1 ≠ Scsi.VpdPage.unitSerialNumber) := by
    rw [not_or, not_not]
    exact ⟨Nat.not_lt.2 h.pageLength, h.pageCode⟩
  rw [Scsi.parseUnitSerial, if_neg hpage, Text.fieldText_of_holds hserial h.pageSerial]

theorem Text.trim_ne_empty {s : String} (hs : Printable s) (h : ∃ c ∈ s.toList, c ≠ ' ') :
    trim s ≠ "" := by
  intro hempty
  obtain ⟨c, hc, hne⟩ := h
  have hblank := trimBy_eq_nil_iff.1 (String.ofList_eq_empty_iff.1 hempty) c hc
  rw [isBlank_of_isShown (hs c hc), beq_iff_eq] at hblank
  exact hne hblank

/-- A trimmed identity is answered by its serial number with its model, and by no other serial
number. -/
theorem Identity.accepts_iff {expected : Identity} {model serial : String} :
    expected.accepts model serial = true ↔ Text.trim expected.serial ≠ "" ∧
      Text.trim expected.serial = Text.trim serial ∧
      (Text.trim expected.model = "" ∨ Text.trim expected.model = Text.trim model) := by
  simp [accepts, and_assoc]

/-- **The identity of a listed drive is the one that the drive reports**, however each of its texts
is padded. It is answered by the drive's IDENTIFY data, and by its Unit Serial Number page with any
report of the same model, but by no drive whose serial number is another. -/
theorem identities_agree (h : Described entry block page model serial)
    (hmodel : Text.Printable model) (hserial : Text.Printable serial)
    (hblank : ∃ c ∈ serial.toList, c ≠ ' ') :
    let drive := RaidDrive.decode entry
    drive.model = Text.trim model ∧ block.modelNumber = drive.model ∧
      drive.serialNumber = Text.trim serial ∧ block.serialNumber = drive.serialNumber ∧
      Scsi.parseUnitSerial page = .ok drive.serialNumber ∧
      ∃ identity : Identity, Inventory.driveIdentity drive = some identity ∧
        identity = ⟨drive.model, drive.serialNumber⟩ ∧
        identity.accepts block.modelNumber block.serialNumber = true ∧
        (∀ other number, Scsi.parseUnitSerial page = .ok number →
          Text.trim model = "" ∨ Text.trim model = Text.trim other →
          identity.accepts other number = true) ∧
        ∀ other number, Text.trim number ≠ Text.trim serial →
          identity.accepts other number = false := by
  intro drive
  obtain ⟨hm, hs⟩ := h.listed hmodel hserial
  obtain ⟨hbm, hbs⟩ := h.identified hmodel hserial
  have hp := h.paged hserial
  have hne := Text.trim_ne_empty hserial hblank
  have haccepts (other number : String) :
      (⟨drive.model, drive.serialNumber⟩ : Identity).accepts other number = true ↔
        Text.trim serial = Text.trim number ∧
          (Text.trim model = "" ∨ Text.trim model = Text.trim other) := by
    rw [Identity.accepts_iff]
    dsimp only
    rw [hm, hs, Text.trim_trim, Text.trim_trim]
    exact and_iff_right hne
  refine ⟨hm, hbm.trans hm.symm, hs, hbs.trans hs.symm, hp.trans (congrArg _ hs.symm), _, ?_, rfl,
    ?_, ?_, ?_⟩
  · have hempty : (Text.trim drive.serialNumber).isEmpty = false := by
      rw [hs, Text.trim_trim]
      exact Bool.eq_false_iff.2 fun h => hne (String.isEmpty_iff.1 h)
    rw [Inventory.driveIdentity, hempty, hm, hs, Text.trim_trim, Text.trim_trim]
    rfl
  · rw [haccepts, hbm, hbs, Text.trim_trim, Text.trim_trim]
    exact ⟨rfl, .inr rfl⟩
  · intro other number hnumber hother
    obtain rfl := Except.ok.inj (hp.symm.trans hnumber)
    rw [haccepts, Text.trim_trim]
    exact ⟨rfl, hother⟩
  · intro other number hother
    rw [Bool.eq_false_iff]
    exact fun hyes => hother ((haccepts other number).1 hyes).1.symm

/-- A drive with spaces on either side of its serial number, and with spaces behind a NUL. -/
def paddedEntry : Bytes :=
  Bytes.put ((Bytes.zeros RaidDrive.length).put 0 (Text.codes "MODEL A" ++ List.replicate 33 0x20))
    48 (0x20 :: Text.codes "SN 42" ++ [0x20, 0, 0x20])

def paddedBlock : IdentifyBlock :=
  ⟨Bytes.fixed 512 (Bytes.put ((Bytes.zeros IdentifyBlock.length).put 20
    (IdentifyBlock.swapPairs (List.replicate 15 0x20 ++ Text.codes "SN 42"))) 54
    (IdentifyBlock.swapPairs (Text.codes "MODEL A" ++ [0]))) 0⟩

def paddedPage : Bytes := [0, 0x80, 0, 8] ++ Text.codes "SN 42" ++ [0x20, 0x20, 0]

theorem described_padded : Described paddedEntry paddedBlock paddedPage "MODEL A" "SN 42" where
  listedModel := ⟨0, List.replicate 33 0x20, by decide +kernel, by simp⟩
  listedSerial := ⟨1, [0x20, 0, 0x20] ++ Bytes.zeros 31, by decide +kernel, by simp [Bytes.zeros]⟩
  reportedModel := ⟨0, Bytes.zeros 33, by decide +kernel, by simp [Bytes.zeros]⟩
  reportedSerial := ⟨15, [], by decide +kernel, by simp⟩
  pageLength := by decide +kernel
  pageCode := by decide +kernel
  pageSerial := ⟨0, [0x20, 0x20, 0], by decide +kernel, by simp⟩

/-- The drive is listed, and answers to its entry's identity by IDENTIFY data. Another drive does
not. -/
theorem identities_agree_padded :
    Described paddedEntry paddedBlock paddedPage "MODEL A" "SN 42" ∧ Text.Printable "MODEL A" ∧
    Text.Printable "SN 42" ∧ (∃ c ∈ "SN 42".toList, c ≠ ' ') ∧
    paddedBlock.serialNumber = (RaidDrive.decode paddedEntry).serialNumber ∧
    ∃ identity : Identity,
      Inventory.driveIdentity (RaidDrive.decode paddedEntry) = some identity ∧
      identity.accepts paddedBlock.modelNumber paddedBlock.serialNumber = true ∧
      identity.accepts "MODEL A" "SN 43" = false := by
  have hmodel : Text.Printable "MODEL A" := by decide +kernel
  have hserial : Text.Printable "SN 42" := by decide +kernel
  have hblank : ∃ c ∈ "SN 42".toList, c ≠ ' ' := ⟨'S', by decide +kernel, by decide⟩
  obtain ⟨-, -, -, hnumber, -, identity, hlisted, -, hlive, -, hother⟩ :=
    identities_agree described_padded hmodel hserial hblank
  exact ⟨described_padded, hmodel, hserial, hblank, hnumber, identity, hlisted, hlive,
    hother _ _ (by decide +kernel)⟩

end DriveReach
