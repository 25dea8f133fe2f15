import DriveReach.Ata.IdentifyBlock
import DriveReach.Proofs.Bytes
import DriveReach.Proofs.Text
/-!
# Texts of IDENTIFY data

A text stands in a range of words, filled up with spaces, and in each word the first character has
the high byte. Only printable characters are shown, without the blanks around the text.

* `IdentifyBlock.text_of_holds`: what is read from a range that holds a text.
* `IdentifyBlock.readingOrder_putText`, `IdentifyBlock.byteAt_putText`: what writing a text brings
  into its range, and that it stays within.
* `IdentifyBlock.Labelled`, `IdentifyBlock.labelled_label`: what the identity of a device reads as
  when parts of it are written, in any order.
* `IdentifyBlock.texts_read_back`: both, of the writer that is given a buffer.
-/

set_option autoImplicit false

namespace DriveReach

open Ata

/-! ## Printable texts -/

/-- Every character is printable ASCII. -/
def Text.Printable (s : String) : Prop := ∀ c ∈ s.toList, IdentifyBlock.isShown c = true

instance (s : String) : Decidable (Text.Printable s) :=
  List.decidableBAll (fun c => IdentifyBlock.isShown c = true) s.toList

/-- The codes of the characters of a text. -/
def Text.codes (s : String) : Bytes := s.toList.map fun c => UInt8.ofNat c.toNat

/-- The field holds a text with spaces in front of it, and spaces and NULs behind. -/
def Text.Holds (field : Bytes) (s : String) : Prop :=
  ∃ front tail, field = List.replicate front 0x20 ++ codes s ++ tail ∧
    ∀ x ∈ tail, x = 0x20 ∨ x = 0

namespace Text

variable {field : Bytes} {s : String}

theorem toNat_of_isShown {c : Char} (h : IdentifyBlock.isShown c = true) :
    0x20 ≤ c.toNat ∧ c.toNat ≤ 0x7E := by
  rw [IdentifyBlock.isShown, Bool.and_eq_true, decide_eq_true_iff, decide_eq_true_iff] at h
  exact h

/-- The only printable blank is the space. -/
theorem isBlank_of_isShown {c : Char} (h : IdentifyBlock.isShown c = true) :
    isBlank c = (c == ' ') := by
  obtain ⟨hlow, hhigh⟩ := toNat_of_isShown h
  have hspace : (c == ' ') = (c.toNat == 0x20) := by
    rw [Bool.eq_iff_iff, beq_iff_eq, beq_iff_eq]
    exact Char.toNat_inj.symm
  rw [hspace, Bool.eq_iff_iff]
  simp only [isBlank, Bool.or_eq_true, Bool.and_eq_true, decide_eq_true_iff, beq_iff_eq]
  omega

theorem toNat_code {c : Char} (h : IdentifyBlock.isShown c = true) :
    (UInt8.ofNat c.toNat).toNat = c.toNat := by
  obtain ⟨-, hhigh⟩ := toNat_of_isShown h
  rw [UInt8.toNat_ofNat']
  exact Nat.mod_eq_of_lt (by omega)

theorem map_codes (hs : Printable s) : (codes s).map charOf = s.toList := by
  rw [codes, List.map_map]
  refine (List.map_congr_left fun c hc => ?_).trans (List.map_id _)
  change Char.ofNat (UInt8.ofNat c.toNat).toNat = c
  rw [toNat_code (hs c hc), Char.ofNat_toNat]

/-- The characters of a field that holds a text. -/
theorem map_holds (hs : Printable s) {n : Nat} {tail : Bytes} :
    (List.replicate n 0x20 ++ codes s ++ tail).map charOf =
      List.replicate n ' ' ++ s.toList ++ tail.map charOf := by
  rw [List.map_append, List.map_append, List.map_replicate, map_codes hs]
  rfl

/-- The printable characters of a field, without the blanks around them. -/
theorem shown_of_holds (hs : Printable s) (h : Holds field s) :
    String.ofList (trimBy isBlank ((field.map charOf).filter IdentifyBlock.isShown)) = trim s := by
  obtain ⟨n, tail, rfl, htail⟩ := h
  rw [map_holds hs, List.filter_append, List.filter_append, List.filter_eq_self.2 hs,
    trimBy_append, trim]
  · intro c hc
    rw [List.eq_of_mem_replicate (List.mem_of_mem_filter hc)]
    rfl
  · intro c hc
    obtain ⟨hc, hshown⟩ := List.mem_filter.1 hc
    obtain ⟨x, hx, rfl⟩ := List.mem_map.1 hc
    rcases htail x hx with rfl | rfl
    · rfl
    · cases hshown

/-- A printable text is one byte a character. -/
theorem toUTF8_eq_codes (hs : Printable s) : s.toUTF8.data.toList = codes s := by
  have hutf8 : s.toUTF8 = s.toList.utf8Encode := String.utf8Encode_toList.symm
  rw [hutf8, List.utf8Encode, List.data_toByteArray, List.toList_toArray, codes,
    List.map_eq_flatMap]
  refine List.flatMap_congr fun c hc => ?_
  obtain ⟨-, hhigh⟩ := toNat_of_isShown (hs c hc)
  exact if_pos (Nat.le_trans hhigh (by decide))

/-- `t` is `s` without the spaces around it. -/
structure Stripped (s t : String) : Prop where
  around : ∃ m n, s.toList = List.replicate m ' ' ++ t.toList ++ List.replicate n ' '
  head : t.toList.head? ≠ some ' '
  last : t.toList.getLast? ≠ some ' '

theorem stripped_trim (hs : Printable s) : Stripped s (trim s) := by
  have hspaces {l : List Char} (hmem : ∀ c ∈ l, c ∈ s.toList) (hl : ∀ c ∈ l, isBlank c = true) :
      l = List.replicate l.length ' ' := by
    refine List.eq_replicate_iff.2 ⟨rfl, fun c hc => ?_⟩
    have hblank := hl c hc
    rwa [isBlank_of_isShown (hs c (hmem c hc)), beq_iff_eq] at hblank
  have hnot : isBlank ' ' ≠ false := by decide
  obtain ⟨front, tail, hall, hfront, htail⟩ := exists_trimBy isBlank s.toList
  refine ⟨⟨front.length, tail.length, ?_⟩, ?_, ?_⟩
  · rw [trim, String.toList_ofList, ← hspaces ?_ hfront, ← hspaces ?_ htail]
    · exact hall
    · intro c hc
      rw [hall]
      exact List.mem_append_right _ hc
    · intro c hc
      rw [hall]
      exact List.mem_append_left _ (List.mem_append_left _ hc)
  · rw [trim, String.toList_ofList]
    exact fun h => hnot (trimBy_ends (.inl h))
  · rw [trim, String.toList_ofList]
    exact fun h => hnot (trimBy_ends (.inr h))

end Text

/-! ## Reading -/

namespace Ata.IdentifyBlock

variable {d : IdentifyBlock}

/-- The bytes of a range of words in reading order: the high byte of each word first. -/
def readingOrder (d : IdentifyBlock) (first words : Nat) : Bytes :=
  swapPairs (Bytes.slice d.bytes.toList (2 * first) (2 * words))

theorem characters_eq {first words : Nat} (h : first + words ≤ 256) :
    d.characters first words = ((d.readingOrder first words).map Text.charOf).filter isShown := by
  induction words generalizing first with
  | zero =>
    rw [readingOrder, Nat.mul_zero, Bytes.slice, List.take_zero]
    rfl
  | succ words ih =>
    have hlen : d.bytes.toList.length = 512 := d.bytes.length_toList
    have hpair : d.readingOrder first (words + 1) =
        Bytes.byteAt d.bytes.toList (2 * first + 1) :: Bytes.byteAt d.bytes.toList (2 * first) ::
          d.readingOrder (first + 1) words := by
      rw [readingOrder, Nat.mul_succ, Bytes.slice_succ (by omega), Bytes.slice_succ (by omega)]
      rfl
    have hlow := (Bytes.byteAt d.bytes.toList (2 * first)).toNat_lt
    have hword : (d.word first).toNat = (Bytes.byteAt d.bytes.toList (2 * first)).toNat +
        256 * (Bytes.byteAt d.bytes.toList (2 * first + 1)).toNat := Bytes.toNat_le16
    have hhigh : (d.word first).toNat / 256 =
        (Bytes.byteAt d.bytes.toList (2 * first + 1)).toNat := by omega
    have hrest : (d.word first).toNat % 256 =
        (Bytes.byteAt d.bytes.toList (2 * first)).toNat := by omega
    rw [characters, hpair, ih (by omega)]
    rw [hhigh, hrest, List.map_cons, List.map_cons]
    exact (List.filter_append (p := isShown) _ _).symm

theorem text_of_holds {s : String} (hs : Text.Printable s) {first words : Nat}
    (hrange : first + words ≤ 256) (h : Text.Holds (d.readingOrder first words) s) :
    d.text first words = Text.trim s := by
  rw [text, characters_eq hrange]
  exact Text.shown_of_holds hs h

/-! ### Readers and bytes -/

/-- Two blocks have the same bytes from one offset to another. -/
def Agrees (d e : IdentifyBlock) (low high : Nat) : Prop :=
  ∀ i, low ≤ i → i < high → Bytes.byteAt d.bytes.toList i = Bytes.byteAt e.bytes.toList i

section
variable {e : IdentifyBlock}

theorem Agrees.word {k : Nat} (h : d.Agrees e (2 * k) (2 * k + 2)) : d.word k = e.word k := by
  rw [IdentifyBlock.word, IdentifyBlock.word, Bytes.le16, Bytes.le16,
    Bytes.fixed_congr fun i hlow hhigh => h i hlow hhigh]

theorem Agrees.characters {first words : Nat}
    (h : d.Agrees e (2 * first) (2 * (first + words))) :
    d.characters first words = e.characters first words := by
  induction words generalizing first with
  | zero => rfl
  | succ words ih =>
    have hword : d.word first = e.word first :=
      Agrees.word fun i hlow hhigh => h i hlow (by omega)
    have hrest : d.characters (first + 1) words = e.characters (first + 1) words :=
      ih fun i hlow hhigh => h i (by omega) (by omega)
    rw [IdentifyBlock.characters, IdentifyBlock.characters, hword, hrest]

theorem Agrees.text {first words : Nat} (h : d.Agrees e (2 * first) (2 * (first + words))) :
    d.text first words = e.text first words := by
  rw [IdentifyBlock.text, IdentifyBlock.text, h.characters]

theorem Agrees.supportsLba48 (h : d.Agrees e 166 168) : d.supportsLba48 = e.supportsLba48 := by
  have hword : d.word 83 = e.word 83 := Agrees.word h
  rw [IdentifyBlock.supportsLba48, hword, IdentifyBlock.supportsLba48]

theorem Agrees.isPacketDevice (h : d.Agrees e 0 2) : d.isPacketDevice = e.isPacketDevice := by
  have hword : d.word 0 = e.word 0 := Agrees.word h
  rw [IdentifyBlock.isPacketDevice, hword, IdentifyBlock.isPacketDevice]

theorem Agrees.maxLba (h : d.Agrees e 120 124) (hwide : d.Agrees e 166 208) :
    d.maxLba = e.maxLba := by
  have hmode : d.supportsLba48 = e.supportsLba48 :=
    Agrees.supportsLba48 fun i hlow hhigh => hwide i hlow (by omega)
  have hnarrow : Bytes.le32 d.bytes.toList 120 = Bytes.le32 e.bytes.toList 120 := by
    rw [Bytes.le32, Bytes.le32, Bytes.fixed_congr fun i hlow hhigh => h i hlow hhigh]
  have hlong : Bytes.le64 d.bytes.toList 200 = Bytes.le64 e.bytes.toList 200 := by
    rw [Bytes.le64, Bytes.le64,
      Bytes.fixed_congr fun i hlow hhigh => hwide i (by omega) (by omega)]
  rw [IdentifyBlock.maxLba, IdentifyBlock.maxLba, hmode, hnarrow, hlong]

end

/-! ## Writing -/

theorem length_swapPairs : ∀ b : Bytes, (swapPairs b).length = b.length
  | [] => rfl
  | [_] => rfl
  | x :: y :: rest => by
    have ih := length_swapPairs rest
    simp [swapPairs, ih]

theorem swapPairs_swapPairs : ∀ b : Bytes, swapPairs (swapPairs b) = b
  | [] => rfl
  | [_] => rfl
  | x :: y :: rest => by rw [swapPairs, swapPairs, swapPairs_swapPairs rest]

/-- A text that fits is filled up with spaces. -/
theorem padded_eq {n : Nat} {text : Bytes} (h : text.length ≤ n) :
    padded n text = text ++ List.replicate (n - text.length) 0x20 := by
  rw [padded, List.take_of_length_le h]

theorem length_padded (n : Nat) (text : Bytes) : (padded n text).length = n := by
  rw [padded, List.length_append, List.length_take, List.length_replicate]
  omega

/-- A block with a text written into a range of words. -/
def putText (d : IdentifyBlock) (first words : Nat) (text : Bytes) : IdentifyBlock :=
  ⟨Bytes.fixed 512 (Bytes.put d.bytes.toList (2 * first) (swapPairs (padded (2 * words) text))) 0⟩

section
variable {first words : Nat} {text : Bytes} {s : String}

theorem toList_putText : (d.putText first words text).bytes.toList =
    Bytes.put d.bytes.toList (2 * first) (swapPairs (padded (2 * words) text)) :=
  Bytes.toList_fixed (by rw [Bytes.length_put, Vector.length_toList])

/-- A range inside the block is written. -/
theorem putText?_eq (h : first + words ≤ 256) : putText? d.bytes.toList first words text =
    some (d.putText first words text).bytes.toList := by
  have hroom : 2 * (first + words) ≤ d.bytes.toList.length := by
    rw [Vector.length_toList]
    omega
  rw [putText?, if_pos (.inr hroom), toList_putText]

theorem parse_toList (d : IdentifyBlock) : parse d.bytes.toList = .ok d := by
  have hlong : ¬ d.bytes.toList.length < length := by
    rw [Vector.length_toList]
    exact Nat.lt_irrefl 512
  rw [parse, if_neg hlong, Bytes.fixed_toList]

/-- Bytes outside the range stay. -/
theorem byteAt_putText {i : Nat} (h : i < 2 * first ∨ 2 * (first + words) ≤ i) :
    Bytes.byteAt (d.putText first words text).bytes.toList i = Bytes.byteAt d.bytes.toList i := by
  rw [toList_putText]
  refine Bytes.byteAt_put_of_disjoint ?_
  rw [length_swapPairs, length_padded]
  omega

theorem agrees_putText {low high : Nat} (h : high ≤ 2 * first ∨ 2 * (first + words) ≤ low) :
    (d.putText first words text).Agrees d low high :=
  fun _ _ _ => byteAt_putText (by omega)

/-- The range holds the text, with spaces behind it. -/
theorem readingOrder_putText (h : first + words ≤ 256) :
    (d.putText first words text).readingOrder first words = padded (2 * words) text := by
  have hlen : (swapPairs (padded (2 * words) text)).length = 2 * words := by
    rw [length_swapPairs, length_padded]
  have hroom : 2 * first + (swapPairs (padded (2 * words) text)).length ≤ d.bytes.toList.length := by
    rw [hlen, Vector.length_toList]
    omega
  have hslice : Bytes.slice (d.putText first words text).bytes.toList (2 * first) (2 * words) =
      swapPairs (padded (2 * words) text) := by
    have hself := Bytes.slice_put_self hroom
    rw [hlen] at hself
    rw [toList_putText]
    exact hself
  rw [readingOrder, hslice, swapPairs_swapPairs]

/-- A text is read back without the blanks around it. -/
theorem text_putText (hs : Text.Printable s) (h : first + words ≤ 256)
    (hfits : s.length ≤ 2 * words) :
    (d.putText first words (Text.codes s)).text first words = Text.trim s := by
  refine text_of_holds hs h ⟨0, List.replicate (2 * words - s.length) 0x20, ?_, ?_⟩
  · have hlen : (Text.codes s).length = s.length := by
      rw [Text.codes, List.length_map, String.length_toList]
    rw [readingOrder_putText h, padded_eq (by rwa [hlen]), hlen]
    rfl
  · exact fun x hx => .inl (List.eq_of_mem_replicate hx)

end

/-! ## The identity of a device -/

/-- The texts that identify a device. -/
inductive Label where
  | serial
  | firmware
  | model
  deriving DecidableEq

namespace Label

/-- The first word of the text. -/
def first : Label → Nat
  | serial => 10
  | firmware => 23
  | model => 27

/-- The number of its words. -/
def words : Label → Nat
  | serial => 10
  | firmware => 4
  | model => 20

/-- What is read of a block. -/
def read (d : IdentifyBlock) : Label → String
  | serial => d.serialNumber
  | firmware => d.firmwareRevision
  | model => d.modelNumber

variable {l m : Label}

theorem read_eq : l.read d = d.text l.first l.words := by cases l <;> rfl

theorem inside (l : Label) : l.first + l.words ≤ 256 := by cases l <;> decide

theorem apart (h : l ≠ m) : l.first + l.words ≤ m.first ∨ m.first + m.words ≤ l.first := by
  cases l <;> cases m <;> first | exact absurd rfl h | decide

end Label

/-- The text that a label is given, if it is the one that is asked for. -/
def textFor? (l : Label) (w : Label × String) : Option String := if w.1 = l then some w.2 else none

/-- A block with a label written. -/
def label (d : IdentifyBlock) (w : Label × String) : IdentifyBlock :=
  d.putText w.1.first w.1.words (Text.codes w.2)

/-- A buffer with labels written, one after the other. -/
def putLabels? (block : Bytes) : List (Label × String) → Option Bytes
  | [] => some block
  | w :: ws => (putText? block w.1.first w.1.words w.2.toUTF8.data.toList).bind (putLabels? · ws)

/-- A text of printable characters for which its label has room. -/
def Fits (w : Label × String) : Prop := Text.Printable w.2 ∧ w.2.length ≤ 2 * w.1.words

/-- What a block reads as when labels are written: each text as it was last written, without the
blanks around it, and no other property of the device has changed. -/
structure Labelled (d : IdentifyBlock) (ws : List (Label × String)) (after : IdentifyBlock) :
    Prop where
  texts (l : Label) :
    l.read after = (ws.filterMap fun w => (textFor? l w).map Text.trim).getLastD (l.read d)
  maxLba : after.maxLba = d.maxLba
  supportsLba48 : after.supportsLba48 = d.supportsLba48
  isPacketDevice : after.isPacketDevice = d.isPacketDevice

section
variable {w : Label × String} {ws : List (Label × String)} {l : Label}

/-- A label reads as it was written, and no other one changes. -/
theorem read_label (h : Fits w) :
    l.read (d.label w) = ((textFor? l w).map Text.trim).getD (l.read d) := by
  rw [Label.read_eq, Label.read_eq, label]
  by_cases hl : w.1 = l
  · subst hl
    rw [textFor?, if_pos rfl]
    exact text_putText h.1 w.1.inside h.2
  · have hapart := Label.apart hl
    rw [textFor?, if_neg hl]
    exact Agrees.text (agrees_putText (by omega))

theorem labelled_label (h : Fits w) : d.Labelled [w] (d.label w) where
  texts l := by
    rw [read_label h, List.filterMap_cons]
    cases textFor? l w <;> rfl
  -- All texts stand between word 10 and word 46.
  maxLba := Agrees.maxLba (agrees_putText (by cases w.1 <;> decide))
    (agrees_putText (by cases w.1 <;> decide))
  supportsLba48 := Agrees.supportsLba48 (agrees_putText (by cases w.1 <;> decide))
  isPacketDevice := Agrees.isPacketDevice (agrees_putText (by cases w.1 <;> decide))

theorem Labelled.cons {e after : IdentifyBlock} (h : d.Labelled [w] e) (ht : e.Labelled ws after) :
    d.Labelled (w :: ws) after where
  texts l := by
    rw [ht.texts, h.texts, Bytes.getLastD_filterMap_cons, Bytes.getLastD_filterMap_cons]
    rfl
  maxLba := ht.maxLba.trans h.maxLba
  supportsLba48 := ht.supportsLba48.trans h.supportsLba48
  isPacketDevice := ht.isPacketDevice.trans h.isPacketDevice

theorem exists_putLabels (h : ∀ w ∈ ws, Fits w) (d : IdentifyBlock) : ∃ after : IdentifyBlock,
    putLabels? d.bytes.toList ws = some after.bytes.toList ∧ d.Labelled ws after := by
  induction ws generalizing d with
  | nil => exact ⟨d, rfl, fun _ => rfl, rfl, rfl, rfl⟩
  | cons w ws ih =>
    obtain ⟨hw, hws⟩ := List.forall_mem_cons.1 h
    obtain ⟨after, hafter, hlabelled⟩ := ih hws (d.label w)
    refine ⟨after, ?_, (labelled_label hw).cons hlabelled⟩
    rw [putLabels?, Text.toUTF8_eq_codes hw.1, putText?_eq w.1.inside, Option.bind_some]
    exact hafter

end

/-- **Texts that are written into IDENTIFY data are read back.** A printable text for which a range
of words inside the block has room changes no byte outside that range, and is read there without the
blanks around it. When serial number, firmware revision and model number are written, in any order
and as often as one likes, each reads as it was last written, and capacity, addressing and kind of
the device are what they were. -/
theorem texts_read_back (d : IdentifyBlock) :
    (∀ (first words : Nat) (s : String), first + words ≤ 256 → Text.Printable s →
      s.length ≤ 2 * words →
      ∃ after : IdentifyBlock,
        putText? d.bytes.toList first words s.toUTF8.data.toList = some after.bytes.toList ∧
        parse after.bytes.toList = .ok after ∧
        (∀ i, i < 2 * first ∨ 2 * (first + words) ≤ i →
          Bytes.byteAt after.bytes.toList i = Bytes.byteAt d.bytes.toList i) ∧
        after.text first words = Text.trim s ∧ Text.Stripped s (Text.trim s)) ∧
    ∀ ws : List (Label × String), (∀ w ∈ ws, Fits w) →
      ∃ after : IdentifyBlock, putLabels? d.bytes.toList ws = some after.bytes.toList ∧
        parse after.bytes.toList = .ok after ∧ d.Labelled ws after := by
  constructor
  · intro first words s hrange hs hfits
    refine ⟨d.putText first words (Text.codes s), ?_, parse_toList _, ?_, ?_, Text.stripped_trim hs⟩
    · rw [Text.toUTF8_eq_codes hs, putText?_eq hrange]
    · exact fun i hi => byteAt_putText hi
    · exact text_putText hs hrange hfits
  · intro ws hws
    obtain ⟨after, hafter, hlabelled⟩ := exists_putLabels hws d
    exact ⟨after, hafter, parse_toList after, hlabelled⟩

/-- A packet device with 48-bit addressing, and with zeros for texts. -/
def unlabelledBlock : IdentifyBlock :=
  ⟨((Vector.replicate 512 0).set 1 0x80).set 167 0x04⟩

/-- Texts of odd length, with blanks around them and inside, in no order. -/
def labels : List (Label × String) :=
  [(.model, "MODEL A"), (.serial, " SN 41"), (.firmware, "F 1"), (.serial, " SN 42 ")]

/-- A text in the last word of the block, too, is read back and leaves the others alone. -/
theorem texts_read_back_labels :
    (255 + 1 ≤ 256 ∧ Text.Printable "x" ∧ "x".length ≤ 2 * 1 ∧ ∀ w ∈ labels, Fits w) ∧
    (∃ after : IdentifyBlock, after.text 255 1 = "x" ∧
      putText? unlabelledBlock.bytes.toList 255 1 "x".toUTF8.data.toList =
        some after.bytes.toList) ∧
    ∃ after : IdentifyBlock, after.serialNumber = "SN 42" ∧ after.firmwareRevision = "F 1" ∧
      after.modelNumber = "MODEL A" ∧ after.isPacketDevice = true ∧ after.supportsLba48 = true ∧
      putLabels? unlabelledBlock.bytes.toList labels = some after.bytes.toList := by
  have hprintable : Text.Printable "x" := by decide +kernel
  have hfits : "x".length ≤ 2 * 1 := by decide
  have hlabels : ∀ w ∈ labels, Fits w := by
    simp only [labels, List.forall_mem_cons, List.not_mem_nil, false_implies, implies_true,
      and_true, Fits]
    decide +kernel
  obtain ⟨last, hlast, -, -, htext, -⟩ :=
    (texts_read_back unlabelledBlock).1 255 1 "x" (by decide) hprintable hfits
  obtain ⟨after, hafter, -, hlabelled⟩ := (texts_read_back unlabelledBlock).2 labels hlabels
  have htrim : Text.trim "x" = "x" := by decide +kernel
  exact ⟨⟨by decide, hprintable, hfits, hlabels⟩, ⟨last, htext.trans htrim, hlast⟩, after,
    (hlabelled.texts .serial).trans (by decide +kernel),
    (hlabelled.texts .firmware).trans (by decide +kernel),
    (hlabelled.texts .model).trans (by decide +kernel),
    hlabelled.isPacketDevice.trans (by decide +kernel),
    hlabelled.supportsLba48.trans (by decide +kernel), hafter⟩

end Ata.IdentifyBlock

end DriveReach
