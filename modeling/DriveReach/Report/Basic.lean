import DriveReach.Fault
import DriveReach.Flags
import DriveReach.Sas.Address
/-!
# Reports

A report lays a value out for a reader: numbers, texts, lists, and records of named fields. The
modules beside this one say how each type of the library is laid out. A report is plain data and
knows no format to write it in.

A value with a layout stands wherever a report is expected.
-/

namespace DriveReach

/-- A value laid out for a reader. -/
inductive Report where
  /-- Nothing is there. -/
  | absent
  | truth (value : Bool)
  | number (value : Nat)
  | text (value : String)
  | list (items : List Report)
  | record (fields : List (String × Report))

/-- The types whose values have a layout. -/
class Reportable (α : Type) where
  /-- The layout of a value. -/
  report : α → Report

export Reportable (report)

instance : Reportable Report := ⟨id⟩

instance {α : Type} [Reportable α] : CoeHead α Report := ⟨report⟩

namespace Report

/-- A list of values. -/
def listOf {α : Type} [Reportable α] (values : List α) : Report := list (values.map report)

/-- Bytes as pairs of hexadecimal digits. -/
def hex (b : Bytes) : Report := text (Hex.string b)

/-- The length of a byte string, and its bytes without the zeros at its end. -/
def trimmed (b : Bytes) : Report :=
  record [("len", number b.length), ("hex", hex (b.reverse.dropWhile (· == 0)).reverse)]

/-- A word of flags and the names of those that are set. -/
def flags (table : List Flag) (bits : Nat) : Report :=
  record [("bits", number bits), ("names", list ((Flag.names table bits).map text))]

/-- A record with further fields behind its own. -/
def append (fields : List (String × Report)) : Report → Report
  | record own => record (own ++ fields)
  | _ => record fields

end Report

/-! ## Plain values -/

instance : Reportable Unit := ⟨fun _ => .absent⟩
instance : Reportable Bool := ⟨.truth⟩
instance : Reportable String := ⟨.text⟩
instance : Reportable Nat := ⟨.number⟩
instance : Reportable UInt8 := ⟨fun n => .number n.toNat⟩
instance : Reportable UInt16 := ⟨fun n => .number n.toNat⟩
instance : Reportable UInt32 := ⟨fun n => .number n.toNat⟩

/-- A number of 64 bits is a text, since not every reader keeps all digits of a number. -/
instance : Reportable UInt64 := ⟨fun n => .text (toString n.toNat)⟩

instance {α : Type} [Reportable α] : Reportable (Option α) := ⟨fun a => a.elim .absent report⟩

instance {n : Nat} : Reportable (Vector UInt8 n) := ⟨fun v => .hex v.toList⟩
instance {n : Nat} : Reportable (Vector UInt32 n) := ⟨fun v => .listOf v.toList⟩

instance : Reportable SasAddress := ⟨fun a => .text a.text⟩

/-! ## Faults -/

instance : Reportable Ata.FrameFault :=
  ⟨fun f => .record [("error", f.kind), ("message", f.message)]⟩

instance : Reportable Scsi.Fault :=
  ⟨fun f => .record [("error", f.kind), ("message", f.message)]⟩

instance : Reportable Fault := ⟨fun f => .record [("error", f.kind), ("message", f.message),
  ("not_supported", f.isNotSupported), ("return_code", f.returnCode?.map (·.value))]⟩

/-- A value, or the fault in its place. -/
instance {ε α : Type} [Reportable ε] [Reportable α] : Reportable (Except ε α) where
  report
    | .ok a => report a
    | .error fault => report fault

/-- A value under the name `ok`, or the fault. -/
def Report.outcome {α : Type} [Reportable α] : Except Fault α → Report
  | .ok a => .record [("ok", a)]
  | .error fault => fault

end DriveReach
