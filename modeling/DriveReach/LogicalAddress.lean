import DriveReach.Fault
/-!
# Device handles

A handle names a device in text:

```text
csmi:<controller>[:N]:<port>:<phy>:<lun>[:<base>]
```

After the mark `N` come the path and target of the operating system in place of port and phy. The
base, which may hold colons, names the node to open.

`LogicalAddress.text` prints an address and `LogicalAddress.parse` reads one.
-/

namespace DriveReach

/-- The word a handle opens with. -/
def handleWord : String := "csmi"

/-- The address of a device behind a controller. -/
structure LogicalAddress where
  controller : UInt32
  /-- The port, or the path in the alternate form. -/
  port : UInt8
  /-- The phy, or the target in the alternate form. -/
  phy : UInt8
  lun : UInt8
  /-- The address is the operating system's: path and target. -/
  alternate : Bool
  /-- The node to open instead of the default one. -/
  base : Option String
  deriving DecidableEq, Repr

namespace LogicalAddress

/-- An address by port and phy. -/
def ofPhy (controller : UInt32) (port phy lun : UInt8) : LogicalAddress :=
  ⟨controller, port, phy, lun, false, none⟩

/-- An address by path and target. -/
def ofTarget (controller : UInt32) (path target lun : UInt8) : LogicalAddress :=
  ⟨controller, path, target, lun, true, none⟩

def withBase (a : LogicalAddress) (base : Option String) : LogicalAddress := { a with base := base }

/-- The path, in the alternate form. -/
def path? (a : LogicalAddress) : Option UInt8 := if a.alternate then some a.port else none

/-- The target, in the alternate form. -/
def target? (a : LogicalAddress) : Option UInt8 := if a.alternate then some a.phy else none

/-! ## Printing -/

/-- The handle of an address. -/
def text (a : LogicalAddress) : String :=
  handleWord ++ ":" ++ toString a.controller.toNat ++ (if a.alternate then ":N" else "") ++ ":" ++
    toString a.port.toNat ++ ":" ++ toString a.phy.toNat ++ ":" ++ toString a.lun.toNat ++
    match a.base with
    | some base => ":" ++ base
    | none => ""

/-! ## Reading -/

/-- A numeric field of a handle. -/
inductive Field where
  | controller
  | port
  | phy
  | path
  | target
  | lun
  deriving DecidableEq, Repr

def Field.name : Field → String
  | controller => "controller"
  | port => "port"
  | phy => "phy"
  | path => "path"
  | target => "target"
  | lun => "lun"

/-- Why a text is no handle. -/
inductive HandleFault where
  /-- The text does not open with the handle word and a colon. -/
  | notAHandle
  | missing (field : Field)
  /-- The field is empty or holds something other than digits. -/
  | malformed (field : Field) (text : String)
  | outOfRange (field : Field) (text : String)
  | emptyBase
  deriving DecidableEq, Repr

/-- The text that reports why `handle` is no handle. -/
def HandleFault.message (handle : String) : HandleFault → String
  | notAHandle => handle ++ ": not a csmi handle"
  | missing field => handle ++ ": missing " ++ field.name
  | malformed field text => handle ++ ": bad " ++ field.name ++ " '" ++ text ++ "'"
  | outOfRange field text => handle ++ ": " ++ field.name ++ " '" ++ text ++ "' out of range"
  | emptyBase => handle ++ ": empty base handle"

/-- The value of a string of decimal digits. -/
def decimalValue (cs : List Char) : Nat := cs.foldl (fun n c => 10 * n + (c.toNat - '0'.toNat)) 0

/-- The number below `bound` that a field spells; leading zeros are allowed. -/
def readNumber (field : Field) (bound : Nat) (cs : List Char) : Except HandleFault Nat :=
  if cs.isEmpty || !cs.all Char.isDigit then .error (.malformed field (String.ofList cs))
  else if decimalValue cs < bound then .ok (decimalValue cs)
  else .error (.outOfRange field (String.ofList cs))

/-- The part of a text before its first colon, and what follows the colon. -/
def splitField : List Char → List Char × Option (List Char)
  | [] => ([], none)
  | c :: cs =>
    if c = ':' then ([], some cs)
    else (c :: (splitField cs).1, (splitField cs).2)

/-- The next field of a handle as a number, and the rest behind its colon. -/
def takeNumber (field : Field) (bound : Nat) (rest : Option (List Char)) :
    Except HandleFault (Nat × Option (List Char)) :=
  match rest with
  | none => .error (.missing field)
  | some cs => (readNumber field bound (splitField cs).1).map (·, (splitField cs).2)

/-- The three numbers and the base that close a handle. -/
def readTail (controller : Nat) (alternate : Bool) (rest : Option (List Char)) :
    Except HandleFault LogicalAddress := do
  let (port, rest) ← takeNumber (if alternate then .path else .port) UInt8.size rest
  let (phy, rest) ← takeNumber (if alternate then .target else .phy) UInt8.size rest
  let (lun, rest) ← takeNumber .lun UInt8.size rest
  let address : LogicalAddress :=
    ⟨UInt32.ofNat controller, UInt8.ofNat port, UInt8.ofNat phy, UInt8.ofNat lun, alternate, none⟩
  match rest with
  | none => return address
  | some [] => throw .emptyBase
  | some base => return address.withBase (some (String.ofList base))

/-- The characters behind the handle word and its colon. -/
def stripWord? : List Char → Option (List Char)
  | 'c' :: 's' :: 'm' :: 'i' :: ':' :: rest => some rest
  | _ => none

/-- The address that the characters of a handle spell. -/
def parseChars (cs : List Char) : Except HandleFault LogicalAddress := do
  let some rest := stripWord? cs | throw .notAHandle
  let (controller, rest) ← takeNumber .controller UInt32.size (some rest)
  match rest.map splitField with
  | some (['N'], rest) => readTail controller true rest
  | _ => readTail controller false rest

/-- The address that a handle names. -/
def parse (handle : String) : Except Fault LogicalAddress :=
  match parseChars handle.toList with
  | .ok address => .ok address
  | .error fault => .error (.badParameter (fault.message handle))

end LogicalAddress

end DriveReach
