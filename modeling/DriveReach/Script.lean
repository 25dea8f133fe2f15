import DriveReach.Csmi.Header
import DriveReach.Device.Collaborators
import DriveReach.Dialogue
/-!
# Scripted controllers

Surroundings for dialogues without hardware: controllers that answer every call from a list of
rules. The first rule that fits a call answers it, and a rule may be good for a number of calls
only. A call that no rule fits is refused as an unknown control code.
-/

namespace DriveReach.Script

open Csmi

/-- Bytes to be found or put at an offset. -/
abbrev Patch : Type := Nat × Bytes

/-- Write patches over a buffer in order; bytes past its end are dropped. -/
def overlay (b : Bytes) (patches : List Patch) : Bytes :=
  patches.foldl (fun b p => Bytes.put b p.1 p.2) b

/-- The patch's bytes are there. -/
def Patch.isIn (p : Patch) (b : Bytes) : Bool :=
  p.1 + p.2.length ≤ b.length && b.slice p.1 p.2.length == p.2

/-- How to answer some calls. -/
structure Rule where
  /-- The control code of the calls. -/
  code : UInt32
  /-- What the payload must hold. -/
  conditions : List Patch
  /-- How many more calls the rule answers, if not any number. -/
  uses : Option Nat
  /-- The reason why the call does not go through. -/
  refusal : Option String
  returnCode : ReturnCode
  /-- The payload length to report in place of the one asked for. -/
  payloadLength : Option UInt32
  /-- What to write into the payload. -/
  patches : List Patch

namespace Rule

/-- The rule answers a call. -/
def fits (r : Rule) (code : ControlCode) (payload : Bytes) : Bool :=
  r.code == code.code && r.uses != some 0 && r.conditions.all (·.isIn payload)

/-- The rule after an answer. -/
def spend (r : Rule) : Rule := { r with uses := r.uses.map (· - 1) }

/-- The answer to a call with a buffer. -/
def answer (r : Rule) (buffer : Bytes) : Except String Bytes :=
  match r.refusal with
  | some reason => .error reason
  | none =>
    let buffer := buffer.take headerLength ++ overlay (buffer.drop headerLength) r.patches
    let buffer := HeaderLayout.compact.setReturnCode buffer r.returnCode
    .ok (match r.payloadLength with
      | some length => HeaderLayout.compact.setPayloadLength buffer length
      | none => buffer)

end Rule

/-- The first rule that fits a call, and the rules after its use. -/
def use? (code : ControlCode) (payload : Bytes) : List Rule → Option (Rule × List Rule)
  | [] => none
  | r :: rules =>
    if r.fits code payload then some (r, r.spend :: rules)
    else (use? code payload rules).map fun (used, rules) => (used, r :: rules)

/-! ## Racks -/

/-- Scripted controllers by number. -/
abbrev Rack : Type := List (UInt32 × List Rule)

namespace Rack

/-- The rack with other rules for a controller. -/
def setRules (rack : Rack) (controller : UInt32) (rules : List Rule) : Rack :=
  rack.map fun entry => if entry.1 = controller then (controller, rules) else entry

/-- Attach to the controller of a number, through whatever node. -/
def attach (rack : Rack) (_ : Option String) (controller : UInt32) : Except Fault Channel × Rack :=
  match rack.lookup controller with
  | some _ => (.ok ⟨controller.toNat⟩, rack)
  | none => (.error (.transport "no such controller"), rack)

/-- Answer a call to the controller of a channel. -/
def call (rack : Rack) (channel : Channel) (code : ControlCode) (buffer : Bytes) :
    Except String Bytes × Rack :=
  let controller := UInt32.ofNat channel.id
  match use? code (buffer.drop headerLength) ((rack.lookup controller).getD []) with
  | some (rule, rules) => (rule.answer buffer, rack.setRules controller rules)
  | none => (.ok (HeaderLayout.compact.setReturnCode buffer .badControlCode), rack)

/-- The rack as the other side of dialogues. -/
def surroundings : Dialogue.Surroundings Rack := ⟨attach, call⟩

end Rack

/-! ## SCSI by ATA commands -/

/-- A layer that issues the same ATA command for every SCSI command, with 512 bytes of room,
and answers with its sense data, its status and the bytes it brought. -/
def satLayer (command : Ata.Command) : SatLayer where
  isAvailable := true
  serve request :=
    .issue { command := command, data := .inbound (Bytes.zeros 512) } fun result ata =>
      match result with
      | .error fault => .done (.error fault) request
      | .ok () => .done (.ok ()) { request with
          sense := ata.sense
          status := if ata.registers.any (·.isError) then .checkCondition else .good
          data := match request.data with
            | .inbound room => .inbound (room.put 0 ata.data.bytes)
            | data => data }

end DriveReach.Script
