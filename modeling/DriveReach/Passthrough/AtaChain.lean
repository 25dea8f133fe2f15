import DriveReach.Passthrough.Ssp
import DriveReach.Passthrough.Stp
import DriveReach.Scsi.AtaPassThrough
/-!
# Delivering ATA commands

An ATA command takes the endpoint's route and moves on along the chain

```text
STP  --SCSI emulation-->  ATA PASS-THROUGH (16)  --invalid opcode-->  ATA PASS-THROUGH (12)
```

Each step is tried at most once in a delivery, and never an earlier one after a later one. The
endpoint keeps the route it came to, so that the next command starts there.
-/

namespace DriveReach

/-- How an ATA command inside a SCSI command ended without a fault. -/
inductive SatEnd where
  | completed
  /-- The device does not know the operation code. -/
  | invalidOpcode
  deriving DecidableEq, Repr

namespace AtaRequest

/-- The request with the results of a SCSI command that carried it. -/
def absorb (r : AtaRequest) (scsi : ScsiRequest) : AtaRequest :=
  { r with
    data := scsi.data
    registers := scsi.sense.ataRegisters?
    statusFrame := none
    scr := none
    sense := scsi.sense }

/-- What the status and sense data of a SCSI command say about the ATA command inside. -/
def satEnd (scsi : ScsiRequest) : Except Fault SatEnd :=
  if scsi.status.isGood || scsi.sense.ataRegisters?.isSome then .ok .completed
  else match scsi.sense.summary? with
    | none => .error (.scsi (.status scsi.status))
    | some s =>
      if s.isInvalidOpcode then .ok .invalidOpcode
      else .error (.scsi (.checkCondition s.key s.asc s.ascq))

/-- Deliver the command inside a SCSI command. -/
def sendSat (r : AtaRequest) (c : Controller) (ep : Endpoint) (cdb : Scsi.Cdb) :
    Dialogue (Except Fault SatEnd × AtaRequest) := do
  let scsi : ScsiRequest := { cdb := cdb, data := r.data, timeout := r.timeout }
  match ← scsi.send c ep with
  | (.error fault, _) => return (.error fault, r)
  | (.ok (), scsi) => return (satEnd scsi, r.absorb scsi)

/-- A delivery: its result, the endpoint and the request as they are left. -/
abbrev Delivery : Type := Except Fault Unit × Endpoint × AtaRequest

/-- The last step of the chain. -/
def issueLegacy (r : AtaRequest) (c : Controller) (ep : Endpoint) : Dialogue Delivery := do
  match Scsi.AtaPassThrough.cdb12 r.command with
  | .error fault => return (.error (.scsi fault), ep, r)
  | .ok cdb =>
    match ← r.sendSat c ep cdb with
    | (.error fault, r) => return (.error fault, ep, r)
    | (.ok .completed, r) => return (.ok (), ep, r)
    | (.ok .invalidOpcode, r) =>
      return (.error (.scsi (.checkCondition .illegalRequest Scsi.SenseCode.invalidOpcode
        Scsi.SenseQualifier.none)), ep, r)

/-- The chain from ATA PASS-THROUGH (16) on. -/
def issueSat (r : AtaRequest) (c : Controller) (ep : Endpoint) : Dialogue Delivery := do
  match ← r.sendSat c ep (Scsi.AtaPassThrough.cdb16 r.command) with
  | (.error fault, r) => return (.error fault, ep, r)
  | (.ok .completed, r) => return (.ok (), ep, r)
  | (.ok .invalidOpcode, r) =>
    Dialogue.debug <| s!"phy {ep.phy.toNat}: ATA PASS-THROUGH(16) rejected, falling back to " ++
      "12-byte CDB"
    r.issueLegacy c { ep with route := .legacyOverSsp }

/-- The whole chain. -/
def issueStp (r : AtaRequest) (c : Controller) (ep : Endpoint) : Dialogue Delivery := do
  match ← r.sendStp c ep with
  | (.error fault, r) => return (.error fault, ep, r)
  | (.ok .completed, r) => return (.ok (), ep, r)
  | (.ok .retryAsSsp, r) => r.issueSat c { ep with route := .satOverSsp }

/-- Deliver the command along the chain, from the endpoint's route on. -/
def issue (r : AtaRequest) (c : Controller) (ep : Endpoint) : Dialogue Delivery :=
  match ep.route with
  | .stp => r.issueStp c ep
  | .satOverSsp => r.issueSat c ep
  | .legacyOverSsp => r.issueLegacy c ep

end AtaRequest

end DriveReach
