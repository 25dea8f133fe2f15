import DriveReach.Csmi.Stp
import DriveReach.Passthrough.Request
/-!
# ATA commands over STP

`AtaRequest.sendStp` delivers a command. The device reports the end in a status frame, from which
come the registers; they are also written as sense data. A frame that cannot be read, like a refused
connection, takes registers and sense data of an earlier command away.
-/

namespace DriveReach

open Csmi

/-- How an STP command ended without a fault. -/
inductive StpEnd where
  | completed
  /-- The driver emulates SCSI for the device: the command goes over SSP instead. -/
  | retryAsSsp
  deriving DecidableEq, Repr

namespace AtaRequest

/-- The command as it goes to an endpoint: at the endpoint's port multiplier port. -/
def commandAt (r : AtaRequest) (ep : Endpoint) : Ata.Command :=
  { r.command with pmPort := ep.pmPort }

/-- The payload of the command's STP call. -/
def stpPayload (r : AtaRequest) (ep : Endpoint) : Except Fault Bytes := do
  let length ← dataLength r.data.size
  let parameters : StpParameters := {
    phy := ep.phy
    port := ep.port
    rate := ep.rate
    destination := ep.sasAddress
    frame := (r.commandAt ep).toFrame.bytes
    flags := .ofCommand r.command.protocol r.data.direction
    dataLength := length }
  return (← parameters.encode (Bytes.zeros stpFixedLength)) ++ r.data.staged

/-- Issue the command's call; the return code is not looked at. -/
def stpCall (r : AtaRequest) (c : Controller) (ep : Endpoint) : Attempt Reply := do
  let payload ← Attempt.ofExcept (r.stpPayload ep)
  c.send .stpPassthrough payload r.timeout

/-- The request without registers and sense data. -/
def withoutResult (r : AtaRequest) : AtaRequest :=
  { r with registers := none, sense := r.sense.clear }

/-- The request with the frame, the control registers and the data of an answer. -/
def received (r : AtaRequest) (status : StpStatus) (area : Bytes) : AtaRequest :=
  { r with
    statusFrame := some status.frame
    scr := some status.scr
    data := r.data.receive area status.dataBytes.toNat }

/-- The request with the registers of a status frame, also as sense data. -/
def withRegisters (r : AtaRequest) (registers : Ata.Registers) : AtaRequest :=
  { r with
    registers := some registers
    sense := Scsi.ataStatusReturn registers r.command.extended }

/-- How the log names the command and its phy. -/
def stpLabel (r : AtaRequest) (ep : Endpoint) : String :=
  s!"stp {Hex.marked r.command.taskFile.command} on phy {ep.phy.toNat}: "

/-- The line that reports registers with an error. -/
def errorNote? (r : AtaRequest) (ep : Endpoint) (registers : Ata.Registers) : Option LogLine :=
  if registers.isError then
    some ⟨.debug, r.stpLabel ep ++
      s!"status {Hex.marked registers.status} error {Hex.marked registers.error}"⟩
  else none

/-- The results in an answer that the driver gave as a success. -/
def completeStp (r : AtaRequest) (ep : Endpoint) (payload : Bytes) :
    Dialogue (Except Fault StpEnd × AtaRequest) := do
  match StpStatus.decode (payload.drop Layout.stpParameters.size) with
  | .error fault => return (.error fault, r)
  | .ok status =>
    if status.connectionStatus ≠ openAccept then
      Dialogue.debug <| s!"stp to {ep.sasAddress.text} phy {ep.phy.toNat}: connection status " ++
        Hex.marked status.connectionStatus
      return (.error (.failed .connectionFailed), r.withoutResult)
    let r := r.received status (payload.drop stpFixedLength)
    match Ata.StatusFrame.parse status.frame.toList with
    | .error fault => return (.error (.frame fault), r.withoutResult)
    | .ok frame =>
      Dialogue.notes (r.errorNote? ep frame.registers).toList
      return (.ok .completed, r.withRegisters frame.registers)

/-- Deliver the command by STP; the second part is the request as it is left. -/
def sendStp (r : AtaRequest) (c : Controller) (ep : Endpoint) :
    Dialogue (Except Fault StpEnd × AtaRequest) := do
  match ← (r.stpCall c ep).run with
  | .error fault => return (.error fault, r)
  | .ok reply =>
    if reply.code = .scsiEmulation then
      Dialogue.debug (r.stpLabel ep ++ "driver emulates SCSI, retry as SSP")
      return (.ok .retryAsSsp, r)
    match reply.code.check with
    | .error fault => return (.error fault, r)
    | .ok () => r.completeStp ep reply.payload

end AtaRequest

end DriveReach
