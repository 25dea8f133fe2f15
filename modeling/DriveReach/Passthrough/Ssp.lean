import DriveReach.Passthrough.Request
/-!
# SCSI commands over SSP

`ScsiRequest.send` delivers a command. When the call or the connection fails, the request stays as
it was. Otherwise `ScsiRequest.complete` takes everything from the answer: the status, the sense
data if the response holds any and none if not, and the data with zeros behind them.
-/

namespace DriveReach

open Csmi

namespace ScsiRequest

/-- The payload of the command's SSP call. -/
def payload (r : ScsiRequest) (ep : Endpoint) : Except Fault Bytes := do
  let length ← dataLength r.data.size
  let parameters : SspParameters := {
    phy := ep.phy
    port := ep.port
    rate := ep.rate
    destination := ep.sasAddress
    lun := ep.lun
    cdb := r.cdb.bytes
    flags := .ofDirection r.data.direction
    dataLength := length }
  return (← parameters.encode (Bytes.zeros sspFixedLength)) ++ r.data.staged

/-- Issue the command's call and take the status and the data area from an accepted connection. -/
def exchange (r : ScsiRequest) (c : Controller) (ep : Endpoint) : Attempt (SspStatus × Bytes) := do
  let payload ← Attempt.ofExcept (r.payload ep)
  let reply ← c.send .sspPassthrough payload r.timeout
  Attempt.ofExcept reply.code.check
  let status ← Attempt.ofExcept
    (SspStatus.decode (reply.payload.drop Layout.sspParameters.size))
  if status.connectionStatus ≠ openAccept then
    Attempt.note .debug <| s!"ssp to {ep.sasAddress.text} phy {ep.phy.toNat}: connection status " ++
      Hex.marked status.connectionStatus
    throw (.failed .connectionFailed)
  return (status, reply.payload.drop sspFixedLength)

/-- The request with the results of an exchange. -/
def complete (r : ScsiRequest) (status : SspStatus) (area : Bytes) : ScsiRequest :=
  { r with
    status := .ofByte status.status
    sense := match status.sense? with
      | some sense => r.sense.set sense
      | none => r.sense.clear
    data := r.data.receive area status.dataBytes.toNat }

/-- The line that reports the sense data of a completed command. -/
def senseNote? (r : ScsiRequest) (ep : Endpoint) : Option LogLine :=
  r.sense.summary?.map fun s =>
    ⟨.debug, s!"ssp {Hex.marked r.cdb.opcode} to {ep.sasAddress.text}: {r.status.name} " ++
      s!"{s.key.name} asc {Hex.marked s.asc} ascq {Hex.marked s.ascq}"⟩

/-- Deliver the command; the second part is the request as it is left. -/
def send (r : ScsiRequest) (c : Controller) (ep : Endpoint) :
    Dialogue (Except Fault Unit × ScsiRequest) := do
  match ← (r.exchange c ep).run with
  | .error fault => return (.error fault, r)
  | .ok (status, area) =>
    let r := r.complete status area
    Dialogue.notes (r.senseNote? ep).toList
    return (.ok (), r)

end ScsiRequest

end DriveReach
