import DriveReach.Ata.IdentifyBlock
import DriveReach.Discovery.Target
import DriveReach.Passthrough.AtaChain
import DriveReach.Scsi.Inquiry
/-!
# Identity probes

Asking a device who it is: IDENTIFY DEVICE for a device that takes ATA commands, INQUIRY and the
Unit Serial Number page for any other.
-/

namespace DriveReach.Discovery

namespace Search

/-- The model and serial number of a device that takes ATA commands. The probe is passed on as any
command is, by `AtaRequest.issue`; no other way of passing it on can be brought along. -/
def identifyAta (s : Search) (ep : Endpoint) : Attempt Reported := do
  let request : AtaRequest := {
    command := .identify
    data := .inbound (Bytes.zeros Ata.IdentifyBlock.length)
    timeout := s.timeout }
  let (result, _, request) ← ExceptT.lift (request.issue s.controller ep)
  Attempt.ofExcept result
  if request.registers.any (·.isError) then throw (.unsupported .identifyAborted)
  match Ata.IdentifyBlock.parse request.data.bytes with
  | .error fault => throw (.frame fault)
  | .ok block => return ⟨block.modelNumber, block.serialNumber⟩

/-- The bytes that a SCSI command returns, `length` of them. It is passed on by `ScsiRequest.send`,
as any command is. -/
def scsiIn (s : Search) (ep : Endpoint) (cdb : Scsi.Cdb) (length : Nat) : Attempt Bytes := do
  let request : ScsiRequest := {
    cdb := cdb
    data := .inbound (Bytes.zeros length)
    timeout := s.timeout }
  let (result, request) ← ExceptT.lift (request.send s.controller ep)
  Attempt.ofExcept result
  if !request.status.isGood then throw (.unsupported .inquiryRejected)
  return request.data.bytes

/-- The room for a Unit Serial Number page. -/
def vpdLength : Nat := 255

/-- A result at the SCSI level. -/
def ofScsi {α : Type} (result : Except Scsi.Fault α) : Attempt α :=
  Attempt.ofExcept (result.mapError .scsi)

/-- The model and serial number of any other device. -/
def identifyScsi (s : Search) (ep : Endpoint) : Attempt Reported := do
  let data ← s.scsiIn ep (.inquiry false 0 (UInt16.ofNat Scsi.standardInquiryLength))
    Scsi.standardInquiryLength
  let inquiry ← ofScsi (Scsi.InquiryData.parse data)
  let page ← s.scsiIn ep
    (.inquiry true Scsi.VpdPage.unitSerialNumber (UInt16.ofNat vpdLength)) vpdLength
  let serial ← ofScsi (Scsi.parseUnitSerial page)
  return ⟨inquiry.model, serial⟩

/-- The model and serial number that the device at an endpoint reports. -/
def identify (s : Search) (ep : Endpoint) (ata : Bool) : Attempt Reported :=
  if ata then s.identifyAta ep else s.identifyScsi ep

end Search

end DriveReach.Discovery
