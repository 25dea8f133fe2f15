import DriveReach.Discovery.Discover
/-!
# Devices

An open device and what can be done with it. Each operation first asks whether the access level
allows it, then whether the device's binding does.

The device's endpoint is kept apart from its context: it learns the route of ATA commands, and takes
over the port multiplier port of a new signature.
-/

namespace DriveReach

open Csmi

/-- An open device. -/
structure Device where
  context : Context
  endpoint : Endpoint
  satLayer : SatLayer

namespace Device

/-! ## Opening -/

/-- Attach to the target's controller and find the device. -/
def openTarget (target : Discovery.Target) (options : OpenOptions) (collaborators : Collaborators) :
    Attempt Device := do
  let channel ← ExceptT.mk (Dialogue.attach target.base target.controller .done)
  let controller : Controller := ⟨channel, target.controller, options.verbosity⟩
  let context ← Discovery.discover controller target options collaborators
  Attempt.note .info <| s!"opened {context.address.text} ({context.sasAddress.text}, " ++
    s!"phy {context.phy.toNat}, {context.binding.name}, {context.confidence.name})"
  return ⟨context, context.endpoint, collaborators.satLayer⟩

/-- Open the device that a handle names. -/
def openHandle (handle : String) (options : OpenOptions) (collaborators : Collaborators) :
    Attempt Device := do
  Attempt.ofExcept options.checkVersion
  let address ← Attempt.ofExcept (LogicalAddress.parse handle)
  openTarget (.ofAddress address options.identity) options collaborators

/-! ## Commands -/

/-- The route that ATA commands take. -/
def route (d : Device) : AtaRoute := d.endpoint.route

/-- The access level must allow the operation. -/
def require (d : Device) (allowed : Driver.Access → Bool) : Except Fault Unit :=
  if allowed d.context.access then .ok () else .error (.accessDenied d.context.access)

/-- Carry out a SCSI command by ATA commands at an endpoint, which may learn a route on the way. -/
def runSat (c : Controller) :
    SatExchange → Endpoint → Dialogue (Except Fault Unit × Endpoint × ScsiRequest)
  | .done result request, ep => return (result, ep, request)
  | .issue request next, ep => do
    let (result, ep, request) ← request.issue c ep
    runSat c (next result request) ep

/-- A command carried out: its result, the device and the request as they are left. -/
abbrev Issued : Type := Except Fault Unit × Device × Request

/-- Issue a SCSI command; a binding to STP has no way for it. -/
def issueScsi (d : Device) (request : ScsiRequest) : Dialogue Issued := do
  match d.context.binding with
  | .stp => return (.error (.unsupported .scsiOnStp), d, .scsi request)
  | .softwareSat =>
    let (result, ep, request) ←
      runSat d.context.controller (d.satLayer.serve request) d.endpoint
    return (result, { d with endpoint := ep }, .scsi request)
  | .ssp | .vendorNvme =>
    let (result, request) ← request.send d.context.controller d.endpoint
    return (result, d, .scsi request)

/-- Issue an ATA command; an NVMe device has no way for it. -/
def issueAta (d : Device) (request : AtaRequest) : Dialogue Issued := do
  match d.context.binding with
  | .vendorNvme => return (.error (.unsupported .ataOnNvme), d, .ata request)
  | .stp | .ssp | .softwareSat =>
    let (result, ep, request) ← request.issue d.context.controller d.endpoint
    return (result, { d with endpoint := ep }, .ata request)

/-- Issue a command. -/
def issue (d : Device) (request : Request) : Dialogue Issued :=
  match d.require (·.allowsPassthrough) with
  | .error fault => return (.error fault, d, request)
  | .ok () =>
    match request with
    | .scsi request => d.issueScsi request
    | .ata request => d.issueAta request

/-! ## Queries -/

/-- The device with a new signature. -/
def withSignature (d : Device) (signature : SataSignature) : Device :=
  { d with
    context := { d.context with signature := some signature, pmPort := signature.pmPort }
    endpoint := { d.endpoint with pmPort := signature.pmPort } }

/-- Read the signature of a device that takes ATA commands again. -/
def readSignature (d : Device) : Attempt SataSignature := do
  Attempt.ofExcept (d.require (·.allowsInfo))
  if !d.context.protocol.reachesAta then throw (.unsupported .signatureOfNonAta)
  d.context.controller.sataSignature d.context.phy

/-- Read the signature again and keep it; a failure leaves the device as it was. -/
def refreshSignature (d : Device) : Dialogue (Except Fault SataSignature × Device) := do
  match ← d.readSignature.run with
  | .error fault => return (.error fault, d)
  | .ok signature => return (.ok signature, d.withSignature signature)

/-- The error counters of the device's phy; `reset` clears them, for which passthrough must be
allowed. -/
def linkErrors (d : Device) (reset : Bool) : Attempt LinkErrors := do
  Attempt.ofExcept (d.require fun a => if reset then a.allowsPassthrough else a.allowsInfo)
  if d.context.binding = .vendorNvme then throw (.unsupported .linkErrorsOfNvme)
  d.context.controller.linkErrors d.context.phy reset

/-- Send a firmware image to the device's controller. -/
def downloadFirmware (d : Device) (image : Bytes) (flags : FirmwareFlags) :
    Attempt FirmwareReport := do
  Attempt.ofExcept (d.require (·.allowsFirmware))
  if !d.context.capabilities.hasFirmware then throw (.unsupported .firmwareDownload)
  d.context.controller.downloadFirmware image flags

end Device

end DriveReach
