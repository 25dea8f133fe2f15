import DriveReach.Discovery.Place
/-!
# Discovery

From a controller and a target to the context of a device: ask who the driver is, resolve the
device's address, place it, choose what carries its commands, and read what is particular to its
kind.
-/

namespace DriveReach.Discovery

open Csmi

/-- A device found: its place, its binding, and the address it is found by again. -/
structure Located where
  placement : Placement
  binding : Binding
  address : LogicalAddress

namespace Search

/-- The binding of a device that speaks certain protocols. -/
def bindingFor (protocol : Sas.PortProtocol) (satLayer : SatLayer) : Binding :=
  if !protocol.reachesAta then .ssp
  else if satLayer.isAvailable then .softwareSat
  else .stp

/-- Find the device once its address is resolved. -/
def locate (s : Search) (satLayer : SatLayer) (resolution : Resolution) : Attempt Located :=
  match resolution with
  | .nvme confirmed =>
    match s.target.form with
    | .os path target => do
      let packed := SasAddress.packedNvme path target s.target.lun
      let confidence ← s.confirmNvme packed confirmed
      return ⟨nvmePlacement packed confidence, .vendorNvme,
        .ofTarget s.target.controller path target s.target.lun⟩
    | _ => throw .noMatch
  | resolution => do
    let table ← s.controller.phyTable
    let placement ← s.place table resolution
    return ⟨placement, bindingFor placement.protocol satLayer,
      .ofPhy s.target.controller placement.port placement.phy s.target.lun⟩

/-- The signature of the device at a phy, when the driver has one. -/
def signatureAt (s : Search) (phy : UInt8) : Attempt (Option SataSignature) :=
  (s.controller.sataSignature phy).unlessDeclined .warn
    fun fault => s!"phy {phy.toNat}: no SATA signature: {fault.message}"

/-- The operating system's address of a device, when the driver has one. -/
def scsiAddressOf (s : Search) (address : SasAddress) : Attempt (Option ScsiAddress) :=
  (s.controller.scsiAddress ⟨address, s.target.sasLun⟩).unlessDeclined .debug
    fun fault => s!"{address.text}: no OS SCSI address: {fault.message}"

/-- What is particular to the kind of the device: the signature of one that takes ATA commands, the
operating system's address of one that does not. -/
def particulars (s : Search) (found : Located) (fetchSignature : Bool) :
    Attempt (Option SataSignature × Option ScsiAddress) := do
  if found.binding = .vendorNvme then return (none, none)
  if found.placement.protocol.reachesAta then
    if fetchSignature then return (← s.signatureAt found.placement.phy, none)
    else return (none, none)
  else return (none, ← s.scsiAddressOf found.placement.sasAddress)

end Search

/-- Find the target behind a controller. -/
def discover (controller : Controller) (target : Target) (options : OpenOptions)
    (collaborators : Collaborators) : Attempt Context := do
  let driver ← controller.driverInfo
  let config ← controller.config
  let status ← controller.status
  if !status.isGood then throw (.controllerUnavailable status.state)
  let family := Driver.Family.classify driver.name
  let traits := family.traits
  let access := collaborators.access driver.name
  if !access.allowsInfo then throw (.accessDenied access)
  let search : Search := ⟨controller, target, options.timeout, traits, access⟩
  if traits ≠ {} then
    Attempt.note .warn <| search.label ++
      s!"driver {driver.name} ({family.name}) needs quirks {traits.describe}"
  let resolution ← search.resolve
  Attempt.note .debug (search.label ++ s!"resolved {resolution.describe}")
  let found ← search.locate collaborators.satLayer resolution
  let (signature, scsiAddress) ← search.particulars found options.fetchSignature
  return {
    controller := controller
    address := found.address.withBase target.base
    port := found.placement.port
    phy := found.placement.phy
    protocol := found.placement.protocol
    sasAddress := found.placement.sasAddress
    sasLun := target.sasLun
    scsiAddress := scsiAddress
    signature := signature
    pmPort := (signature.map (·.pmPort)).getD 0
    driverName := driver.name
    family := family
    traits := traits
    access := access
    capabilities :=
      if config.flags.takesFirmware then family.capabilities.withFirmware else family.capabilities
    confidence := found.placement.confidence
    binding := found.binding }

end DriveReach.Discovery
