import DriveReach.Discovery.Probe
import DriveReach.Discovery.Resolve
/-!
# Placing devices

The second step of discovery is to find the phy at which the device is attached: by the address that
the driver gave, or by asking the devices themselves, or, without anything to go by, at the phy that
the handle names.

An address that the driver gave is trusted over an identity that a device reports, and that over the
bare phy of a handle.
-/

namespace DriveReach.Discovery

open Csmi

/-- Where a device is. -/
structure Placement where
  port : UInt8
  phy : UInt8
  protocol : Sas.PortProtocol
  sasAddress : SasAddress
  confidence : Confidence
  deriving DecidableEq, Repr

/-- The place of the device at a phy. -/
def Placement.ofPhy (p : Phy) (confidence : Confidence) : Placement where
  port := p.port
  phy := p.identifier
  protocol := p.attached.target
  sasAddress := p.attached.sasAddress
  confidence := confidence

namespace Search

/-! ## By identity -/

/-- The phy is the one that the target names. -/
def isNamed (s : Search) (p : Phy) : Bool := s.target.phy? == some p.identifier

/-- The phys in the order of asking: the one that the target names first. -/
def askingOrder (s : Search) (phys : List Phy) : List Phy :=
  phys.filter s.isNamed ++ phys.filter fun p => !s.isNamed p

/-- The endpoint of the device at a phy. -/
def endpointAt (s : Search) (p : Phy) : Endpoint :=
  { Endpoint.at p.identifier p.port p.attached.sasAddress with lun := s.target.sasLun }

/-- Whether the device at an endpoint answers to an identity; nothing when it gives no answer, which
`silent` reports. -/
def answers? (s : Search) (identity : Identity) (ep : Endpoint) (ata : Bool)
    (silent : Fault → String) : Dialogue (Option Bool) := do
  match ← (s.identify ep ata).run with
  | .ok reported => return some (identity.accepts reported.model reported.serial)
  | .error fault =>
    Dialogue.debug (silent fault)
    return none

/-- The first of the phys whose device answers to the identity, starting from the one found so far.
Two answers at different ports cannot be told apart. -/
def askPhys (s : Search) (identity : Identity) : Option Phy → List Phy → Attempt (Option Phy)
  | found, [] => return found
  | found, p :: phys => do
    let answer ← ExceptT.lift <| s.answers? identity (s.endpointAt p) p.attached.target.reachesAta
      fun fault => s!"phy {p.identifier.toNat}: identity probe failed: {fault.message}"
    if answer = some true then
      match found with
      | none => s.askPhys identity (some p) phys
      | some earlier =>
        if earlier.port = p.port then s.askPhys identity found phys
        else throw (.ambiguous <| s!"serial {identity.serial} answers on phys " ++
          s!"{earlier.identifier.toNat} and {p.identifier.toNat}")
    else s.askPhys identity found phys

/-- The place of the device that answers to the expected identity, among those at the given phys. -/
def placeByIdentity (s : Search) (phys : List Phy) : Attempt Placement := do
  let some identity := s.target.identity | throw .noMatch
  if !s.access.allowsPassthrough then
    Attempt.note .debug s!"identity probe skipped at access level {s.access.name}"
    throw .noMatch
  match ← s.askPhys identity none (s.askingOrder phys) with
  | some p => return .ofPhy p .liveIdentity
  | none => throw .noMatch

/-! ## By address -/

/-- The place of the device with an address. Phys of one port all reach it. Phys of several ports
do not, unless their address is zero and so belongs to many devices. -/
def placeByAddress (s : Search) (table : PhyTable) (address : SasAddress) : Attempt Placement := do
  match table.attachedAt address with
  | [] => s.placeByIdentity table.endDevices
  | first :: others =>
    if others.all (·.port == first.port) then
      return .ofPhy (((first :: others).find? s.isNamed).getD first) .driverAddress
    else if address.isZero then s.placeByIdentity (first :: others)
    else throw (.ambiguous (address.text ++ " attached on several ports"))

/-! ## By the handle -/

/-- The place that the target names, when an end device is there. -/
def placeByHandle (s : Search) (table : PhyTable) : Attempt Placement := do
  match (s.target.phy?.bind table.phy?).filter (·.hasEndDevice) with
  | none => throw .noMatch
  | some p =>
    Attempt.note .warn <| s.label ++
      s!"phy {p.identifier.toNat} taken from the phy table without identity check"
    return .ofPhy p .phyOnly

/-- The place of the device. -/
def place (s : Search) (table : PhyTable) (resolution : Resolution) : Attempt Placement :=
  match resolution, s.target.identity with
  | .address address, _ => s.placeByAddress table address
  | .unresolved, some _ => s.placeByIdentity table.endDevices
  | _, _ => s.placeByHandle table

/-! ## NVMe devices -/

/-- The endpoint of an NVMe device: the driver finds it by its packed address alone. -/
def nvmeEndpoint (s : Search) (packed : SasAddress) : Endpoint :=
  { Endpoint.at usePortIdentifier ignorePort packed with lun := s.target.sasLun }

/-- How surely the device at a packed address is the one that was meant. -/
def confirmNvme (s : Search) (packed : SasAddress) (confirmed : Bool) : Attempt Confidence := do
  if confirmed then return .driverAddress
  let some identity := s.target.identity | return .phyOnly
  if !s.access.allowsPassthrough then return .phyOnly
  let answer ← ExceptT.lift <| s.answers? identity (s.nvmeEndpoint packed) false
    fun fault => s!"nvme {packed.text}: identity probe failed: {fault.message}"
  if answer = some true then return .liveIdentity else throw .noMatch

/-- The place of an NVMe device. -/
def nvmePlacement (packed : SasAddress) (confidence : Confidence) : Placement where
  port := ignorePort
  phy := usePortIdentifier
  protocol := .ssp
  sasAddress := packed
  confidence := confidence

end Search

end DriveReach.Discovery
