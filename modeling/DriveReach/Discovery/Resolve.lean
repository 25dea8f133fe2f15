import DriveReach.Discovery.Target
/-!
# Resolving addresses

The first step of discovery is to learn the device's SAS address: it is known beforehand, or the
driver names the one behind the operating system's address, or a RAID set lists a drive with the
expected identity. A driver that packs NVMe addresses shows in this way that the device is one.
-/

namespace DriveReach.Discovery

open Csmi

/-- What the driver says about the device's address. -/
inductive Resolution where
  | address (address : SasAddress)
  /-- An NVMe device behind a packed address; `confirmed` when the driver reported that address. -/
  | nvme (confirmed : Bool)
  | unresolved
  deriving DecidableEq, Repr

def Resolution.describe : Resolution → String
  | address a =>
    "Address(SasAddress([" ++
      String.intercalate ", " (a.bytes.toList.map fun b => toString b.toNat) ++ "]))"
  | nvme confirmed => "Nvme \x7b confirmed: " ++ toString confirmed ++ " \x7d"
  | unresolved => "Unresolved"

namespace Search

/-! ## RAID sets -/

/-- The RAID set with an index, or none when the driver declines. -/
def raidSet (s : Search) (info : RaidInfo) (index : UInt32) : Attempt (Option RaidConfig) :=
  (s.controller.raidConfig index info.maxDrivesPerSet.toNat).unlessDeclined .debug
    fun fault => s.label ++ s!"raid set {index.toNat}: {fault.message}"

/-- The address at which the drives of a list with the expected identity are, starting from the one
found so far. -/
def mergeMatches (identity : Identity) :
    Option SasAddress → List RaidDrive → Except Fault (Option SasAddress)
  | found, [] => .ok found
  | found, drive :: drives =>
    if identity.accepts drive.model drive.serialNumber then
      match found with
      | none => mergeMatches identity (some drive.sasAddress) drives
      | some address =>
        if address = drive.sasAddress then mergeMatches identity found drives
        else .error (.ambiguous <| s!"serial {identity.serial} reported at {address.text} and " ++
          drive.sasAddress.text)
    else mergeMatches identity found drives

/-- The address found in `count` RAID sets from an index on. -/
def scanSets (s : Search) (identity : Identity) (info : RaidInfo) :
    Nat → UInt32 → Option SasAddress → Attempt (Option SasAddress)
  | 0, _, found => return found
  | count + 1, index, found => do
    let found ← match ← s.raidSet info index with
      | none => pure found
      | some config => Attempt.ofExcept (mergeMatches identity found config.countableDrives)
    s.scanSets identity info count (index + 1) found

/-- The usable address of the drive with the expected identity in any RAID set. A controller without
RAID has none. -/
def scanRaid (s : Search) (identity : Identity) : Attempt (Option SasAddress) := do
  match ← Attempt.outcome s.controller.raidInfo with
  | .error fault => if fault.isNotSupported then return none else throw fault
  | .ok info =>
    let first := s.traits.firstRaidSet
    let found ← s.scanSets identity info (info.setCount first) first none
    return found.filter s.isUsable

/-! ## Resolution -/

/-- The address that the driver gives for one of the operating system. A controller whose number is
no host number has none, nor has a driver that hangs on the question. -/
def askDriver (s : Search) (path target : UInt8) : Attempt (Option SasAddress) := do
  if s.traits.skipsDeviceAddress then return none
  if UInt8.size ≤ s.target.controller.toNat then
    Attempt.note .debug (s.label ++ "beyond the SCSI host range, no device address")
    return none
  let device : ScsiAddress := ⟨s.target.controller.toUInt8, path, target, s.target.lun⟩
  let location ← (s.controller.deviceAddress device).unlessDeclined .debug
    fun fault => s.label ++ s!"no device address: {fault.message}"
  return location.map (·.address)

/-- What the address from the driver says, if it decides. -/
def ofReported? (s : Search) (path target : UInt8) (reported : Option SasAddress) :
    Option Resolution :=
  let packed := SasAddress.packedNvme path target s.target.lun
  if s.traits.packsNvmeAddress && reported == none then some (.nvme false)
  else if s.traits.packsNvmeAddress && reported == some packed then some (.nvme true)
  else (reported.filter s.isUsable).map .address

/-- What the operating system's address says, if the target has one and it decides. -/
def resolveForm (s : Search) : Attempt (Option Resolution) :=
  match s.target.form with
  | .os path target => do
    let reported ← s.askDriver path target
    return s.ofReported? path target reported
  | _ => return none

/-- What the expected identity says. -/
def resolveIdentity (s : Search) : Attempt Resolution :=
  match s.target.identity with
  | some identity => do
    match ← s.scanRaid identity with
    | some address => return .address address
    | none => return .unresolved
  | none => return .unresolved

/-- What the driver says about the device's address. -/
def resolve (s : Search) : Attempt Resolution := do
  match s.target.knownAddress.filter s.isUsable with
  | some address => return .address address
  | none =>
    match ← s.resolveForm with
    | some resolution => return resolution
    | none => s.resolveIdentity

end Search

end DriveReach.Discovery
