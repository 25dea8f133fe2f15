import DriveReach.Discovery.Target
import DriveReach.Inventory.PhySet
/-!
# Surveying a controller

A survey finds the devices of one controller without opening them. The drives of its RAID sets come
first; for those that no entry names, and for a controller without RAID, the phy table is searched.

A drive is named by its serial number or its address (`DriveName`), and a name is taken once.
-/

namespace DriveReach.Inventory

open Csmi
open Discovery (Form)

/-- Which devices are wanted. -/
structure Filter where
  bits : UInt32
  deriving DecidableEq, Repr

namespace Filter

def flags : List Flag :=
  [⟨0x01, "SKIP_PHY_FALLBACK"⟩, ⟨0x02, "SATA_ONLY"⟩, ⟨0x04, "SAS_ONLY"⟩]

def skipsPhys (f : Filter) : Bool := f.bits &&& 0x01 != 0

def sataOnly (f : Filter) : Bool := f.bits &&& 0x02 != 0

def sasOnly (f : Filter) : Bool := f.bits &&& 0x04 != 0

/-- A device is wanted, given whether it is a SATA device. -/
def wants (f : Filter) (sata : Bool) : Bool := if sata then !f.sasOnly else !f.sataOnly

end Filter

/-- A device that a survey found. -/
structure Found where
  form : Form
  knownAddress : Option SasAddress
  identity : Option Identity
  deriving DecidableEq, Repr

/-! ## RAID drives -/

/-- What tells a drive from others. -/
inductive DriveName where
  | serial (serial : String)
  | address (address : SasAddress)
  deriving DecidableEq, Repr

/-- The address of a drive, if it may be used as one: a zero address only where the driver's traits
allow it. -/
def driveAddress (traits : Driver.Traits) (d : RaidDrive) : Option SasAddress :=
  if d.sasAddress.isZero && !traits.zeroAddressValid then none else some d.sasAddress

/-- The identity of a drive with a serial number. -/
def driveIdentity (d : RaidDrive) : Option Identity :=
  let serial := Text.trim d.serialNumber
  if serial.isEmpty then none else some ⟨Text.trim d.model, serial⟩

/-- The name of a drive: its serial number, or else its address unless that is zero. -/
def driveName (traits : Driver.Traits) (d : RaidDrive) : Option DriveName :=
  match driveIdentity d with
  | some identity => some (.serial identity.serial)
  | none => ((driveAddress traits d).filter (!·.isZero)).map .address

/-- What is known of a controller's drives part-way through its RAID sets. -/
structure Drives where
  found : List Found := []
  names : List DriveName := []
  /-- The addresses of the drives found. -/
  addresses : List SasAddress := []
  /-- The number of drives without a name. -/
  unnamed : Nat := 0
  deriving DecidableEq, Repr

namespace Drives

/-- Take up a drive under its name, if the name is new. -/
def record (ds : Drives) (traits : Driver.Traits) (d : RaidDrive) (name : DriveName) : Drives :=
  if ds.names.contains name then ds
  else { ds with
    names := ds.names ++ [name]
    addresses := ds.addresses ++ ((driveAddress traits d).filter (!·.isZero)).toList
    found := ds.found ++ [⟨.unplaced, driveAddress traits d, driveIdentity d⟩] }

/-- Take up a drive. -/
def add (ds : Drives) (traits : Driver.Traits) (d : RaidDrive) : Drives :=
  match driveName traits d with
  | none => { ds with unnamed := ds.unnamed + 1 }
  | some name => ds.record traits d name

/-- Take up the drives of a set that are in use and wanted. -/
def addSet (ds : Drives) (filter : Filter) (traits : Driver.Traits) (set : RaidConfig) : Drives :=
  (set.countableDrives.filter fun d => filter.wants d.driveType.isSata).foldl
    (fun ds d => ds.add traits d) ds

end Drives

/-- The drives of `count` RAID sets from an index on; a set that the driver declines has none. -/
def surveySets (c : Controller) (filter : Filter) (traits : Driver.Traits) (info : RaidInfo) :
    Nat → UInt32 → Drives → Attempt Drives
  | 0, _, ds => return ds
  | count + 1, index, ds => do
    let set ← (c.raidConfig index info.maxDrivesPerSet.toNat).unlessDeclined .debug
      fun fault => s!"controller {c.number.toNat}: raid set {index.toNat}: {fault.message}"
    let ds := match set with
      | none => ds
      | some set => ds.addSet filter traits set
    surveySets c filter traits info count (index + 1) ds

/-! ## Phys -/

/-- How many devices are to be looked for at the phys. -/
inductive Shortfall where
  | none
  | upTo (count : Nat)
  /-- The controller has no RAID: every device. -/
  | unbounded
  deriving DecidableEq, Repr

/-- The number of devices found at phys does not yet cover the shortfall. -/
def Shortfall.exceeds (s : Shortfall) (found : Nat) : Bool :=
  match s with
  | none => false
  | upTo count => found < count
  | unbounded => true

/-- The phys at which devices with the given addresses are attached. -/
def claimAddresses (table : PhyTable) (addresses : List SasAddress) : PhySet :=
  (addresses.flatMap table.attachedAt).foldl (fun set p => (set.claim p.identifier).2) .empty

/-- The device at a phy. -/
def foundAt (p : Phy) : Found := ⟨.phy p.port p.identifier, none, none⟩

/-- The wanted devices at phys that are not claimed, in order, until `found` of them cover the
shortfall. -/
def searchPhys (filter : Filter) (shortfall : Shortfall) :
    List Phy → PhySet → Nat → List Found
  | [], _, _ => []
  | p :: phys, claimed, found =>
    if !shortfall.exceeds found then []
    else if !filter.wants p.attached.target.reachesAta then
      searchPhys filter shortfall phys claimed found
    else match claimed.claim p.identifier with
      | (true, claimed) => foundAt p :: searchPhys filter shortfall phys claimed (found + 1)
      | (false, claimed) => searchPhys filter shortfall phys claimed found

/-! ## The survey -/

/-- The drives that the RAID sets name, and how many devices they leave to look for. -/
def surveyRaid (c : Controller) (filter : Filter) (traits : Driver.Traits) :
    Attempt (Drives × Shortfall) := do
  match ← Attempt.outcome c.raidInfo with
  | .error fault =>
    if fault.isNotSupported then
      Attempt.note .debug s!"controller {c.number.toNat}: no RAID support, walking phys"
      return ({}, .unbounded)
    else throw fault
  | .ok info =>
    let first := traits.firstRaidSet
    let ds ← surveySets c filter traits info (info.setCount first) first {}
    return (ds, if ds.unnamed = 0 then .none else .upTo ds.unnamed)

/-- The devices behind a controller. -/
def survey (c : Controller) (filter : Filter) : Attempt (List Found) := do
  let driver ← c.driverInfo
  let (ds, shortfall) ← surveyRaid c filter (Driver.Family.classify driver.name).traits
  if shortfall = .none then return ds.found
  if filter.skipsPhys then
    Attempt.note .debug s!"controller {c.number.toNat}: phy fallback skipped"
    return ds.found
  let table ← c.phyTable
  return ds.found ++
    searchPhys filter shortfall table.endDevices (claimAddresses table ds.addresses) 0

/-- Attach to a controller and survey it. -/
def surveyController (base : Option String) (number : UInt32) (filter : Filter) :
    Attempt (List Found) := do
  let channel ← ExceptT.mk (Dialogue.attach base number .done)
  survey { channel := channel, number := number } filter

end DriveReach.Inventory
