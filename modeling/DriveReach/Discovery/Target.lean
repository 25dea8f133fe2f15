import DriveReach.Device.Collaborators
import DriveReach.Device.Context
/-!
# Discovery targets

What discovery is asked to find, and what it knows while it looks.
-/

namespace DriveReach.Discovery

/-- How a target names its device. -/
inductive Form where
  | phy (port phy : UInt8)
  /-- By the operating system's path and target. -/
  | os (path target : UInt8)
  /-- By an address or identity alone. -/
  | unplaced
  deriving DecidableEq, Repr

/-- What to find. -/
structure Target where
  controller : UInt32
  base : Option String
  form : Form
  lun : UInt8
  identity : Option Identity
  /-- The address of the device, when it is known beforehand. -/
  knownAddress : Option SasAddress
  deriving DecidableEq, Repr

namespace Target

/-- The target that a handle names. -/
def ofAddress (a : LogicalAddress) (identity : Option Identity) : Target where
  controller := a.controller
  base := a.base
  form := if a.alternate then .os a.port a.phy else .phy a.port a.phy
  lun := a.lun
  identity := identity
  knownAddress := none

/-- The phy that the target names. -/
def phy? (t : Target) : Option UInt8 :=
  match t.form with
  | .phy _ phy => some phy
  | _ => none

/-- The unit as SCSI carries it. -/
def sasLun (t : Target) : Lun := #v[0, t.lun, 0, 0, 0, 0, 0, 0]

end Target

/-- A search under way: where, for what, and within which limits. -/
structure Search where
  controller : Controller
  target : Target
  timeout : Csmi.Timeout
  traits : Driver.Traits
  access : Driver.Access

namespace Search

/-- The address can be a device's: it is not zero, or the driver uses zero too. -/
def isUsable (s : Search) (a : SasAddress) : Bool := !a.isZero || s.traits.zeroAddressValid

/-- How log lines name the controller. -/
def label (s : Search) : String := s!"controller {s.target.controller.toNat}: "

end Search

/-- The model and serial number that a device reports. -/
structure Reported where
  model : String
  serial : String
  deriving DecidableEq, Repr

end DriveReach.Discovery
