import DriveReach.Scsi.Status
import DriveReach.Text.Hex
/-!
# SCSI faults

Why a command could not be encoded, was rejected, or answered with too little.
-/

namespace DriveReach.Scsi

/-- The longest command a passthrough request carries. -/
def maxCdbLength : Nat := 40

/-- The responses with a least length. -/
inductive Response where
  | inquiry
  | unitSerialNumber
  deriving DecidableEq, Repr

def Response.name : Response → String
  | inquiry => "INQUIRY"
  | unitSerialNumber => "Unit Serial Number VPD"

/-- A cause of failure at the SCSI level. -/
inductive Fault where
  | cdbTooLong (length : Nat)
  | emptyCdb
  /-- The ATA command needs 48-bit addressing and the 12-byte command has no room for it. -/
  | needsExtendedCdb (command : UInt8)
  | checkCondition (key : SenseKey) (asc ascq : UInt8)
  /-- A status that is not good came without sense data. -/
  | status (status : Status)
  | shortResponse (response : Response) (needed got : Nat)
  deriving DecidableEq, Repr

def Fault.kind : Fault → String
  | cdbTooLong _ => "Scsi.CdbTooLong"
  | emptyCdb => "Scsi.EmptyCdb"
  | needsExtendedCdb _ => "Scsi.NeedsExtendedCdb"
  | checkCondition .. => "Scsi.CheckCondition"
  | status _ => "Scsi.Status"
  | shortResponse .. => "Scsi.ShortResponse"

def Fault.message : Fault → String
  | cdbTooLong length => s!"CDB of {length} bytes exceeds {maxCdbLength} bytes"
  | emptyCdb => "empty CDB"
  | needsExtendedCdb command =>
    "ATA command " ++ Hex.marked command ++
      " needs 48-bit addressing, not expressible in a 12-byte CDB"
  | checkCondition key asc ascq =>
    "check condition: " ++ key.description ++ " (ASC=" ++ Hex.upperMarked asc ++ ", ASCQ=" ++
      Hex.upperMarked ascq ++ ")"
  | status s => "SCSI status " ++ s.name ++ " without sense data"
  | shortResponse r needed got =>
    r.name ++ s!" response too short: need {needed} bytes, got {got}"

end DriveReach.Scsi
