/-!
# Return codes

The word in which a driver reports the outcome of a call. Some codes have names; each falls into one
of four outcomes, and a code without a name is a failure.
-/

namespace DriveReach.Csmi

structure ReturnCode where
  value : UInt32
  deriving DecidableEq, Repr

/-- What a return code means to the caller. -/
inductive Outcome where
  | success
  /-- The driver or the device cannot do this. -/
  | notSupported
  /-- The driver refused to write. -/
  | permissionDenied
  | failure
  deriving DecidableEq, Repr

def Outcome.name : Outcome → String
  | success => "Success"
  | notSupported => "NotSupported"
  | permissionDenied => "PermissionDenied"
  | failure => "Failure"

namespace ReturnCode

def success : ReturnCode := ⟨0⟩
/-- The driver does not know the control code. -/
def badControlCode : ReturnCode := ⟨2⟩
/-- The target did not accept the connection. -/
def connectionFailed : ReturnCode := ⟨2008⟩
/-- The driver emulates SCSI for the device and takes no STP command. -/
def scsiEmulation : ReturnCode := ⟨2011⟩

/-- The codes with a name: value, name, outcome. -/
def table : List (UInt32 × String × Outcome) :=
  [(0, "SUCCESS", .success),
    (1, "FAILED", .failure),
    (2, "BAD_CNTL_CODE", .notSupported),
    (3, "INVALID_PARAMETER", .notSupported),
    (4, "WRITE_ATTEMPTED", .permissionDenied),
    (1000, "RAID_SET_OUT_OF_RANGE", .failure),
    (1001, "RAID_SET_BUFFER_TOO_SMALL", .failure),
    (1002, "RAID_SET_DATA_CHANGED", .success),
    (2000, "PHY_INFO_NOT_CHANGEABLE", .notSupported),
    (2001, "LINK_RATE_OUT_OF_RANGE", .failure),
    (2002, "PHY_DOES_NOT_EXIST", .failure),
    (2003, "PHY_DOES_NOT_MATCH_PORT", .failure),
    (2004, "PHY_CANNOT_BE_SELECTED", .failure),
    (2005, "SELECT_PHY_OR_PORT", .failure),
    (2006, "PORT_DOES_NOT_EXIST", .failure),
    (2007, "PORT_CANNOT_BE_SELECTED", .notSupported),
    (2008, "CONNECTION_FAILED", .failure),
    (2009, "NO_SATA_DEVICE", .failure),
    (2010, "NO_SATA_SIGNATURE", .notSupported),
    (2011, "SCSI_EMULATION", .notSupported),
    (2012, "NOT_AN_END_DEVICE", .failure),
    (2013, "NO_SCSI_ADDRESS", .notSupported),
    (2014, "NO_DEVICE_ADDRESS", .notSupported)]

/-- The name of a code and its outcome. -/
def entry? (c : ReturnCode) : Option (String × Outcome) := table.lookup c.value

def name? (c : ReturnCode) : Option String := c.entry?.map (·.1)

/-- The outcome that a code stands for. -/
def outcome (c : ReturnCode) : Outcome := (c.entry?.map (·.2)).getD .failure

/-- The name and, in parentheses, the number. -/
def text (c : ReturnCode) : String := c.name?.getD "UNKNOWN" ++ s!" ({c.value.toNat})"

end ReturnCode

end DriveReach.Csmi
