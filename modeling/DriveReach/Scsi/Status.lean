/-!
# SCSI status and sense codes

The status byte, the sense key, and the additional codes this library looks at.
-/

namespace DriveReach.Scsi

/-! ## Operation codes -/

namespace Opcode

def testUnitReady : UInt8 := 0x00
def requestSense : UInt8 := 0x03
def inquiry : UInt8 := 0x12
def readCapacity10 : UInt8 := 0x25
def read10 : UInt8 := 0x28
def write10 : UInt8 := 0x2A
def writeBuffer : UInt8 := 0x3B
def logSense : UInt8 := 0x4D
def ataPassThrough16 : UInt8 := 0x85
def read16 : UInt8 := 0x88
def write16 : UInt8 := 0x8A
def serviceActionIn16 : UInt8 := 0x9E
def reportLuns : UInt8 := 0xA0
def ataPassThrough12 : UInt8 := 0xA1
/-- The service action that reads the capacity. -/
def readCapacity16 : UInt8 := 0x10

end Opcode

/-! ## Status -/

/-- The outcome of a command as the device reports it. -/
inductive Status where
  | good
  | checkCondition
  | conditionMet
  | busy
  | reservationConflict
  | taskSetFull
  | acaActive
  | taskAborted
  deriving DecidableEq, Repr

namespace Status

/-- The status in bits 6:1 of a byte; an undefined one counts as a check condition. -/
def ofByte (b : UInt8) : Status :=
  match b &&& 0x7E with
  | 0x00 => good
  | 0x02 => checkCondition
  | 0x04 => conditionMet
  | 0x08 => busy
  | 0x18 => reservationConflict
  | 0x28 => taskSetFull
  | 0x30 => acaActive
  | 0x40 => taskAborted
  | _ => checkCondition

/-- The status byte. -/
def code : Status → UInt8
  | good => 0x00
  | checkCondition => 0x02
  | conditionMet => 0x04
  | busy => 0x08
  | reservationConflict => 0x18
  | taskSetFull => 0x28
  | acaActive => 0x30
  | taskAborted => 0x40

def name : Status → String
  | good => "Good"
  | checkCondition => "CheckCondition"
  | conditionMet => "ConditionMet"
  | busy => "Busy"
  | reservationConflict => "ReservationConflict"
  | taskSetFull => "TaskSetFull"
  | acaActive => "AcaActive"
  | taskAborted => "TaskAborted"

/-- The command succeeded. -/
def isGood : Status → Bool
  | good | conditionMet => true
  | _ => false

/-- Sense data come with the status. -/
def hasSense : Status → Bool
  | checkCondition => true
  | _ => false

end Status

/-! ## Sense keys -/

/-- The class of a condition. -/
inductive SenseKey where
  | noSense
  | recoveredError
  | notReady
  | mediumError
  | hardwareError
  | illegalRequest
  | unitAttention
  | dataProtect
  | blankCheck
  | vendorSpecific
  | copyAborted
  | abortedCommand
  | equal
  | volumeOverflow
  | miscompare
  | completed
  deriving DecidableEq, Repr

namespace SenseKey

/-- The key in the low half of a byte. -/
def ofByte (b : UInt8) : SenseKey :=
  match b &&& 0x0F with
  | 0x00 => noSense
  | 0x01 => recoveredError
  | 0x02 => notReady
  | 0x03 => mediumError
  | 0x04 => hardwareError
  | 0x05 => illegalRequest
  | 0x06 => unitAttention
  | 0x07 => dataProtect
  | 0x08 => blankCheck
  | 0x09 => vendorSpecific
  | 0x0A => copyAborted
  | 0x0B => abortedCommand
  | 0x0C => equal
  | 0x0D => volumeOverflow
  | 0x0E => miscompare
  | _ => completed

def code : SenseKey → UInt8
  | noSense => 0x00
  | recoveredError => 0x01
  | notReady => 0x02
  | mediumError => 0x03
  | hardwareError => 0x04
  | illegalRequest => 0x05
  | unitAttention => 0x06
  | dataProtect => 0x07
  | blankCheck => 0x08
  | vendorSpecific => 0x09
  | copyAborted => 0x0A
  | abortedCommand => 0x0B
  | equal => 0x0C
  | volumeOverflow => 0x0D
  | miscompare => 0x0E
  | completed => 0x0F

def name : SenseKey → String
  | noSense => "NoSense"
  | recoveredError => "RecoveredError"
  | notReady => "NotReady"
  | mediumError => "MediumError"
  | hardwareError => "HardwareError"
  | illegalRequest => "IllegalRequest"
  | unitAttention => "UnitAttention"
  | dataProtect => "DataProtect"
  | blankCheck => "BlankCheck"
  | vendorSpecific => "VendorSpecific"
  | copyAborted => "CopyAborted"
  | abortedCommand => "AbortedCommand"
  | equal => "Equal"
  | volumeOverflow => "VolumeOverflow"
  | miscompare => "Miscompare"
  | completed => "Completed"

/-- The key in words. -/
def description : SenseKey → String
  | noSense => "No sense"
  | recoveredError => "Recovered error"
  | notReady => "Not ready"
  | mediumError => "Medium error"
  | hardwareError => "Hardware error"
  | illegalRequest => "Illegal request"
  | unitAttention => "Unit attention"
  | dataProtect => "Data protect"
  | blankCheck => "Blank check"
  | vendorSpecific => "Vendor specific"
  | copyAborted => "Copy aborted"
  | abortedCommand => "Aborted command"
  | equal => "Equal"
  | volumeOverflow => "Volume overflow"
  | miscompare => "Miscompare"
  | completed => "Completed"

end SenseKey

/-! ## Additional sense codes -/

namespace SenseCode

def noAdditionalSense : UInt8 := 0x00
def unitNotReady : UInt8 := 0x04
def invalidOpcode : UInt8 := 0x20
def invalidFieldInCdb : UInt8 := 0x24
def unitNotSupported : UInt8 := 0x25
def internalTargetFailure : UInt8 := 0x44

end SenseCode

namespace SenseQualifier

def none : UInt8 := 0x00
/-- With no additional sense code: the sense data carry ATA registers. -/
def ataPassThroughInfo : UInt8 := 0x1D

end SenseQualifier

end DriveReach.Scsi
