import DriveReach.Ata.Frame
import DriveReach.Csmi.ControllerState
import DriveReach.Csmi.Layout
import DriveReach.Csmi.ReturnCode
import DriveReach.Driver.Access
import DriveReach.Scsi.Fault
/-!
# Faults

Why an operation failed: the call did not reach the driver, the driver answered with a code other
than success, no device fits, or the request cannot be made.

`ReturnCode.check` turns a return code into a fault, and `Layout.require` refuses a buffer shorter
than its structure.
-/

namespace DriveReach

open Csmi (ReturnCode ControllerState Layout)

/-- A request that a device or route does not take. -/
inductive UnsupportedRequest where
  | scsiOnStp
  | ataOnNvme
  | signatureOfNonAta
  | linkErrorsOfNvme
  | firmwareDownload
  | softwareSat
  | identifyAborted
  | inquiryRejected
  deriving DecidableEq, Repr

/-- The request in words. -/
def UnsupportedRequest.text : UnsupportedRequest → String
  | scsiOnStp => "SCSI command on an STP-bound device"
  | ataOnNvme => "ATA command on an NVMe device"
  | signatureOfNonAta => "SATA signature of a non-ATA device"
  | linkErrorsOfNvme => "link errors of an NVMe device"
  | firmwareDownload => "firmware download"
  | softwareSat => "software SAT translation"
  | identifyAborted => "IDENTIFY DEVICE aborted"
  | inquiryRejected => "INQUIRY rejected"

/-- A cause of failure. -/
inductive Fault where
  /-- The call did not go through. -/
  | transport (reason : String)
  | notSupported (code : ReturnCode)
  | permissionDenied (code : ReturnCode)
  | failed (code : ReturnCode)
  | noMatch
  /-- More than one device fits. -/
  | ambiguous (detail : String)
  | unsupported (request : UnsupportedRequest)
  | accessDenied (level : Driver.Access)
  | controllerUnavailable (state : ControllerState)
  | badParameter (detail : String)
  | outOfMemory
  | versionMismatch (expected found : UInt32)
  | truncated (layout : Layout) (needed got : Nat)
  | scsi (fault : Scsi.Fault)
  | frame (fault : Ata.FrameFault)
  deriving DecidableEq, Repr

namespace Fault

def message : Fault → String
  | transport reason => "transport failure: " ++ reason
  | notSupported code => "not supported by the controller driver: " ++ code.text
  | permissionDenied code => "permission denied by the controller driver: " ++ code.text
  | failed code => "controller driver failure: " ++ code.text
  | noMatch => "no matching device"
  | ambiguous detail => "ambiguous device match: " ++ detail
  | unsupported request => "unsupported request: " ++ request.text
  | accessDenied level => "driver access level " ++ level.name ++ " forbids this request"
  | controllerUnavailable state => "controller unavailable: " ++ state.name
  | badParameter detail => "bad parameter: " ++ detail
  | outOfMemory => "memory allocation failed"
  | versionMismatch expected found =>
    s!"device structure version mismatch: expected {expected.toNat}, found {found.toNat}"
  | truncated layout needed got =>
    layout.name ++ s!" truncated: need {needed} bytes, got {got}"
  | scsi fault => fault.message
  | frame fault => fault.message

def kind : Fault → String
  | transport _ => "Transport"
  | notSupported _ => "NotSupported"
  | permissionDenied _ => "PermissionDenied"
  | failed _ => "Failed"
  | noMatch => "NoMatch"
  | ambiguous _ => "Ambiguous"
  | unsupported _ => "Unsupported"
  | accessDenied _ => "AccessDenied"
  | controllerUnavailable _ => "ControllerUnavailable"
  | badParameter _ => "BadParameter"
  | outOfMemory => "MemoryFailure"
  | versionMismatch .. => "VersionMismatch"
  | truncated .. => "Truncated"
  | scsi fault => fault.kind
  | frame fault => fault.kind

/-- The request is not supported, or no device fits it. -/
def isNotSupported : Fault → Bool
  | notSupported _ | noMatch | unsupported _ => true
  | _ => false

/-- The return code with which the driver refused. -/
def returnCode? : Fault → Option ReturnCode
  | notSupported code | permissionDenied code | failed code => some code
  | _ => none

/-- The driver itself refused, so the question has no answer but the driver works. -/
def isDeclined (f : Fault) : Bool := f.returnCode?.isSome

end Fault

/-- A return code as a result. -/
def Csmi.ReturnCode.check (c : ReturnCode) : Except Fault Unit :=
  match c.outcome with
  | .success => .ok ()
  | .notSupported => .error (.notSupported c)
  | .permissionDenied => .error (.permissionDenied c)
  | .failure => .error (.failed c)

/-- A buffer must hold the whole structure. -/
def Csmi.Layout.require (layout : Layout) (b : Bytes) : Except Fault Unit :=
  if b.length < layout.size then .error (.truncated layout layout.size b.length) else .ok ()

end DriveReach
