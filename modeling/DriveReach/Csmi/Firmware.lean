import DriveReach.Fault
import DriveReach.Flags
/-!
# Firmware download

A download is a structure of 44 bytes with the image behind it.
-/

namespace DriveReach.Csmi

/-- What to do with an image. -/
structure FirmwareFlags where
  bits : UInt32
  deriving DecidableEq, Repr

namespace FirmwareFlags

def flags : List Flag := [⟨0x01, "VALIDATE"⟩, ⟨0x02, "SOFT_RESET"⟩, ⟨0x04, "HARD_RESET"⟩]

def describe (f : FirmwareFlags) : String :=
  "FirmwareFlags(" ++ Flag.describe flags f.bits.toNat ++ ")"

end FirmwareFlags

/-- What became of an image. -/
inductive FirmwareStatus where
  | success
  | failed
  | inProgress
  | older
  | same
  | newer
  | other (value : UInt16)
  deriving DecidableEq, Repr

/-- The status a word stands for. -/
def FirmwareStatus.ofWord (w : UInt16) : FirmwareStatus :=
  if w = 0 then success
  else if w = 1 then failed
  else if w = 2 then inProgress
  else if w = 3 then older
  else if w = 4 then same
  else if w = 5 then newer
  else other w

def FirmwareStatus.name : FirmwareStatus → String
  | success => "Success"
  | failed => "Failed"
  | inProgress => "Using"
  | older => "Old"
  | same => "Same"
  | newer => "Newer"
  | other value => s!"Other({value.toNat})"

/-- The driver's report on a download. -/
structure FirmwareReport where
  status : FirmwareStatus
  /-- From 0 for information to 3 for fatal. -/
  severity : UInt16
  deriving DecidableEq, Repr

namespace FirmwareReport

/-- A payload with the download structure cleared and filled; the image behind it stays. -/
def putRequest (payload : Bytes) (imageLength : UInt32) (flags : FirmwareFlags) : Bytes :=
  let payload := payload.put 0 (Bytes.zeros Layout.firmwareDownload.size)
  let payload := Bytes.put payload 0 (Bytes.toLE 4 imageLength.toNat)
  Bytes.put payload 4 (Bytes.toLE 4 flags.bits.toNat)

/-- `putRequest` for a payload of any length. -/
def putRequest? (payload : Bytes) (imageLength : UInt32) (flags : FirmwareFlags) : Option Bytes :=
  payload.within Layout.firmwareDownload.size (putRequest · imageLength flags)

/-- The report at the front of a buffer. -/
def decode (b : Bytes) : Except Fault FirmwareReport := do
  Layout.firmwareDownload.require b
  return ⟨.ofWord (b.le16 40), b.le16 42⟩

end FirmwareReport

end DriveReach.Csmi
