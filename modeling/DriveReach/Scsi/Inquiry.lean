import DriveReach.Scsi.Fault
import DriveReach.Text.Utf8
import DriveReach.Text
/-!
# INQUIRY responses

The standard inquiry data and the Unit Serial Number page. Their texts are padded with spaces or
NULs, which are cut off at both ends.
-/

namespace DriveReach.Scsi

/-! ## Device types -/

/-- The peripheral device types that are told apart. -/
inductive PeripheralType where
  | directAccess
  | sequentialAccess
  | processor
  | cdDvd
  | storageArrayController
  | enclosureServices
  | simplifiedDirectAccess
  | zonedBlock
  | wellKnown
  | unknown
  deriving DecidableEq, Repr

namespace PeripheralType

/-- The type in the low five bits of a byte. -/
def ofByte (b : UInt8) : PeripheralType :=
  match b &&& 0x1F with
  | 0x00 => directAccess
  | 0x01 => sequentialAccess
  | 0x03 => processor
  | 0x05 => cdDvd
  | 0x0C => storageArrayController
  | 0x0D => enclosureServices
  | 0x0E => simplifiedDirectAccess
  | 0x14 => zonedBlock
  | 0x1E => wellKnown
  | _ => unknown

def code : PeripheralType → UInt8
  | directAccess => 0x00
  | sequentialAccess => 0x01
  | processor => 0x03
  | cdDvd => 0x05
  | storageArrayController => 0x0C
  | enclosureServices => 0x0D
  | simplifiedDirectAccess => 0x0E
  | zonedBlock => 0x14
  | wellKnown => 0x1E
  | unknown => 0x1F

def name : PeripheralType → String
  | directAccess => "DirectAccess"
  | sequentialAccess => "SequentialAccess"
  | processor => "Processor"
  | cdDvd => "CdDvd"
  | storageArrayController => "StorageArrayController"
  | enclosureServices => "EnclosureServices"
  | simplifiedDirectAccess => "SimplifiedDirectAccess"
  | zonedBlock => "ZonedBlock"
  | wellKnown => "WellKnown"
  | unknown => "Unknown"

/-- The device holds blocks. -/
def isBlockDevice : PeripheralType → Bool
  | directAccess | simplifiedDirectAccess | zonedBlock => true
  | _ => false

end PeripheralType

/-! ## Standard data -/

/-- A text field without the spaces and NULs around it. -/
def fieldText (b : Bytes) : String :=
  String.ofList (Text.trimBy (fun c => c == ' ' || c == '\x00') (Utf8.decode b))

/-- The length of the standard data. -/
def standardInquiryLength : Nat := 36

/-- The standard inquiry data. -/
structure InquiryData where
  peripheral : UInt8
  /-- The byte with the removable-medium bit. -/
  removable : UInt8
  version : UInt8
  vendor : Vector UInt8 8
  product : Vector UInt8 16
  revision : Vector UInt8 4
  deriving DecidableEq, Repr

namespace InquiryData

/-- The inquiry data at the front of a buffer. -/
def parse (b : Bytes) : Except Fault InquiryData :=
  if b.length < standardInquiryLength then
    .error (.shortResponse .inquiry standardInquiryLength b.length)
  else .ok {
    peripheral := b.byteAt 0
    removable := b.byteAt 1
    version := b.byteAt 2
    vendor := b.fixed 8 8
    product := b.fixed 16 16
    revision := b.fixed 4 32 }

def deviceType (d : InquiryData) : PeripheralType := .ofByte d.peripheral

/-- The peripheral qualifier, zero for a connected device. -/
def qualifier (d : InquiryData) : UInt8 := (d.peripheral >>> 5) &&& 0x07

def isConnected (d : InquiryData) : Bool := d.qualifier == 0

def vendorText (d : InquiryData) : String := fieldText d.vendor.toList

def productText (d : InquiryData) : String := fieldText d.product.toList

def revisionText (d : InquiryData) : String := fieldText d.revision.toList

/-- The model number: vendor and product, or the product alone. -/
def model (d : InquiryData) : String :=
  if d.vendorText.isEmpty then d.productText else d.vendorText ++ " " ++ d.productText

end InquiryData

/-! ## Vital product data -/

namespace VpdPage

def supportedPages : UInt8 := 0x00
def unitSerialNumber : UInt8 := 0x80
def deviceIdentification : UInt8 := 0x83
def ataInformation : UInt8 := 0x89

end VpdPage

/-- The serial number in a Unit Serial Number page. Any other page counts as too short. -/
def parseUnitSerial (b : Bytes) : Except Fault String :=
  if b.length < 4 ∨ b.byteAt 1 ≠ VpdPage.unitSerialNumber then
    .error (.shortResponse .unitSerialNumber 4 b.length)
  else .ok (fieldText (b.slice 4 (Bytes.be16 b 2).toNat))

end DriveReach.Scsi
