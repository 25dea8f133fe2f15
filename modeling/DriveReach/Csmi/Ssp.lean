import DriveReach.Fault
import DriveReach.Flags
import DriveReach.Sas.Address
import DriveReach.Transfer
/-!
# SSP exchanges

The payload of an SSP call: 72 bytes of parameters, 268 bytes of status, and the data.

A command of more than 16 bytes goes on in a second field, whose length counts dwords.
-/

namespace DriveReach.Csmi

/-- The connection status of an accepted connection. -/
def openAccept : UInt8 := 0

/-- The connection rate by which the driver chooses the rate. -/
def rateNegotiated : UInt8 := 0

/-- Which way data move. -/
structure SspFlags where
  bits : UInt32
  deriving DecidableEq, Repr

namespace SspFlags

def flags : List Flag := [⟨0x01, "READ"⟩, ⟨0x02, "WRITE"⟩, ⟨0x04, "UNSPECIFIED"⟩]

/-- The flag of a direction. -/
def ofDirection : Direction → SspFlags
  | .inbound => ⟨0x01⟩
  | .outbound => ⟨0x02⟩
  | .none => ⟨0x04⟩

end SspFlags

/-! ## Parameters -/

/-- What an SSP call asks for. -/
structure SspParameters where
  phy : UInt8
  port : UInt8
  rate : UInt8
  destination : SasAddress
  lun : Lun
  cdb : Bytes
  flags : SspFlags
  dataLength : UInt32
  deriving DecidableEq, Repr

namespace SspParameters

/-- The widths of the two command fields. -/
def baseCdbLength : Nat := 16
def additionalCdbLength : Nat := 24

/-- A payload with the parameters written; all other bytes stay. A command of no byte or more than
40 is refused first, then a payload that is too short. -/
def encode (p : SspParameters) (payload : Bytes) : Except Fault Bytes := do
  if p.cdb.isEmpty then throw (.scsi .emptyCdb)
  if Scsi.maxCdbLength < p.cdb.length then throw (.scsi (.cdbTooLong p.cdb.length))
  Layout.sspParameters.require payload
  let base := p.cdb.take baseCdbLength
  let additional := p.cdb.drop baseCdbLength
  let dwords := (additional.length + 3) / 4
  let payload := payload.put 0 [p.phy, p.port, p.rate]
  let payload := Bytes.put payload 4 p.destination.bytes.toList
  let payload := Bytes.put payload 12 p.lun.toList
  let payload := Bytes.put payload 20 [UInt8.ofNat base.length, UInt8.ofNat dwords]
  let payload := Bytes.put payload 24 base
  let payload := Bytes.put payload 40 (Bytes.toLE 4 p.flags.bits.toNat)
  let payload := Bytes.put payload 44 additional
  return Bytes.put payload 68 (Bytes.toLE 4 p.dataLength.toNat)

end SspParameters

/-! ## Status -/

/-- What the response field of an SSP status holds. -/
inductive SspDataPresent where
  | noData
  | responseData
  | senseData
  | other (value : UInt8)
  deriving DecidableEq, Repr

/-- The content a byte stands for. -/
def SspDataPresent.ofByte (b : UInt8) : SspDataPresent :=
  if b = 0 then noData
  else if b = 1 then responseData
  else if b = 2 then senseData
  else other b

def SspDataPresent.name : SspDataPresent → String
  | noData => "NoData"
  | responseData => "ResponseData"
  | senseData => "SenseData"
  | other value => s!"Other({value.toNat})"

/-- How an SSP call ended. -/
structure SspStatus where
  connectionStatus : UInt8
  sspStatus : UInt8
  dataPresent : SspDataPresent
  /-- The SCSI status byte. -/
  status : UInt8
  /-- The length of the response as the driver gives it. -/
  responseLength : UInt16
  response : Bytes
  /-- The number of data bytes moved. -/
  dataBytes : UInt32
  deriving DecidableEq, Repr

namespace SspStatus

/-- The width of the response field. -/
def responseWidth : Nat := 256

/-- The status block at the front of a buffer. The length of the response is big-endian. -/
def decode (s : Bytes) : Except Fault SspStatus := do
  Layout.sspStatus.require s
  let responseLength := s.be16 6
  return {
    connectionStatus := s.byteAt 0
    sspStatus := s.byteAt 1
    dataPresent := .ofByte (s.byteAt 4)
    status := s.byteAt 5
    responseLength := responseLength
    response := s.slice 8 (min responseLength.toNat responseWidth)
    dataBytes := s.le32 264 }

/-- The response, when it is sense data. -/
def sense? (s : SspStatus) : Option Bytes :=
  if s.dataPresent = .senseData then some s.response else none

end SspStatus

/-- The payload in front of the data. -/
def sspFixedLength : Nat := Layout.sspParameters.size + Layout.sspStatus.size

end DriveReach.Csmi
