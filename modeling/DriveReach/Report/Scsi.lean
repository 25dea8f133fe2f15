import DriveReach.Report.Ata
import DriveReach.Sas.Link
import DriveReach.Scsi.Inquiry
import DriveReach.Scsi.SenseBuffer
/-!
# Reports on SCSI

Sense data in every reading, inquiry data, and the codes that one byte can stand for.
-/

namespace DriveReach

open Scsi

instance : Reportable Status := ⟨fun s => .text s.name⟩
instance : Reportable SenseKey := ⟨fun k => .text k.name⟩
instance : Reportable PeripheralType := ⟨fun t => .text t.name⟩
instance : Reportable Sas.LinkRate := ⟨fun r => .text r.name⟩
instance : Reportable Sas.DeviceType := ⟨fun t => .text t.name⟩
instance : Reportable Sas.PortProtocol :=
  ⟨fun p => .flags Sas.PortProtocol.flags p.bits.toNat⟩

/-! ## Sense data -/

instance : Reportable SenseSummary := ⟨fun s => .record [
  ("format", match s.format with
    | .fixed => "Fixed"
    | .descriptor => "Descriptor"),
  ("sense_key", s.key), ("description", s.key.description), ("asc", s.asc), ("ascq", s.ascq),
  ("invalid_opcode", s.isInvalidOpcode), ("ata_info", s.isAtaInfo)]⟩

instance : Reportable FixedSense := ⟨fun s => .record [
  ("response_code", s.responseCode), ("sense_key_byte", s.keyByte), ("sense_key", s.key),
  ("information", s.information), ("additional_length", s.additionalLength),
  ("command_info", s.commandInformation), ("asc", s.asc), ("ascq", s.ascq)]⟩

instance : Reportable DescriptorHeader := ⟨fun s => .record [
  ("response_code", s.responseCode), ("sense_key_byte", s.keyByte), ("sense_key", s.key),
  ("asc", s.asc), ("ascq", s.ascq), ("additional_length", s.additionalLength)]⟩

instance : Reportable Descriptor := ⟨fun d => .list [d.code, .hex d.bytes]⟩

/-- Every reading of sense data. -/
def Report.sense (b : Bytes) : Report := .record [
  ("summary", SenseSummary.parse? b), ("fixed", FixedSense.parse? b),
  ("descriptor", DescriptorHeader.parse? b), ("descriptors", .listOf (descriptors b)),
  ("registers", parseAtaStatusReturn? b)]

instance : Reportable SenseBuffer := ⟨fun s => .record [
  ("empty", s.isEmpty), ("slice", .hex s.valid), ("raw", .trimmed s.raw.toList),
  ("summary", s.summary?), ("registers", s.ataRegisters?)]⟩

/-- Registers with their flags, and their way through sense data. -/
def Report.registers (r : Ata.Registers) (extended : Bool) : Report :=
  let sense := ataStatusReturn r extended
  .record [("lba", r.lba), ("count", r.sectorCount),
    ("status_flags", .flags Ata.statusFlags r.status.toNat),
    ("error_flags", .flags Ata.errorFlags r.error.toNat), ("is_error", r.isError),
    ("sense", .hex sense.valid), ("back", sense.ataRegisters?)]

/-! ## Inquiry data -/

instance : Reportable InquiryData := ⟨fun d => .record [
  ("peripheral", d.peripheral), ("rmb", d.removable), ("version", d.version),
  ("vendor", d.vendor), ("product", d.product), ("revision", d.revision),
  ("device_type", d.deviceType), ("block_device", d.deviceType.isBlockDevice),
  ("qualifier", d.qualifier), ("connected", d.isConnected), ("vendor_str", d.vendorText),
  ("product_str", d.productText), ("revision_str", d.revisionText), ("model", d.model)]⟩

/-! ## Bytes -/

/-- What a byte stands for as a status, a sense key, a peripheral type, a link rate, and the type
byte of an identify frame. -/
def Report.codes (b : UInt8) : Report :=
  let status := Status.ofByte b
  let key := SenseKey.ofByte b
  let peripheral := PeripheralType.ofByte b
  let rate := Sas.LinkRate.ofByte b
  let device := Sas.DeviceType.ofIdentifyByte b
  .record [("status", status), ("good", status.isGood), ("has_sense", status.hasSense),
    ("sense_key", key), ("description", key.description), ("device_type", peripheral),
    ("block_device", peripheral.isBlockDevice), ("link_rate", rate), ("mbps", rate.mbps),
    ("sas_device_type", device), ("identify_byte", device.toIdentifyByte),
    ("codes", .listOf [status.code, key.code, peripheral.code, rate.code, device.code])]

/-- A SAS address in all its forms. -/
def Report.sasAddress (a : SasAddress) : Report := .record [
  ("bytes", a.bytes), ("u64", a.toNumber), ("zero", a.isZero), ("text", a)]

end DriveReach
