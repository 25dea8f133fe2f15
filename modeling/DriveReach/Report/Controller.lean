import DriveReach.Csmi.AddressMap
import DriveReach.Csmi.ControllerInfo
import DriveReach.Csmi.Firmware
import DriveReach.Csmi.Header
import DriveReach.Csmi.PhyTable
import DriveReach.Csmi.RaidSet
import DriveReach.Csmi.Ssp
import DriveReach.Report.Scsi
/-!
# Reports on controllers

What drivers say about a controller, its RAID sets and its phys, and how an exchange ended.
-/

namespace DriveReach

open Csmi

/-! ## Calls -/

instance : Reportable CallDirection := ⟨fun d => .text d.name⟩

instance : Reportable ControlCode := ⟨fun c => .record [
  ("name", c.name), ("code", c.code), ("signature", c.signature.text),
  ("signature_bytes", c.signature.bytes), ("signature_debug", c.signature.describe),
  ("timeout_secs", c.timeout.seconds), ("direction", c.direction)]⟩

/-- A return code and the result it stands for. -/
instance : Reportable ReturnCode := ⟨fun c => .record [
  ("name", c.name?), ("normalized", c.outcome.name), ("text", c.text),
  ("result", c.check.map fun _ => "ok")]⟩

/-! ## Controllers -/

instance : Reportable Version := ⟨fun v => .listOf [v.major, v.minor, v.build, v.release]⟩

instance : Reportable DriverInfo := ⟨fun d => .record [
  ("name", d.name), ("description", d.description), ("version", d.version),
  ("csmi_revision", .listOf [d.revisionMajor, d.revisionMinor])]⟩

instance : Reportable PciAddress := ⟨fun p => .listOf [p.bus, p.device, p.function]⟩

instance : Reportable ControllerConfig := ⟨fun c => .record [
  ("base_io", c.baseIoAddress), ("base_memory", c.baseMemoryAddress), ("board_id", c.boardId),
  ("slot", c.slotNumber), ("class", c.controllerClass), ("bus_type", c.busType), ("pci", c.pci),
  ("serial", c.serialNumber), ("revision", c.revision), ("bios_revision", c.biosRevision),
  ("flags", .flags ControllerFlags.flags c.flags.bits.toNat),
  ("rrom_revision", c.romRevision), ("rrom_bios_revision", c.romBiosRevision)]⟩

instance : Reportable ControllerStatus := ⟨fun s => .record [
  ("state", s.state.name), ("offline_reason", s.offlineReason), ("good", s.isGood)]⟩

instance : Reportable FirmwareReport := ⟨fun r => .record [
  ("status", r.status.name), ("severity", r.severity)]⟩

/-! ## RAID -/

instance : Reportable RaidInfo := ⟨fun r => .record [
  ("num_raid_sets", r.raidSets), ("max_drives_per_set", r.maxDrivesPerSet),
  ("max_raid_sets", r.maxRaidSets), ("max_raid_types", r.maxRaidTypes),
  ("min_blocks", r.minSetBlocks), ("max_blocks", r.maxSetBlocks),
  ("max_physical_drives", r.maxPhysicalDrives), ("max_extents", r.maxExtents),
  ("max_modules", r.maxModules), ("max_transformation_memory", r.maxTransformationMemory),
  ("change_count", r.changeCount)]⟩

instance : Reportable RaidDrive := ⟨fun d => .record [
  ("model", d.model), ("firmware", d.firmware), ("serial", d.serialNumber),
  ("sas_address", d.sasAddress), ("sas_lun", d.sasLun), ("status", d.status),
  ("usage", d.usage.name), ("countable", d.usage.isCountable), ("block_size", d.blockSize),
  ("drive_type", d.driveType.name), ("sata", d.driveType.isSata), ("drive_index", d.driveIndex),
  ("total_user_blocks", d.totalUserBlocks), ("identifiable", d.isIdentifiable)]⟩

instance : Reportable RaidConfig := ⟨fun r => .record [
  ("index", r.index), ("capacity", r.capacity), ("stripe_size", r.stripeSize),
  ("raid_type", r.raidType), ("status", r.status), ("information", r.information),
  ("reported", r.reportedDrives), ("data_type", r.dataType), ("failure_code", r.failureCode),
  ("change_count", r.changeCount), ("drives", .listOf r.drives),
  ("countable_models", .listOf (r.countableDrives.map (·.model)))]⟩

instance : Reportable RaidType := ⟨fun t => .list [t.raidType, t.stripeSizes]⟩

instance : Reportable RaidFeatures := ⟨fun r => .record [
  ("features", .flags RaidFeatureFlags.flags r.features.bits.toNat),
  ("priorities", .listOf [r.defaultTransformPriority, r.transformPriority,
    r.defaultRebuildPriority, r.rebuildPriority, r.defaultSurfaceScanPriority,
    r.surfaceScanPriority]),
  ("transformation_rules", r.transformationRules), ("raid_types", .listOf r.raidTypes)]⟩

/-! ## Phys -/

instance : Reportable SasIdentify := ⟨fun s => .record [
  ("device_type", s.deviceType), ("initiator", s.initiator.bits), ("target", s.target.bits),
  ("ata", s.target.reachesAta), ("sas_address", s.sasAddress), ("phy", s.phy),
  ("signal_class", s.signalClass)]⟩

instance : Reportable Phy := ⟨fun p => .record [
  ("index", p.index), ("identify", p.identify), ("port", p.port), ("rate", p.rate),
  ("min", p.minimumRate), ("max", p.maximumRate), ("change_count", p.changeCount),
  ("auto_discover", p.autoDiscover), ("features", p.features), ("attached", p.attached),
  ("end_device", p.hasEndDevice)]⟩

instance : Reportable PhyTable := ⟨fun t => .record [
  ("number_of_phys", t.reported), ("phys", .listOf t.phys)]⟩

/-- A phy table with the places of its end devices, of those at some addresses, and of the phys with
some identifiers. -/
def Report.phySearch (t : PhyTable) (addresses : List SasAddress) (identifiers : List UInt8) :
    Report :=
  let places (phys : List Phy) : Report := .listOf (phys.map (·.index))
  .append [("end_devices", places t.endDevices),
    ("found", .list (addresses.map fun a => places (t.attachedAt a))),
    ("by_phy", .listOf (identifiers.map fun n => (t.phy? n).map (·.index)))] t

instance : Reportable LinkErrors := ⟨fun l => .record [
  ("phy", l.phy), ("invalid_dword", l.invalidDwords), ("running_disparity", l.disparityErrors),
  ("loss_of_sync", l.syncLosses), ("phy_reset_problem", l.resetProblems)]⟩

instance : Reportable SataSignature := ⟨fun s => .record [
  ("phy", s.phy), ("fis", s.frame), ("pm_port", s.pmPort), ("atapi", s.isPacketDevice)]⟩

instance : Reportable Connector := ⟨fun c => .record [
  ("pinout", c.pinout), ("connector", c.name),
  ("location", .flags ConnectorLocation.flags c.location.bits.toNat)]⟩

/-- A table of connectors. -/
instance : Reportable (List Connector) := ⟨fun cs => .record [("connectors", .listOf cs)]⟩

/-! ## Addresses -/

instance : Reportable ScsiAddress := ⟨fun a => .text a.text⟩

instance : Reportable SasLocation := ⟨fun l => .record [
  ("sas_address", l.address), ("lun", l.lun)]⟩

/-! ## Exchanges -/

instance : Reportable SspStatus := ⟨fun s => .record [
  ("connection_status", s.connectionStatus), ("ssp_status", s.sspStatus),
  ("data_present", s.dataPresent.name), ("status", s.status),
  ("response_length", s.responseLength), ("response", .trimmed s.response),
  ("data_bytes", s.dataBytes), ("sense", s.sense?.map Report.trimmed)]⟩

instance : Reportable StpStatus := ⟨fun s => .record [
  ("connection_status", s.connectionStatus), ("status_fis", s.frame), ("scr", s.scr),
  ("data_bytes", s.dataBytes)]⟩

end DriveReach
