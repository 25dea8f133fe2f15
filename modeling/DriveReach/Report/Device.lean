import DriveReach.Device.Basic
import DriveReach.Inventory.Count
import DriveReach.Report.Controller
/-!
# Reports on devices

Addresses, drivers, endpoints, open devices, and requests as they are left.
-/

namespace DriveReach

instance : Reportable LogicalAddress := ⟨fun a => .record [
  ("controller", a.controller), ("port", a.port), ("phy", a.phy), ("lun", a.lun),
  ("alternate", a.alternate), ("base", a.base), ("path", a.path?), ("target", a.target?),
  ("text", a.text)]⟩

/-! ## Drivers -/

instance : Reportable Driver.Traits := ⟨fun t => .record [
  ("skip_device_address_query", t.skipsDeviceAddress),
  ("zero_sas_address_valid", t.zeroAddressValid),
  ("nvme_address_in_sas_address", t.packsNvmeAddress),
  ("raid_set_index_base", t.firstRaidSet)]⟩

instance : Reportable Driver.Capabilities :=
  ⟨fun c => .flags Driver.Capabilities.flags c.bits.toNat⟩

instance : Reportable Driver.Family := ⟨fun f => .record [
  ("family", f.name), ("intel", f.isIntel), ("quirks", f.traits),
  ("capabilities", f.capabilities)]⟩

/-! ## Devices -/

instance : Reportable AtaRoute := ⟨fun r => .text r.name⟩

instance : Reportable Endpoint := ⟨fun ep => .record [
  ("phy", ep.phy), ("port", ep.port), ("sas_address", ep.sasAddress), ("lun", ep.lun),
  ("rate", ep.rate), ("pm_port", ep.pmPort), ("route", ep.route)]⟩

instance : Reportable Context := ⟨fun c => .record [
  ("address", c.address.text), ("controller", c.controller.number),
  ("verbosity", c.controller.verbosity.name), ("port", c.port), ("phy", c.phy),
  ("protocol", c.protocol), ("sas_address", c.sasAddress), ("sas_lun", c.sasLun),
  ("scsi_address", c.scsiAddress), ("sata_signature", c.signature), ("pm_port", c.pmPort),
  ("driver_name", c.driverName), ("family", c.family.name), ("quirks", c.traits),
  ("access", c.access.name), ("capabilities", c.capabilities),
  ("confidence", c.confidence.name), ("binding", c.binding.name), ("endpoint", c.endpoint)]⟩

instance : Reportable Inventory.Candidate := ⟨fun c => .record [
  ("base", c.base), ("controllers", .listOf c.controllers)]⟩

instance : Reportable OpenOptions := ⟨fun o => .record [
  ("identity", o.identity.isSome), ("struct_version", o.contextVersion),
  ("verbosity", o.verbosity.name), ("timeout_ms", o.timeout.milliseconds),
  ("fetch_sata_signature", o.fetchSignature)]⟩

/-! ## Requests -/

instance : Reportable ScsiRequest := ⟨fun r => .record [
  ("status", r.status), ("sense", .trimmed r.sense.valid), ("data", .trimmed r.data.bytes),
  ("transfer", .list [r.data.size, r.data.direction, r.data.isEmpty])]⟩

instance : Reportable AtaRequest := ⟨fun r => .record [
  ("registers", r.registers), ("status_fis", r.statusFrame), ("scr", r.scr),
  ("sense", .trimmed r.sense.valid), ("data", .trimmed r.data.bytes)]⟩

instance : Reportable Request where
  report
    | .scsi r => report r
    | .ata r => report r

/-! ## Histories -/

namespace Report

/-- The calls of a run: their codes, headers and payloads. -/
def calls (events : List Dialogue.Event) : Report :=
  .list (events.filterMap fun
    | .called _ code buffer => some (.record [("code", code.code),
        ("header", .hex (buffer.take Csmi.headerLength)),
        ("payload", .trimmed (buffer.drop Csmi.headerLength))])
    | _ => none)

/-- The attachments of a run: controller and node. -/
def attachments (events : List Dialogue.Event) : List Report :=
  events.filterMap fun
    | .attached base controller => some (.list [controller, base])
    | _ => none

/-- The log of a run, as far as a verbosity admits its lines. -/
def log (verbosity : Verbosity) (events : List Dialogue.Event) : Report :=
  .list (events.filterMap fun
    | .noted line => if verbosity.admits line.level then some line.render else none
    | _ => none)

end Report

end DriveReach
