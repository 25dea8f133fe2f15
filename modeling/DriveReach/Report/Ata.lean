import DriveReach.Ata.DeviceFrame
import DriveReach.Ata.IdentifyBlock
import DriveReach.Ata.Registers
import DriveReach.Csmi.Stp
import DriveReach.Report.Basic
import DriveReach.Scsi.AtaPassThrough
/-!
# Reports on ATA

Frames, registers and commands. A command's report shows its frame and how each passthrough would
carry it.
-/

namespace DriveReach

open Ata

instance : Reportable Protocol := ⟨fun p => .text p.name⟩
instance : Reportable Direction := ⟨fun d => .text d.name⟩
instance : Reportable FrameKind := ⟨fun k => .text k.name⟩
instance : Reportable Csmi.StpFlags := ⟨fun f => .flags Csmi.StpFlags.flags f.bits.toNat⟩
instance : Reportable Scsi.Cdb := ⟨fun c => .hex c.bytes⟩

instance : Reportable Registers := ⟨fun r => .record [
  ("status", r.status), ("error_reg", r.error), ("device", r.device),
  ("lba_low", r.lbaLow), ("lba_mid", r.lbaMid), ("lba_high", r.lbaHigh),
  ("lba_low_ext", r.lbaLowExt), ("lba_mid_ext", r.lbaMidExt), ("lba_high_ext", r.lbaHighExt),
  ("count", r.count), ("count_ext", r.countExt)]⟩

/-! ## Frames -/

instance : Reportable HostFrame := ⟨fun f => .record [
  ("bytes", f.bytes), ("is_command", f.isCommand), ("pm_port", f.pmPort), ("command", f.command),
  ("features", f.features), ("lba", f.lba), ("device", f.device), ("count", f.count),
  ("icc", f.icc), ("control", f.control), ("auxiliary", f.auxiliary)]⟩

instance : Reportable DeviceFrame := ⟨fun f => .record [
  ("bytes", f.bytes), ("interrupt", f.interrupt), ("pm_port", f.pmPort), ("status", f.status),
  ("error_reg", f.error), ("lba", f.lba), ("device", f.device), ("count", f.count),
  ("registers", (StatusFrame.register f).registers)]⟩

instance : Reportable PioSetupFrame := ⟨fun f => .record [
  ("bytes", f.bytes), ("interrupt", f.interrupt), ("pm_port", f.pmPort), ("status", f.status),
  ("error_reg", f.error), ("lba", f.lba), ("device", f.device), ("count", f.count),
  ("registers", (StatusFrame.pioSetup f).registers), ("to_host", f.toHost),
  ("e_status", f.endStatus), ("transfer_count", f.transferCount)]⟩

instance : Reportable SetDeviceBitsFrame := ⟨fun f => .record [
  ("pm_port", f.pmPort), ("interrupt", f.interrupt), ("notification", f.notification),
  ("status", f.status), ("error_reg", f.error), ("sactive", f.sActive)]⟩

instance : Reportable DmaActivateFrame := ⟨fun f => .record [("pm_port", f.pmPort)]⟩

instance : Reportable DmaSetupFrame := ⟨fun f => .record [
  ("pm_port", f.pmPort), ("to_host", f.toHost), ("interrupt", f.interrupt),
  ("auto_activate", f.autoActivate), ("buffer_id", f.bufferId),
  ("buffer_offset", f.bufferOffset), ("transfer_count", f.transferCount)]⟩

instance : Reportable BistFrame := ⟨fun f => .record [
  ("pm_port", f.pmPort), ("pattern", f.pattern), ("data_high", f.dataHigh),
  ("data_low", f.dataLow)]⟩

instance : Reportable DataFrame := ⟨fun f => .record [
  ("pm_port", f.pmPort), ("payload", .trimmed f.payload)]⟩

instance : Reportable StatusFrame := ⟨fun f => .record [
  ("frame", match f with
    | .register _ => "D2h"
    | .pioSetup _ => "PioSetup"),
  ("pm_port", f.pmPort), ("registers", f.registers)]⟩

/-! ## Commands -/

instance : Reportable TaskFile := ⟨fun tf => .record [
  ("command", tf.command), ("features", tf.features), ("count", tf.count), ("lba", tf.lba),
  ("device", tf.device), ("icc", tf.icc), ("control", tf.control), ("auxiliary", tf.auxiliary)]⟩

instance : Reportable Command := ⟨fun c => .record [
  ("task_file", c.taskFile), ("protocol", c.protocol), ("direction", c.direction),
  ("extended", c.extended), ("pm_port", c.pmPort), ("has_data", c.protocol.hasData),
  ("h2d", c.toFrame.bytes),
  ("sat_protocol", Scsi.AtaPassThrough.protocolField c.protocol c.direction),
  ("stp_flags", Csmi.StpFlags.ofCommand c.protocol c.direction),
  ("sat16", Scsi.AtaPassThrough.cdb16 c), ("sat12", Scsi.AtaPassThrough.cdb12 c)]⟩

/-! ## Identify data -/

/-- What identify data say, with the words at some places. -/
def Report.identify (block : IdentifyBlock) (words : List UInt16) : Report := .record [
  ("model", block.modelNumber), ("serial", block.serialNumber),
  ("firmware", block.firmwareRevision), ("packet", block.isPacketDevice),
  ("lba48", block.supportsLba48), ("max_lba", block.maxLba), ("words", .listOf words),
  ("debug", block.summary)]

end DriveReach
