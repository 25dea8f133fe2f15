import DriveReach.Device.Context
import DriveReach.Report.Controller
import DriveReach.Scsi.AtaPassThrough
/-!
# Catalogue of numbers

The numbers of the standards and of the driver interface, in groups, each under the name that its
document gives it.
-/

namespace DriveReach.Catalog

/-! ## ATA -/

open Ata in
def ataOpcodes : List (String × Report) :=
  [("DEVICE_RESET", Opcode.deviceReset), ("READ_SECTORS", Opcode.readSectors),
    ("READ_SECTORS_EXT", Opcode.readSectorsExt), ("READ_DMA_EXT", Opcode.readDmaExt),
    ("READ_LOG_EXT", Opcode.readLogExt), ("WRITE_SECTORS", Opcode.writeSectors),
    ("WRITE_SECTORS_EXT", Opcode.writeSectorsExt), ("WRITE_DMA_EXT", Opcode.writeDmaExt),
    ("READ_VERIFY_SECTORS", Opcode.readVerifySectors),
    ("READ_FPDMA_QUEUED", Opcode.readFpdmaQueued),
    ("WRITE_FPDMA_QUEUED", Opcode.writeFpdmaQueued),
    ("EXECUTE_DEVICE_DIAGNOSTIC", Opcode.executeDeviceDiagnostic),
    ("DOWNLOAD_MICROCODE", Opcode.downloadMicrocode), ("PACKET", Opcode.packet),
    ("IDENTIFY_PACKET_DEVICE", Opcode.identifyPacketDevice), ("SMART", Opcode.smart),
    ("READ_DMA", Opcode.readDma), ("WRITE_DMA", Opcode.writeDma),
    ("CHECK_POWER_MODE", Opcode.checkPowerMode), ("FLUSH_CACHE", Opcode.flushCache),
    ("FLUSH_CACHE_EXT", Opcode.flushCacheExt), ("IDENTIFY_DEVICE", Opcode.identifyDevice),
    ("SET_FEATURES", Opcode.setFeatures)]

def ataCommand : List (String × Report) := [("DEVICE_LBA", Ata.deviceLba)]

open Ata in
def frameLengths : List (String × Report) :=
  [("REGISTER_FIS_LEN", registerFrameLength), ("SET_DEVICE_BITS_FIS_LEN", setDeviceBitsFrameLength),
    ("DMA_ACTIVATE_FIS_LEN", dmaActivateFrameLength), ("DMA_SETUP_FIS_LEN", dmaSetupFrameLength),
    ("BIST_FIS_LEN", bistFrameLength), ("DATA_FIS_MIN_LEN", dataFrameMinLength),
    ("DATA_FIS_MAX_LEN", dataFrameMaxLength)]

/-! ## SCSI -/

open Scsi

def scsiLengths : List (String × Report) :=
  [("MAX_CDB_LENGTH", maxCdbLength), ("MAX_SENSE_LENGTH", maxSenseLength),
    ("STD_INQUIRY_LENGTH", standardInquiryLength)]

def scsiOpcodes : List (String × Report) :=
  [("TEST_UNIT_READY", Opcode.testUnitReady), ("REQUEST_SENSE", Opcode.requestSense),
    ("INQUIRY", Opcode.inquiry), ("READ_CAPACITY_10", Opcode.readCapacity10),
    ("READ_10", Opcode.read10), ("WRITE_10", Opcode.write10),
    ("WRITE_BUFFER", Opcode.writeBuffer), ("LOG_SENSE", Opcode.logSense),
    ("ATA_PASS_THROUGH_16", Opcode.ataPassThrough16), ("READ_16", Opcode.read16),
    ("WRITE_16", Opcode.write16), ("SERVICE_ACTION_IN_16", Opcode.serviceActionIn16),
    ("REPORT_LUNS", Opcode.reportLuns), ("ATA_PASS_THROUGH_12", Opcode.ataPassThrough12),
    ("SA_READ_CAPACITY_16", Opcode.readCapacity16)]

def senseCodes : List (String × Report) :=
  [("NO_ADDITIONAL_SENSE", SenseCode.noAdditionalSense), ("LU_NOT_READY", SenseCode.unitNotReady),
    ("INVALID_OPCODE", SenseCode.invalidOpcode),
    ("INVALID_FIELD_IN_CDB", SenseCode.invalidFieldInCdb),
    ("LU_NOT_SUPPORTED", SenseCode.unitNotSupported),
    ("INTERNAL_TARGET_FAILURE", SenseCode.internalTargetFailure)]

def senseQualifiers : List (String × Report) :=
  [("NONE", SenseQualifier.none), ("ATA_PASS_THROUGH_INFO", SenseQualifier.ataPassThroughInfo)]

open AtaPassThrough in
def satProtocols : List (String × Report) :=
  [("HARD_RESET", ProtocolField.hardReset), ("SRST", ProtocolField.softReset),
    ("NON_DATA", ProtocolField.nonData), ("PIO_DATA_IN", ProtocolField.pioDataIn),
    ("PIO_DATA_OUT", ProtocolField.pioDataOut), ("DMA", ProtocolField.dma),
    ("DMA_QUEUED", ProtocolField.dmaQueued),
    ("DEVICE_DIAGNOSTIC", ProtocolField.deviceDiagnostic),
    ("DEVICE_RESET", ProtocolField.deviceReset), ("FPDMA", ProtocolField.fpdma)]

def vpdPages : List (String × Report) :=
  [("SUPPORTED_PAGES", VpdPage.supportedPages), ("UNIT_SERIAL_NUMBER", VpdPage.unitSerialNumber),
    ("DEVICE_IDENTIFICATION", VpdPage.deviceIdentification),
    ("ATA_INFO", VpdPage.ataInformation)]

def senseDescriptors : List (String × Report) :=
  [("INFORMATION", Descriptor.informationCode), ("ATA_STATUS", Descriptor.ataStatusCode),
    ("ATA_STATUS_LEN", Descriptor.ataStatusLength)]

/-! ## Driver interface -/

open Csmi

def driverLengths : List (String × Report) :=
  [("DRIVER_INFO_LEN", Layout.driverInfo.size),
    ("CONTROLLER_CONFIG_LEN", Layout.controllerConfig.size),
    ("CONTROLLER_STATUS_LEN", Layout.controllerStatus.size)]

def addressLengths : List (String × Report) :=
  [("GET_SCSI_ADDRESS_LEN", Layout.scsiAddress.size),
    ("GET_DEVICE_ADDRESS_LEN", Layout.deviceAddress.size)]

def firmwareLengths : List (String × Report) :=
  [("FIRMWARE_DOWNLOAD_LEN", Layout.firmwareDownload.size)]

def exchanges : List (String × Report) :=
  [("SSP_PARAMS_LEN", Layout.sspParameters.size), ("SSP_STATUS_LEN", Layout.sspStatus.size),
    ("SSP_FIXED_LEN", sspFixedLength), ("STP_PARAMS_LEN", Layout.stpParameters.size),
    ("STP_STATUS_LEN", Layout.stpStatus.size), ("STP_FIXED_LEN", stpFixedLength),
    ("BASE_CDB_LEN", SspParameters.baseCdbLength),
    ("ADDITIONAL_CDB_LEN", SspParameters.additionalCdbLength),
    ("SSP_RESPONSE_LEN", SspStatus.responseWidth), ("SCR_COUNT", scrCount),
    ("LINK_RATE_NEGOTIATED", rateNegotiated), ("OPEN_ACCEPT", openAccept)]

def phys : List (String × Report) :=
  [("MAX_PHYS", PhyTable.slots), ("IDENTIFY_LEN", SasIdentify.length),
    ("PHY_ENTITY_LEN", Phy.length), ("PHY_INFO_LEN", Layout.phyInfo.size),
    ("PHY_INFO_SLACK", PhyTable.slack), ("LINK_ERRORS_LEN", Layout.linkErrors.size),
    ("SATA_SIGNATURE_LEN", Layout.sataSignature.size), ("MAX_CONNECTORS", Connector.slots),
    ("CONNECTOR_LEN", Connector.length), ("CONNECTOR_INFO_LEN", Layout.connectorInfo.size),
    ("USE_PORT_IDENTIFIER", usePortIdentifier), ("IGNORE_PORT", ignorePort)]

def raidLengths : List (String × Report) :=
  [("RAID_INFO_LEN", Layout.raidInfo.size), ("RAID_CONFIG_FIXED_LEN", Layout.raidConfig.size),
    ("RAID_DRIVE_LEN", RaidDrive.length), ("RAID_FEATURES_LEN", Layout.raidFeatures.size),
    ("MAX_RAID_DRIVES", RaidConfig.maxDrives)]

def library : List (String × Report) :=
  [("INFO_TIMEOUT", Timeout.info.seconds), ("PASSTHRU_TIMEOUT", Timeout.passthrough.seconds),
    ("FIRMWARE_TIMEOUT", Timeout.firmware.seconds), ("HEADER_LEN", headerLength),
    ("DEVICE_STRUCT_VERSION", contextVersion), ("HANDLE_PREFIX", handleWord)]

/-- The groups by name. -/
def groups : List (String × List (String × Report)) :=
  [("ata_opcode", ataOpcodes), ("ata_command", ataCommand), ("fis", frameLengths),
    ("scsi", scsiLengths), ("scsi_opcode", scsiOpcodes), ("asc", senseCodes),
    ("ascq", senseQualifiers), ("sat_protocol", satProtocols), ("vpd", vpdPages),
    ("sense_descriptor", senseDescriptors), ("driver", driverLengths),
    ("address", addressLengths), ("firmware", firmwareLengths), ("passthru", exchanges),
    ("phy", phys), ("raid", raidLengths), ("timeouts", library)]

/-- The group of a name. -/
def group? (name : String) : Option Report := (groups.lookup name).map Report.record

end DriveReach.Catalog
