import DriveReach.Ata.Registers
import DriveReach.Ata.Command
import DriveReach.Controller.Basic
import DriveReach.Csmi.Ssp
import DriveReach.Scsi.Cdb
import DriveReach.Scsi.SenseBuffer
import DriveReach.Transfer
/-!
# Passthrough requests

A SCSI or ATA command with its data and its results, and the endpoint it is sent to. A request is
both what the caller asks and what the caller finds afterwards, also when the command failed.
-/

namespace DriveReach

open Csmi (Timeout)

/-- A SCSI command. -/
structure ScsiRequest where
  cdb : Scsi.Cdb
  data : DataBuffer
  timeout : Timeout := .passthrough
  status : Scsi.Status := .good
  sense : Scsi.SenseBuffer := .empty

/-- An ATA command. -/
structure AtaRequest where
  command : Ata.Command
  data : DataBuffer
  timeout : Timeout := .passthrough
  registers : Option Ata.Registers := none
  /-- The frame that reported the end, when STP brought one. -/
  statusFrame : Option (Vector UInt8 20) := none
  /-- The SATA status and control registers, when STP brought them. -/
  scr : Option (Vector UInt32 16) := none
  sense : Scsi.SenseBuffer := .empty

/-- A command of either kind. -/
inductive Request where
  | scsi (request : ScsiRequest)
  | ata (request : AtaRequest)

/-- The ways for an ATA command to reach an endpoint, in the order in which they are tried. -/
inductive AtaRoute where
  /-- STP passthrough. -/
  | stp
  /-- ATA PASS-THROUGH (16) over SSP. -/
  | satOverSsp
  /-- ATA PASS-THROUGH (12) over SSP. -/
  | legacyOverSsp
  deriving DecidableEq, Repr

/-- The place of a route in the order. -/
def AtaRoute.rank : AtaRoute → Nat
  | stp => 0
  | satOverSsp => 1
  | legacyOverSsp => 2

def AtaRoute.name : AtaRoute → String
  | stp => "Stp"
  | satOverSsp => "SatOverSsp"
  | legacyOverSsp => "LegacyOverSsp"

def AtaRoute.ofName? (name : String) : Option AtaRoute :=
  [stp, satOverSsp, legacyOverSsp].find? (·.name == name)

/-- Where a request goes. -/
structure Endpoint where
  phy : UInt8
  port : UInt8
  sasAddress : SasAddress
  lun : Lun
  rate : UInt8
  pmPort : UInt8
  /-- The route that the next ATA command takes. -/
  route : AtaRoute
  deriving DecidableEq, Repr

/-- The endpoint at a phy, at unit 0, where ATA commands go by STP. -/
def Endpoint.at (phy port : UInt8) (address : SasAddress) : Endpoint :=
  ⟨phy, port, address, Vector.replicate 8 0, Csmi.rateNegotiated, 0, .stp⟩

end DriveReach
