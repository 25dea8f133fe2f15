import DriveReach.Passthrough.Request
/-!
# Collaborators

What the caller brings along: a SAT layer, which serves SCSI commands by ATA commands, and the
policy that says how far callers may go through a driver.

A SAT layer is any strategy of issuing ATA commands and answering from their results
(`SatExchange`); it reaches the device in no other way.

The way of passing commands on to a device is not among what can be brought along. It is the one of
this library everywhere: an ATA command is issued by `AtaRequest.issue` and a SCSI command is sent
by `ScsiRequest.send`, for the identity probes of an opening as for the commands of a device.
-/

namespace DriveReach

/-- The course of one SCSI command through a SAT layer. -/
inductive SatExchange where
  /-- The end: a result, and the SCSI request as it is left. -/
  | done (result : Except Fault Unit) (request : ScsiRequest)
  /-- Issue an ATA command and go on with its result and the request as it was left. -/
  | issue (request : AtaRequest) (next : Except Fault Unit → AtaRequest → SatExchange)

/-- What serves SCSI commands to an ATA device. -/
structure SatLayer where
  isAvailable : Bool
  serve : ScsiRequest → SatExchange

/-- No layer: not available, and every command is refused. -/
def SatLayer.none : SatLayer where
  isAvailable := false
  serve := fun request => .done (.error (.unsupported .softwareSat)) request

/-- What a device needs besides its controller and the way of passing commands on, which is
fixed. -/
structure Collaborators where
  satLayer : SatLayer := .none
  /-- The access level for a driver name. -/
  access : String → Driver.Access := fun _ => .full

/-- The node of a controller: the one named, or the generic SCSI node of that number. -/
def nodePath (base : Option String) (controller : UInt32) : String :=
  base.getD ("/dev/sg" ++ toString controller.toNat)

end DriveReach
