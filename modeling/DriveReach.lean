import DriveReach.Bytes
import DriveReach.Text.Hex
import DriveReach.Text.Utf8
import DriveReach.Text
import DriveReach.Flags
import DriveReach.Transfer
import DriveReach.Ata.Frame
import DriveReach.Ata.HostFrame
import DriveReach.Ata.DeviceFrame
import DriveReach.Ata.Registers
import DriveReach.Ata.Command
import DriveReach.Ata.IdentifyBlock
import DriveReach.Sas.Address
import DriveReach.Sas.Link
import DriveReach.Scsi.Status
import DriveReach.Scsi.Fault
import DriveReach.Scsi.Cdb
import DriveReach.Scsi.AtaPassThrough
import DriveReach.Scsi.Sense
import DriveReach.Scsi.SenseBuffer
import DriveReach.Scsi.Inquiry
import DriveReach.Log
import DriveReach.Driver.Access
import DriveReach.Driver.Family
import DriveReach.Csmi.ReturnCode
import DriveReach.Csmi.ControlCode
import DriveReach.Csmi.Header
import DriveReach.Csmi.Layout
import DriveReach.Csmi.ControllerState
import DriveReach.Fault
import DriveReach.Csmi.ControllerInfo
import DriveReach.Csmi.RaidSet
import DriveReach.Csmi.PhyTable
import DriveReach.Csmi.AddressMap
import DriveReach.Csmi.Firmware
import DriveReach.Csmi.Ssp
import DriveReach.Csmi.Stp
import DriveReach.LogicalAddress
import DriveReach.Dialogue
import DriveReach.Controller.Call
import DriveReach.Controller.Basic
import DriveReach.Passthrough.Request
import DriveReach.Passthrough.Ssp
import DriveReach.Passthrough.Stp
import DriveReach.Passthrough.AtaChain
import DriveReach.Device.Identity
import DriveReach.Device.Collaborators
import DriveReach.Device.Context
import DriveReach.Discovery.Target
import DriveReach.Discovery.Resolve
import DriveReach.Discovery.Probe
import DriveReach.Discovery.Place
import DriveReach.Discovery.Discover
import DriveReach.Device.Basic
import DriveReach.Inventory.PhySet
import DriveReach.Inventory.Survey
import DriveReach.Inventory.Count
import DriveReach.Inventory.Listing
import DriveReach.ScratchBuffer
import DriveReach.Report.Ata
import DriveReach.Report.Basic
import DriveReach.Report.Controller
import DriveReach.Report.Device
import DriveReach.Report.Scsi
import DriveReach.Report.Catalog
import DriveReach.Script
import DriveReach.Proofs.Bytes
import DriveReach.Proofs.Course
import DriveReach.Proofs.Alike
import DriveReach.Proofs.Steady
import DriveReach.Proofs.Exchange
import DriveReach.Proofs.Passthrough.Payload
import DriveReach.Proofs.Passthrough.Exchange
import DriveReach.Proofs.Passthrough.Delivery
import DriveReach.Proofs.Passthrough.Chain
import DriveReach.Proofs.Passthrough.Length
import DriveReach.Proofs.Passthrough.Results
import DriveReach.Proofs.Passthrough.Forgetting
import DriveReach.Proofs.Passthrough.Leftovers
import DriveReach.Proofs.Ata.HostFrame
import DriveReach.Proofs.Ata.Carriers
import DriveReach.Proofs.Ata.FrameEdits
import DriveReach.Proofs.Ata.IdentifyText
import DriveReach.Proofs.Device.Commands
import DriveReach.Proofs.Discovery.Calls
import DriveReach.Proofs.Discovery.Opening
import DriveReach.Proofs.Device.Operations
import DriveReach.Proofs.Discovery.Attachments
import DriveReach.Proofs.Discovery.Resolve
import DriveReach.Proofs.Discovery.Place
import DriveReach.Proofs.Discovery.Confidence
import DriveReach.Proofs.Discovery.Identity
import DriveReach.Proofs.Transcript
import DriveReach.Proofs.Inventory.PhySet
import DriveReach.Proofs.Inventory.Drives
import DriveReach.Proofs.Inventory.FreePhys
import DriveReach.Proofs.Device.Identities
import DriveReach.Proofs.Reports
import DriveReach.Proofs.Controller.Decoders
import DriveReach.Proofs.Controller.Queries
import DriveReach.Proofs.Passthrough.Encoding
import DriveReach.Proofs.Passthrough.CommandLength
import DriveReach.Proofs.Passthrough.Completion
import DriveReach.Proofs.Discovery.Reported
import DriveReach.Proofs.LogicalAddress.Grammar
import DriveReach.Proofs.LogicalAddress
import DriveReach.Proofs.Discovery.Reopening
import DriveReach.Proofs.Discovery.ZeroAddress
import DriveReach.Proofs.Discovery.Ambiguity
import DriveReach.Proofs.Discovery.Answers
import DriveReach.Proofs.Inventory.Survey
import DriveReach.Proofs.Discovery.RaidScan
import DriveReach.Proofs.Inventory.Visit
import DriveReach.Proofs.Inventory.Tally
import DriveReach.Proofs.Inventory.Agreement
import DriveReach.Proofs.Inventory.Listed
import DriveReach.Proofs.Inventory.Capacity
import DriveReach.Proofs.Inventory.Calls
import DriveReach.Proofs.Inventory.Origins
import DriveReach.Proofs.Inventory.Unused
import DriveReach.Proofs.Inventory.Apart
import DriveReach.Proofs.Inventory.Named
import DriveReach.Proofs.Inventory.Filtered
import DriveReach.Proofs.Access.Demand
import DriveReach.Proofs.Access.Denied
import DriveReach.Proofs.Access.Session
import DriveReach.Proofs.Csmi.Header
import DriveReach.Proofs.Csmi.Payloads
import DriveReach.Proofs.Scsi.Descriptors
import DriveReach.Proofs.Scsi.DescriptorWalk
import DriveReach.Proofs.Scsi.SenseBuffer
import DriveReach.Proofs.Scsi.AtaStatus
import DriveReach.Proofs.Ata.StatusFrame
import DriveReach.Proofs.Passthrough.StpEncoding
import DriveReach.Proofs.Passthrough.StpCompletion
import DriveReach.Proofs.Controller.RaidSets
import DriveReach.Proofs.Controller.Headers
import DriveReach.Proofs.Inventory.Identifiable
