import DeployTrigger.Kit.Attribute
import DeployTrigger.Main
import DeployTrigger.Sample.Echo
import DeployTrigger.Timestamp.Document
import DeployTrigger.Proofs.Wire
import DeployTrigger.Proofs.Guest.Invocation
import DeployTrigger.Proofs.Guest.Abort
import DeployTrigger.Proofs.Trigger.ReportSafety
import DeployTrigger.Proofs.Trigger.History
import DeployTrigger.Proofs.Trigger.Course
import DeployTrigger.Proofs.Trigger.ReportLines
import DeployTrigger.Proofs.Program.Refinement
import DeployTrigger.Proofs.Config.Document
import DeployTrigger.Proofs.Trigger.Replay
import DeployTrigger.Proofs.Guest.Isolation
import DeployTrigger.Proofs.Guest.Start
import DeployTrigger.Proofs.Guest.Observation
import DeployTrigger.Proofs.Guest.Delivery
import DeployTrigger.Proofs.Program.Inspection
import DeployTrigger.Proofs.Program.Diagnostics
import DeployTrigger.Proofs.Program.Verbosity
import DeployTrigger.Proofs.Guest.Description
import DeployTrigger.Proofs.Address.Distinct
import DeployTrigger.Proofs.Trigger.Epoch
import DeployTrigger.Proofs.Trigger.Chronology
import DeployTrigger.Proofs.Config.Members
import DeployTrigger.Proofs.Config.Layers
import DeployTrigger.Proofs.Config.Timeout
import DeployTrigger.Proofs.PathExpansion.Verbatim
import DeployTrigger.Proofs.CommandLine.Rearrangement
import DeployTrigger.Proofs.Guest.Echo
import DeployTrigger.Proofs.Kit.Entrypoint
import DeployTrigger.Proofs.Sample.Echo
