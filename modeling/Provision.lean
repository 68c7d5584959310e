import Provision.CommandLine.Run
import Provision.Files.Tree
import Provision.Main
import Provision.Proofs.StructuralFaults
import Provision.Proofs.Reports
import Provision.Proofs.Cancellation
import Provision.Proofs.Deadline
import Provision.Proofs.ReportedErrors
import Provision.Proofs.RepositoryPath
import Provision.Proofs.Isolation
import Provision.Proofs.Histories
import Provision.Proofs.Previews
import Provision.Proofs.Envelopes
import Provision.Proofs.CompactText
import Provision.Proofs.Lossless
import Provision.Proofs.RoundTrips
import Provision.Proofs.Responses
import Provision.Proofs.Recording
import Provision.Proofs.Reordering
import Provision.Proofs.Orders
import Provision.Proofs.OrderlessDeployments
import Provision.Proofs.NestedErrors
import Provision.Proofs.Places
import Provision.Proofs.Substitution
import Provision.Proofs.RecordParts
import Provision.Proofs.Binding
import Provision.Proofs.Inlining
import Provision.Proofs.ParsedTemplates
import Provision.Proofs.LoneCalls
import Provision.Proofs.UtilityAnswers
import Provision.Proofs.RepositoryAnswers
import Provision.Proofs.BuiltInstances
import Provision.Proofs.QuotedText
import Provision.Proofs.RedactedDiagnostics
import Provision.Proofs.DispatchHistories
import Provision.Proofs.SummaryLines
