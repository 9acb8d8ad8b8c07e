import CallAudit.Config.Setup
import CallAudit.Main
import CallAudit.Proofs.Pipeline.Notes
import CallAudit.Proofs.Pipeline.Reference
import CallAudit.Proofs.Interception.Cases
import CallAudit.Proofs.Interception.FailClose
import CallAudit.Proofs.Delivery.FileLines
import CallAudit.Proofs.Labels.Union
import CallAudit.Proofs.Rules.Governing
import CallAudit.Proofs.Methods.Written
import CallAudit.Proofs.Setup.Built
import CallAudit.Proofs.Setup.Trail
import CallAudit.Proofs.Number.DecimalDigits
import CallAudit.Proofs.Number.Decimals
import CallAudit.Proofs.Number.ShortestReads
import CallAudit.Proofs.Json.NumberText
import CallAudit.Proofs.Json.ReadBack
import CallAudit.Proofs.Json.Nesting
import CallAudit.Proofs.Json.Structures
import CallAudit.Proofs.Records.LineBack
import CallAudit.Proofs.Delivery.AppendOnly
import CallAudit.Proofs.Rules.Specificity
import CallAudit.Proofs.Interception.Withholding
import CallAudit.Proofs.Interception.BestEffort
import CallAudit.Proofs.Principal.Base64
import CallAudit.Proofs.Json.Exactness
import CallAudit.Proofs.Principal.TokenGrammar
import CallAudit.Proofs.Principal.Selection
import CallAudit.Proofs.Principal.Issued
import CallAudit.Proofs.Setup.Identity
import CallAudit.Proofs.Setup.Validity
import CallAudit.Proofs.Interception.Events
import CallAudit.Proofs.Setup.Delivered
import CallAudit.Proofs.Setup.Forecast
import CallAudit.Proofs.Pipeline.Idempotence
import CallAudit.Proofs.Cancellation.History
import CallAudit.Proofs.Pipeline.Shutdown
import CallAudit.Proofs.Records.NormalForm
import CallAudit.Proofs.Labels.Mutators
import CallAudit.Proofs.Number.Bounds
import CallAudit.Proofs.Records.Wholeness
import CallAudit.Proofs.Interception.Refusals
import CallAudit.Proofs.Metadata.LastInserted
import CallAudit.Proofs.Principal.Leads
import CallAudit.Proofs.Setup.FirstFile
import CallAudit.Proofs.Delivery.Leftovers
