import ServiceBlueprint.Number.Shortest
import ServiceBlueprint.Text.Letter
import ServiceBlueprint.Text.Printable
import ServiceBlueprint.Text.Digit
import ServiceBlueprint.Text.Blank
import ServiceBlueprint.Text.Case
import ServiceBlueprint.Calendar.Reading
import ServiceBlueprint.Value.Same
import ServiceBlueprint.Value.Literal
import ServiceBlueprint.Value.Access
import ServiceBlueprint.Json.Reader
import ServiceBlueprint.Json.Writer
import ServiceBlueprint.Workflow.Loading
import ServiceBlueprint.Workflow.Validation
import ServiceBlueprint.Pattern.Matching
import ServiceBlueprint.Form.Loading
import ServiceBlueprint.Form.Submission
import ServiceBlueprint.Form.FieldCheck
import ServiceBlueprint.Service.Loading
import ServiceBlueprint.Gap.Analysis
import ServiceBlueprint.Gap.Listing
import ServiceBlueprint.Gap.Edit
import ServiceBlueprint.Gap.Configured
import ServiceBlueprint.Log.Handler
import ServiceBlueprint.Proofs.Workflow.Silence
import ServiceBlueprint.Proofs.Workflow.Loading
import ServiceBlueprint.Proofs.Form.Missing
import ServiceBlueprint.Proofs.Form.HiddenValues
import ServiceBlueprint.Proofs.Form.BlankValues
import ServiceBlueprint.Proofs.Form.Layout
import ServiceBlueprint.Proofs.Form.Bounds
import ServiceBlueprint.Proofs.Gap.Fixes
import ServiceBlueprint.Proofs.Gap.Convergence
import ServiceBlueprint.Proofs.Gap.Faults
import ServiceBlueprint.Proofs.Form.Feedback
import ServiceBlueprint.Proofs.Workflow.Rounds
import ServiceBlueprint.Proofs.Workflow.Transitions
import ServiceBlueprint.Proofs.Form.Offers
import ServiceBlueprint.Proofs.Calendar.Spelling
import ServiceBlueprint.Proofs.Form.Dates
import ServiceBlueprint.Proofs.Form.Influence
import ServiceBlueprint.Proofs.Form.StoredRules
import ServiceBlueprint.Proofs.Form.OperatorLaws
import ServiceBlueprint.Proofs.Form.Version
import ServiceBlueprint.Proofs.Calendar.ChangeToken
import ServiceBlueprint.Proofs.Form.WellFormed
import ServiceBlueprint.Proofs.Gap.Start
import ServiceBlueprint.Proofs.Gap.Connections
import ServiceBlueprint.Proofs.Form.Scope
import ServiceBlueprint.Proofs.Gap.RuleFiles
import ServiceBlueprint.Proofs.Workflow.Defects
import ServiceBlueprint.Proofs.Spellings
import ServiceBlueprint.Proofs.Gap.Conversation
import ServiceBlueprint.Proofs.Gap.Summary
import ServiceBlueprint.Proofs.Log.Entries
import ServiceBlueprint.Proofs.Log.Configuring
import ServiceBlueprint.Proofs.Form.Inactive
import ServiceBlueprint.Proofs.Form.ErrorGroups
