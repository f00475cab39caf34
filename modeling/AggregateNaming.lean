import AggregateNaming.Text.Blank
import AggregateNaming.Text.Word
import AggregateNaming.Text.CaseFolding
import AggregateNaming.Text.CaseMapping
import AggregateNaming.Text.Category
import AggregateNaming.Text.Script
import AggregateNaming.Text.Property
import AggregateNaming.Text.Quoted
import AggregateNaming.Casing
import AggregateNaming.Recorder
import AggregateNaming.Pattern.Escape
import AggregateNaming.Pattern.Reader
import AggregateNaming.Pattern.Capture
import AggregateNaming.Template
import AggregateNaming.Rule
import AggregateNaming.RuleSet
import AggregateNaming.Document.Read
import AggregateNaming.Document.Builtin
import AggregateNaming.Json.Form
import AggregateNaming.Settings
import AggregateNaming.Main
import AggregateNaming.Pool
import AggregateNaming.Slot
import AggregateNaming.Object
import AggregateNaming.Markup.Draft
import AggregateNaming.Markup.Value
import AggregateNaming.Proofs.Validity
import AggregateNaming.Proofs.History
import AggregateNaming.Proofs.Guarantee
import AggregateNaming.Proofs.Loading
import AggregateNaming.Proofs.Probing
import AggregateNaming.Proofs.Agreement
import AggregateNaming.Proofs.Independence
import AggregateNaming.Proofs.Binding
import AggregateNaming.Proofs.Interchange
import AggregateNaming.Proofs.Pattern.Whole
import AggregateNaming.Proofs.Builtin
import AggregateNaming.Proofs.Description
import AggregateNaming.Proofs.Strictness
import AggregateNaming.Proofs.RoundTrip
import AggregateNaming.Proofs.Caseless
import AggregateNaming.Proofs.Grammar
import AggregateNaming.Proofs.Transparency
import AggregateNaming.Proofs.FreeSlots
import AggregateNaming.Proofs.Commands
import AggregateNaming.Proofs.Tracing
import AggregateNaming.Proofs.Marking
import AggregateNaming.Proofs.Extraction
import AggregateNaming.Proofs.Surrounding
import AggregateNaming.Proofs.Alternatives
import AggregateNaming.Proofs.Locality
import AggregateNaming.Proofs.Referencing
import AggregateNaming.Proofs.JsonForms
import AggregateNaming.Proofs.TemplateReports
import AggregateNaming.Proofs.Nesting
