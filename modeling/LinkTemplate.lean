import LinkTemplate.CommandLine.Run
import LinkTemplate.Main
import LinkTemplate.Placeholder.Printer
import LinkTemplate.Settings.Session
import LinkTemplate.Proofs.Template.Pieces
import LinkTemplate.Proofs.Expansion.Substitution
import LinkTemplate.Proofs.Expansion.Supply
import LinkTemplate.Proofs.Inventory.Declarations
import LinkTemplate.Proofs.Inventory.Dependence
import LinkTemplate.Proofs.Inventory.Required
import LinkTemplate.Proofs.Diagnosis.MissingNames
import LinkTemplate.Proofs.Expansion.Structure
import LinkTemplate.Proofs.Placeholder.Segments
import LinkTemplate.Proofs.Placeholder.ChoiceLists
import LinkTemplate.Proofs.Placeholder.Keys
import LinkTemplate.Proofs.Placeholder.RoundTrip
import LinkTemplate.Proofs.Placeholder.QuotedValues
import LinkTemplate.Proofs.Placeholder.Pipes
import LinkTemplate.Proofs.Placeholder.QuotedText
import LinkTemplate.Proofs.Diagnosis.Balance
import LinkTemplate.Proofs.Concatenation
import LinkTemplate.Proofs.Template.Append
import LinkTemplate.Proofs.Json.Values
import LinkTemplate.Proofs.Settings.Storage
import LinkTemplate.Proofs.Settings.Values
import LinkTemplate.Proofs.Effects
import LinkTemplate.Proofs.Settings.Sessions
import LinkTemplate.Proofs.CommandLine.Commands
import LinkTemplate.Proofs.CommandLine.Failures
import LinkTemplate.Proofs.CommandLine.Persistence
import LinkTemplate.Proofs.Json.Strings
import LinkTemplate.Proofs.Template.Matching
import LinkTemplate.Proofs.CommandLine.Buffers
import LinkTemplate.Proofs.CommandLine.Arguments
import LinkTemplate.Proofs.CommandLine.Presentation
import LinkTemplate.Proofs.Calendar.Days
import LinkTemplate.Proofs.Calendar.Instants
import LinkTemplate.Proofs.Text.Digits
import LinkTemplate.Proofs.Calendar.Durations
import LinkTemplate.Proofs.Calendar.Months
import LinkTemplate.Proofs.Calendar.Order
import LinkTemplate.Proofs.Calendar.Rfc3339
import LinkTemplate.Proofs.Calendar.Patterns
import LinkTemplate.Proofs.Expansion.Again
import LinkTemplate.Proofs.Expansion.OneArgument
import LinkTemplate.Proofs.Template.Places
import LinkTemplate.Proofs.Diagnosis.Partners
import LinkTemplate.Proofs.Diagnosis.Flat
import LinkTemplate.Proofs.Calendar.Tokens
import LinkTemplate.Proofs.Text.Stringified
import LinkTemplate.Proofs.Text.Percent
import LinkTemplate.Proofs.Placeholder.KeyPlaces
import LinkTemplate.Proofs.Placeholder.QuotedMatching
import LinkTemplate.Proofs.Placeholder.QuotedSearch
import LinkTemplate.Proofs.Slices.Checked
import LinkTemplate.Proofs.Slices.Templates
import LinkTemplate.Proofs.Slices.Attributes
import LinkTemplate.Proofs.Slices.Faultless
