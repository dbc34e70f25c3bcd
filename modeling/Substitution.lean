import Substitution.Main
import Substitution.Rule.Writer
import Substitution.Session
import Substitution.Template.Printer
import Substitution.Proofs.Except
import Substitution.Proofs.Pattern.Progress
import Substitution.Proofs.Pattern.Spans
import Substitution.Proofs.Splicing
import Substitution.Proofs.Template.Numeral
import Substitution.Proofs.Template.Reading
import Substitution.Proofs.Template.Grammar
import Substitution.Proofs.Template.Behaviour
import Substitution.Proofs.Template.Writing
import Substitution.Proofs.Template.Faults
import Substitution.Proofs.Pattern.Sequence
import Substitution.Proofs.Pattern.Groups
import Substitution.Proofs.Outcome
import Substitution.Proofs.Rule.Loaded
import Substitution.Proofs.Session
import Substitution.Proofs.CommandLine.Stages
import Substitution.Proofs.Replacement
import Substitution.Proofs.Text.Utf8
import Substitution.Proofs.Yaml.Scalar
import Substitution.Proofs.Yaml.Layout
import Substitution.Proofs.Yaml.Records
import Substitution.Proofs.Rule.Written
import Substitution.Proofs.Template.Concatenation
import Substitution.Proofs.Template.Requirement
import Substitution.Proofs.Rule.Pipeline
import Substitution.Proofs.Value.Keys
import Substitution.Proofs.Options
import Substitution.Proofs.Yaml.Keys
import Substitution.Proofs.Value.Equality
import Substitution.Proofs.Rule.Entries
import Substitution.Proofs.Overrides
import Substitution.Proofs.Options.Typing
import Substitution.Proofs.Text.Quoted
import Substitution.Proofs.Console.Markup
import Substitution.Proofs.CommandLine.Check
import Substitution.Proofs.CommandLine.OptionsFile
import Substitution.Proofs.Yaml.Simple.Scalar
import Substitution.Proofs.Yaml.Simple.Numeral
import Substitution.Proofs.Yaml.Simple.Layout
import Substitution.Proofs.Yaml.Simple.Reader
import Substitution.Proofs.Yaml.Simple.Meaning
import Substitution.Proofs.Template.Message
import Substitution.Proofs.CommandLine.Attached
import Substitution.Proofs.CommandLine.Verbose
import Substitution.Proofs.Rule.Patterns
import Substitution.Proofs.CommandLine.Warnings
