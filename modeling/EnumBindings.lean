import EnumBindings.Main
import EnumBindings.Output.Step
import EnumBindings.Script.Part
import EnumBindings.Proofs.Script.Literal
import EnumBindings.Proofs.Script.LineReading
import EnumBindings.Proofs.Script.SwitchReading
import EnumBindings.Proofs.Script.DeclarationReading
import EnumBindings.Proofs.Comment.Block
import EnumBindings.Proofs.Script.DeclarationLines
import EnumBindings.Proofs.Script.Running
import EnumBindings.Proofs.Binding.Code
import EnumBindings.Proofs.Binding.WellNamed
import EnumBindings.Proofs.Binding.Functions
import EnumBindings.Proofs.Binding.Decoding
import EnumBindings.Proofs.Binding.Encoding
import EnumBindings.Proofs.Binding.RoundTrip
import EnumBindings.Proofs.Output.Text
import EnumBindings.Proofs.Comment.Removal
import EnumBindings.Proofs.Output.Assembly
import EnumBindings.Proofs.Script.Documentation
import EnumBindings.Proofs.Binding.Legible
import EnumBindings.Proofs.Output.Lines
import EnumBindings.Proofs.Output.Comments
import EnumBindings.Proofs.Script.Entries
import EnumBindings.Proofs.Output.DeclarationText
import EnumBindings.Proofs.Options.Agreement
import EnumBindings.Proofs.Binding.Wire
import EnumBindings.Proofs.Output.Running
import EnumBindings.Proofs.Output.References
import EnumBindings.Proofs.Schema.Acceptance
import EnumBindings.Proofs.Command.AllOrNothing
import EnumBindings.Proofs.Schema.Forms
import EnumBindings.Proofs.Output.Failures
import EnumBindings.Proofs.Output.Steps
import EnumBindings.Proofs.Output.HelperUse
import EnumBindings.Proofs.Options.Composition
import EnumBindings.Proofs.Text.Visible
import EnumBindings.Proofs.Comment.Cleaning
import EnumBindings.Proofs.Comment.NormalForm
import EnumBindings.Proofs.Comment.Enclosure
import EnumBindings.Proofs.Binding.Clashes
import EnumBindings.Proofs.Options.Entry
import EnumBindings.Proofs.Traversal
import EnumBindings.Proofs.Options.LastEntry
import EnumBindings.Proofs.Options.Spelling
import EnumBindings.Proofs.Text.Identifiers
import EnumBindings.Proofs.Binding.DeclaredNames
import EnumBindings.Proofs.Output.FunctionNames
import EnumBindings.Proofs.Script.StringLiteral
import EnumBindings.Proofs.Output.Literals
import EnumBindings.Proofs.Text.QuotedReading
import EnumBindings.Proofs.Options.Message
import EnumBindings.Proofs.Text.WordMarks
import EnumBindings.Proofs.Naming.SharedStart
import EnumBindings.Proofs.Text.FirstLine
import EnumBindings.Proofs.Json.QuotedText
import EnumBindings.Proofs.Json.TokenLines
import EnumBindings.Proofs.Command.LineBreaks
