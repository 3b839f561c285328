import SelectorSyntax.Text
import SelectorSyntax.Text.Unprintable
import SelectorSyntax.Text.Word
import SelectorSyntax.Text.Quoted
import SelectorSyntax.Text.Alphabetic
import SelectorSyntax.CharSet
import SelectorSyntax.CaseFolding
import SelectorSyntax.Pattern.Basic
import SelectorSyntax.Pattern.Search
import SelectorSyntax.Pattern.Class
import SelectorSyntax.Pattern.Reader
import SelectorSyntax.Grammar.Lexeme
import SelectorSyntax.Grammar.Rule
import SelectorSyntax.Grammar.Argument
import SelectorSyntax.Production
import SelectorSyntax.Category
import SelectorSyntax.Error
import SelectorSyntax.QualifiedName
import SelectorSyntax.Attribute.Parts
import SelectorSyntax.Pseudo.Table
import SelectorSyntax.Classification
import SelectorSyntax.Attribute
import SelectorSyntax.Pseudo
import SelectorSyntax.Negation
import SelectorSyntax.Token
import SelectorSyntax.Group
import SelectorSyntax.Vocabulary.Elements
import SelectorSyntax.Vocabulary.Attributes
import SelectorSyntax.Vocabulary
import SelectorSyntax.Validation
import SelectorSyntax.Warning
import SelectorSyntax.PatternCache
import SelectorSyntax.Json.Basic
import SelectorSyntax.Json.Writer
import SelectorSyntax.Json.Reader
import SelectorSyntax.Form
import SelectorSyntax.Report
import SelectorSyntax.Terminal
import SelectorSyntax.CommandLine
import SelectorSyntax.Main
import SelectorSyntax.Proofs.Pattern.Ways
import SelectorSyntax.Proofs.Pattern.Search
import SelectorSyntax.Proofs.Pattern.Language
import SelectorSyntax.Proofs.Grammar.Derivation
import SelectorSyntax.Proofs.Grammar.Recognition
import SelectorSyntax.Proofs.Pattern.Preference
import SelectorSyntax.Proofs.Pattern.Backtracking
import SelectorSyntax.Proofs.Text.Balanced
import SelectorSyntax.Proofs.Grammar.Name
import SelectorSyntax.Proofs.Grammar.Shape
import SelectorSyntax.Proofs.Grammar.Boundary
import SelectorSyntax.Proofs.Grammar.Trimming
import SelectorSyntax.Proofs.Token.Preference
import SelectorSyntax.Proofs.Token.Munch
import SelectorSyntax.Proofs.Grammar.FirstMatch
import SelectorSyntax.Proofs.Token.Selector
import SelectorSyntax.Proofs.Token.Elements
import SelectorSyntax.Proofs.Token.Kind
import SelectorSyntax.Proofs.Token.Arrangement
import SelectorSyntax.Proofs.Group.Sequences
import SelectorSyntax.Proofs.Group.Pieces
import SelectorSyntax.Proofs.Text.Cutting
import SelectorSyntax.Proofs.Negation.Argument
import SelectorSyntax.Proofs.Pattern.Trail
import SelectorSyntax.Proofs.Attribute.Parts
import SelectorSyntax.Proofs.Validation.Judgement
import SelectorSyntax.Proofs.Validation.Question
import SelectorSyntax.Proofs.Grammar.Argument
import SelectorSyntax.Proofs.Pseudo.Table
import SelectorSyntax.Proofs.Pattern.Case
import SelectorSyntax.Proofs.Pattern.FirstTrail
import SelectorSyntax.Proofs.Attribute.Composition
import SelectorSyntax.Proofs.Pseudo.Parts
import SelectorSyntax.Proofs.Pseudo.Colons
import SelectorSyntax.Proofs.Validation.Case
import SelectorSyntax.Proofs.Warning.Deduplication
import SelectorSyntax.Proofs.Pattern.Cache
import SelectorSyntax.Proofs.Token.Partition
import SelectorSyntax.Proofs.Grammar.Keyword
import SelectorSyntax.Proofs.Report.Agreement
import SelectorSyntax.Proofs.CommandLine.Inspection
import SelectorSyntax.Proofs.Warning.Once
import SelectorSyntax.Proofs.CommandLine.Validation
import SelectorSyntax.Proofs.Json.Strings
import SelectorSyntax.Proofs.Json.Reading
import SelectorSyntax.Proofs.Form.RoundTrip
import SelectorSyntax.Proofs.Attribute.Namespace
import SelectorSyntax.Proofs.Pseudo.ShortestVendor
import SelectorSyntax.Proofs.Token.Combinator
import SelectorSyntax.Proofs.Token.NormalForm
import SelectorSyntax.Proofs.Token.Joint
