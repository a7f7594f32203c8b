import Sigil.Bytes.Base64
import Sigil.Bytes.Basic
import Sigil.Bytes.Utf8
import Sigil.Cipher.Aes
import Sigil.Cipher.Mode
import Sigil.Decimal.Binary
import Sigil.Decimal.Notation
import Sigil.Decimal.Reading
import Sigil.Decimal.Shortest
import Sigil.Digest.Basic
import Sigil.Digest.Blake2
import Sigil.Digest.Md5
import Sigil.Digest.Ripemd
import Sigil.Digest.Root
import Sigil.Digest.Sha1
import Sigil.Digest.Sha2
import Sigil.Digest.Sha3
import Sigil.Digest.Sm3
import Sigil.Digest.Word
import Sigil.Document.Basic
import Sigil.Document.Format
import Sigil.Evaluate
import Sigil.Failure
import Sigil.Fault
import Sigil.Globals.Flatten
import Sigil.Globals.Resolve
import Sigil.Globals.Store
import Sigil.Host
import Sigil.Html.Escape
import Sigil.Html.Names
import Sigil.Interpreter.Basic
import Sigil.Interpreter.Layering
import Sigil.Interpreter.Options
import Sigil.Interpreter.Walk
import Sigil.Json.Reader
import Sigil.Json.Writer
import Sigil.Library.Arithmetic
import Sigil.Library.Dates
import Sigil.Library.Escapes
import Sigil.Library.Function
import Sigil.Library.Identifiers
import Sigil.Library.Logic
import Sigil.Library.Lookup
import Sigil.Library.Markup
import Sigil.Library.Places
import Sigil.Library.Replacement
import Sigil.Library.Secrets
import Sigil.Library.Standard
import Sigil.Library.Strings
import Sigil.Moment.Calendar
import Sigil.Moment.Format
import Sigil.Moment.Iso
import Sigil.Moment.Parse
import Sigil.Moment.Shift
import Sigil.Moment.Template
import Sigil.Node.Basic
import Sigil.Node.Parse
import Sigil.Node.Print
import Sigil.Number.Basic
import Sigil.Number.Literal
import Sigil.Path
import Sigil.Pattern.Basic
import Sigil.Pattern.Lexeme
import Sigil.Pattern.Match
import Sigil.Pattern.Parse
import Sigil.Pattern.Replace
import Sigil.Proofs.Calls
import Sigil.Proofs.Decomposition
import Sigil.Proofs.Effects
import Sigil.Proofs.Entries
import Sigil.Proofs.Expansion
import Sigil.Proofs.Grammar
import Sigil.Proofs.Isolation
import Sigil.Proofs.Layering
import Sigil.Proofs.Location
import Sigil.Proofs.Outcome
import Sigil.Proofs.Parametricity
import Sigil.Proofs.Parsing
import Sigil.Proofs.Reentry
import Sigil.Proofs.Resolution
import Sigil.Proofs.Scanning
import Sigil.Proofs.Steps
import Sigil.Proofs.Templates
import Sigil.Proofs.Unlocated
import Sigil.Registry
import Sigil.Signature
import Sigil.Text.Blank
import Sigil.Text.CaseTable
import Sigil.Text.Casing
import Sigil.Text.Digit
import Sigil.Text.Folding
import Sigil.Text.Hex
import Sigil.Text.Printable
import Sigil.Text.Quoted
import Sigil.Text.Range
import Sigil.Text.Search
import Sigil.Text.Word
import Sigil.Token.Basic
import Sigil.Token.Scan
import Sigil.Toml.Lexical
import Sigil.Toml.Read
import Sigil.Toml.Write
import Sigil.Url.Address
import Sigil.Url.Basic
import Sigil.Uuid
import Sigil.Value.Basic
import Sigil.Value.Iterate
import Sigil.Value.Key
import Sigil.Value.Show
import Sigil.Value.Source
import Sigil.Value.Text
import Sigil.Value.Weight
import Sigil.Xml.Markup
import Sigil.Xml.Read
import Sigil.Xml.Write
import Sigil.Yaml.Glyph
import Sigil.Yaml.Kind
import Sigil.Yaml.Lexeme
import Sigil.Yaml.Node
import Sigil.Yaml.Read
import Sigil.Yaml.Scalar
import Sigil.Yaml.Scan
import Sigil.Yaml.Style
import Sigil.Yaml.Tag
import Sigil.Yaml.Timestamp
import Sigil.Yaml.Write
import Sigil.Proofs.Inertness
import Sigil.Proofs.Rejection
import Sigil.Proofs.Batches
import Sigil.Proofs.GlobalValues
import Sigil.Proofs.Printing
import Sigil.Proofs.Shapes
import Sigil.Proofs.Tiling
import Sigil.Proofs.Scalars
import Sigil.Proofs.Traces
import Sigil.Proofs.HexDigits
import Sigil.Proofs.JsonStrings
import Sigil.Proofs.JsonNumbers
import Sigil.Proofs.JsonDocuments
import Sigil.Proofs.LowerCase
import Sigil.Proofs.Registration
import Sigil.Proofs.RegisteredCalls
import Sigil.Proofs.Conservativity
import Sigil.Proofs.Accumulation
import Sigil.Proofs.Coincidence
import Sigil.Proofs.Cursor
import Sigil.Proofs.SizeGuard
import Sigil.Proofs.QuotedArguments
import Sigil.Proofs.Escaping
import Sigil.Proofs.PrintedStrings
import Sigil.Proofs.Utf8
import Sigil.Proofs.Blocks
import Sigil.Proofs.BlockCipher
import Sigil.Proofs.CipherModes
import Sigil.Proofs.Encryption
import Sigil.Proofs.MomentFormats
import Sigil.Proofs.MomentTemplates
import Sigil.Proofs.LonePercents
import Sigil.Proofs.WrittenMoments
import Sigil.Proofs.DayNumbers
import Sigil.Proofs.ShiftedMoments
import Sigil.Proofs.IntegerArguments
import Sigil.Proofs.RequestedSlices
import Sigil.Proofs.NumberOrder
import Sigil.Proofs.NotANumber
import Sigil.Proofs.Comparisons
import Sigil.Proofs.FloatRounding
import Sigil.Proofs.FloatSums
import Sigil.Proofs.NearestIntegers
import Sigil.Proofs.IntegralFloats
import Sigil.Proofs.IntegerArithmetic
import Sigil.Proofs.RecomposedPaths
import Sigil.Proofs.GeneratedIdentifiers
import Sigil.Proofs.Occurrences
import Sigil.Proofs.LiteralPatterns
import Sigil.Proofs.LiteralReplacement
import Sigil.Proofs.CharacterReferences
import Sigil.Proofs.NearestValues
import Sigil.Proofs.FloatProducts
import Sigil.Proofs.RoundedSeconds
import Sigil.Proofs.UnixTimes
import Sigil.Proofs.PaddedTexts
