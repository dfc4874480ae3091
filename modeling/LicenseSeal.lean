import LicenseSeal.Cipher.Aes
import LicenseSeal.Cipher.Chain
import LicenseSeal.Cipher.Des
import LicenseSeal.CommandLine.Arguments
import LicenseSeal.CommandLine.Command
import LicenseSeal.CommandLine.Places
import LicenseSeal.CommandLine.Run
import LicenseSeal.CommandLine.Session
import LicenseSeal.Config
import LicenseSeal.Config.Load
import LicenseSeal.Curve
import LicenseSeal.Curve.Named
import LicenseSeal.Encoding
import LicenseSeal.Encoding.ByteOrder
import LicenseSeal.Encoding.Charset
import LicenseSeal.Encoding.Charset.Dos
import LicenseSeal.Encoding.Charset.Iso
import LicenseSeal.Encoding.Charset.Macintosh
import LicenseSeal.Encoding.Charset.Mainframe
import LicenseSeal.Encoding.Charset.Other
import LicenseSeal.Encoding.Charset.Windows
import LicenseSeal.Encoding.Codecs
import LicenseSeal.Encoding.Error
import LicenseSeal.Encoding.Escaped
import LicenseSeal.Encoding.Surrogates
import LicenseSeal.Encoding.Utf16
import LicenseSeal.Encoding.Utf32
import LicenseSeal.Encoding.Utf7
import LicenseSeal.Encoding.Utf8
import LicenseSeal.Failure
import LicenseSeal.Fields
import LicenseSeal.FileSystem
import LicenseSeal.FileSystem.Path
import LicenseSeal.FileSystem.TextFile
import LicenseSeal.FileSystem.Write
import LicenseSeal.Hash.Blocks
import LicenseSeal.Hash.Hmac
import LicenseSeal.Hash.Md5
import LicenseSeal.Hash.Scrypt
import LicenseSeal.Hash.Sha1
import LicenseSeal.Hash.Sha256
import LicenseSeal.Hash.Sha512
import LicenseSeal.Hash.Stretch
import LicenseSeal.Json.Reader
import LicenseSeal.Json.Writer
import LicenseSeal.Key
import LicenseSeal.Key.Algorithm
import LicenseSeal.Key.Der
import LicenseSeal.Key.Encryption
import LicenseSeal.Key.Load
import LicenseSeal.Key.Pem
import LicenseSeal.Key.Reader
import LicenseSeal.License.DataFile
import LicenseSeal.License.Error
import LicenseSeal.License.Extractor
import LicenseSeal.License.Generate
import LicenseSeal.License.KeyOptions
import LicenseSeal.License.Log
import LicenseSeal.License.Parse
import LicenseSeal.License.Request
import LicenseSeal.License.Traced
import LicenseSeal.Main
import LicenseSeal.Number.Binary64
import LicenseSeal.Number.Decimal
import LicenseSeal.Number.Integer
import LicenseSeal.Number.Modular
import LicenseSeal.Proofs.CommandLine.AtomicOutput
import LicenseSeal.Proofs.CommandLine.CommandEndings
import LicenseSeal.Proofs.CommandLine.CommandResults
import LicenseSeal.Proofs.CommandLine.ExitCodes
import LicenseSeal.Proofs.CommandLine.GenerateThenParse
import LicenseSeal.Proofs.CommandLine.GivenOptions
import LicenseSeal.Proofs.CommandLine.Sessions
import LicenseSeal.Proofs.CommandLine.UnreportedFailures
import LicenseSeal.Proofs.Config.LoadOutcomes
import LicenseSeal.Proofs.Config.SettingsOfEntries
import LicenseSeal.Proofs.DistinctFields
import LicenseSeal.Proofs.Encoding.CharsetRoundTrip
import LicenseSeal.Proofs.Encoding.EscapeRoundTrip
import LicenseSeal.Proofs.Encoding.TextsReadBack
import LicenseSeal.Proofs.Encoding.UnicodeRoundTrip
import LicenseSeal.Proofs.Encoding.Utf7RoundTrip
import LicenseSeal.Proofs.Encoding.Utf8RoundTrip
import LicenseSeal.Proofs.FileSystem.ActionFailures
import LicenseSeal.Proofs.FileSystem.AtomicWriting
import LicenseSeal.Proofs.FileSystem.EntriesAndPaths
import LicenseSeal.Proofs.FileSystem.UsablePaths
import LicenseSeal.Proofs.Json.PlainWriting
import LicenseSeal.Proofs.Json.StringRoundTrip
import LicenseSeal.Proofs.Json.TotalWriting
import LicenseSeal.Proofs.Key.SurroundingText
import LicenseSeal.Proofs.License.AdjacentTokens
import LicenseSeal.Proofs.License.DataAgreement
import LicenseSeal.Proofs.License.Drafts
import LicenseSeal.Proofs.License.ExtractionContract
import LicenseSeal.Proofs.License.Interchange
import LicenseSeal.Proofs.License.KeySecrecy
import LicenseSeal.Proofs.License.LogTraces
import LicenseSeal.Proofs.License.OptionAgreement
import LicenseSeal.Proofs.License.Outcome
import LicenseSeal.Proofs.License.OutcomeClasses
import LicenseSeal.Proofs.License.PairReproduction
import LicenseSeal.Proofs.License.RoundTrip
import LicenseSeal.Proofs.License.Runs
import LicenseSeal.Proofs.License.SerialVariants
import LicenseSeal.Proofs.License.SourceAgreement
import LicenseSeal.Proofs.License.SpellingChoice
import LicenseSeal.Proofs.License.TamperEvidence
import LicenseSeal.Proofs.License.TemplateReading
import LicenseSeal.Proofs.License.TypedFailures
import LicenseSeal.Proofs.Signing.PayloadInjectivity
import LicenseSeal.Proofs.Signing.PayloadKernel
import LicenseSeal.Proofs.Signing.PlainTexts
import LicenseSeal.Proofs.Signing.SerialVerification
import LicenseSeal.Proofs.Template.CandidateEnds
import LicenseSeal.Proofs.Template.Decomposition
import LicenseSeal.Proofs.Template.DelimitedCaptures
import LicenseSeal.Proofs.Template.FingerprintIdentity
import LicenseSeal.Proofs.Template.MemoSoundness
import LicenseSeal.Proofs.Template.OnePassFragments
import LicenseSeal.Proofs.Template.OrderedSearch
import LicenseSeal.Proofs.Template.PlaceholderSpelling
import LicenseSeal.Proofs.Template.RenderingInverse
import LicenseSeal.Proofs.Template.SearchInvariants
import LicenseSeal.Proofs.Template.TokenNames
import LicenseSeal.Proofs.Template.TokenTexts
import LicenseSeal.Proofs.Template.Tokenization
import LicenseSeal.Proofs.Template.UnsupportedFragments
import LicenseSeal.Proofs.Text.Base64RoundTrip
import LicenseSeal.Proofs.Value.CoercedFields
import LicenseSeal.Raised
import LicenseSeal.Signing.Ed25519
import LicenseSeal.Signing.Payload
import LicenseSeal.Signing.Rsa
import LicenseSeal.Signing.Serial
import LicenseSeal.Template.Fingerprint
import LicenseSeal.Template.Grammar
import LicenseSeal.Template.Grammar.Match
import LicenseSeal.Template.Placeholder
import LicenseSeal.Template.Render
import LicenseSeal.Template.Scan
import LicenseSeal.Text
import LicenseSeal.Text.Base64
import LicenseSeal.Text.Blank
import LicenseSeal.Text.CodePoint
import LicenseSeal.Text.Digit
import LicenseSeal.Text.LowerCase
import LicenseSeal.Text.Printable
import LicenseSeal.Text.Quoted
import LicenseSeal.Text.Styling
import LicenseSeal.Value
import LicenseSeal.Value.Coercion
import LicenseSeal.Value.Reading
import LicenseSeal.Yaml.Cursor
import LicenseSeal.Yaml.Error
import LicenseSeal.Yaml.Node
import LicenseSeal.Yaml.Number
import LicenseSeal.Yaml.Reader
import LicenseSeal.Yaml.Tag
import LicenseSeal.Yaml.Timestamp
import LicenseSeal.Yaml.Token
import LicenseSeal.Yaml.Written
