import KeyedCoding.Coding.Encoder
import KeyedCoding.Coding.Written
import KeyedCoding.Generator.Basic
import KeyedCoding.Generator.MetaItem
import KeyedCoding.Settings.Document
import KeyedCoding.Proofs.Coding.FieldAccess
import KeyedCoding.Proofs.Coding.RecordRoundTrip
import KeyedCoding.Proofs.Coding.FieldwiseDecoding
import KeyedCoding.Proofs.Coding.EncoderRuns
import KeyedCoding.Proofs.Coding.CanonicalForm
import KeyedCoding.Proofs.Coding.FieldReordering
import KeyedCoding.Proofs.Generated.Fields
import KeyedCoding.Proofs.Generated.RoundTrip
import KeyedCoding.Proofs.Grammar.Identifiers
import KeyedCoding.Proofs.Settings.Accepted
import KeyedCoding.Proofs.Generated.Methods
import KeyedCoding.Proofs.Generated.Rendering
import KeyedCoding.Proofs.Generated.MethodNames
import KeyedCoding.Proofs.Generated.Alignment
import KeyedCoding.Proofs.Generated.FieldOrder
import KeyedCoding.Proofs.Generated.RuntimeCalls
import KeyedCoding.Proofs.Generated.MemberOrder
import KeyedCoding.Proofs.Generated.ModeComposition
import KeyedCoding.Proofs.Generated.IrrelevantParts
import KeyedCoding.Proofs.Generated.KeyLiterals
import KeyedCoding.Proofs.Declaration.OptionalTypes
import KeyedCoding.Proofs.Generated.DecodedTypes
import KeyedCoding.Proofs.Settings.SetterPrefixes
import KeyedCoding.Proofs.Generated.FragmentInputs
import KeyedCoding.Proofs.Generated.KeyLookup
import KeyedCoding.Proofs.Generated.Respelling
import KeyedCoding.Proofs.Grammar.LiteralExprs
import KeyedCoding.Proofs.Declaration.MarkerSpellings
import KeyedCoding.Proofs.Generator.ObservedRuns
import KeyedCoding.Proofs.Generator.FingerprintMessages
import KeyedCoding.Proofs.Token.IntegerLiterals
import KeyedCoding.Proofs.Declaration.IntegerKeys
import KeyedCoding.Proofs.Json.Scalars
import KeyedCoding.Proofs.Json.ReadBack
import KeyedCoding.Proofs.Coding.TextRoundTrip
