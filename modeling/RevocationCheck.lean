import RevocationCheck.Base64
import RevocationCheck.Calendar
import RevocationCheck.Checked
import RevocationCheck.CommandLine
import RevocationCheck.CommandLine.Arguments
import RevocationCheck.Curve.Edwards
import RevocationCheck.Curve.Weierstrass
import RevocationCheck.Der.Element
import RevocationCheck.Der.Strict
import RevocationCheck.Der.Value
import RevocationCheck.Digest
import RevocationCheck.Digest.Blocks
import RevocationCheck.Digest.Sha1
import RevocationCheck.Digest.Sha256
import RevocationCheck.Digest.Sha512
import RevocationCheck.Document
import RevocationCheck.Document.DateTime
import RevocationCheck.Document.Json
import RevocationCheck.Document.Number
import RevocationCheck.Document.Toml
import RevocationCheck.Document.Yaml
import RevocationCheck.Document.Yaml.Cursor
import RevocationCheck.Document.Yaml.Layout
import RevocationCheck.Document.Yaml.Nesting
import RevocationCheck.Document.Yaml.Node
import RevocationCheck.Document.Yaml.Property
import RevocationCheck.Document.Yaml.Scalar
import RevocationCheck.Document.Yaml.Token
import RevocationCheck.Failure
import RevocationCheck.Files
import RevocationCheck.Handshake
import RevocationCheck.Issuer
import RevocationCheck.Main
import RevocationCheck.Modular
import RevocationCheck.Network
import RevocationCheck.Number.Binary64
import RevocationCheck.Number.Digits
import RevocationCheck.Number.Word
import RevocationCheck.Octets
import RevocationCheck.Oid
import RevocationCheck.Pem
import RevocationCheck.Policy
import RevocationCheck.Policy.Reading
import RevocationCheck.Proofs.Acceptance
import RevocationCheck.Proofs.Elements
import RevocationCheck.Proofs.FirstFailure
import RevocationCheck.Proofs.IssuerRank
import RevocationCheck.Proofs.ListSource
import RevocationCheck.RevocationList
import RevocationCheck.RevocationList.Validation
import RevocationCheck.Rsa
import RevocationCheck.Settings
import RevocationCheck.Settings.EnvironmentFile
import RevocationCheck.Settings.Fault
import RevocationCheck.Settings.Path
import RevocationCheck.Settings.Reading
import RevocationCheck.Settings.Tree
import RevocationCheck.Source
import RevocationCheck.Text.Alphanumeric
import RevocationCheck.Text.Blank
import RevocationCheck.Text.CharSet
import RevocationCheck.Text.Composition
import RevocationCheck.Text.CompositionTable
import RevocationCheck.Text.Hex
import RevocationCheck.Text.LetterTable
import RevocationCheck.Text.Letters
import RevocationCheck.Text.PrintTable
import RevocationCheck.Text.Quoted
import RevocationCheck.Text.Utf16
import RevocationCheck.Text.Utf8
import RevocationCheck.Timestamp
import RevocationCheck.TrustPath
import RevocationCheck.TrustPath.Standing
import RevocationCheck.TrustPath.Strength
import RevocationCheck.Url
import RevocationCheck.Url.Direction
import RevocationCheck.Url.DirectionTable
import RevocationCheck.Url.Domain
import RevocationCheck.Url.DomainTable
import RevocationCheck.Url.Fault
import RevocationCheck.Url.Host
import RevocationCheck.Url.Joining
import RevocationCheck.Url.JoiningTable
import RevocationCheck.Url.Path
import RevocationCheck.Url.Percent
import RevocationCheck.Url.Punycode
import RevocationCheck.Verification
import RevocationCheck.X509.Algorithm
import RevocationCheck.X509.Certificate
import RevocationCheck.X509.CertificateList
import RevocationCheck.X509.Extension
import RevocationCheck.X509.Fault
import RevocationCheck.X509.KeyIdentifier
import RevocationCheck.X509.Name
import RevocationCheck.X509.NameForm
import RevocationCheck.X509.Scheme
import RevocationCheck.X509.Time
import RevocationCheck.Proofs.RevokedEntries
import RevocationCheck.Proofs.SourcePriority
import RevocationCheck.Proofs.Locality
import RevocationCheck.Proofs.ListParts
import RevocationCheck.Proofs.SignedPart
import RevocationCheck.Proofs.CalendarDates
import RevocationCheck.Proofs.OctetNumbers
import RevocationCheck.Proofs.WrittenElements
import RevocationCheck.Proofs.WrittenTimes
import RevocationCheck.Proofs.WrittenLists
import RevocationCheck.Proofs.RoundTrip
import RevocationCheck.Proofs.SignerAuthority
import RevocationCheck.Proofs.LinkedChains
import RevocationCheck.Proofs.DecodedChains
import RevocationCheck.Proofs.Strictness
import RevocationCheck.Proofs.HandshakeDecision
import RevocationCheck.Proofs.SpelledArguments
import RevocationCheck.Proofs.RunStages
import RevocationCheck.Proofs.UncheckedOrder
import RevocationCheck.Proofs.ValidationOutcome
import RevocationCheck.Proofs.DottedText
import RevocationCheck.Proofs.ReadableNames
import RevocationCheck.Proofs.FoundSubject
import RevocationCheck.Proofs.IssuerFiles
import RevocationCheck.Proofs.FailureOrigin
import RevocationCheck.Proofs.BrokenIssuerFile
import RevocationCheck.Proofs.PemLines
import RevocationCheck.Proofs.WrittenBundles
import RevocationCheck.Proofs.DamagedBundles
import RevocationCheck.Proofs.FirstBlock
import RevocationCheck.Proofs.FirstPoint
import RevocationCheck.Proofs.SettingLayers
import RevocationCheck.Proofs.PolicyFields
import RevocationCheck.Proofs.FieldOverrides
import RevocationCheck.Proofs.ConfiguredPolicy
import RevocationCheck.Proofs.IssuerPositions
