import ModelProtection.Buffer
import ModelProtection.Certificate
import ModelProtection.CommandLine.Invocation
import ModelProtection.CommandLine.Option
import ModelProtection.CommandLine.Report
import ModelProtection.Crypto.DerivedKeys
import ModelProtection.Crypto.Journal
import ModelProtection.Crypto.Lease
import ModelProtection.Crypto.LeaseBook
import ModelProtection.Crypto.Service
import ModelProtection.Crypto.Slot
import ModelProtection.Crypto.SlotTable
import ModelProtection.Crypto.Software
import ModelProtection.Decimal.Shortest
import ModelProtection.Envelope
import ModelProtection.Error.Class
import ModelProtection.Error.Crypto
import ModelProtection.Error.Protect
import ModelProtection.Guid
import ModelProtection.Host.FileTree
import ModelProtection.Host.Path
import ModelProtection.Host.World
import ModelProtection.Json.Error
import ModelProtection.Json.Record
import ModelProtection.Json.Scan
import ModelProtection.Json.Tree
import ModelProtection.Keystore
import ModelProtection.Keystore.Store
import ModelProtection.Main
import ModelProtection.Metadata
import ModelProtection.ModelHash
import ModelProtection.Octets
import ModelProtection.Primitive.Aead
import ModelProtection.Primitive.ChaCha20
import ModelProtection.Primitive.Ed25519
import ModelProtection.Primitive.Hmac
import ModelProtection.Primitive.Poly1305
import ModelProtection.Primitive.Sha2
import ModelProtection.Proofs.Buffer
import ModelProtection.Proofs.Buffer.Calls
import ModelProtection.Proofs.Certificate
import ModelProtection.Proofs.Certificate.Lifetime
import ModelProtection.Proofs.Certificate.Naming
import ModelProtection.Proofs.Certificate.Written
import ModelProtection.Proofs.Crypto.Authentic
import ModelProtection.Proofs.Crypto.Calls
import ModelProtection.Proofs.Crypto.Cipher
import ModelProtection.Proofs.Crypto.History
import ModelProtection.Proofs.Crypto.Identities
import ModelProtection.Proofs.Crypto.Leases
import ModelProtection.Proofs.Crypto.Operations
import ModelProtection.Proofs.Crypto.RoundTrip
import ModelProtection.Proofs.Crypto.Salted
import ModelProtection.Proofs.Crypto.Sessions
import ModelProtection.Proofs.Crypto.Slots
import ModelProtection.Proofs.Crypto.Tenancy
import ModelProtection.Proofs.Crypto.WellFormed
import ModelProtection.Proofs.Crypto.Wrapping
import ModelProtection.Proofs.Envelope
import ModelProtection.Proofs.Envelope.Ending
import ModelProtection.Proofs.Envelope.Exact
import ModelProtection.Proofs.Guid
import ModelProtection.Proofs.Host.Files
import ModelProtection.Proofs.Json.Layout
import ModelProtection.Proofs.Json.Plain
import ModelProtection.Proofs.Json.Reading
import ModelProtection.Proofs.Json.Records
import ModelProtection.Proofs.Json.Size
import ModelProtection.Proofs.Keystore
import ModelProtection.Proofs.Keystore.Naming
import ModelProtection.Proofs.Keystore.Saved
import ModelProtection.Proofs.Protect.Artifacts
import ModelProtection.Proofs.Protect.Atomicity
import ModelProtection.Proofs.Protect.Bounded
import ModelProtection.Proofs.Protect.Building
import ModelProtection.Proofs.Protect.Capacity
import ModelProtection.Proofs.Protect.Certified
import ModelProtection.Proofs.Protect.Decoding
import ModelProtection.Proofs.Protect.Documents
import ModelProtection.Proofs.Protect.Effects
import ModelProtection.Proofs.Protect.Encrypting
import ModelProtection.Proofs.Protect.Keeping
import ModelProtection.Proofs.Protect.Licensing
import ModelProtection.Proofs.Protect.Naming
import ModelProtection.Proofs.Protect.Outline
import ModelProtection.Proofs.Protect.Outputs
import ModelProtection.Proofs.Protect.Protecting
import ModelProtection.Proofs.Protect.Recovery
import ModelProtection.Proofs.Protect.Steps
import ModelProtection.Proofs.Protect.Totality
import ModelProtection.Proofs.Size
import ModelProtection.Proofs.Text.Boundary
import ModelProtection.Proofs.Text.Canonical
import ModelProtection.Proofs.Text.Cutting
import ModelProtection.Proofs.Text.Digits
import ModelProtection.Proofs.Text.Hex
import ModelProtection.Proofs.Text.Utf8
import ModelProtection.Proofs.Time.Calendar
import ModelProtection.Proofs.Time.Line
import ModelProtection.Proofs.Time.Order
import ModelProtection.Proofs.Time.Reading
import ModelProtection.Proofs.Time.Second
import ModelProtection.Proofs.Time.Timestamp
import ModelProtection.Protect.Context
import ModelProtection.Protect.Document
import ModelProtection.Protect.Encryption
import ModelProtection.Protect.Input
import ModelProtection.Protect.LicenseBuild
import ModelProtection.Protect.ModelBuild
import ModelProtection.Protect.Request
import ModelProtection.Protect.Run
import ModelProtection.Protect.Workflow
import ModelProtection.Settings
import ModelProtection.Size
import ModelProtection.Text.Base64
import ModelProtection.Text.Escaped
import ModelProtection.Text.Hex
import ModelProtection.Text.Line
import ModelProtection.Text.Quoted
import ModelProtection.Text.Space
import ModelProtection.Text.Utf8
import ModelProtection.Time.Calendar
import ModelProtection.Time.Instant
import ModelProtection.Time.Text
import ModelProtection.Time.Timestamp
import ModelProtection.Yaml.Layout
import ModelProtection.Yaml.Mapping
import ModelProtection.Yaml.Scalar
import ModelProtection.Yaml.Token
import ModelProtection.Proofs.Protect.Independence
import ModelProtection.Proofs.CommandLine.Generating
