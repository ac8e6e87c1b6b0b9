import Issuance.Audit.Chain
import Issuance.Audit.Command
import Issuance.Audit.Event
import Issuance.Audit.Trail
import Issuance.Audit.Verdict
import Issuance.Bytes.Base64
import Issuance.Bytes.Basic
import Issuance.Bytes.Hex
import Issuance.Claims.Calendar
import Issuance.Claims.Coercion
import Issuance.Claims.Evidence
import Issuance.Claims.Numeral
import Issuance.Claims.Redaction
import Issuance.Claims.Shared
import Issuance.Claims.Stamp
import Issuance.Client
import Issuance.Crypto.Aes
import Issuance.Crypto.Curve
import Issuance.Crypto.Edwards
import Issuance.Crypto.Gcm
import Issuance.Crypto.Hash
import Issuance.Crypto.Modular
import Issuance.Crypto.Rsa
import Issuance.Crypto.Sha2
import Issuance.Crypto.Sha3
import Issuance.Crypto.StandardCurve
import Issuance.Entries
import Issuance.Envelope.Compact
import Issuance.Envelope.Decrypter
import Issuance.Fault
import Issuance.Form
import Issuance.Json.Arithmetic
import Issuance.Json.Binary64
import Issuance.Json.Display
import Issuance.Json.Encoded
import Issuance.Json.Reader
import Issuance.Json.Shortest
import Issuance.Json.Value
import Issuance.Json.Writer
import Issuance.Key.Algorithm
import Issuance.Key.Certificate
import Issuance.Key.Der
import Issuance.Key.Fit
import Issuance.Key.Jwk
import Issuance.Key.Kind
import Issuance.Key.Line
import Issuance.Key.NamedCurve
import Issuance.Key.Pem
import Issuance.Key.Private
import Issuance.Key.Ring
import Issuance.Key.Secret
import Issuance.Key.Verification
import Issuance.Main
import Issuance.Proofs.Audit.Chain
import Issuance.Proofs.Audit.Digest
import Issuance.Proofs.Audit.Failure
import Issuance.Proofs.Audit.Growth
import Issuance.Proofs.Audit.Head
import Issuance.Proofs.Audit.History
import Issuance.Proofs.Audit.Line
import Issuance.Proofs.Audit.Loggable
import Issuance.Proofs.Audit.Log
import Issuance.Proofs.Audit.Occurrence
import Issuance.Proofs.Audit.Passage
import Issuance.Proofs.Audit.Publish
import Issuance.Proofs.Audit.Silence
import Issuance.Proofs.Bytes.Alphabet
import Issuance.Proofs.Bytes.Base64
import Issuance.Proofs.Bytes.Blocks
import Issuance.Proofs.Bytes.Forgiving
import Issuance.Proofs.Bytes.Hex
import Issuance.Proofs.Claims.Calendar
import Issuance.Proofs.Claims.Echo
import Issuance.Proofs.Claims.Redaction
import Issuance.Proofs.Claims.Wire
import Issuance.Proofs.Crypto.Gcm
import Issuance.Proofs.Entries
import Issuance.Proofs.Envelope.Grammar
import Issuance.Proofs.Envelope.KeyWalk
import Issuance.Proofs.Envelope.Refusal
import Issuance.Proofs.Envelope.RoundTrip
import Issuance.Proofs.Form
import Issuance.Proofs.Json.Document
import Issuance.Proofs.Json.Encodable
import Issuance.Proofs.Json.Faithful
import Issuance.Proofs.Json.Layout
import Issuance.Proofs.Json.Numeral
import Issuance.Proofs.Json.OneLine
import Issuance.Proofs.Json.Quantity
import Issuance.Proofs.Json.Reader
import Issuance.Proofs.Json.RoundTrip
import Issuance.Proofs.Json.Rounding
import Issuance.Proofs.Json.Shortest
import Issuance.Proofs.Json.Sorted
import Issuance.Proofs.Json.Writer
import Issuance.Proofs.Key.Fit
import Issuance.Proofs.Key.Material
import Issuance.Proofs.Service.Authorization
import Issuance.Proofs.Service.Confinement
import Issuance.Proofs.Service.Counting
import Issuance.Proofs.Service.Denial
import Issuance.Proofs.Service.Exchange
import Issuance.Proofs.Service.Expiry
import Issuance.Proofs.Service.Frame
import Issuance.Proofs.Service.Handover
import Issuance.Proofs.Service.Journey
import Issuance.Proofs.Service.LiveCode
import Issuance.Proofs.Service.Opening
import Issuance.Proofs.Service.Record
import Issuance.Proofs.Service.Redemption
import Issuance.Proofs.Service.Replay
import Issuance.Proofs.Service.Run
import Issuance.Proofs.Service.Scope
import Issuance.Proofs.Service.Tally
import Issuance.Proofs.Service.TokenForm
import Issuance.Proofs.Service.Url
import Issuance.Proofs.Session.CodeIndex
import Issuance.Proofs.Session.History
import Issuance.Proofs.Session.Lifecycle
import Issuance.Proofs.Session.Refusal
import Issuance.Proofs.Session.SingleUse
import Issuance.Proofs.Session.Standing
import Issuance.Proofs.Session.Store
import Issuance.Proofs.Session.Validation
import Issuance.Proofs.Settings
import Issuance.Proofs.Signed.Compact
import Issuance.Proofs.Signed.Escape
import Issuance.Proofs.Signed.Guarantee
import Issuance.Proofs.Signed.Refusal
import Issuance.Proofs.Signed.Verifier
import Issuance.Proofs.Signed.Window
import Issuance.Proofs.Text.Ascii
import Issuance.Proofs.Text.Decimal
import Issuance.Proofs.Text.Pieces
import Issuance.Proofs.Text.Utf8
import Issuance.Service.Authorization
import Issuance.Service.Counters
import Issuance.Service.Exchange
import Issuance.Service.Http
import Issuance.Service.Opening
import Issuance.Service.State
import Issuance.Session.Basic
import Issuance.Session.Lifecycle
import Issuance.Session.Store
import Issuance.Session.Validation
import Issuance.Settings
import Issuance.Signed.Token
import Issuance.Signed.Verifier
import Issuance.Text.Blank
import Issuance.Text.CodePoint
import Issuance.Text.Digit
import Issuance.Text.Path
import Issuance.Text.Printable
import Issuance.Text.Stream
import Issuance.Text.UpperCase
import Issuance.Text.Utf8
import Issuance.Text.Wide
