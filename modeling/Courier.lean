import Courier.Codec.Base64
import Courier.Codec.Hex
import Courier.Command.Basic
import Courier.Command.Error
import Courier.Command.State
import Courier.Config.Basic
import Courier.Config.Reader
import Courier.Decimal.Binary64
import Courier.Decimal.Shortest
import Courier.Digest.Basic
import Courier.Digest.Block
import Courier.Digest.Md5
import Courier.Digest.Sha256
import Courier.Digest.Tap
import Courier.Executor.Basic
import Courier.Executor.Invocation
import Courier.Executor.Step
import Courier.Fallback
import Courier.Filter.Basic
import Courier.Filter.Chain
import Courier.Http.Header
import Courier.Http.Metadata
import Courier.Http.Method
import Courier.Http.Request
import Courier.Http.Response
import Courier.Json.Fault
import Courier.Json.Scalar
import Courier.Json.Value
import Courier.Notice
import Courier.Payload.Basic
import Courier.Payload.Disk
import Courier.Payload.Flow
import Courier.Payload.Handles
import Courier.Redirect
import Courier.Rehearsal.Script
import Courier.Rehearsal.Session
import Courier.Rehearsal.Stage
import Courier.Retry.Backoff
import Courier.Retry.Duration
import Courier.Retry.ErrorCode
import Courier.Retry.Policy
import Courier.Text.Ascii
import Courier.Text.Blank
import Courier.Text.Capital
import Courier.Text.Integer
import Courier.Text.Printable
import Courier.Text.Quoted
import Courier.Text.Utf8
import Courier.Transport.Error
import Courier.Transport.Wire
import Courier.Url.Address
import Courier.Url.Basic
import Courier.Url.Domain
import Courier.Url.Percent
import Courier.Url.Punycode
import Courier.Url.Reader
import Courier.Writer
import Courier.Xml.Escape
import Courier.Xml.Scanner
import Courier.Proofs.Deeds
import Courier.Proofs.Moves
import Courier.Proofs.Execution
import Courier.Proofs.Frames
import Courier.Proofs.Discretion
import Courier.Proofs.Chronicle
import Courier.Proofs.Release
import Courier.Proofs.Cancellation
import Courier.Proofs.SendCount
import Courier.Proofs.RetryDecision
import Courier.Proofs.Bounds
import Courier.Proofs.Termination
import Courier.Proofs.BaseRequest
import Courier.Proofs.Resend
import Courier.Proofs.Filtering
import Courier.Proofs.Replay
import Courier.Proofs.Setbacks
import Courier.Proofs.Destination
import Courier.Proofs.Exhaustion
import Courier.Proofs.Invocation
import Courier.Proofs.Unfiltered
import Courier.Proofs.Forwarding
import Courier.Proofs.OneShot
import Courier.Proofs.Lifecycle
import Courier.Proofs.Backoff
import Courier.Proofs.Schedule
import Courier.Proofs.Hashing
import Courier.Proofs.Exchanges
import Courier.Proofs.UploadDigest
import Courier.Proofs.Dispatch
import Courier.Proofs.Schemes
import Courier.Proofs.Veil
import Courier.Proofs.Blindness
import Courier.Proofs.Writing
import Courier.Proofs.Secrecy
import Courier.Proofs.CutXml
import Courier.Proofs.CutScalar
import Courier.Proofs.CutJson
import Courier.Proofs.CutBody
import Courier.Proofs.BoundedRead
import Courier.Proofs.PayloadLife
import Courier.Proofs.Twins
import Courier.Proofs.Company
import Courier.Proofs.Buffering
import Courier.Proofs.ChainCalls
import Courier.Proofs.StreamDigest
import Courier.Proofs.Utf8
import Courier.Proofs.XmlTree
import Courier.Proofs.XmlText
import Courier.Proofs.XmlTags
import Courier.Proofs.XmlTokens
import Courier.Proofs.XmlCode
import Courier.Proofs.Trimming
import Courier.Proofs.Codecs
import Courier.Proofs.DigestText
import Courier.Proofs.Tapping
import Courier.Proofs.HeaderLines
import Courier.Proofs.Description
import Courier.Proofs.Credentials
