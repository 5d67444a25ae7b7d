import Courier.Command.State
import Courier.Filter.Chain
import Courier.Http.Response
import Courier.Transport.Error

/-!
How a command can end without a result. Every error is final: what a retry could mend is retried first.
-/
namespace Courier

/-- Why a command has no result. -/
inductive CommandError where
  /-- The send failed, and not for a passing reason, or the command may not be sent again. -/
  | transport (error : TransportError)
  /-- The final response is none of success. -/
  | nonRetryableResponse (status : Nat) (endpoint : String) (response : Response)
  /-- The failure could pass, but no retries were left. -/
  | retryExhausted (attempts : Nat) (endpoint : String) (lastStatus : Option Nat)
      (response : Option Response) (lastError : Option TransportError)
  | filter (error : FilterError)
  /-- The body was needed again and cannot be had again. -/
  | payloadNotReplayable (endpoint : String) (attempt : Nat)
  | payload (error : PayloadError)
  | tooManyRedirects (endpoint : String) (maxRedirects : Nat)
  | invalidRedirect (endpoint location : String)
  | cancelled (attempts : Nat)
  /-- The command had come to its end before. -/
  | invalidState (state : CommandState)
  /-- A response of success could not be read. -/
  | parse (error : String)

namespace CommandError

/-- A final response as an error. -/
def ofResponse (endpoint : String) (response : Response) : CommandError :=
  nonRetryableResponse response.status endpoint response

def message : CommandError → String
  | transport error => error.message
  | nonRetryableResponse status endpoint _ => s!"HTTP {status} from {endpoint}"
  | retryExhausted attempts endpoint lastStatus _ _ =>
    s!"retries exhausted after {attempts} attempts to {endpoint}" ++
      (lastStatus.map fun status => s!" (last status {status})").getD ""
  | filter error => error.message
  | payloadNotReplayable endpoint attempt =>
    s!"payload for {endpoint} cannot be replayed for attempt {attempt}"
  | payload error => error.message
  | tooManyRedirects endpoint maxRedirects =>
    s!"too many redirects from {endpoint} (max {maxRedirects})"
  | invalidRedirect endpoint location => s!"invalid redirect from {endpoint} to {location}"
  | cancelled attempts => s!"command cancelled after {attempts} attempts"
  | invalidState state => s!"command is already {state.name}"
  | parse error => s!"failed to parse response: {error}"

/-- The texts of the errors behind this one, nearest first. -/
def causes : CommandError → List String
  | transport error => error.causes
  | retryExhausted _ _ _ _ (some error) => error.message :: error.causes
  | filter error => error.causes
  | payload error => error.causes
  | parse error => [error]
  | _ => []

/-- The error's description; an error behind it that is not one of the library's own is described as
`foreign` says. -/
def describe (foreign : Cause → String) : CommandError → String
  | transport error => Text.tagged "Transport" (error.describe foreign)
  | nonRetryableResponse status endpoint response =>
    Text.record "NonRetryableResponse"
      [("status", toString status), ("endpoint", Text.quoted endpoint),
       ("response", response.describe)]
  | retryExhausted attempts endpoint lastStatus response lastError =>
    Text.record "RetryExhausted"
      [("attempts", toString attempts), ("endpoint", Text.quoted endpoint),
       ("last_status", Text.optional (lastStatus.map toString)),
       ("response", Text.optional (response.map Response.describe)),
       ("last_error", Text.optional (lastError.map (TransportError.describe foreign)))]
  | filter error => Text.tagged "Filter" (error.describe fun text => foreign { text })
  | payloadNotReplayable endpoint attempt =>
    Text.record "PayloadNotReplayable"
      [("endpoint", Text.quoted endpoint), ("attempt", toString attempt)]
  | payload error => Text.tagged "Payload" (error.describe fun text => foreign { text })
  | tooManyRedirects endpoint maxRedirects =>
    Text.record "TooManyRedirects"
      [("endpoint", Text.quoted endpoint), ("max_redirects", toString maxRedirects)]
  | invalidRedirect endpoint location =>
    Text.record "InvalidRedirect"
      [("endpoint", Text.quoted endpoint), ("location", Text.quoted location)]
  | cancelled attempts => Text.record "Cancelled" [("attempts", toString attempts)]
  | invalidState state => Text.record "InvalidState" [("state", state.label)]
  | parse error => Text.record "Parse" [("source", foreign { text := error })]

def status : CommandError → Option Nat
  | nonRetryableResponse status _ _ => some status
  | retryExhausted _ _ lastStatus _ _ => lastStatus
  | _ => none

def response : CommandError → Option Response
  | nonRetryableResponse _ _ response => some response
  | retryExhausted _ _ _ response _ => response
  | _ => none

def isNotFound : CommandError → Bool
  | nonRetryableResponse status _ _ => status == 404
  | _ => false

def isCancelled : CommandError → Bool
  | cancelled _ => true
  | _ => false

end CommandError

end Courier
