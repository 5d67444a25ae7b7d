import Courier.Command.Basic
import Courier.Http.Response
import Courier.Retry.Backoff
import Courier.Retry.ErrorCode

/-!
Deciding about retries. After a response that is no success a policy says whether the command is sent
again and after what pause. The policy kept here retries a 503 only for error codes it knows, a 504
always, and other statuses that it is told to retry; and only commands that may be sent again at all.
-/
namespace Courier

inductive RetryDecision where
  /-- After this pause; the next send will have this number. -/
  | retry (delay : Duration) (attempt : Nat)
  | doNotRetry (reason : String)
  deriving DecidableEq, Repr

/-- A way to decide. Everything a decision rests on is in the command and the response. -/
structure RetryPolicy where
  shouldRetry : Command → Response → Noted RetryDecision
  /-- The error code in a response, kept in the command's account. -/
  errorCode : Response → Noted (Option String)

structure BackoffPolicy where
  codes : List String := []
  statuses : List Nat := []
  backoff : Backoff
  parser : ErrorCodeParser := ErrorCode.detect

namespace BackoffPolicy

/-- The status of a server that is busy for a while. -/
def serviceUnavailable : Nat := 503

/-- The status of a gateway whose server did not answer: the request has done nothing. -/
def gatewayTimeout : Nat := 504

def ineligibleReason : String := "command is not idempotent or its payload cannot be replayed"

/-- The error code in a body held in memory that is not empty. -/
def errorCode (policy : BackoffPolicy) (response : Response) : Noted (Option String) :=
  match response.bodyBytes? with
  | none | some [] => pure none
  | some body => policy.parser body

def retry (policy : BackoffPolicy) (command : Command) : Noted RetryDecision := do
  let state := command.retryState
  let delay := policy.backoff.delay state.failures
  note (.willRetry state.attempt (state.attempt + 1) delay.toMillis)
  pure (.retry delay (state.attempt + 1))

def shouldRetry (policy : BackoffPolicy) (command : Command) (response : Response) :
    Noted RetryDecision :=
  if !command.isRetryEligible then pure (.doNotRetry ineligibleReason)
  else if response.status = serviceUnavailable then do
    match ← policy.errorCode response with
    | some code =>
      if policy.codes.contains code then policy.retry command
      else pure (.doNotRetry s!"error code {code} is not retryable")
    | none => pure (.doNotRetry "503 without a parseable error code")
  else if response.status = gatewayTimeout then policy.retry command
  else if policy.statuses.contains response.status then policy.retry command
  else pure (.doNotRetry s!"status {response.status} is not retryable")

def toPolicy (policy : BackoffPolicy) : RetryPolicy where
  shouldRetry := policy.shouldRetry
  errorCode := policy.errorCode

end BackoffPolicy

namespace RetryPolicy

/-- Retries everything after the same pause and reads no error codes. -/
def always (delay : Duration) : RetryPolicy where
  shouldRetry := fun command _ => pure (.retry delay (command.attempts + 1))
  errorCode := fun _ => pure none

def never (reason : String) : RetryPolicy where
  shouldRetry := fun _ _ => pure (.doNotRetry reason)
  errorCode := fun _ => pure none

end RetryPolicy

end Courier
