import Courier.Text.Quoted
import Courier.Writer

/-!
What the library reports of its work to a log. A notice says what happened; its level, its wording and
the names of its fields are given here once. A field whose value is absent is left out.
-/
namespace Courier

inductive Level where
  | trace | debug | info | warn
  deriving DecidableEq, Repr

def Level.name : Level → String
  | trace => "TRACE"
  | debug => "DEBUG"
  | info => "INFO"
  | warn => "WARN"

inductive Notice where
  /-- A filter was passed over because the request has been through it. -/
  | filterSkipped (filter : String)
  | requestFiltered (endpoint : String) (applied : List String)
  | openingPayload (source : String)
  | payloadReleased (source : String)
  /-- A command let go of the payload it was built with. -/
  | commandPayloadReleased (endpoint : String)
  | commandState (before after : String)
  | malformedXml (error : String)
  | malformedJson (error : String)
  | digestMismatch (expected actual : String)
  | bufferingFailed (status : Nat) (error : String)
  | followingRedirect (status : Nat) (origin target : String)
  | sendingRequest (attempt : Nat) (method endpoint : String)
  | cancelledWhileSending (attempt : Nat)
  | responseReceived (attempt status : Nat)
  | cancelledWhileReading (status attempts : Nat)
  | cancelledDuringBackoff (attempts : Nat)
  | notRetrying (status : Nat) (reason : String)
  | willRetry (attempt next delayMillis : Nat)
  | retryingCommand (status : Nat) (errorCode : Option String) (attempt maxRetries delayMillis : Nat)
  | retryingAfterTransportFailure (attempt maxRetries delayMillis : Nat) (error : String)
  | commandFinished (status attempts : Nat)
  | commandFailed (error : String) (attempts : Nat)
  | applyingFallback (error : String)
  /-- The headers about to be written on the wire. -/
  | wireRequest (headers : String)
  /-- The headers read from the wire. -/
  | wireResponse (status : Nat) (headers : String)
  | wireResponseReceived (status : Nat)
  deriving DecidableEq, Repr

namespace Notice

def level : Notice → Level
  | filterSkipped .. | openingPayload .. | commandState .. | malformedXml .. | malformedJson ..
  | wireRequest .. | wireResponse .. => .trace
  | retryingCommand .. | retryingAfterTransportFailure .. => .info
  | bufferingFailed .. | commandFailed .. => .warn
  | _ => .debug

def message : Notice → String
  | filterSkipped .. => "filter already applied, skipping"
  | requestFiltered .. => "request filtered"
  | openingPayload .. => "opening payload"
  | payloadReleased .. | commandPayloadReleased .. => "payload released"
  | commandState .. => "command state"
  | malformedXml .. => "malformed XML error body"
  | malformedJson .. => "malformed JSON error body"
  | digestMismatch .. => "digest mismatch"
  | bufferingFailed .. => "failed to buffer response body"
  | followingRedirect .. => "following redirect"
  | sendingRequest .. => "sending request"
  | cancelledWhileSending .. => "cancelled while sending"
  | responseReceived .. | wireResponseReceived .. => "response received"
  | cancelledWhileReading .. => "cancelled while reading error body"
  | cancelledDuringBackoff .. => "cancelled during backoff"
  | notRetrying .. => "not retrying"
  | willRetry .. => "will retry"
  | retryingCommand .. => "retrying command"
  | retryingAfterTransportFailure .. => "retrying after transport failure"
  | commandFinished .. => "command finished"
  | commandFailed .. => "command failed"
  | applyingFallback .. => "applying fallback"
  | wireRequest .. => ">> request"
  | wireResponse .. => "<< response"

def fields : Notice → List (String × String)
  | filterSkipped filter => [("filter", filter)]
  | requestFiltered endpoint applied =>
    [("endpoint", endpoint), ("applied", Text.quotedList applied)]
  | openingPayload source | payloadReleased source => [("source", source)]
  | commandPayloadReleased endpoint => [("endpoint", endpoint)]
  | commandState before after => [("from", before), ("to", after)]
  | malformedXml error | malformedJson error | applyingFallback error => [("error", error)]
  | digestMismatch expected actual => [("expected", expected), ("actual", actual)]
  | bufferingFailed status error => [("status", toString status), ("error", error)]
  | followingRedirect status origin target =>
    [("status", toString status), ("from", origin), ("to", target)]
  | sendingRequest attempt method endpoint =>
    [("attempt", toString attempt), ("method", method), ("endpoint", endpoint)]
  | cancelledWhileSending attempt => [("attempt", toString attempt)]
  | responseReceived attempt status =>
    [("attempt", toString attempt), ("status", toString status)]
  | cancelledWhileReading status attempts | commandFinished status attempts =>
    [("status", toString status), ("attempts", toString attempts)]
  | cancelledDuringBackoff attempts => [("attempts", toString attempts)]
  | notRetrying status reason => [("status", toString status), ("reason", reason)]
  | willRetry attempt next delayMillis =>
    [("attempt", toString attempt), ("next_attempt", toString next),
     ("delay_ms", toString delayMillis)]
  | retryingCommand status errorCode attempt maxRetries delayMillis =>
    [("status", toString status)] ++ (errorCode.map (("error_code", ·))).toList ++
    [("attempt", toString attempt), ("max_retries", toString maxRetries),
     ("delay_ms", toString delayMillis), ("failure", "RetryableServer")]
  | retryingAfterTransportFailure attempt maxRetries delayMillis error =>
    [("attempt", toString attempt), ("max_retries", toString maxRetries),
     ("delay_ms", toString delayMillis), ("error", error)]
  | commandFailed error attempts => [("error", error), ("attempts", toString attempts)]
  | wireRequest headers => [("headers", headers)]
  | wireResponse status headers => [("status", toString status), ("headers", headers)]
  | wireResponseReceived status => [("status", toString status)]

end Notice

/-- A value together with the notices given while it was made. -/
abbrev Noted := Writer Notice

def note (n : Notice) : Noted Unit := Writer.tell n

@[simp] theorem value_note (n : Notice) : (note n).value = () := rfl

@[simp] theorem output_note (n : Notice) : (note n).output = [n] := rfl

end Courier
