import Courier.Command.State
import Courier.Http.Request

/-!
Commands. A command is one operation that may take several sends. It holds the request as the caller
built it, never as filters changed it; its endpoint follows redirects. The payload it was built with is
let go when the command ends, whatever has become of the request.
-/
namespace Courier

structure Command where
  /-- Tells commands apart in the names of payloads that filters make. -/
  number : Nat := 0
  request : Request
  initialPayload : Option SharedPayload
  state : CommandState := .built
  retryState : RetryState := {}
  /-- The caller allows resends although the method promises nothing. -/
  retrySafe : Bool := false
  cancelled : Bool := false
  /-- How often the request went through the filters. -/
  rounds : Nat := 0

namespace Command

def ofRequest (number : Nat) (request : Request) (retrySafe : Bool) : Command where
  number := number
  request := request
  initialPayload := request.payload
  retrySafe := retrySafe

/-- A command as it is built; it may have been cancelled since. -/
def built (number : Nat) (request : Request) (retrySafe cancelled : Bool) : Command :=
  { ofRequest number request retrySafe with cancelled }

def attempts (c : Command) : Nat := c.retryState.attempt

/-- May the command be sent again after a failure? Either the method is idempotent, or the caller allows
it and the body can be had again. -/
def isRetryEligible (c : Command) : Bool :=
  c.request.method.isIdempotent ||
    (c.retrySafe && c.request.payload.all fun p => p.payload.isRepeatable)

def setState (c : Command) (state : CommandState) : Noted Command := do
  note (.commandState c.state.name state.name)
  pure { c with state }

/-- Lets go of the payload the command was built with. The answer says whether this released it. -/
def releasePayload (c : Command) (lives : Lives) : Noted (Bool × Lives) :=
  match c.initialPayload with
  | none => pure (false, lives)
  | some p => do
    let (released, life) ← p.payload.release (lives p.id)
    if released then note (.commandPayloadReleased c.request.endpoint.text)
    pure (released, lives.set p.id life)

/-- The request of a command after a redirect to `hop`: only the endpoint moves. If the hop has another
method, the method moves too and the body is dropped. -/
def redirected (request hop : Request) : Request :=
  let moved := request.withEndpoint hop.endpoint
  if hop.method = request.method then moved else (moved.withMethod hop.method).withPayload none

/-- Follows a redirect, so that later attempts go where it led. -/
def followRedirect (c : Command) (hop : Request) : Noted Command := do
  let c ← c.setState .redirecting
  pure { c with request := redirected c.request hop }

def beginSend (c : Command) : Noted Command := do
  let c ← c.setState .sent
  pure { c with retryState := c.retryState.beginSend }

def describeRetryState (s : RetryState) : String :=
  Text.record "RetryState"
    [("attempt", toString s.attempt), ("failures", toString s.failures),
     ("retries", toString s.retries), ("last_status", Text.optional (s.lastStatus.map toString)),
     ("error_code", Text.optional (s.errorCode.map Text.quoted))]

def describe (c : Command) (lives : Lives) : String :=
  Text.record "Command"
    [("request", c.request.describe lives),
     ("payload", Text.optional (c.initialPayload.map fun p => p.payload.describe (lives p.id))),
     ("state", c.state.label), ("retry_state", describeRetryState c.retryState),
     ("retry_safe", toString c.retrySafe),
     ("cancel", Text.record "CancellationToken" [("is_cancelled", toString c.cancelled)])]

end Command

end Courier
