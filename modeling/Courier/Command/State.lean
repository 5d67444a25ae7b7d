/-!
The stages of a command's life, and the account it keeps of its sends and failures.
-/
namespace Courier

/-- The stages of a command: built, filtered for the next send, in flight, waiting before the next
attempt, following a redirect, and the two ends. -/
inductive CommandState where
  | built | filtered | sent | retrying | redirecting | succeeded | failed
  deriving DecidableEq, Repr

namespace CommandState

def isTerminal : CommandState → Bool
  | succeeded | failed => true
  | _ => false

def name : CommandState → String
  | built => "BUILT"
  | filtered => "FILTERED"
  | sent => "SENT"
  | retrying => "RETRYING"
  | redirecting => "REDIRECTING"
  | succeeded => "SUCCEEDED"
  | failed => "FAILED"

def label : CommandState → String
  | built => "Built"
  | filtered => "Filtered"
  | sent => "Sent"
  | retrying => "Retrying"
  | redirecting => "Redirecting"
  | succeeded => "Succeeded"
  | failed => "Failed"

end CommandState

/-- The account of a command: its sends, redirect hops included, its failed attempts, the retries that
were scheduled, and status and error code of the last failure if it was a response. -/
structure RetryState where
  attempt : Nat := 0
  failures : Nat := 0
  retries : Nat := 0
  lastStatus : Option Nat := none
  errorCode : Option String := none
  deriving DecidableEq, Repr

namespace RetryState

def beginSend (s : RetryState) : RetryState := { s with attempt := s.attempt + 1 }

def recordResponse (s : RetryState) (status : Nat) (errorCode : Option String) : RetryState :=
  { s with failures := s.failures + 1, lastStatus := some status, errorCode }

def recordTransportFailure (s : RetryState) : RetryState :=
  { s with failures := s.failures + 1, lastStatus := none, errorCode := none }

def recordRetry (s : RetryState) : RetryState := { s with retries := s.retries + 1 }

end RetryState

end Courier
