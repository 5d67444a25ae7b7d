import Courier.Config.Basic
import Courier.Filter.Chain
import Courier.Redirect

/-!
Executors and runs. An executor is a set of rules; a run is one command under these rules, at one of the
points where it waits for something outside: for a file to be opened, for the answer to a send, for an
error body, or for the end of a pause. What the outside does is a `Signal`, and what a run does is a row
of `Event`s.
-/
namespace Courier

structure Executor where
  filters : FilterChain := []
  retryPolicy : RetryPolicy
  redirectPolicy : RedirectPolicy
  transportBackoff : Backoff
  maxRetries : Nat
  maxErrorBodyBytes : Nat
  /-- The digest taken of what is sent. -/
  uploadDigest : Option DigestAlgorithm

/-- The executor with the options of a configuration, in order or not. -/
def Config.described (config : Config) : Executor where
  retryPolicy := config.retryPolicy.toPolicy
  redirectPolicy := .upTo config.maxRedirects
  transportBackoff := config.backoff
  maxRetries := config.maxRetries
  maxErrorBodyBytes := config.maxErrorBodyBytes
  uploadDigest := config.uploadDigest

/-- The executor that a configuration describes, if every option is in its range. -/
def Executor.ofConfig (config : Config) : Except OutOfRange Executor := do
  config.validate
  pure config.described

/-- The executor with these filters and this way with redirects in place of its own. -/
def Executor.equipped (e : Executor) (filters : FilterChain) (redirectPolicy : RedirectPolicy) : Executor :=
  { e with filters, redirectPolicy }

abbrev Outcome := Except CommandError Response

/-- Where a run stands. -/
inductive Phase where
  | idle
  /-- Waits for a file to be opened; what comes of it is settled. -/
  | opening (request : Request) (hops : Nat) (opened : Except PayloadError Stream)
  /-- A request is with the transport, together with its body. -/
  | sending (request : Request) (hops : Nat) (body : Option Flow)
  /-- The body of an error response is being read. -/
  | reading (response : Response) (body : Body) (flow : Flow)
  | pausing (delay : Duration)
  | finished (outcome : Outcome)

/-- A command on its way, with what has happened to the payloads. -/
structure Run where
  command : Command
  lives : Lives
  phase : Phase := .idle

/-- What happens outside a run. What a run waits for may come in the very step in which the command is cancelled:
the run has looked for a cancellation first and found none, and takes what is there. -/
inductive Signal where
  /-- The file is open, or could not be opened. -/
  | opened
  /-- The transport has an answer, after taking so many items of the body. -/
  | answered (answer : Except TransportError Response) (taken : Nat) (cancelledMeanwhile : Bool)
  /-- The error body is read to its end, to the limit or to an error. -/
  | bodyRead (cancelledMeanwhile : Bool)
  | pauseOver (cancelledMeanwhile : Bool)
  | cancelled

/-- What a run does. -/
inductive Event where
  | notice (notice : Notice)
  /-- A request was handed to the transport, with this body. -/
  | handed (request : Request) (body : Option Flow)
  /-- The policy decided about a response, seeing the command in this condition. -/
  | decided (command : Command) (response : Response) (decision : RetryDecision)
  | pausing (delay : Duration)
  /-- A response of success was given to the reader. -/
  | reading (response : Response)
  /-- A failure was given to the fallback. -/
  | substituting (error : CommandError)

/-- A value with what a run did on the way to it. -/
abbrev Traced := Writer Event

def Noted.traced {α : Type} (x : Noted α) : Traced α := x.mapOutput .notice

def Event.notice? : Event → Option Notice
  | notice n => some n
  | _ => none

end Courier
