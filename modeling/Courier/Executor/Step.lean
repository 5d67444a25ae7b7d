import Courier.Digest.Tap
import Courier.Executor.Basic

/-!
The steps of a run. `Executor.start` begins a command, and `Executor.step` carries it on after a signal
until it waits again or is finished. A signal that a run does not wait for changes nothing, except that a
cancellation is remembered. A cancellation ends a run that waits for the transport, for an error body or
for the end of a pause at once; while a file is being opened it takes effect before the send, and one that comes
together with what the run waits for takes effect where the run would wait next.
-/
namespace Courier

namespace Run

def withCommand (run : Run) (command : Command) : Run := { run with command }

/-- The run, cancelled if it is so `now`. -/
def heeding (run : Run) (now : Bool) : Run :=
  run.withCommand { run.command with cancelled := run.command.cancelled || now }

/-- Ends the run: the last stage, the release of the payload, and the result. -/
def finish (run : Run) (outcome : Outcome) : Traced Run := do
  let state : CommandState := if outcome.isOk then .succeeded else .failed
  let command ← (run.command.setState state).traced
  let (_, lives) ← (command.releasePayload run.lives).traced
  match outcome with
  | .ok response => (note (.commandFinished response.status command.attempts)).traced
  | .error e => (note (.commandFailed e.message command.attempts)).traced
  pure ⟨command, lives, .finished outcome⟩

def fail (run : Run) (error : CommandError) : Traced Run := run.finish (.error error)

def cancel (run : Run) : Traced Run := run.fail (.cancelled run.command.attempts)

end Run

namespace Executor

def openingError (run : Run) (request : Request) : PayloadError → CommandError
  | .notReplayable => .payloadNotReplayable request.endpoint.text (run.command.attempts + 1)
  | e => .payload e

/-- Hands a request to the transport, unless the command was cancelled before. -/
def handOver (run : Run) (request : Request) (hops : Nat) (body : Option Flow) : Traced Run := do
  let command ← run.command.beginSend.traced
  let run := run.withCommand command
  (note (.sendingRequest command.attempts request.method.name request.endpoint.text)).traced
  if command.cancelled then
    (note (.cancelledWhileSending command.attempts)).traced
    run.cancel
  else
    Writer.tell (.handed request body)
    pure { run with phase := .sending request hops body }

def afterOpening (run : Run) (disk : Disk) (request : Request) (hops : Nat)
    (opened : Except PayloadError Stream) : Traced Run :=
  match opened with
  | .error e => run.fail (openingError run request e)
  | .ok stream => handOver run request hops (some (stream.flow disk))

/-- Sends a request: its body is opened from the start. Opening a file takes time. -/
def send (run : Run) (disk : Disk) (request : Request) (hops : Nat) : Traced Run :=
  if run.command.cancelled then run.cancel
  else
    match request.payload with
    | none => handOver run request hops none
    | some p => do
      let life := run.lives p.id
      let (opened, after) ← (p.payload.openStream disk life).traced
      let run := { run with lives := run.lives.set p.id after }
      if p.payload.isFile && !life.released then
        pure { run with phase := .opening request hops opened }
      else afterOpening run disk request hops opened

/-- Begins an attempt: the command's request goes through the filters and is sent. -/
def beginAttempt (e : Executor) (disk : Disk) (run : Run) : Traced Run := do
  let command := run.command
  let fresh (position : Nat) : PayloadId := .made command.number command.rounds position
  let outcome ← (e.filters.apply fresh command.request).traced
  let run := run.withCommand { command with rounds := command.rounds + 1 }
  match outcome with
  | .error error => run.fail (.filter error)
  | .ok filtered =>
    let command ← (run.command.setState .filtered).traced
    send (run.withCommand command) disk filtered 0

/-- Begins a command. One that has come to its end before is not run again. -/
def start (e : Executor) (disk : Disk) (run : Run) : Traced Run :=
  if run.command.state.isTerminal then
    pure { run with phase := .finished (.error (.invalidState run.command.state)) }
  else e.beginAttempt disk run

def pause (run : Run) (delay : Duration) : Traced Run := do
  let command ← (run.command.setState .retrying).traced
  let command := { command with retryState := command.retryState.recordRetry }
  let run := run.withCommand command
  if command.cancelled then
    (note (.cancelledDuringBackoff command.attempts)).traced
    run.cancel
  else
    Writer.tell (.pausing delay)
    pure { run with phase := .pausing delay }

/-- Judges a send that brought no response. A passing failure is retried whatever the policy. -/
def judgeFailure (e : Executor) (run : Run) (error : TransportError) : Traced Run :=
  if !(error.isTransient && run.command.isRetryEligible) then run.fail (.transport error)
  else
    let command := { run.command with retryState := run.command.retryState.recordTransportFailure }
    let run := run.withCommand command
    if e.maxRetries ≤ command.retryState.retries then
      run.fail (.retryExhausted command.attempts error.endpoint none none (some error))
    else do
      let delay := e.transportBackoff.delay command.retryState.failures
      (note (.retryingAfterTransportFailure (command.attempts + 1) e.maxRetries delay.toMillis
        error.message)).traced
      pause run delay

/-- Judges a response that is no success and whose body is read as far as it will be. -/
def judge (e : Executor) (run : Run) (response : Response) : Traced Run := do
  let errorCode ← (e.retryPolicy.errorCode response).traced
  let command :=
    { run.command with retryState := run.command.retryState.recordResponse response.status errorCode }
  let run := run.withCommand command
  let decision ← (e.retryPolicy.shouldRetry command response).traced
  Writer.tell (.decided command response decision)
  match decision with
  | .doNotRetry reason =>
    (note (.notRetrying response.status reason)).traced
    run.finish (.ok response)
  | .retry delay _ =>
    if e.maxRetries ≤ command.retryState.retries then
      run.fail (.retryExhausted command.attempts command.request.endpoint.text
        (some response.status) (some response) none)
    else
      (note (.retryingCommand response.status errorCode (command.attempts + 1) e.maxRetries
        delay.toMillis)).traced
      let _ ← response.releaseBody.traced
      pause run delay

/-- Takes an error response: its body is read before it is judged. -/
def takeError (e : Executor) (disk : Disk) (run : Run) (response : Response) : Traced Run :=
  if run.command.cancelled then do
    (note (.cancelledWhileReading response.status run.command.attempts)).traced
    run.cancel
  else do
    match ← (response.startBuffering disk).traced with
    | .settled response => e.judge run response
    | .waiting body flow => pure { run with phase := .reading response body flow }

/-- The digest of what the transport took of a body: the body is tapped before it is handed over, and
the digest is asked for when the answer is there. -/
def digestOfTaken (e : Executor) (body : Option Flow) (taken : Nat) : Option ContentDigest := do
  let algorithm ← e.uploadDigest
  let flow ← body
  ((Tap.ofFlow flow algorithm).advance taken).finish.1

/-- Takes a response: a redirect is followed, a success is the result, anything else is judged. -/
def takeResponse (e : Executor) (disk : Disk) (run : Run) (request : Request) (hops : Nat)
    (response : Response) : Traced Run := do
  (note (.responseReceived run.command.attempts response.status)).traced
  match ← (e.redirectPolicy.nextRequest request response hops).traced with
  | .error error => run.fail error
  | .ok (some next) =>
    let _ ← response.releaseBody.traced
    let command ← (run.command.followRedirect next).traced
    send (run.withCommand command) disk next (hops + 1)
  | .ok none =>
    if response.isSuccess then run.finish (.ok response) else e.takeError disk run response

/-- Carries a run on after a signal. -/
def step (e : Executor) (disk : Disk) (signal : Signal) (run : Run) : Traced Run :=
  match signal, run.phase with
  | .opened, .opening request hops opened => afterOpening run disk request hops opened
  | .answered answer taken cancelledMeanwhile, .sending request hops body =>
    let run := run.heeding cancelledMeanwhile
    match answer with
    | .error error => e.judgeFailure run error
    | .ok response =>
      e.takeResponse disk run request hops
        { response with requestDigest := e.digestOfTaken body taken }
  | .bodyRead cancelledMeanwhile, .reading response body flow => do
    let heeding := run.heeding cancelledMeanwhile
    match flow.readUpTo e.maxErrorBodyBytes with
    | .waiting => pure run
    | .done bytes => e.judge heeding (← (response.settle body (.ok bytes)).traced)
    | .failed error => e.judge heeding (← (response.settle body (.error (.stream error))).traced)
  | .pauseOver cancelledMeanwhile, .pausing _ => e.beginAttempt disk (run.heeding cancelledMeanwhile)
  | .cancelled, phase => do
    let run := run.heeding true
    match phase with
    | .sending .. =>
      (note (.cancelledWhileSending run.command.attempts)).traced
      run.cancel
    | .reading response .. =>
      (note (.cancelledWhileReading response.status run.command.attempts)).traced
      run.cancel
    | .pausing _ =>
      (note (.cancelledDuringBackoff run.command.attempts)).traced
      run.cancel
    | _ => pure run
  | _, _ => pure run

def steps (e : Executor) (disk : Disk) : List Signal → Run → Traced Run
  | [], run => pure run
  | signal :: rest, run => do
    let run ← e.step disk signal run
    e.steps disk rest run

/-- The run of a command from its beginning through the signals. -/
def execution (e : Executor) (disk : Disk) (command : Command) (lives : Lives)
    (signals : List Signal) : Traced Run := do
  let run ← e.start disk ⟨command, lives, .idle⟩
  e.steps disk signals run

end Executor

end Courier
