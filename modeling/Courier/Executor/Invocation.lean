import Courier.Executor.Step
import Courier.Fallback

/-!
Invoking a command: its result is either read by a reader, if it is a response of success, or turned into
an error that a fallback may replace. Each result goes to exactly one of the two.
-/
namespace Courier.Executor

/-- Reads the body of a response as text. A body that never ends gives no text. -/
def readText (disk : Disk) (response : Response) : Noted (Except CommandError String) := do
  match ← response.readBody disk with
  | some (.ok bytes) => pure (.ok (Text.ofUtf8Lossy bytes))
  | some (.error e) => pure (.error (.payload e))
  | none => pure (.error (.parse "unfinished body"))

/-- What the result of a command started at `endpoint` is turned into. -/
def conclude {α : Type} (endpoint : String) (read : Response → Noted (Except CommandError α))
    (fallback : Fallback α) (outcome : Outcome) : Traced (Except CommandError α) :=
  match outcome with
  | .ok response =>
    if response.isSuccess then do
      Writer.tell (.reading response)
      (read response).traced
    else substitute (.ofResponse endpoint response)
  | .error e => substitute e
where
  substitute (e : CommandError) : Traced (Except CommandError α) := do
    (note (.applyingFallback e.message)).traced
    Writer.tell (.substituting e)
    pure (fallback e)

/-- The invocation of a command: it is begun and carried on by the signals, and its result goes to the reader or the
fallback. The endpoint for the fallback is looked up before the command is begun. -/
def invocation {α : Type} (e : Executor) (disk : Disk) (command : Command) (lives : Lives)
    (signals : List Signal) (read : Response → Noted (Except CommandError α)) (fallback : Fallback α) :
    Traced (Option (Except CommandError α)) := do
  let endpoint := command.request.endpoint.text
  let run ← e.execution disk command lives signals
  match run.phase with
  | .finished outcome => some <$> conclude endpoint read fallback outcome
  | _ => pure none

end Courier.Executor
