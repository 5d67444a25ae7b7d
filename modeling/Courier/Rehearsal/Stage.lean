import Courier.Executor.Step
import Courier.Rehearsal.Script

/-!
Rehearsing one run on a virtual clock. Only waiting for answers and pauses takes time. A run that waits
for something gets it at the time the script says, unless the command is cancelled by then.
-/
namespace Courier.Rehearsal

/-- A run on the stage: the time in milliseconds, what is left of the script, when the command will be
cancelled, and the sends and events so far, newest first. -/
structure Stage where
  run : Run
  clock : Nat
  script : List Reply
  cancelAt : Option Nat := none
  sends : List Send := []
  events : List Event := []

/-- What a waiting run gets next, when, and what is noted meanwhile. -/
inductive Coming where
  | signal (signal : Signal) (time : Nat) (notices : List Notice)
  | never

namespace Stage

/-- The milliseconds that a pause takes: a part of one counts whole. -/
def pauseMillis (delay : Duration) : Nat :=
  delay.seconds.toNat * 1000 + (delay.nanos.toNat + 999999) / 1000000

/-- What comes of a send, by the reply to it. -/
def comingOfSend (clock : Nat) (request : Request) (reply : Reply) (taken : Taken) : Coming :=
  match taken with
  | .stuck => .never
  | .broken count _ error =>
    .signal (.answered (.error (.connection request.endpoint.text ⟨error, []⟩)) count false) clock []
  | _ =>
    match reply.answer with
    | none => if reply.cancels then .signal .cancelled clock [] else .never
    | some answer =>
      if reply.cancels && 0 < reply.delayMillis then .signal .cancelled clock []
      else
        let answer := answer request
        .signal (.answered answer.value taken.count reply.cancels) (clock + reply.delayMillis)
          answer.output

def apply (e : Executor) (disk : Disk) (s : Stage) (signal : Signal) (time : Nat) : Stage :=
  let next := e.step disk signal s.run
  { s with
    run := next.value
    clock := time
    events := next.output.reverse ++ s.events
    cancelAt := match signal with
      | .cancelled => none
      | _ => s.cancelAt }

def noting (s : Stage) (notices : List Notice) : Stage :=
  { s with events := notices.reverse.map .notice ++ s.events }

/-- Lets the run have what comes, or the cancellation if that comes first. `none` means that nothing
ever comes. -/
def settle (e : Executor) (disk : Disk) (s : Stage) (coming : Coming) : Option Stage :=
  match coming, s.cancelAt with
  | .signal signal time notices, none => some ((s.noting notices).apply e disk signal time)
  | .signal signal time notices, some cancelTime =>
    if s.clock < time && cancelTime ≤ time then
      some (s.apply e disk .cancelled (max s.clock cancelTime))
    else some ((s.noting notices).apply e disk signal time)
  | .never, some cancelTime => some (s.apply e disk .cancelled (max s.clock cancelTime))
  | .never, none => none

/-- Lets the run have what comes of a file. The clock stands still meanwhile, but a cancellation that is due gets in
before. -/
def settleFile (e : Executor) (disk : Disk) (s : Stage) (signal : Signal) : Option Stage :=
  if s.cancelAt.any (· ≤ s.clock) then some (s.apply e disk .cancelled s.clock)
  else some (s.apply e disk signal s.clock)

/-- Carries the run on by one signal. `none` means that it is finished or waits for ever. -/
def next (e : Executor) (disk : Disk) (s : Stage) : Option Stage :=
  match s.run.phase with
  | .idle | .finished _ => none
  | .opening .. => s.settleFile e disk .opened
  | .sending request _ body =>
    let reply := s.script.headD .last
    let taken := Taken.ofBody reply body
    let s := { s with
      script := s.script.tail
      sends := ⟨s.clock, request, taken⟩ :: s.sends }
    s.settle e disk (comingOfSend s.clock request reply taken)
  | .reading _ body flow =>
    match flow.readUpTo e.maxErrorBodyBytes with
    | .waiting => s.settle e disk .never
    | _ =>
      if body.payload.isFile then s.settleFile e disk (.bodyRead false)
      else s.settle e disk (.signal (.bodyRead false) s.clock [])
  | .pausing delay => s.settle e disk (.signal (.pauseOver false) (s.clock + pauseMillis delay) [])

def play (e : Executor) (disk : Disk) : Nat → Stage → Stage
  | 0, s => s
  | fuel + 1, s =>
    match s.next e disk with
    | some s => play e disk fuel s
    | none => s

/-- How many signals a run can get under a script. Each reply is followed by at most three more before
the next send: the end of an error body, the end of a pause and the opening of a file; and after the last
reply a send can fail only by its own body, which takes up a retry each time. A cancellation comes once. -/
def signalBound (e : Executor) (script : List Reply) : Nat :=
  4 * (script.length + e.maxRetries + 2)

/-- Plays a run from its beginning to its end. -/
def perform (e : Executor) (disk : Disk) (run : Run) (clock : Nat) (script : List Reply)
    (cancelAt : Option Nat) : Stage :=
  let started := e.start disk run
  let s : Stage :=
    { run := started.value, clock, script, cancelAt, events := started.output.reverse }
  s.play e disk (signalBound e script)

end Stage

end Courier.Rehearsal
