import Courier.Executor.Invocation
import Courier.Rehearsal.Stage

/-!
Rehearsing several commands with one executor, one after the other under one script or all at once under
a script each. Some commands are children: they are cancelled with a common parent.
-/
namespace Courier.Rehearsal

/-- A command on the list, whether it is a child, and its own script for when all run at once. -/
structure Entry where
  command : Command
  isChild : Bool := false
  script : List Reply := []

/-- A session: the executor, the files, the time, what has happened to the payloads, the commands, and
what is left of the common script. -/
structure Session where
  executor : Executor
  disk : Disk
  clock : Nat := 0
  lives : Lives := .fresh
  entries : List Entry
  script : List Reply := []

/-- How a command ran: its result (none if it waits for ever), its condition at the end, when that was,
and its sends and events in order. -/
structure Performance where
  outcome : Option Outcome
  command : Command
  clock : Nat
  sends : List Send
  events : List Event

namespace Performance

/-- What a stage shows at its end. -/
def ofStage (s : Stage) : Performance where
  outcome := match s.run.phase with
    | .finished outcome => some outcome
    | _ => none
  command := s.run.command
  clock := s.clock
  sends := s.sends.reverse
  events := s.events.reverse

def notices (p : Performance) : List Notice := p.events.filterMap Event.notice?

end Performance

namespace Session

/-- The command with this number on the list. -/
def command? (s : Session) (i : Nat) : Option Command := (s.entries[i]?).map (·.command)

def setCommand (s : Session) (i : Nat) (command : Command) : Session :=
  { s with entries := s.entries.modify i fun entry => { entry with command } }

/-- Runs a command under the common script. It may be cancelled some milliseconds later. -/
def execute (s : Session) (i : Nat) (cancelAfter : Option Nat) : Option (Performance × Session) := do
  let command ← s.command? i
  let stage := Stage.perform s.executor s.disk ⟨command, s.lives, .idle⟩ s.clock s.script
    (cancelAfter.map (s.clock + ·))
  let performance := Performance.ofStage stage
  some (performance,
    { s.setCommand i performance.command with
      clock := stage.clock, lives := stage.run.lives, script := stage.script })

def cancel (s : Session) (i : Nat) : Session :=
  { s with entries := s.entries.modify i fun entry =>
      { entry with command := { entry.command with cancelled := true } } }

def cancelParent (s : Session) : Session :=
  { s with entries := s.entries.map fun entry =>
      if entry.isChild then { entry with command := { entry.command with cancelled := true } }
      else entry }

/-- Lets go of the payload of a command that does not run. -/
def releasePayload (s : Session) (i : Nat) : Option (Noted (Bool × Session)) := do
  let command ← s.command? i
  let released := command.releasePayload s.lives
  some ⟨(released.value.1, { s with lives := released.value.2 }), released.output⟩

/-- Runs all commands at once, each under its own script, and cancels the parent some milliseconds
later. The commands share nothing that one could change for another, so they are played in turn from the
same moment. -/
def executeAll (s : Session) (cancelParentAfter : Option Nat) : List Performance × Session :=
  let (performances, lives) := s.entries.foldl
    (fun (done, lives) entry =>
      let cancelAt := if entry.isChild then cancelParentAfter.map (s.clock + ·) else none
      let stage := Stage.perform s.executor s.disk ⟨entry.command, lives, .idle⟩ s.clock
        entry.script cancelAt
      (Performance.ofStage stage :: done, stage.run.lives)) ([], s.lives)
  let performances := performances.reverse
  (performances,
    { s with
      clock := performances.foldl (fun clock p => max clock p.clock) s.clock
      lives := lives
      entries := s.entries.zipWith (fun entry p => { entry with command := p.command })
        performances })

end Session

end Courier.Rehearsal
