import Courier.Filter.Basic
import Courier.Proofs.Chronicle

/-!
When a command lets go of its payload. As long as it is on its way it holds on (`HoldsOn`); it lets go after it came
to its final state, once and for all (`LetsGo`). Neither redirects that drop the body nor filters that replace it
matter, since a command keeps the payload it was built with apart from its request. A command at its end is
not run again.
-/
namespace Courier

namespace Command

variable {c : Command} {lives : Lives} {p : SharedPayload}

theorem released_releasePayload (held : c.initialPayload = some p) :
    ((c.releasePayload lives).value.2 p.id).released = true := by
  unfold releasePayload Payload.release
  cases released : (lives p.id).released <;> simp [held, released]

/-- A payload that is released is not released again. -/
theorem releasePayload_of_released (held : c.initialPayload = some p)
    (released : (lives p.id).released = true) : c.releasePayload lives = pure (false, lives) := by
  have same : lives.set p.id (lives p.id) = lives := by
    funext id
    by_cases own : id = p.id
    · rw [own, Lives.set_same]
    · exact Lives.set_other lives _ own
  unfold releasePayload Payload.release
  simp only [held, released, ↓reduceIte, pure_bind, Bool.false_eq_true, same]

theorem output_releasePayload (held : c.initialPayload = some p)
    (live : (lives p.id).released = false) :
    (c.releasePayload lives).output =
      [.payloadReleased p.payload.source, .commandPayloadReleased c.request.endpoint.text] := by
  unfold releasePayload Payload.release
  simp [held, live]

end Command

/-- At its end a run tells of the final state, and then that the payload is let go of. -/
theorem Run.chronicle_finish {run : Run} {p : SharedPayload} (outcome : Outcome)
    (held : run.command.initialPayload = some p) (live : (run.lives p.id).released = false) :
    (run.finish outcome).chronicle =
      passage run.command.state [if outcome.isOk then .succeeded else .failed] ++
        [.notice (.commandPayloadReleased run.command.request.endpoint.text)] := by
  let final : Command :=
    { run.command with state := if outcome.isOk then .succeeded else .failed }
  have words : (final.releasePayload run.lives).traced.chronicle =
      [.notice (.commandPayloadReleased run.command.request.endpoint.text)] := by
    simp [Writer.chronicle, Noted.traced, Command.output_releasePayload (c := final) held live,
      Event.isOfCommand, Notice.isOfCommand, final]
  have told : (run.finish outcome).chronicle = passage run.command.state [final.state] ++
      ((final.releasePayload run.lives).traced.chronicle ++ []) := by
    unfold finish
    rw [Writer.chronicle_bind, Writer.chronicle_bind]
    cases outcome <;> rfl
  rw [told, words]
  rfl

/-- The command of the run is at an end, and this payload is let go of. -/
structure Run.Closed (payload : Option SharedPayload) (run : Run) : Prop where
  terminal : run.command.state.isTerminal = true
  released : ∀ p, payload = some p → (run.lives p.id).released = true

/-- A command on its way: it is at no end, and no word was said of a release of its payload. -/
structure HoldsOn (p : SharedPayload) (run : Traced Run) : Prop where
  live : run.value.command.state.isTerminal = false
  held : (run.value.lives p.id).released = false
  told : ∃ states, (∀ state ∈ states, state.isTerminal = false) ∧
    run.chronicle = passage .built states

/-- A command at its end: the last that was told of it is its final state and then the release of its payload. The
payload cannot be released again, and whoever runs the command again is refused and changes nothing. -/
structure LetsGo (p : SharedPayload) (outcome : Outcome) (run : Traced Run) : Prop where
  final : run.value.command.state = if outcome.isOk then .succeeded else .failed
  released : (run.value.lives p.id).released = true
  told : ∃ states endpoint, (∀ state ∈ states, state.isTerminal = false) ∧
    run.chronicle = passage .built (states ++ [run.value.command.state]) ++
      [.notice (.commandPayloadReleased endpoint)]
  once : run.value.command.releasePayload run.value.lives = pure (false, run.value.lives)
  refused : ∀ (e : Executor) (disk : Disk),
    e.start disk ⟨run.value.command, run.value.lives, .idle⟩ =
      pure ⟨run.value.command, run.value.lives,
        .finished (.error (.invalidState run.value.command.state))⟩

theorem isTerminal_getLastD {states : List CommandState} {state : CommandState}
    (live : ∀ state ∈ states, state.isTerminal = false) (start : state.isTerminal = false) :
    (states.getLastD state).isTerminal = false := by
  induction states generalizing state with
  | nil => exact start
  | cons next rest ih =>
    rw [List.getLastD_cons]
    obtain ⟨first, later⟩ := List.forall_mem_cons.mp live
    exact ih later first

section

variable {discreet : Prop} {run : Run} {leg : Traced Run} {p : SharedPayload}

/-- A run that is over is closed. -/
theorem Chronicled.closed (chronicled : Chronicled discreet run leg)
    (ended : leg.value.phase.isFinished = true) : leg.value.Closed run.command.initialPayload := by
  cases chronicled with
  | onward states told live state holds runs =>
    rw [runs] at ended
    cases ended
  | ended states last outcome now told live state holds value =>
    rw [value]
    constructor
    · cases outcome <;> rfl
    · intro p attached
      exact Command.released_releasePayload (holds.initialPayload.trans attached)

theorem Chronicled.holdsOn (chronicled : Chronicled discreet run leg) (quiet : discreet)
    (built : run.command.state = .built) (live : (run.lives p.id).released = false)
    (runs : leg.value.phase.isFinished = false) : HoldsOn p leg := by
  cases chronicled with
  | onward states told liveStates state holds =>
    rw [built] at state told
    exact {
      live := by
        rw [state]
        exact isTerminal_getLastD liveStates rfl
      held := (holds.released p.id).trans live
      told := ⟨states, liveStates, told quiet⟩ }
  | ended states last outcome now told liveStates state holds value =>
    rw [value] at runs
    cases runs

theorem Chronicled.letsGo (chronicled : Chronicled discreet run leg) (quiet : discreet)
    (built : run.command.state = .built) (attached : run.command.initialPayload = some p)
    (live : (run.lives p.id).released = false) {outcome : Outcome}
    (finished : leg.value.phase = .finished outcome) : LetsGo p outcome leg := by
  have closed := chronicled.closed (by rw [finished]; rfl)
  cases chronicled with
  | onward states told liveStates state holds runs =>
    rw [finished] at runs
    cases runs
  | ended states last result now told liveStates state holds value =>
    have same : result = outcome := by
      rw [value] at finished
      exact Phase.finished.inj finished
    subst same
    have held : last.command.initialPayload = some p := holds.initialPayload.trans attached
    have final : leg.value.command.state = if result.isOk then .succeeded else .failed := by
      rw [value]
      rfl
    have mine : leg.value.command.initialPayload = some p := by
      rw [value]
      exact held
    exact {
      final
      released := closed.released p attached
      told := by
        refine ⟨states, last.command.request.endpoint.text, liveStates, ?_⟩
        rw [told quiet, Run.chronicle_finish result held ((holds.released p.id).trans live), state,
          built, passage_append, final, List.append_assoc]
      once := Command.releasePayload_of_released mine (closed.released p attached)
      refused := fun e disk => by simp [Executor.start, closed.terminal] }

end

namespace Executor

/-- A command lets go of its payload once, and at its very end. Whatever the executor, the answers of the transport and
the moment of a cancellation: as long as the run goes on the payload is not released, and when it is over,
with whatever outcome, the payload was released after the command came to its final state, and is not
released again. -/
theorem payload_released_once_at_end {e : Executor} (discreet : e.retryPolicy.Discreet) (disk : Disk)
    (number : Nat) (request : Request) (retrySafe cancelled : Bool) (lives : Lives)
    {p : SharedPayload} (attached : request.payload = some p)
    (fresh : (lives p.id).released = false) (signals : List Signal) :
    let run := e.execution disk (.built number request retrySafe cancelled) lives signals
    (run.value.phase.isFinished = false → HoldsOn p run) ∧
      ∀ outcome, run.value.phase = .finished outcome → LetsGo p outcome run := by
  intro run
  have chronicled := execution_chronicled (e := e) disk (.built number request retrySafe cancelled)
    rfl lives signals
  exact ⟨fun runs => chronicled.holdsOn discreet rfl fresh runs,
    fun outcome finished => chronicled.letsGo discreet rfl attached fresh finished⟩

/-- The body of a `POST` is let go of although a filter sent another in its place and "see other" has dropped it. -/
theorem payload_released_after_see_other :
    let body : SharedPayload := ⟨.given 0, .ofText "body"⟩
    let upload : Request :=
      ⟨.post, ⟨"http", some { host := "h" }, .rooted [""], none, none⟩, [], some body, []⟩
    let rules := ({} : Config).described.equipped [.envelope "soap" [0x3c] [0x3e]] (.upTo 5)
    let signals : List Signal :=
      [.answered (.ok { status := 303, headers := [⟨"Location", "/r"⟩] }) 1 false,
        .answered (.ok { status := 200 }) 0 false]
    let run := rules.execution {} (.built 0 upload false false) .fresh signals
    rules.retryPolicy.Discreet ∧ upload.payload = some body ∧
      ((Lives.fresh) body.id).released = false ∧
      run.value.command.request.payload.isNone = true ∧
      ∃ outcome, run.value.phase = .finished outcome ∧ LetsGo body outcome run := by
  intro body upload rules signals run
  have discreet : rules.retryPolicy.Discreet := ({} : Config).discreet_retryPolicy
  have ends := (payload_released_once_at_end discreet {} 0 upload false false .fresh (p := body) rfl
    rfl signals).2
  have ended : run.value.phase.isFinished = true := by decide +kernel
  have dropped : run.value.command.request.payload.isNone = true := by decide +kernel
  obtain ⟨outcome, finished⟩ := Phase.isFinished_iff.mp ended
  exact ⟨discreet, rfl, rfl, dropped, outcome, finished, ends outcome finished⟩

end Executor

end Courier
