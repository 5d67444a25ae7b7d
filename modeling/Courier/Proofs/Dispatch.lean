import Courier.Proofs.Exchanges
import Courier.Proofs.Invocation

/-!
What an invocation does with the result of its command. While the command runs nobody is asked; when it has come to its
end, either the reader is given a response of success or the fallback is asked about the failure, one of the two and
once, and what it gives is the result (`Executor.invocation_dispatches`). A run never ends in an error of the kind that
an invocation makes of a response (`Executor.execution_plain`), so a substitute for what is missing takes the
place of a final response with status 404 and of no other failure (`Executor.missed_iff`).
-/
namespace Courier

namespace CommandError

/-- Is the error one that only an invocation makes, of a final response or of a reader's trouble? -/
def isOfInvocation : CommandError → Bool
  | nonRetryableResponse .. | parse _ => true
  | _ => false

/-- Only a final response can tell that nothing is there. -/
theorem isNotFound_of_plain {error : CommandError} (plain : error.isOfInvocation = false) :
    error.isNotFound = false := by
  cases error with
  | nonRetryableResponse status endpoint response => cases plain
  | _ => rfl

end CommandError

/-- Did the run end in an error that only an invocation makes? -/
def Phase.isOfInvocation : Phase → Bool
  | finished (.error error) => error.isOfInvocation
  | _ => false

/-- The failure that a fallback is asked about when this is the result of a command that was begun with the endpoint;
there is none if the result is a response of success. -/
def Outcome.failure? (endpoint : String) : Outcome → Option CommandError
  | .ok response => if response.isSuccess then none else some (.ofResponse endpoint response)
  | .error error => some error

/-- The failure that a response is, is one other than of success. -/
theorem Outcome.failure?_ok {endpoint : String} {response : Response} {error : CommandError}
    (fails : failure? endpoint (.ok response) = some error) :
    response.isSuccess = false ∧ error = .ofResponse endpoint response := by
  simp only [failure?, Option.ite_none_left_eq_some, Option.some.injEq, Bool.not_eq_true] at fails
  exact ⟨fails.1, fails.2.symm⟩

section

variable {e : Executor} {disk : Disk} {run after : Run} {deeds : List Event} {request : Request}
  {hops : Nat}

theorem Executor.isOfInvocation_openingError (run : Run) (request : Request) (error : PayloadError) :
    (openingError run request error).isOfInvocation = false := by
  cases error <;> rfl

theorem HandedOver.plain {body : Option Flow} (hands : HandedOver request hops body run after deeds) :
    after.phase.isOfInvocation = false := by
  cases hands with
  | stopped cancelled => rfl
  | handed quiet => rfl

theorem Dispatched.plain (sent : Dispatched disk request hops run after deeds) :
    after.phase.isOfInvocation = false := by
  cases sent with
  | stopped cancelled => rfl
  | bodiless quiet empty hands => exact hands.plain
  | refused quiet full opens => exact Executor.isOfInvocation_openingError run request _
  | opened quiet full opens hands => exact hands.plain
  | opening quiet full opens file live => rfl

theorem Begun.plain (begun : Begun e disk run after deeds) : after.phase.isOfInvocation = false := by
  cases begun with
  | refused filters => rfl
  | filtered filters sent => exact sent.plain

theorem Rested.plain {delay : Duration} (rest : Rested delay run after deeds) :
    after.phase.isOfInvocation = false := by
  cases rest with
  | stopped cancelled => rfl
  | pausing quiet => rfl

theorem Failed.plain {error : TransportError} (fails : Failed e error run after deeds) :
    after.phase.isOfInvocation = false := by
  cases fails with
  | final lasting => rfl
  | exhausted passing spent => rfl
  | rested passing left rest => exact rest.plain

theorem Judged.plain {response : Response} (judged : Judged e response run after deeds) :
    after.phase.isOfInvocation = false := by
  cases judged with
  | final decision => rfl
  | exhausted decision spent => rfl
  | rested decision left rest => exact rest.plain

theorem Answered.plain {response : Response}
    (answered : Answered e disk request hops response run after deeds) :
    after.phase.isOfInvocation = false := by
  cases answered with
  | astray next =>
    obtain ⟨count, rfl⟩ | ⟨location, rfl⟩ := RedirectPolicy.error_of_astray next
    · rfl
    · rfl
  | followed next sent => exact sent.plain
  | succeeded next success => rfl
  | stopped next success cancelled => rfl
  | judged next success quiet buffers judged => exact judged.plain
  | reading next success quiet buffers => rfl

/-- No step ends a run in an error that only an invocation makes. -/
theorem Moved.plain {signal : Signal} (moved : Moved e disk run signal after deeds)
    (before : run.phase.isOfInvocation = false) : after.phase.isOfInvocation = false := by
  cases moved with
  | unmoved deaf calm => exact before
  | marked runs => exact before
  | stopped waits => rfl
  | refused phase => exact Executor.isOfInvocation_openingError run _ _
  | opened phase hands => exact hands.plain
  | failed phase fails => exact fails.plain
  | answered phase answer => exact answer.plain
  | judged phase reads judged => exact judged.plain
  | begun phase begins => exact begins.plain

end

namespace Executor

variable {e : Executor} {disk : Disk} {command : Command} {lives : Lives} {signals : List Signal}

variable (e disk command lives) in
theorem execution_plain (signals : List Signal) :
    (e.execution disk command lives signals).value.phase.isOfInvocation = false := by
  cases past : command.state.isTerminal with
  | true =>
    obtain ⟨now, failed⟩ := execution_of_terminal e disk lives past signals
    rw [failed]
    rfl
  | false =>
    refine execution_induction (P := fun _ _ run => run.phase.isOfInvocation = false) past ?_ ?_ signals
    · intro after deeds begun
      exact begun.plain
    · intro signals history signal after deeds before moved
      exact moved.plain before

/-- While a command runs, neither a reader nor a fallback is asked. -/
theorem unconcluded_of_mem {event : Event}
    (told : event ∈ (e.execution disk command lives signals).output) : event.isConclusion = false := by
  cases past : command.state.isTerminal with
  | true =>
    obtain ⟨now, failed⟩ := execution_of_terminal e disk lives past signals
    rw [failed] at told
    cases told
  | false =>
    by_contra concludes
    rw [Bool.not_eq_false] at concludes
    have deed : event.isDeed = true := by
      cases event <;> first | rfl | cases concludes
    have quiet := execution_inconclusive past signals event (Writer.mem_deeds_of_mem told deed)
    rw [concludes] at quiet
    cases quiet

/-- The command came to a result, and the last answer of the transport was a response that tells that nothing is
there. -/
def Missed (e : Executor) (disk : Disk) (command : Command) (lives : Lives) (signals : List Signal) :
    Prop :=
  ∃ response last answer,
    (e.execution disk command lives signals).value.phase = .finished (.ok response) ∧
      (e.exchanges disk command lives signals).getLast? = some last ∧ last.answer = .ok answer ∧
      answer.status = 404

/-- The failure tells that nothing is there exactly if the last answer did. -/
theorem missed_iff {outcome : Outcome} {endpoint : String} {error : CommandError}
    (ended : (e.execution disk command lives signals).value.phase = .finished outcome)
    (fails : outcome.failure? endpoint = some error) :
    e.Missed disk command lives signals ↔ error.isNotFound = true := by
  cases outcome with
  | error failure =>
    -- An error of the run itself tells of no response, and there is no result.
    cases fails
    have plain := execution_plain e disk command lives signals
    rw [ended] at plain
    have found : error.isNotFound = false := CommandError.isNotFound_of_plain plain
    rw [found]
    refine iff_of_false ?_ Bool.false_ne_true
    rintro ⟨response, last, answer, result, -⟩
    rw [ended] at result
    cases result
  | ok response =>
    have told : error = .ofResponse endpoint response := (Outcome.failure?_ok fails).2
    have speaks : error.isNotFound = true ↔ response.status = 404 := by
      rw [told]
      exact beq_iff_eq
    obtain ⟨last, answered⟩ := answered_of_finished ended
    obtain ⟨answer, came, status, -⟩ := answered.answer
    rw [speaks, status]
    constructor
    · rintro ⟨result, final, reply, -, ends, replied, missing⟩
      rw [answered.final, Option.some.injEq] at ends
      rw [← ends, came, Except.ok.injEq] at replied
      rw [replied, missing]
    · intro missing
      exact ⟨response, last, answer, ended, answered.final, came, missing⟩

section

variable {α : Type} (read : Response → Noted (Except CommandError α)) (fallback : Fallback α)

/-- An invocation whose command still runs has no result, and does nothing else. -/
theorem invocation_of_running
    (runs : (e.execution disk command lives signals).value.phase.isFinished = false) :
    (e.invocation disk command lives signals read fallback).value = none ∧
      (e.invocation disk command lives signals read fallback).output =
        (e.execution disk command lives signals).output := by
  unfold invocation
  rw [Writer.value_bind, Writer.output_bind]
  split
  · next outcome ended =>
    rw [ended] at runs
    cases runs
  · exact ⟨rfl, List.append_nil _⟩

/-- A response of success goes to the reader. -/
theorem invocation_of_success {response : Response}
    (ended : (e.execution disk command lives signals).value.phase = .finished (.ok response))
    (success : response.isSuccess = true) :
    (e.invocation disk command lives signals read fallback).value = some (read response).value ∧
      (e.invocation disk command lives signals read fallback).output =
        (e.execution disk command lives signals).output ++
          .reading response :: (read response).output.map .notice := by
  unfold invocation
  rw [Writer.value_bind, Writer.output_bind]
  simp [ended, conclude, success, Noted.traced]

/-- A failure goes to the fallback. -/
theorem invocation_of_failure {outcome : Outcome} {error : CommandError}
    (ended : (e.execution disk command lives signals).value.phase = .finished outcome)
    (fails : outcome.failure? command.request.endpoint.text = some error) :
    (e.invocation disk command lives signals read fallback).value = some (fallback error) ∧
      (e.invocation disk command lives signals read fallback).output =
        (e.execution disk command lives signals).output ++
          [.notice (.applyingFallback error.message), .substituting error] := by
  have concludes : conclude command.request.endpoint.text read fallback outcome =
      conclude.substitute fallback error := by
    cases outcome with
    | error failure =>
      cases fails
      rfl
    | ok response =>
      obtain ⟨failed, rfl⟩ := Outcome.failure?_ok fails
      simp [conclude, failed]
  unfold invocation
  rw [Writer.value_bind, Writer.output_bind]
  simp [ended, concludes, conclude.substitute, Noted.traced]

end

/-- What an invocation does with the result of its command. Whatever the executor, the command, the reader, the
fallback, the answers of the transport and the moment of a cancellation: while the command runs, neither the reader nor the
fallback is asked, and there is no result. When it has come to its end, the reader is asked once if the result is a
response of success; else the fallback is asked once, about the failure that the result is. What the one that was
asked gives is the result, and the other is not asked. If the fallback puts a substitute in place of what is
missing, the substitute is the result exactly if the command had a result and the last answer of the transport was a
response with status 404; every other failure comes back as it is. -/
theorem invocation_dispatches {α : Type} (e : Executor) (disk : Disk) (command : Command)
    (lives : Lives) (signals : List Signal) (read : Response → Noted (Except CommandError α))
    (fallback : Fallback α) :
    let run := e.execution disk command lives signals
    let call := e.invocation disk command lives signals read fallback
    (∀ event ∈ run.output, event.isConclusion = false) ∧
      (run.value.phase.isFinished = false → call.value = none ∧ call.output = run.output) ∧
      ∀ outcome, run.value.phase = .finished outcome →
        (∃ response, outcome = .ok response ∧ response.isSuccess = true ∧
          call.value = some (read response).value ∧
          call.output = run.output ++ .reading response :: (read response).output.map .notice) ∨
        ∃ error, outcome.failure? command.request.endpoint.text = some error ∧
          call.value = some (fallback error) ∧
          call.output = run.output ++ [.notice (.applyingFallback error.message), .substituting error] ∧
          ∀ substitute, fallback = .onNotFound substitute →
            (e.Missed disk command lives signals → call.value = some (.ok substitute)) ∧
            (¬e.Missed disk command lives signals → call.value = some (.error error)) := by
  intro run call
  refine ⟨fun event told => unconcluded_of_mem told, invocation_of_running read fallback, fun outcome ended => ?_⟩
  cases failure : outcome.failure? command.request.endpoint.text with
  | none =>
    left
    cases outcome with
    | error error => cases failure
    | ok response =>
      have success : response.isSuccess = true := by
        by_contra failed
        rw [Outcome.failure?, if_neg failed] at failure
        cases failure
      exact ⟨response, rfl, success, invocation_of_success read fallback ended success⟩
  | some error =>
    right
    obtain ⟨value, output⟩ := invocation_of_failure read fallback ended failure
    refine ⟨error, rfl, value, output, ?_⟩
    rintro substitute rfl
    rw [missed_iff ended failure]
    constructor
    · intro missing
      rw [value, Fallback.onNotFound, if_pos missing]
    · intro found
      rw [value, Fallback.onNotFound, if_neg found]

/-- A page that is missing once the gateway is up again gets its substitute. -/
theorem invocation_substitutes_missing_page :
    let home : Request := { endpoint := ⟨"http", some { host := "h" }, .rooted [""], none, none⟩ }
    let rules := ({} : Config).described
    let command := Command.built 0 home false false
    let signals : List Signal := [.answered (.ok { status := 504 }) 0 false, .pauseOver false,
      .answered (.ok { status := 404 }) 0 false]
    let call := rules.invocation {} command .fresh signals (fun _ => pure (.ok true))
      (.onNotFound false)
    call.value = some (.ok false) ∧ call.output.countP Event.isConclusion = 1 := by
  intro home rules command signals call
  obtain ⟨quiet, -, concludes⟩ := invocation_dispatches rules {} command .fresh signals
    (fun _ => pure (.ok true)) (.onNotFound false)
  have ended : (rules.execution {} command .fresh signals).value.phase =
      .finished (.ok { status := 404 }) := rfl
  obtain ⟨response, result, success, -⟩ | ⟨error, -, -, output, substitutes⟩ := concludes _ ended
  · cases result
    cases success
  · have missed : rules.Missed {} command .fresh signals := ⟨_, _, _, ended, rfl, rfl, rfl⟩
    have silent : (rules.execution {} command .fresh signals).output.countP Event.isConclusion = 0 :=
      List.countP_eq_zero.mpr fun event told => by simp [quiet event told]
    refine ⟨(substitutes false rfl).1 missed, ?_⟩
    rw [show call.output = _ from output, List.countP_append, silent]
    rfl

end Executor

end Courier
