import Courier.Proofs.Frames

/-!
Which setbacks are retried under the policy that a configuration describes. An attempt that ends in a setback
(`Executor.setback?`) is followed by another one exactly if the command may be sent again, the setback is one
that may pass (`Setback.isPassing`) and a retry is left. What may pass is said here from the options alone; that
the policy decides so is `Config.retryPolicy_retries_iff`.
-/
namespace Courier

/-- What an attempt can end in other than a success. -/
inductive Setback where
  /-- The send brought no response. -/
  | failure (error : TransportError)
  /-- The response is no success and leads nowhere else; its body is read as far as it will be. -/
  | response (response : Response)

namespace Setback

/-- May another attempt do better, as far as the options tell? -/
def isPassing (config : Config) : Setback → Prop
  | failure (.timeout _) | failure (.connection _ _) => True
  | failure (.tls _ _) | failure (.invalidRequest _ _) => False
  | response r =>
    r.status = 504 ∨
    (r.status = 503 ∧ ∃ body, r.bodyBytes? = some body ∧
      ∃ code ∈ config.retryableServerCodes, (ErrorCode.detect body).value = some code) ∨
    (r.status ≠ 503 ∧ r.status ∈ config.retryableStatuses)

/-- The result of a command for which the setback is the last word. -/
def outcome : Setback → Outcome
  | failure error => .error (.transport error)
  | response r => .ok r

/-- The error of a command that has no retry left after the setback. -/
def exhaustion (command : Command) : Setback → CommandError
  | failure error => .retryExhausted command.attempts error.endpoint none none (some error)
  | response r =>
    .retryExhausted command.attempts command.request.endpoint.text (some r.status) (some r) none

end Setback

namespace Executor

/-- The setback that an answer of the transport is, if it is one. A redirect that is followed is none, and
neither is an error whose body never ends. -/
def setback? (e : Executor) (disk : Disk) (body : Option Flow) (taken : Nat) :
    Except TransportError Response → Option Setback
  | .error error => some (.failure error)
  | .ok response =>
    if e.redirectPolicy.isRedirect response || response.isSuccess then none
    else
      let answer := { response with requestDigest := e.digestOfTaken body taken }
      (answer.bufferBody disk e.maxErrorBodyBytes).value.map .response

/-- A pause has begun, and when it is over the next attempt begins. -/
def Schedules (e : Executor) (disk : Disk) (steps : Traced Run) : Prop :=
  ∃ delay, .pausing delay ∈ steps.output ∧ steps.value.phase = .pausing delay ∧
    e.step disk (.pauseOver false) steps.value = e.beginAttempt disk steps.value

/-- What is to come of a setback: another attempt if the command `may` try again and a retry is `left`, an
error that tells of the exhaustion if only the retries are missing, and else the setback as the result. -/
structure Resolved (e : Executor) (disk : Disk) (may left : Prop) (command : Command)
    (setback : Setback) (steps : Traced Run) : Prop where
  retried : e.Schedules disk steps ↔ may ∧ left
  exhausted : may → ¬left → steps.value.phase = .finished (.error (setback.exhaustion command))
  final : ¬may → steps.value.phase = .finished setback.outcome

end Executor

namespace BackoffPolicy

theorem retry_value (policy : BackoffPolicy) (command : Command) :
    (policy.retry command).value =
      .retry (policy.backoff.delay command.retryState.failures) (command.retryState.attempt + 1) := rfl

/-- The code that counts is the one in the body; a body without bytes has none. -/
theorem errorCode_eq_some_iff (policy : BackoffPolicy) (response : Response) (code : String)
    (bare : (policy.parser []).value = none) :
    (policy.errorCode response).value = some code ↔
      ∃ body, response.bodyBytes? = some body ∧ (policy.parser body).value = some code := by
  unfold errorCode
  split
  · next absent => simp [absent]
  · next empty => simp [empty, bare]
  · next body _ held => simp [held]

/-- What the policy retries. -/
theorem shouldRetry_iff (policy : BackoffPolicy) (command : Command) (response : Response) :
    (∃ delay attempt, (policy.shouldRetry command response).value = .retry delay attempt) ↔
      command.isRetryEligible = true ∧
        (response.status = gatewayTimeout ∨
        (response.status = serviceUnavailable ∧
          ∃ code ∈ policy.codes, (policy.errorCode response).value = some code) ∨
        (response.status ≠ serviceUnavailable ∧ response.status ∈ policy.statuses)) := by
  have apart : serviceUnavailable ≠ gatewayTimeout := by decide
  unfold shouldRetry
  cases eligible : command.isRetryEligible with
  | false => simp
  | true =>
    by_cases busy : response.status = serviceUnavailable
    · have lasting : response.status ≠ gatewayTimeout := busy ▸ apart
      cases coded : (policy.errorCode response).value with
      | none => simp [busy, apart, coded]
      | some code =>
        by_cases known : code ∈ policy.codes
        · simp [busy, coded, known, retry_value]
        · simp [busy, apart, coded, known]
    · by_cases late : response.status = gatewayTimeout
      · simp [late, apart.symm, retry_value]
      · by_cases listed : response.status ∈ policy.statuses
        · simp [busy, late, listed, retry_value]
        · simp [busy, late, listed]

end BackoffPolicy

/-- The policy of a configuration retries what may pass, for commands that may be sent again. -/
theorem Config.retryPolicy_retries_iff (config : Config) (command : Command) (response : Response) :
    (∃ delay attempt,
      (config.retryPolicy.shouldRetry command response).value = .retry delay attempt) ↔
    command.isRetryEligible = true ∧ (Setback.response response).isPassing config := by
  have coded : (∃ code ∈ config.retryableServerCodes,
        (config.retryPolicy.errorCode response).value = some code) ↔
      ∃ body, response.bodyBytes? = some body ∧
        ∃ code ∈ config.retryableServerCodes, (ErrorCode.detect body).value = some code := by
    constructor
    · rintro ⟨code, known, found⟩
      obtain ⟨body, held, parsed⟩ :=
        (config.retryPolicy.errorCode_eq_some_iff response code rfl).mp found
      exact ⟨body, held, code, known, parsed⟩
    · rintro ⟨body, held, code, known, parsed⟩
      exact ⟨code, known,
        (config.retryPolicy.errorCode_eq_some_iff response code rfl).mpr ⟨body, held, parsed⟩⟩
  rw [BackoffPolicy.shouldRetry_iff]
  simp only [Setback.isPassing, ← coded]
  rfl

/-- A response that is no redirect leads nowhere else. -/
theorem RedirectPolicy.nextRequest_of_not_isRedirect {policy : RedirectPolicy} {response : Response}
    (final : policy.isRedirect response = false) (request : Request) (hops : Nat) :
    (policy.nextRequest request response hops).value = .ok Option.none := by
  simp [nextRequest, final]

/-- A run that has drawn its conclusion does not wait for a body. -/
theorem Concluded.deaf {e : Executor} {run after : Run} {deeds : List Event}
    (concluded : Concluded e run after deeds) : e.awaits after.phase (.bodyRead false) = false := by
  obtain ⟨outcome, finished⟩ | ⟨delay, pausing⟩ := concluded.finished_or_pausing
  · rw [finished]
    rfl
  · rw [pausing]
    rfl

namespace Executor

variable {e : Executor} {disk : Disk} {run : Run}

/-- What is read of a body at once is what is read of it in steps. -/
theorem bufferBody_value (e : Executor) (disk : Disk) (response : Response) :
    (response.bufferBody disk e.maxErrorBodyBytes).value =
      match (response.startBuffering disk).value with
      | .settled buffered => some buffered
      | .waiting body flow => e.settled? response body flow := by
  unfold Response.bufferBody
  rw [Writer.value_bind]
  cases (response.startBuffering disk).value with
  | settled buffered => rfl
  | waiting body flow =>
    simp only [settled?]
    cases flow.readUpTo e.maxErrorBodyBytes <;> rfl

/-- A final response that is no success is judged at once or waits to be read. -/
theorem judged_or_reading {request : Request} {hops : Nat} {response : Response} {after : Run}
    {deeds : List Event} (answer : Answered e disk request hops response run after deeds)
    (final : e.redirectPolicy.isRedirect response = false) (fails : response.isSuccess = false)
    (quiet : run.command.cancelled = false) :
    (∃ buffered, (response.startBuffering disk).value = .settled buffered ∧
      Judged e buffered run after deeds) ∨
    (∃ body flow, (response.startBuffering disk).value = .waiting body flow ∧
      after = { run with phase := .reading response body flow } ∧ deeds = []) := by
  have lasting := RedirectPolicy.nextRequest_of_not_isRedirect final request hops
  cases answer with
  | astray next => simp [lasting] at next
  | followed next sent => simp [lasting] at next
  | succeeded next success => simp [fails] at success
  | stopped next success cancelled => simp [quiet] at cancelled
  | judged next success calm buffers judged => exact .inl ⟨_, buffers, judged⟩
  | reading next success calm buffers => exact .inr ⟨_, _, buffers, rfl, rfl⟩

/-- A second signal that is not waited for adds nothing to the step on the first. -/
theorem steps_pair_of_deaf {first second : Signal}
    (deaf : e.awaits (e.step disk first run).value.phase second = false) (calm : second ≠ .cancelled) :
    (e.steps disk [first, second] run).value = (e.step disk first run).value ∧
      (e.steps disk [first, second] run).deeds = (e.step disk first run).deeds := by
  obtain ⟨stays, idle⟩ := step_of_deaf e disk deaf calm
  simp only [steps, Writer.value_bind, Writer.deeds_bind, Writer.value_pure, Writer.deeds_pure, stays,
    idle, List.append_nil, and_self]

/-- A final response leads to a judgement of what was read of it, at once or when its body is read. -/
theorem judged_of_setback {request : Request} {hops taken : Nat} {body : Option Flow}
    {response buffered : Response} (sending : run.phase = .sending request hops body)
    (quiet : run.command.cancelled = false)
    (ends : e.setback? disk body taken (.ok response) = some (.response buffered)) :
    ∃ waiting : Run, waiting.command = run.command ∧
      Judged e buffered waiting
        (e.steps disk [.answered (.ok response) taken false, .bodyRead false] run).value
        (e.steps disk [.answered (.ok response) taken false, .bodyRead false] run).deeds := by
  simp only [setback?, Option.ite_none_left_eq_some, Bool.or_eq_true, not_or, Bool.not_eq_true,
    Option.map_eq_some_iff, Setback.response.injEq, exists_eq_right] at ends
  obtain ⟨⟨final, fails⟩, reads⟩ := ends
  rw [bufferBody_value] at reads
  -- A body that is read at once is judged on the answer, and the second signal finds no one waiting.
  have answer := answered_answered e disk sending response taken false
  rw [Run.heeding_false] at answer
  obtain ⟨settled, buffers, judged⟩ | ⟨held, flow, buffers, after, idle⟩ :=
    judged_or_reading answer final fails quiet
  · rw [buffers] at reads
    cases reads
    obtain ⟨value, deeds⟩ := steps_pair_of_deaf judged.concluded.deaf (by simp)
    rw [value, deeds]
    exact ⟨run, rfl, judged⟩
  · rw [buffers] at reads
    simp only [steps, Writer.value_bind, Writer.deeds_bind, Writer.value_pure, Writer.deeds_pure,
      List.append_nil, after, idle, List.nil_append]
    let answered := { response with requestDigest := e.digestOfTaken body taken }
    let waiting : Run := { run with phase := .reading answered held flow }
    have judged : Judged e buffered (waiting.heeding false) _ _ := judged_bodyRead e disk rfl reads false
    rw [Run.heeding_false] at judged
    exact ⟨waiting, rfl, judged⟩

/-- A send without a response is judged at once. -/
theorem failed_of_setback {request : Request} {hops : Nat} {body : Option Flow}
    (sending : run.phase = .sending request hops body) (error : TransportError) (taken : Nat) :
    Failed e error run (e.steps disk [.answered (.error error) taken false, .bodyRead false] run).value
      (e.steps disk [.answered (.error error) taken false, .bodyRead false] run).deeds := by
  have fails := failed_answered e disk sending error taken false
  rw [Run.heeding_false] at fails
  obtain ⟨value, deeds⟩ := steps_pair_of_deaf fails.concluded.deaf (by simp)
  rw [value, deeds]
  exact fails

/-- A run at its end schedules nothing. -/
theorem not_schedules_of_finished {steps : Traced Run} {outcome : Outcome}
    (finished : steps.value.phase = .finished outcome) : ¬e.Schedules disk steps := by
  rintro ⟨delay, -, pausing, -⟩
  rw [finished] at pausing
  cases pausing

theorem schedules_of_rested {steps : Traced Run} {delay : Duration} {failing : Run}
    {deeds : List Event} (rest : Rested delay failing steps.value deeds)
    (quiet : failing.command.cancelled = false) (all : ∀ deed ∈ deeds, deed ∈ steps.deeds) :
    e.Schedules disk steps := by
  generalize stays : steps.value = after at rest
  cases rest with
  | stopped cancelled => simp [quiet] at cancelled
  | pausing calm =>
    have phase : steps.value.phase = .pausing delay := by rw [stays]
    have done : .pausing delay ∈ steps.deeds := all _ (by simp)
    exact ⟨delay, (List.mem_filter.mp done).1, phase, by simp [step, phase]⟩

section

variable {may left : Prop} {command : Command} {setback : Setback} {steps : Traced Run}

theorem Resolved.of_final (lost : ¬may) (finished : steps.value.phase = .finished setback.outcome) :
    e.Resolved disk may left command setback steps where
  retried := iff_of_false (not_schedules_of_finished finished) fun both => lost both.1
  exhausted := fun passes => absurd passes lost
  final := fun _ => finished

theorem Resolved.of_exhausted (passes : may) (spent : ¬left)
    (finished : steps.value.phase = .finished (.error (setback.exhaustion command))) :
    e.Resolved disk may left command setback steps where
  retried := iff_of_false (not_schedules_of_finished finished) fun both => spent both.2
  exhausted := fun _ _ => finished
  final := fun lost => absurd passes lost

theorem Resolved.of_schedules (passes : may) (remains : left) (schedules : e.Schedules disk steps) :
    e.Resolved disk may left command setback steps where
  retried := iff_of_true schedules ⟨passes, remains⟩
  exhausted := fun _ spent => absurd remains spent
  final := fun lost => absurd passes lost

end

theorem resolved_of_failed {config : Config} {error : TransportError} {steps : Traced Run}
    (limit : e.maxRetries = config.maxRetries) (quiet : run.command.cancelled = false)
    (fails : Failed e error run steps.value steps.deeds) :
    e.Resolved disk
      (run.command.isRetryEligible = true ∧ (Setback.failure error).isPassing config)
      (run.command.retryState.retries < config.maxRetries) run.command (.failure error) steps := by
  have passes : run.command.isRetryEligible = true ∧ (Setback.failure error).isPassing config ↔
      (error.isTransient && run.command.isRetryEligible) = true := by
    cases error <;> simp [Setback.isPassing, TransportError.isTransient]
  generalize after : steps.value = done at fails
  generalize all : steps.deeds = deeds at fails
  cases fails with
  | final lasting =>
    have lost := (Bool.not_eq_true _).mpr lasting
    exact .of_final (passes.not.mpr lost) (by rw [after]; rfl)
  | exhausted passing spent =>
    exact .of_exhausted (passes.mpr passing) (by omega) (by rw [after]; rfl)
  | rested passing remains rest =>
    rw [← after] at rest
    exact .of_schedules (passes.mpr passing) (by omega)
      (schedules_of_rested rest quiet (by simp +contextual [all]))

theorem resolved_of_judged {config : Config} {buffered : Response} {steps : Traced Run}
    (policy : e.retryPolicy = config.retryPolicy.toPolicy) (limit : e.maxRetries = config.maxRetries)
    (quiet : run.command.cancelled = false)
    (judged : Judged e buffered run steps.value steps.deeds) :
    e.Resolved disk
      (run.command.isRetryEligible = true ∧ (Setback.response buffered).isPassing config)
      (run.command.retryState.retries < config.maxRetries) run.command (.response buffered) steps := by
  have passes : (∃ delay attempt,
      (e.retryPolicy.shouldRetry (run.command.answeredBy e buffered) buffered).value =
        .retry delay attempt) ↔
      run.command.isRetryEligible = true ∧ (Setback.response buffered).isPassing config := by
    rw [policy]
    exact config.retryPolicy_retries_iff (run.command.answeredBy e buffered) buffered
  generalize after : steps.value = done at judged
  generalize all : steps.deeds = deeds at judged
  cases judged with
  | final decision =>
    refine .of_final (passes.not.mp ?_) (by rw [after]; rfl)
    rintro ⟨delay, attempt, retries⟩
    simp [decision] at retries
  | exhausted decision spent =>
    exact .of_exhausted (passes.mp ⟨_, _, decision⟩) (by omega) (by rw [after]; rfl)
  | rested decision remains rest =>
    rw [← after] at rest
    exact .of_schedules (passes.mp ⟨_, _, decision⟩) (by omega)
      (schedules_of_rested rest quiet (by simp +contextual [all]))

/-- Retries are sound and complete. For every configuration that is in order, every chain of filters and every
way with redirects: when an attempt of a command that nothing cancels ends in a setback, another attempt
follows exactly if the command may be sent again, the setback may pass and fewer pauses were made than
retries are allowed. If only the retries are missing the command fails as exhausted, and else the setback
is its result. -/
theorem retried_iff_eligible_passing_left {config : Config} {e : Executor}
    (valid : ofConfig config = .ok e) (filters : FilterChain) (redirects : RedirectPolicy)
    (disk : Disk) (number : Nat) (request : Request) (retrySafe : Bool) (lives : Lives)
    (signals : List Signal) (quiet : ∀ signal ∈ signals, signal.cancels = false) :
    let rules := e.equipped filters redirects
    let run := rules.execution disk (.built number request retrySafe false) lives signals
    ∀ current hops body answer taken setback,
      run.value.phase = .sending current hops body →
      rules.setback? disk body taken answer = some setback →
      rules.Resolved disk
        (run.value.command.isRetryEligible = true ∧ setback.isPassing config)
        (run.output.countP Event.isPausing < config.maxRetries) run.value.command setback
        (rules.steps disk [.answered answer taken false, .bodyRead false] run.value) := by
  obtain ⟨rfl, -⟩ := ofConfig_eq_ok valid
  intro rules run current hops body answer taken setback sending ends
  have policy : rules.retryPolicy = config.retryPolicy.toPolicy := rfl
  have limit : rules.maxRetries = config.maxRetries := rfl
  have calm : run.value.command.cancelled = false := execution_uncancelled signals quiet
  have counted := (execution_counted signals).exactly calm
  have pauses : run.output.countP Event.isPausing = run.value.command.retryState.retries := by
    rw [← Writer.countP_deeds run _ Event.isDeed_of_isPausing]
    exact counted
  rw [pauses]
  cases answer with
  | error error =>
    cases ends
    exact resolved_of_failed limit calm (failed_of_setback sending error taken)
  | ok response =>
    have told := ends
    simp only [setback?, Option.ite_none_left_eq_some, Option.map_eq_some_iff] at told
    obtain ⟨-, buffered, -, rfl⟩ := told
    obtain ⟨waiting, same, judged⟩ := judged_of_setback sending calm ends
    rw [← same] at calm ⊢
    exact resolved_of_judged policy limit calm judged

/-- With the default options a first send that times out is tried again. -/
theorem retried_after_timeout :
    let home : Request := { endpoint := ⟨"http", some { host := "h" }, .rooted [""], none, none⟩ }
    let rules := ({} : Config).described.equipped [] (.upTo 5)
    let run := rules.execution {} (.built 0 home false false) .fresh []
    ofConfig {} = .ok ({} : Config).described ∧ run.value.phase = .sending home 0 none ∧
      rules.Schedules {}
        (rules.steps {} [.answered (.error (.timeout "http://h/")) 0 false, .bodyRead false] run.value) := by
  intro home rules run
  have quiet : ∀ signal ∈ ([] : List Signal), signal.cancels = false := by simp
  have sending : run.value.phase = .sending home 0 none := rfl
  have resolved := retried_iff_eligible_passing_left ofConfig_default [] (.upTo 5) {} 0 home false
    .fresh [] quiet home 0 none (.error (.timeout "http://h/")) 0 (.failure (.timeout "http://h/"))
    sending rfl
  have again : run.value.command.isRetryEligible = true := rfl
  have pauses : run.output.countP Event.isPausing = 0 := rfl
  refine ⟨ofConfig_default, sending, resolved.retried.mpr ⟨⟨again, trivial⟩, ?_⟩⟩
  rw [pauses]
  decide

end Executor

end Courier
