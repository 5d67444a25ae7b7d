import Courier.Proofs.Backoff
import Courier.Proofs.Chronicle
import Courier.Proofs.Forwarding

/-!
The pauses of a run. A pause is as long as the backoff says for the failures that the command has counted, whether the
policy asks for it or the executor after a send without a response (`Executor.Paced`). While a run goes on it
has counted a failure and a retry for each of its pauses and no more (`OnSchedule`), since a failure that is not
the last leads to a retry and a retry to a pause in the same step; a redirect counts neither. So the pauses are
those of the backoff in turn, whatever the attempts failed of.
-/
namespace Courier

/-- The pause that the event begins. -/
def Event.pause? : Event → Option Duration
  | pausing delay => some delay
  | _ => none

theorem Event.pauses_of_no_pause {deeds : List Event} (still : deeds.countP isPausing = 0) :
    deeds.filterMap pause? = [] := by
  refine filterMap_of_countP (fun event other => ?_) still
  cases event <;> first | rfl | cases other

/-- The executor pauses as this backoff says for the failures so far. -/
structure Executor.Paced (e : Executor) (backoff : Backoff) : Prop where
  policy : ∀ command response delay attempt,
    (e.retryPolicy.shouldRetry command response).value = .retry delay attempt →
      delay = backoff.delay command.retryState.failures
  transport : e.transportBackoff = backoff

/-- The policy of a backoff pauses as it says. -/
theorem BackoffPolicy.delay_of_retry (policy : BackoffPolicy) {command : Command} {response : Response}
    {delay : Duration} {attempt : Nat}
    (retries : (policy.shouldRetry command response).value = .retry delay attempt) :
    delay = policy.backoff.delay command.retryState.failures := by
  -- Each branch either does not retry or does what `retry` does.
  have asks : ∀ {decision : RetryDecision}, decision = (policy.retry command).value →
      decision = .retry delay attempt → delay = policy.backoff.delay command.retryState.failures := by
    rintro _ rfl same
    cases same
    rfl
  unfold shouldRetry at retries
  split at retries
  · cases retries
  · split at retries
    · rw [Writer.value_bind] at retries
      split at retries
      · split at retries
        · exact asks rfl retries
        · cases retries
      · cases retries
    · split at retries
      · exact asks rfl retries
      · split at retries
        · exact asks rfl retries
        · cases retries

theorem Config.paced (config : Config) (filters : FilterChain) (redirects : RedirectPolicy) :
    (config.described.equipped filters redirects).Paced config.backoff where
  policy := fun _ _ _ _ retries => config.retryPolicy.delay_of_retry retries
  transport := rfl

/-- The command has counted so many failures, and a retry for each. -/
structure Command.Level (n : Nat) (c : Command) : Prop where
  failures : c.retryState.failures = n
  retries : c.retryState.retries = n

/-- The pauses of the run with this history are the first `n` of the backoff, and while it goes on its command has
counted a failure and a retry for each. -/
structure OnSchedule (backoff : Backoff) (n : Nat) (history : List Event) (run : Run) : Prop where
  pauses : history.filterMap Event.pause? = backoff.schedule n
  level : run.phase.isFinished = false → run.command.Level n

section

variable {e : Executor} {disk : Disk} {backoff : Backoff} {run after : Run} {history deeds : List Event}
  {n : Nat}

theorem Command.Onward.level {before later : Command} (onward : before.Onward later)
    (level : before.Level n) : later.Level n :=
  ⟨onward.failures.trans level.failures, onward.retries.trans level.retries⟩

/-- The schedule after deeds among which is no pause. -/
theorem OnSchedule.silent (pauses : history.filterMap Event.pause? = backoff.schedule n)
    (still : deeds.countP Event.isPausing = 0) (level : after.phase.isFinished = false → after.command.Level n) :
    OnSchedule backoff n (history ++ deeds) after := by
  refine ⟨?_, level⟩
  rw [List.filterMap_append, Event.pauses_of_no_pause still, List.append_nil, pauses]

/-- A run that is over has made its pauses. -/
theorem OnSchedule.ended (pauses : history.filterMap Event.pause? = backoff.schedule n)
    (still : deeds.countP Event.isPausing = 0) {outcome : Outcome} :
    OnSchedule backoff n (history ++ deeds) (run.ended outcome) := by
  refine .silent pauses still fun runs => ?_
  cases runs

theorem Departed.onSchedule {request : Request} {hops : Nat}
    (departed : Departed request hops run after deeds)
    (pauses : history.filterMap Event.pause? = backoff.schedule n) (level : run.command.Level n) :
    OnSchedule backoff n (history ++ deeds) after :=
  .silent pauses departed.no_pause fun _ => departed.onward.level level

/-- The next pause is begun, or the run is over. -/
theorem Rested.onSchedule {delay : Duration} (rest : Rested delay run after deeds)
    (pauses : history.filterMap Event.pause? = backoff.schedule n)
    (failures : run.command.retryState.failures = n + 1) (retries : run.command.retryState.retries = n)
    (next : delay = backoff.delay (n + 1)) : ∃ m, OnSchedule backoff m (history ++ deeds) after := by
  cases rest with
  | stopped cancelled => exact ⟨n, .ended pauses rfl⟩
  | pausing quiet =>
    refine ⟨n + 1, ?_, fun _ => ⟨failures, congrArg (· + 1) retries⟩⟩
    rw [List.filterMap_append, pauses, backoff.schedule_succ, next]
    rfl

theorem Failed.onSchedule {error : TransportError} (fails : Failed e error run after deeds)
    (paced : e.Paced backoff) (pauses : history.filterMap Event.pause? = backoff.schedule n)
    (level : run.command.Level n) : ∃ m, OnSchedule backoff m (history ++ deeds) after := by
  cases fails with
  | final lasting => exact ⟨n, .ended pauses rfl⟩
  | exhausted passing spent => exact ⟨n, .ended pauses rfl⟩
  | rested passing left rest =>
    refine rest.onSchedule pauses (congrArg (· + 1) level.failures) level.retries ?_
    rw [paced.transport, level.failures]

theorem Judged.onSchedule {response : Response} (judged : Judged e response run after deeds)
    (paced : e.Paced backoff) (pauses : history.filterMap Event.pause? = backoff.schedule n)
    (level : run.command.Level n) : ∃ m, OnSchedule backoff m (history ++ deeds) after := by
  cases judged with
  | final decision => exact ⟨n, .ended pauses rfl⟩
  | exhausted decision spent => exact ⟨n, .ended pauses rfl⟩
  | @rested delay attempt after deeds decision left rest =>
    have counted : (run.command.answeredBy e response).retryState.failures = n + 1 :=
      congrArg (· + 1) level.failures
    have next : delay = backoff.delay (n + 1) := by
      rw [paced.policy _ _ _ _ decision, counted]
    have told : (history ++ [Event.decided (run.command.answeredBy e response) response
        (.retry delay attempt)]).filterMap Event.pause? = backoff.schedule n := by
      rw [List.filterMap_append, pauses]
      exact List.append_nil _
    rw [List.append_cons]
    exact rest.onSchedule told counted level.retries next

theorem Answered.onSchedule {request : Request} {hops : Nat} {response : Response}
    (answered : Answered e disk request hops response run after deeds) (paced : e.Paced backoff)
    (pauses : history.filterMap Event.pause? = backoff.schedule n) (level : run.command.Level n) :
    ∃ m, OnSchedule backoff m (history ++ deeds) after := by
  cases answered with
  | astray next => exact ⟨n, .ended pauses rfl⟩
  | followed next sent => exact ⟨n, sent.departed.onSchedule pauses ⟨level.failures, level.retries⟩⟩
  | succeeded next success => exact ⟨n, .ended pauses rfl⟩
  | stopped next success cancelled => exact ⟨n, .ended pauses rfl⟩
  | judged next success quiet buffers judged => exact judged.onSchedule paced pauses level
  | reading next success quiet buffers => exact ⟨n, .silent pauses rfl fun _ => level⟩

theorem Begun.onSchedule (begun : Begun e disk run after deeds)
    (pauses : history.filterMap Event.pause? = backoff.schedule n) (level : run.command.Level n) :
    OnSchedule backoff n (history ++ deeds) after := by
  cases begun with
  | refused filters => exact .ended pauses rfl
  | filtered filters sent => exact sent.departed.onSchedule pauses ⟨level.failures, level.retries⟩

/-- Every step keeps to the schedule. -/
theorem Moved.onSchedule {signal : Signal} (moved : Moved e disk run signal after deeds)
    (paced : e.Paced backoff) (before : OnSchedule backoff n history run) :
    ∃ m, OnSchedule backoff m (history ++ deeds) after := by
  have pauses := before.pauses
  have level : ∀ now, run.phase.isFinished = false → (run.heeding now).command.Level n :=
    fun _ runs => ⟨(before.level runs).failures, (before.level runs).retries⟩
  cases moved with
  | unmoved deaf calm =>
    rw [List.append_nil]
    exact ⟨n, before⟩
  | marked runs => exact ⟨n, .silent pauses rfl (level true)⟩
  | stopped waits => exact ⟨n, .ended pauses rfl⟩
  | refused phase => exact ⟨n, .ended pauses rfl⟩
  | opened phase hands =>
    exact ⟨n, hands.departed.onSchedule pauses (before.level (by rw [phase]; rfl))⟩
  | failed phase fails => exact fails.onSchedule paced pauses (level _ (by rw [phase]; rfl))
  | answered phase answer => exact answer.onSchedule paced pauses (level _ (by rw [phase]; rfl))
  | judged phase reads judged =>
    exact judged.onSchedule paced pauses (level _ (by rw [phase]; rfl))
  | begun phase begins => exact ⟨n, begins.onSchedule pauses (level _ (by rw [phase]; rfl))⟩

/-- A redirect that is followed leads to a send, and takes no part in the pauses. -/
theorem Moved.level_of_hop {signal : Signal} {hop : Hop} (moved : Moved e disk run signal after deeds)
    (found : e.hop? run signal = some hop) :
    deeds.countP Event.isPausing = 0 ∧
      after.command.retryState.failures = run.command.retryState.failures ∧
      after.command.retryState.retries = run.command.retryState.retries := by
  obtain ⟨count, body, phase, -⟩ := Executor.hop?_eq_some found
  have closed : run.phase.isOpening = false := by
    rw [phase]
    rfl
  rcases moved.forwards closed with ⟨request, hops, begun, -, -, account, sent⟩ | ⟨none, -⟩
  · have onward := sent.departed.onward
    exact ⟨sent.departed.no_pause, account ▸ onward.failures, account ▸ onward.retries⟩
  · rw [Executor.due?_of_sending phase, found] at none
    cases none

end

namespace Executor

variable {e : Executor} {disk : Disk} {backoff : Backoff} {number : Nat} {request : Request}
  {retrySafe cancelled : Bool} {lives : Lives}

theorem execution_onSchedule (paced : e.Paced backoff) (signals : List Signal) :
    ∃ n, OnSchedule backoff n
      (e.execution disk (.built number request retrySafe cancelled) lives signals).deeds
      (e.execution disk (.built number request retrySafe cancelled) lives signals).value := by
  refine execution_induction (P := fun _ history run => ∃ n, OnSchedule backoff n history run)
    rfl ?_ ?_ signals
  · intro after deeds begun
    have none : ([] : List Event).filterMap Event.pause? = backoff.schedule 0 := rfl
    exact ⟨0, begun.onSchedule none ⟨rfl, rfl⟩⟩
  · intro signals history signal after deeds before moved
    obtain ⟨n, before⟩ := before
    exact moved.onSchedule paced before

/-- The pauses of a run keep to the backoff. For every configuration that is in order, with its own policy, every chain
of filters and every way with redirects, and whatever the answers of the transport and the moment of a
cancellation: the pause with the number `k` lasts the base period doubled `k` times, counting from none, or the
longest period or a hundred base periods if one of these is less, in exact nanoseconds; so no pause is shorter
than one before it. A redirect that is followed begins no pause and counts neither a failure nor a retry, and
as long as the run goes on, at the start of an attempt too, its command has counted as many retries as
failures. -/
theorem pauses_on_schedule {config : Config} {e : Executor} (valid : ofConfig config = .ok e)
    (filters : FilterChain) (redirects : RedirectPolicy) (disk : Disk) (number : Nat)
    (request : Request) (retrySafe cancelled : Bool) (lives : Lives) (signals : List Signal) :
    let rules := e.equipped filters redirects
    let run := rules.execution disk (.built number request retrySafe cancelled) lives signals
    let pauses := (run.output.filterMap Event.pause?).map Duration.toNanos
    let base := config.basePeriodMillis.toNat * 1000000
    let longest := config.maxPeriodMillis.toNat * 1000000
    pauses = ((List.range pauses.length).map fun k => min (base * 2 ^ k) (min longest (100 * base))) ∧
    pauses.Pairwise (· ≤ ·) ∧
    (run.value.phase.isFinished = false →
      run.value.command.retryState.failures = run.value.command.retryState.retries) ∧
    ∀ signal hop, rules.hop? run.value signal = some hop →
      let later := rules.step disk signal run.value
      later.output.countP Event.isPausing = 0 ∧
      later.value.command.retryState.failures = run.value.command.retryState.failures ∧
      later.value.command.retryState.retries = run.value.command.retryState.retries := by
  obtain ⟨rfl, -⟩ := ofConfig_eq_ok valid
  intro rules run pauses base longest
  obtain ⟨n, kept⟩ : ∃ n, OnSchedule config.backoff n run.deeds run.value :=
    execution_onSchedule (config.paced filters redirects) signals
  have listed : pauses = (List.range n).map fun k => (config.backoff.delay (k + 1)).toNanos := by
    have told : run.output.filterMap Event.pause? = config.backoff.schedule n := by
      rw [← Writer.filterMap_deeds run Event.pause? fun _ => rfl]
      exact kept.pauses
    simp only [pauses, told, Backoff.schedule, List.map_map]
    rfl
  refine ⟨?_, ?_, fun runs => ?_, fun signal hop found => ?_⟩
  · have first : config.backoff.base.toNanos = base := Duration.toNanos_ofMillis _
    have last : config.backoff.max.toNanos = longest := Duration.toNanos_ofMillis _
    have count : pauses.length = n := by rw [listed, List.length_map, List.length_range]
    rw [count, listed]
    refine List.map_congr_left fun k _ => ?_
    rw [Backoff.toNanos_delay, first, last, Nat.add_sub_cancel]
  · rw [listed, List.pairwise_map]
    refine List.pairwise_lt_range.imp fun {j k} earlier => ?_
    exact config.backoff.toNanos_delay_mono (Nat.succ_le_succ (Nat.le_of_lt earlier))
  · have level := kept.level runs
    rw [level.failures, level.retries]
  · intro later
    rw [← Writer.countP_deeds later _ Event.isDeed_of_isPausing]
    exact (moved_step rules disk signal run.value).level_of_hop found

/-- A `GET` that is answered with 504, redirected, not answered in time, and answered with 504 again pauses for 50, 100
and 200 milliseconds. -/
theorem pauses_doubled_across_redirect :
    let home : Request := { endpoint := ⟨"http", some { host := "h" }, .rooted [""], none, none⟩ }
    let rules := ({} : Config).described.equipped [] (.upTo 5)
    let late : Signal := .answered (.ok { status := 504 }) 0 false
    let signals : List Signal :=
      [late, .pauseOver false, .answered (.ok { status := 307, headers := [⟨"Location", "/r"⟩] }) 0 false,
        .answered (.error (.timeout "http://h/r")) 0 false, .pauseOver false, late]
    let run := rules.execution {} (.built 0 home false false) .fresh signals
    ofConfig {} = .ok ({} : Config).described ∧
      (run.output.filterMap Event.pause?).map Duration.toNanos = [50000000, 100000000, 200000000] ∧
      run.value.command.retryState.failures = run.value.command.retryState.retries := by
  intro home rules late signals run
  have three : ((run.output.filterMap Event.pause?).map Duration.toNanos).length = 3 := by decide +kernel
  obtain ⟨exactly, -, level, -⟩ :=
    pauses_on_schedule ofConfig_default [] (.upTo 5) {} 0 home false false .fresh signals
  simp only [run, rules] at three ⊢
  refine ⟨ofConfig_default, ?_, level (by decide +kernel)⟩
  rw [exactly, three]
  decide

end Executor

end Courier
