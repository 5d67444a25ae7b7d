import Courier.Proofs.BaseRequest
import Courier.Proofs.RetryDecision

/-!
When nothing is sent again. Whether a command may be sent again is asked of the request that it holds, not of the
one that filters made of it. A command that may not is spent once an answer is in that leads nowhere else
(`Executor.Spent`): it finishes without another send, at once or when the error body is read. As long as no
filter changes the method, the request with the transport has the method of the command (`Run.Aligned`).
-/
namespace Courier

/-- No filter of the chain changes the method of a request. -/
def FilterChain.KeepsMethod (chain : FilterChain) : Prop :=
  ∀ filter ∈ chain, ∀ fresh request filtered,
    filter.transform fresh request = .ok filtered → filtered.method = request.method

/-- What each filter of a chain keeps of a request on record, whatever the name it is handed, the chain keeps. -/
theorem FilterChain.of_applyAll {P : Request → Prop} {chain : FilterChain} {fresh : Nat → PayloadId}
    (keeps : ∀ filter ∈ chain, ∀ position request changed, P request →
      filter.transform (fresh position) request = .ok changed → P (changed.withAppliedFilter filter.id))
    {request filtered : Request} (holds : P request)
    (applied : (chain.applyAll fresh request).value = .ok filtered) : P filtered := by
  induction chain generalizing fresh request with
  | nil =>
    cases applied
    exact holds
  | cons filter rest ih =>
    obtain ⟨here, later⟩ := List.forall_mem_cons.mp keeps
    have rests := fun other belongs position => later other belongs (position + 1)
    rw [applyAll_cons] at applied
    split at applied
    · exact ih rests holds applied
    · split at applied
      · cases applied
      · next changed transforms => exact ih rests (here 0 _ _ holds transforms) applied

/-- What no filter of a chain changes of a request, and no record of a filter either, the chain does not change. -/
theorem FilterChain.view_of_applyAll {β : Type} (view : Request → β) {chain : FilterChain}
    (keeps : ∀ filter ∈ chain, ∀ fresh request filtered,
      filter.transform fresh request = .ok filtered → view filtered = view request)
    (apart : ∀ request id, view (request.withAppliedFilter id) = view request)
    {fresh : Nat → PayloadId} {request filtered : Request}
    (applied : (chain.applyAll fresh request).value = .ok filtered) :
    view filtered = view request := by
  refine of_applyAll (P := fun other => view other = view request) ?_ rfl applied
  intro filter belongs position before changed same transforms
  rw [apart, keeps filter belongs _ _ _ transforms, same]

theorem FilterChain.method_of_applyAll {chain : FilterChain} (keeps : chain.KeepsMethod)
    {fresh : Nat → PayloadId} {request filtered : Request}
    (applied : (chain.applyAll fresh request).value = .ok filtered) :
    filtered.method = request.method :=
  view_of_applyAll Request.method keeps (fun _ _ => rfl) applied

theorem FilterChain.apply_value (chain : FilterChain) (fresh : Nat → PayloadId) (request : Request) :
    (chain.apply fresh request).value = (chain.applyAll fresh request).value := by
  unfold apply
  rw [Writer.value_bind]
  split <;> rfl

/-- The request with the transport, or about to go to it. -/
def Phase.request? : Phase → Option Request
  | opening request _ _ | sending request _ _ => some request
  | _ => none

/-- The request on its way has the method of the command. -/
def Run.Aligned (run : Run) : Prop :=
  ∀ request ∈ run.phase.request?, request.method = run.command.request.method

section

variable {e : Executor} {disk : Disk} {run after : Run} {deeds : List Event}

theorem Departed.aligned {request : Request} {hops : Nat}
    (departed : Departed request hops run after deeds)
    (same : request.method = run.command.request.method) : after.Aligned := by
  intro current going
  rw [departed.onward.request]
  cases departed with
  | ended kept phase sends => simp [phase, Phase.request?] at going
  | opening kept phase sends =>
    simp only [phase, Phase.request?, Option.mem_some_iff] at going
    rw [← going, same]
  | sending kept phase sends =>
    simp only [phase, Phase.request?, Option.mem_some_iff] at going
    rw [← going, same]

/-- A run that neither opens nor sends has nothing to align. -/
theorem Run.aligned_of_idle (idle : after.phase.request? = none) : after.Aligned := by
  intro current going
  rw [idle] at going
  cases going

theorem Concluded.aligned (concluded : Concluded e run after deeds) : after.Aligned := by
  obtain ⟨outcome, finished⟩ | ⟨delay, pausing⟩ := concluded.finished_or_pausing
  · exact Run.aligned_of_idle (by rw [finished]; rfl)
  · exact Run.aligned_of_idle (by rw [pausing]; rfl)

theorem Begun.aligned (begun : Begun e disk run after deeds) (keeps : e.filters.KeepsMethod) :
    after.Aligned := by
  cases begun with
  | refused filters => exact Run.aligned_of_idle rfl
  | filtered filters sent =>
    rw [FilterChain.apply_value] at filters
    exact sent.departed.aligned (FilterChain.method_of_applyAll keeps filters)

theorem Answered.aligned {request : Request} {hops : Nat} {response : Response}
    (answered : Answered e disk request hops response run after deeds) : after.Aligned := by
  cases answered with
  | astray next => exact Run.aligned_of_idle rfl
  | followed next sent => exact sent.departed.aligned (Request.redirected_method _ _).symm
  | succeeded next success => exact Run.aligned_of_idle rfl
  | stopped next success cancelled => exact Run.aligned_of_idle rfl
  | judged next success quiet buffers judged => exact judged.concluded.aligned
  | reading next success quiet buffers => exact Run.aligned_of_idle rfl

theorem Moved.aligned {signal : Signal} (moved : Moved e disk run signal after deeds)
    (keeps : e.filters.KeepsMethod) (before : run.Aligned) : after.Aligned := by
  cases moved with
  | unmoved deaf calm => exact before
  | marked runs => exact before
  | stopped waits => exact Run.aligned_of_idle rfl
  | refused phase => exact Run.aligned_of_idle rfl
  | opened phase hands =>
    refine hands.departed.aligned (before _ ?_)
    simp [phase, Phase.request?]
  | failed phase fails => exact fails.concluded.aligned
  | answered phase answer => exact answer.aligned
  | judged phase reads judged => exact judged.concluded.aligned
  | begun phase begins => exact begins.aligned keeps

end

/-- A run from which no request is handed over again: it is finished, or it reads the answer to a command that may
not be sent again. -/
def Run.Spent (run : Run) : Prop :=
  (∃ outcome, run.phase = .finished outcome) ∨
  (∃ response body flow, run.phase = .reading response body flow) ∧ run.command.isRetryEligible = false

section

variable {e : Executor} {config : Config} {disk : Disk} {run after : Run} {deeds : List Event}

/-- A response to a command that may not be sent again is the result. -/
theorem Judged.spent {response : Response} (judged : Judged e response run after deeds)
    (policy : e.retryPolicy = config.retryPolicy.toPolicy)
    (ineligible : run.command.isRetryEligible = false) :
    after.Spent ∧ deeds.countP Event.isHanded = 0 := by
  have final : ¬∃ delay attempt,
      (e.retryPolicy.shouldRetry (run.command.answeredBy e response) response).value =
        .retry delay attempt := by
    rw [policy]
    intro retries
    have eligible := ((config.retryPolicy.shouldRetry_iff _ _).mp retries).1
    rw [show (run.command.answeredBy e response).isRetryEligible = false from ineligible] at eligible
    cases eligible
  cases judged with
  | final decision => exact ⟨.inl ⟨_, rfl⟩, rfl⟩
  | exhausted decision spent => exact absurd ⟨_, _, decision⟩ final
  | rested decision left rest => exact absurd ⟨_, _, decision⟩ final

/-- A send of a command that may not be sent again, if it brings no response, is the last. -/
theorem Failed.spent {error : TransportError} (fails : Failed e error run after deeds)
    (ineligible : run.command.isRetryEligible = false) :
    after.Spent ∧ deeds.countP Event.isHanded = 0 := by
  cases fails with
  | final lasting => exact ⟨.inl ⟨_, rfl⟩, rfl⟩
  | exhausted passing spent => simp [ineligible] at passing
  | rested passing left rest => simp [ineligible] at passing

/-- So is one whose response leads nowhere else. -/
theorem Answered.spent {request : Request} {hops : Nat} {response : Response}
    (answered : Answered e disk request hops response run after deeds)
    (policy : e.retryPolicy = config.retryPolicy.toPolicy)
    (ineligible : run.command.isRetryEligible = false)
    (final : ∀ next, (e.redirectPolicy.nextRequest request response hops).value ≠ .ok (some next)) :
    after.Spent ∧ deeds.countP Event.isHanded = 0 := by
  cases answered with
  | astray next => exact ⟨.inl ⟨_, rfl⟩, rfl⟩
  | followed next sent => exact absurd next (final _)
  | succeeded next success => exact ⟨.inl ⟨_, rfl⟩, rfl⟩
  | stopped next success cancelled => exact ⟨.inl ⟨_, rfl⟩, rfl⟩
  | judged next success quiet buffers judged => exact judged.spent policy ineligible
  | reading next success quiet buffers => exact ⟨.inr ⟨⟨_, _, _, rfl⟩, ineligible⟩, rfl⟩

/-- Every step leaves a spent run spent, and hands nothing over. -/
theorem Moved.spent {signal : Signal} (moved : Moved e disk run signal after deeds)
    (policy : e.retryPolicy = config.retryPolicy.toPolicy) (before : run.Spent) :
    after.Spent ∧ deeds.countP Event.isHanded = 0 := by
  cases moved with
  | unmoved deaf calm => exact ⟨before, rfl⟩
  | marked runs =>
    obtain ⟨outcome, finished⟩ | ⟨⟨response, body, flow, reading⟩, -⟩ := before
    · exact ⟨.inl ⟨outcome, finished⟩, rfl⟩
    · simp [reading, Phase.isStoppable] at runs
  | stopped waits => exact ⟨.inl ⟨_, rfl⟩, rfl⟩
  | refused phase => simp [Run.Spent, phase] at before
  | opened phase hands => simp [Run.Spent, phase] at before
  | failed phase fails => simp [Run.Spent, phase] at before
  | answered phase answer => simp [Run.Spent, phase] at before
  | judged phase reads judged =>
    obtain ⟨outcome, finished⟩ | ⟨-, ineligible⟩ := before
    · rw [phase] at finished
      cases finished
    · exact judged.spent policy ineligible
  | begun phase begins => simp [Run.Spent, phase] at before

/-- A command that may not be sent again is spent once an answer leads nowhere else. -/
theorem Moved.spent_of_answer {request : Request} {hops taken : Nat} {body : Option Flow}
    {answer : Except TransportError Response} {meanwhile : Bool}
    (moved : Moved e disk run (.answered answer taken meanwhile) after deeds)
    (policy : e.retryPolicy = config.retryPolicy.toPolicy)
    (sending : run.phase = .sending request hops body)
    (final : e.hop? run (.answered answer taken meanwhile) = none)
    (ineligible : run.command.isRetryEligible = false) :
    after.Spent ∧ deeds.countP Event.isHanded = 0 := by
  cases moved with
  | unmoved deaf calm => simp [Executor.awaits, sending] at deaf
  | failed phase fails => exact fails.spent ineligible
  | answered phase answer =>
    refine answer.spent policy ineligible fun next leads => ?_
    rw [Executor.hop?_of_sending _ phase rfl, leads] at final
    cases final

end

namespace Executor

variable {e : Executor} {config : Config} {disk : Disk}

theorem steps_spent (policy : e.retryPolicy = config.retryPolicy.toPolicy) (signals : List Signal)
    {run : Run} (spent : run.Spent) :
    (e.steps disk signals run).deeds.countP Event.isHanded = 0 := by
  induction signals generalizing run with
  | nil => rfl
  | cons signal rest ih =>
    obtain ⟨later, none⟩ := (moved_step e disk signal run).spent policy spent
    rw [steps, Writer.deeds_bind, List.countP_append, none, ih later]

theorem execution_aligned (keeps : e.filters.KeepsMethod) {number : Nat} {request : Request}
    {retrySafe cancelled : Bool} {lives : Lives} (signals : List Signal) :
    (e.execution disk (.built number request retrySafe cancelled) lives signals).value.Aligned := by
  refine execution_induction (P := fun _ _ run => run.Aligned) rfl ?_ ?_ signals
  · intro after deeds begun
    exact begun.aligned keeps
  · intro signals history signal after deeds before moved
    exact moved.aligned keeps before

theorem execution_retrySafe {number : Nat} {request : Request} {retrySafe cancelled : Bool}
    {lives : Lives} (signals : List Signal) :
    (e.execution disk (.built number request retrySafe cancelled) lives signals).value.command.retrySafe =
      retrySafe := by
  refine execution_induction (P := fun _ _ run => run.command.retrySafe = retrySafe) rfl ?_ ?_ signals
  · intro after deeds begun
    exact begun.kept.retrySafe
  · intro signals history signal after deeds before moved
    exact moved.retrySafe.trans before

/-- Nothing that might do harm twice is sent twice. For every configuration that is in order, every chain of filters
and every way with redirects: once the send of a command that was not declared safe to retry is answered and
leads nowhere else, no request follows if the method of the command promises nothing, or if the request went
out under such a method and the filters leave the method alone. -/
theorem no_send_after_final_answer {config : Config} {e : Executor} (valid : ofConfig config = .ok e)
    (filters : FilterChain) (redirects : RedirectPolicy) (disk : Disk) (number : Nat)
    (request : Request) (cancelled : Bool) (lives : Lives) (signals : List Signal) :
    let rules := e.equipped filters redirects
    let run := (rules.execution disk (.built number request false cancelled) lives signals).value
    ∀ current hops body answer taken meanwhile,
      run.phase = .sending current hops body →
      rules.hop? run (.answered answer taken meanwhile) = none →
      (run.command.request.method.isIdempotent = false ∨
        filters.KeepsMethod ∧ current.method.isIdempotent = false) →
      ∀ more, ∀ event ∈ (rules.steps disk (.answered answer taken meanwhile :: more) run).output,
        event.isHanded = false := by
  obtain ⟨rfl, -⟩ := ofConfig_eq_ok valid
  intro rules run current hops body answer taken meanwhile sending final risky more event done
  have policy : rules.retryPolicy = config.retryPolicy.toPolicy := rfl
  have promiseless : run.command.request.method.isIdempotent = false := by
    rcases risky with own | ⟨keeps, handed⟩
    · exact own
    · have aligned : run.Aligned := execution_aligned keeps signals
      rw [← aligned current (by rw [sending]; rfl)]
      exact handed
  have undeclared : run.command.retrySafe = false := execution_retrySafe signals
  have ineligible : run.command.isRetryEligible = false := by
    simp [Command.isRetryEligible, promiseless, undeclared]
  obtain ⟨spent, none⟩ := (moved_step rules disk (.answered answer taken meanwhile) run).spent_of_answer
    policy sending final ineligible
  have silent : (rules.steps disk (.answered answer taken meanwhile :: more) run).output.countP
      Event.isHanded = 0 := by
    rw [← Writer.countP_deeds _ _ Event.isDeed_of_isHanded, steps, Writer.deeds_bind,
      List.countP_append, none, steps_spent policy more spent]
  simpa using List.countP_eq_zero.mp silent event done

/-- A `POST` that a gateway gave up is not sent again, not even when a pause is said to be over. -/
theorem post_not_resent :
    let home : Url := ⟨"http", some { host := "h" }, .rooted [""], none, none⟩
    let rules := ({} : Config).described.equipped [] (.upTo 5)
    let run := (rules.execution {} (.built 0 ⟨.post, home, [], none, []⟩ false false) .fresh []).value
    ofConfig {} = .ok ({} : Config).described ∧ run.phase.request?.map (·.method) = some .post ∧
      ∀ event ∈ (rules.steps {} [.answered (.ok { status := 504 }) 0 false, .pauseOver false] run).output,
        event.isHanded = false := by
  intro home rules run
  have final : rules.hop? run (.answered (.ok { status := 504 }) 0 false) = none := rfl
  exact ⟨ofConfig_default, rfl, no_send_after_final_answer ofConfig_default [] (.upTo 5) {} 0
    ⟨.post, home, [], none, []⟩ false .fresh [] ⟨.post, home, [], none, []⟩ 0 none
    (.ok { status := 504 }) 0 false rfl final (.inl rfl) [.pauseOver false]⟩

/-- A `GET` that a filter sends as `POST` is sent again under that method. -/
theorem post_resent_at_filtered_method :
    let home : Url := ⟨"http", some { host := "h" }, .rooted [""], none, none⟩
    let rules := ({} : Config).described.equipped [Filter.setMethod "m" .post] (.upTo 5)
    let run := (rules.execution {} (.built 0 ⟨.get, home, [], none, []⟩ false false) .fresh []).value
    let again := rules.steps {} [.answered (.ok { status := 504 }) 0 false, .pauseOver false] run
    run.phase.request?.map (·.method) = some .post ∧
      (rules.hop? run (.answered (.ok { status := 504 }) 0 false)).isNone = true ∧
      again.output.countP Event.isHanded = 1 ∧
      again.value.phase.request?.map (·.method) = some .post := by
  decide +kernel

end Executor

end Courier
