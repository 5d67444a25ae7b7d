import Courier.Proofs.Cancellation
import Courier.Proofs.Veil

/-!
Runs do not look under the veil. What comes of a veiled run under a veiled signal is what comes of the run under the
signal, veiled: each leg is shown to commute with the veil, and so whole executions do
(`Executor.veiled_execution`). The library looks at one header only, the location of a redirect, and that is not
veiled. Filters are asked to make of a veiled request what they make of the request, up to the veil (`Filter.Blind`), and
the retry policy is asked to decide the same (`RetryPolicy.Blind`), as every policy kept here does.
-/
namespace Courier

/-- What a leg of a run does, under the veil. -/
def Writer.veiled (x : Writer Event Run) : Writer Event Run := ⟨x.value.veiled, x.output.map Event.veiled⟩

section

variable {α β : Type}

/-- A leg after something that is noted. Notices are not veiled. -/
theorem veiled_bind {x : Noted α} {y : Noted β} {f : α → Traced Run} {g : β → Traced Run}
    (same : x.output = y.output) (rest : (f x.value).veiled = g y.value) :
    (x.traced >>= f).veiled = y.traced >>= g := by
  have noted : (x.output.map Event.notice).map Event.veiled = x.output.map Event.notice := by
    rw [List.map_map]
    rfl
  calc (x.traced >>= f).veiled
      = ⟨(f x.value).veiled.value, x.output.map .notice ++ (f x.value).veiled.output⟩ := by
        simp only [Writer.veiled, Writer.output_bind, Noted.traced, Writer.output_mapOutput,
          List.map_append, noted]
        rfl
    _ = ⟨(g y.value).value, y.output.map .notice ++ (g y.value).output⟩ := by rw [rest, same]
    _ = y.traced >>= g := rfl

/-- A leg after something that gives another value under the veil, with the same notices. -/
theorem veiled_bind_map {x : Noted α} {view : α → β} {f : α → Traced Run} {g : β → Traced Run}
    (rest : (f x.value).veiled = g (view x.value)) :
    (x.traced >>= f).veiled = (view <$> x).traced >>= g :=
  veiled_bind (Writer.output_map view x).symm rest

/-- A leg that asks what is the same under the veil. -/
theorem veiled_ite {p q : Prop} [Decidable p] [Decidable q] {first second : Traced Run}
    {first' second' : Traced Run} (same : p ↔ q) (yes : first.veiled = first')
    (no : second.veiled = second') :
    (if p then first else second).veiled = if q then first' else second' := by
  by_cases asked : p
  · rw [if_pos asked, if_pos (same.mp asked), yes]
  · rw [if_neg asked, if_neg (mt same.mpr asked), no]

/-- A leg after a deed. -/
theorem veiled_tell {event : Event} {f g : Unit → Traced Run} (rest : (f ()).veiled = g ()) :
    (Writer.tell event >>= f).veiled = Writer.tell event.veiled >>= g := by
  calc (Writer.tell event >>= f).veiled
      = ⟨(f ()).veiled.value, event.veiled :: (f ()).veiled.output⟩ := rfl
    _ = Writer.tell event.veiled >>= g := by rw [rest]; rfl

/-- A leg after a leg. -/
theorem veiled_then {first first' : Traced Run} {next next' : Run → Traced Run}
    (same : first.veiled = first') (rest : ∀ run, (next run).veiled = next' run.veiled) :
    (first >>= next).veiled = first' >>= next' := by
  subst same
  calc (first >>= next).veiled
      = ⟨(next first.value).veiled.value,
          first.output.map Event.veiled ++ (next first.value).veiled.output⟩ := by
        simp only [Writer.veiled, Writer.output_bind, Writer.value_bind, List.map_append]
    _ = first.veiled >>= next' := by rw [rest]; rfl

end

namespace Run

variable (run : Run)

theorem veiled_finish (outcome : Outcome) :
    (run.finish outcome).veiled = run.veiled.finish (Outcome.veiled outcome) := by
  cases outcome with
  | ok response => exact veiled_bind rfl (veiled_bind rfl (veiled_bind rfl rfl))
  | error error =>
    refine veiled_bind rfl (veiled_bind rfl (veiled_bind ?_ rfl))
    show [_] = [_]
    rw [error.message_veiled]
    rfl

theorem veiled_fail (error : CommandError) : (run.fail error).veiled = run.veiled.fail error.veiled :=
  run.veiled_finish (.error error)

theorem veiled_cancel : run.cancel.veiled = run.veiled.cancel := run.veiled_fail _

end Run

namespace Command

theorem veiled_redirected (request hop : Request) :
    (redirected request hop).veiled = redirected request.veiled hop.veiled := by
  unfold redirected
  exact apply_ite Request.veiled _ _ _

theorem veiled_bound (c : Command) (hop : Request) : (c.bound hop).veiled = c.veiled.bound hop.veiled := by
  show ({ c.bound hop with request := (redirected c.request hop).veiled } : Command) = _
  rw [veiled_redirected]
  rfl

end Command

namespace RedirectPolicy

variable (policy : RedirectPolicy) (request : Request) (response : Response) (hops : Nat)

theorem header_location_veiled : response.veiled.header "Location" = response.header "Location" :=
  response.headers.first?_veiled (by decide)

theorem veiled_hop (status : Nat) (target : Url) :
    (hop request status target).veiled = hop request.veiled status target := by
  unfold hop
  exact apply_ite Request.veiled _ _ _

/-- A redirect leads the veiled request where it leads the request. -/
theorem nextRequest_veiled :
    policy.nextRequest request.veiled response.veiled hops =
      Except.map (Option.map Request.veiled) <$> policy.nextRequest request response hops := by
  have same : policy.isRedirect response.veiled = policy.isRedirect response := by
    unfold isRedirect
    rw [header_location_veiled]
    rfl
  unfold nextRequest
  rw [same, header_location_veiled]
  split
  · rfl
  · split
    · rfl
    · have leads : resolve request.veiled.endpoint ((response.header "Location").getD "") =
          resolve request.endpoint ((response.header "Location").getD "") := rfl
      rw [leads]
      cases resolve request.endpoint ((response.header "Location").getD "") with
      | error error => rfl
      | ok target =>
        dsimp only
        rw [← veiled_hop]
        rfl

end RedirectPolicy

namespace Response

variable (r : Response) (disk : Disk)

theorem releaseBody_veiled : r.veiled.releaseBody.output = r.releaseBody.output := by
  obtain ⟨status, headers, body, digest⟩ := r
  cases body <;> rfl

theorem settle_veiled (body : Body) (read : Except PayloadError Bytes) :
    r.veiled.settle body read = Response.veiled <$> r.settle body read := by
  unfold settle
  cases read with
  | ok bytes => simp only [map_bind, map_pure]; rfl
  | error error => simp only [map_bind, map_pure]; rfl

/-- A response on the way to be judged, under the veil. -/
def Buffering.veiled : Buffering → Buffering
  | settled response => settled response.veiled
  | waiting body flow => waiting body flow

theorem startBuffering_veiled :
    r.veiled.startBuffering disk = Buffering.veiled <$> r.startBuffering disk := by
  obtain ⟨status, headers, body, digest⟩ := r
  cases body with
  | none => rfl
  | some body =>
    dsimp only [startBuffering, veiled]
    split
    · rfl
    · rw [map_bind]
      congr 1
      funext ⟨opened, life⟩
      cases opened with
      | ok stream => rfl
      | error error =>
        dsimp only
        have := settle_veiled ⟨status, headers, some body, digest⟩ { body with life } (.error error)
        unfold veiled at this
        rw [this]
        simp only [map_bind, map_pure, bind_map_left]
        rfl

end Response

/-- The filter with what it makes of a request under the veil. -/
def Filter.veiled (filter : Filter) : Filter where
  id := filter.id
  transform := fun fresh request => (filter.transform fresh request).map Request.veiled

/-- The filter makes of a veiled request what it makes of the request, up to the veil. -/
def Filter.Blind (filter : Filter) : Prop :=
  ∀ fresh request, filter.veiled.transform fresh request.veiled = filter.veiled.transform fresh request

namespace FilterChain

/-- The chain of the veiled filters. -/
def veiled (chain : FilterChain) : FilterChain := chain.map Filter.veiled

/-- Veiled filters make of a veiled request what the filters make of the request, under the veil. -/
theorem applyAll_veiled {chain : FilterChain} (blind : ∀ filter ∈ chain, filter.Blind)
    (fresh : Nat → PayloadId) (request : Request) :
    chain.veiled.applyAll fresh request.veiled =
      Except.map Request.veiled <$> chain.applyAll fresh request := by
  induction chain generalizing fresh request with
  | nil => rfl
  | cons filter rest ih =>
    have rests := ih fun other belongs => blind other (List.mem_cons_of_mem filter belongs)
    have first := blind filter List.mem_cons_self (fresh 0) request
    have applied : request.veiled.hasFilter filter.veiled.id = request.hasFilter filter.id := rfl
    simp only [veiled, List.map_cons, applyAll_cons, applied, first]
    split
    · rw [map_bind]
      congr 1
      funext _
      exact rests _ request
    · simp only [Filter.veiled]
      cases filter.transform (fresh 0) request with
      | error error => rfl
      | ok filtered => exact rests _ (filtered.withAppliedFilter filter.id)

theorem apply_veiled {chain : FilterChain} (blind : ∀ filter ∈ chain, filter.Blind)
    (fresh : Nat → PayloadId) (request : Request) :
    chain.veiled.apply fresh request.veiled =
      Except.map Request.veiled <$> chain.apply fresh request := by
  unfold apply
  rw [applyAll_veiled blind, map_bind, bind_map_left]
  congr 1
  funext outcome
  cases outcome <;> rfl

end FilterChain

/-- The policy decides without a look under the veil. -/
structure RetryPolicy.Blind (policy : RetryPolicy) : Prop where
  errorCode : ∀ response, policy.errorCode response.veiled = policy.errorCode response
  shouldRetry : ∀ command response,
    policy.shouldRetry command.veiled response.veiled = policy.shouldRetry command response

/-- A backoff policy looks at the status and the body of a response only. -/
theorem BackoffPolicy.blind (policy : BackoffPolicy) : policy.toPolicy.Blind where
  errorCode _ := rfl
  shouldRetry _ _ := rfl

theorem RetryPolicy.always_blind (delay : Duration) : (always delay).Blind where
  errorCode _ := rfl
  shouldRetry _ _ := rfl

theorem RetryPolicy.never_blind (reason : String) : (never reason).Blind where
  errorCode _ := rfl
  shouldRetry _ _ := rfl

/-- Neither the filters nor the policy look under the veil. -/
structure Executor.Blind (e : Executor) : Prop where
  filters : ∀ filter ∈ e.filters, filter.Blind
  policy : e.retryPolicy.Blind

namespace Executor

/-- The executor with veiled filters. -/
def veiled (e : Executor) : Executor := { e with filters := e.filters.veiled }

variable {e : Executor} (disk : Disk)

theorem veiled_handOver (run : Run) (request : Request) (hops : Nat) (body : Option Flow) :
    (handOver run request hops body).veiled = handOver run.veiled request.veiled hops body := by
  unfold handOver
  refine veiled_bind rfl (veiled_bind rfl (veiled_ite .rfl ?_ ?_))
  · exact veiled_bind rfl (Run.veiled_cancel _)
  · exact veiled_tell rfl

theorem openingError_veiled (run : Run) (request : Request) (error : PayloadError) :
    (openingError run request error).veiled = openingError run.veiled request.veiled error := by
  cases error <;> rfl

theorem veiled_afterOpening (run : Run) (request : Request) (hops : Nat)
    (opened : Except PayloadError Stream) :
    (afterOpening run disk request hops opened).veiled =
      afterOpening run.veiled disk request.veiled hops opened := by
  cases opened with
  | error error =>
    show (run.fail (openingError run request error)).veiled =
      run.veiled.fail (openingError run.veiled request.veiled error)
    rw [run.veiled_fail, openingError_veiled]
  | ok stream => exact veiled_handOver run request hops _

theorem veiled_send (run : Run) (request : Request) (hops : Nat) :
    (send run disk request hops).veiled = send run.veiled disk request.veiled hops := by
  obtain ⟨method, endpoint, headers, payload, applied⟩ := request
  refine veiled_ite .rfl run.veiled_cancel ?_
  cases payload with
  | none => exact veiled_handOver run _ hops none
  | some p =>
    refine veiled_bind rfl (veiled_ite .rfl rfl ?_)
    exact veiled_afterOpening disk _ _ hops _

/-- An attempt begins under the veil as it does without. -/
theorem veiled_beginAttempt (blind : e.Blind) (run : Run) :
    (e.beginAttempt disk run).veiled = e.veiled.beginAttempt disk run.veiled := by
  have filters : ∀ fresh, e.veiled.filters.apply fresh run.veiled.command.request =
      Except.map Request.veiled <$> e.filters.apply fresh run.command.request :=
    fun fresh => FilterChain.apply_veiled blind.filters fresh run.command.request
  unfold beginAttempt
  dsimp only
  rw [filters]
  refine veiled_bind_map ?_
  generalize (e.filters.apply _ run.command.request).value = outcome
  cases outcome with
  | error error => exact Run.veiled_fail _ _
  | ok request => exact veiled_bind rfl (veiled_send disk _ request 0)

theorem veiled_start (blind : e.Blind) (run : Run) :
    (e.start disk run).veiled = e.veiled.start disk run.veiled :=
  veiled_ite .rfl rfl (veiled_beginAttempt disk blind run)

theorem veiled_pause (run : Run) (delay : Duration) :
    (pause run delay).veiled = pause run.veiled delay := by
  unfold pause
  refine veiled_bind rfl (veiled_ite .rfl ?_ ?_)
  · exact veiled_bind rfl (Run.veiled_cancel _)
  · exact veiled_tell rfl

theorem veiled_judgeFailure (run : Run) (error : TransportError) :
    (e.judgeFailure run error).veiled = e.veiled.judgeFailure run.veiled error := by
  refine veiled_ite .rfl (run.veiled_fail _) (veiled_ite .rfl (Run.veiled_fail _ _) ?_)
  exact veiled_bind rfl (veiled_pause _ _)

theorem veiled_judge (blind : e.Blind) (run : Run) (response : Response) :
    (e.judge run response).veiled = e.veiled.judge run.veiled response.veiled := by
  have errorCode : e.veiled.retryPolicy.errorCode response.veiled = e.retryPolicy.errorCode response :=
    blind.policy.errorCode response
  have decision : ∀ command : Command, e.veiled.retryPolicy.shouldRetry command.veiled response.veiled =
      e.retryPolicy.shouldRetry command response := fun command => blind.policy.shouldRetry command response
  unfold judge
  rw [errorCode]
  refine veiled_bind rfl ?_
  -- Both sides ask about the command with the response on its account.
  change (Noted.traced (e.retryPolicy.shouldRetry (run.command.answeredBy e response) response) >>= _).veiled =
    Noted.traced (e.veiled.retryPolicy.shouldRetry (run.command.answeredBy e response).veiled
      response.veiled) >>= _
  rw [decision]
  refine veiled_bind rfl (veiled_tell ?_)
  generalize (e.retryPolicy.shouldRetry (run.command.answeredBy e response) response).value = verdict
  cases verdict with
  | doNotRetry reason => exact veiled_bind rfl (Run.veiled_finish _ _)
  | retry delay attempt =>
    refine veiled_ite .rfl (Run.veiled_fail _ _) (veiled_bind rfl ?_)
    exact veiled_bind response.releaseBody_veiled.symm (veiled_pause _ delay)

/-- A response whose body has been read, or could not be, is judged. -/
theorem veiled_judgeSettled (blind : e.Blind) (run : Run) (response : Response) (body : Body)
    (read : Except PayloadError Bytes) :
    ((response.settle body read).traced >>= e.judge run).veiled =
      (response.veiled.settle body read).traced >>= e.veiled.judge run.veiled := by
  rw [response.settle_veiled]
  exact veiled_bind_map (veiled_judge blind run _)

theorem veiled_takeError (blind : e.Blind) (run : Run) (response : Response) :
    (e.takeError disk run response).veiled = e.veiled.takeError disk run.veiled response.veiled := by
  refine veiled_ite .rfl (veiled_bind rfl run.veiled_cancel) ?_
  rw [response.startBuffering_veiled]
  refine veiled_bind_map ?_
  generalize (response.startBuffering disk).value = buffering
  cases buffering with
  | settled buffered => exact veiled_judge blind run buffered
  | waiting body flow => rfl

theorem veiled_takeResponse (blind : e.Blind) (run : Run) (request : Request) (hops : Nat)
    (response : Response) :
    (e.takeResponse disk run request hops response).veiled =
      e.veiled.takeResponse disk run.veiled request.veiled hops response.veiled := by
  refine veiled_bind rfl ?_
  change _ = Noted.traced (e.redirectPolicy.nextRequest request.veiled response.veiled hops) >>= _
  rw [RedirectPolicy.nextRequest_veiled]
  refine veiled_bind_map ?_
  cases next : (e.redirectPolicy.nextRequest request response hops).value with
  | error error =>
    obtain ⟨count, rfl⟩ | ⟨location, rfl⟩ := RedirectPolicy.error_of_astray next
    · exact run.veiled_fail _
    · exact run.veiled_fail _
  | ok follows =>
    cases follows with
    | none => exact veiled_ite .rfl (run.veiled_finish _) (veiled_takeError disk blind run response)
    | some hop =>
      refine veiled_bind response.releaseBody_veiled.symm (veiled_bind rfl ?_)
      have bound : (run.withCommand (run.command.bound hop)).veiled =
          run.veiled.withCommand (run.veiled.command.bound hop.veiled) :=
        congrArg (run.veiled.withCommand ·) (run.command.veiled_bound hop)
      exact (veiled_send disk _ hop (hops + 1)).trans
        (congrArg (send · disk hop.veiled (hops + 1)) bound)

/-- What comes of a signal under the veil. -/
theorem veiled_step (blind : e.Blind) (signal : Signal) (run : Run) :
    (e.step disk signal run).veiled = e.veiled.step disk signal.veiled run.veiled := by
  obtain ⟨command, lives, phase⟩ := run
  cases signal with
  | opened =>
    cases phase with
    | opening request hops opened => exact veiled_afterOpening disk _ request hops opened
    | _ => rfl
  | answered answer taken meanwhile =>
    cases phase with
    | sending request hops body =>
      cases answer with
      | error error => exact veiled_judgeFailure _ error
      | ok response => exact veiled_takeResponse disk blind _ request hops _
    | _ => cases answer <;> rfl
  | bodyRead =>
    cases phase with
    | reading response body flow =>
      have limit : e.veiled.maxErrorBodyBytes = e.maxErrorBodyBytes := rfl
      simp only [step, Run.veiled, Phase.veiled, Signal.veiled, limit]
      cases flow.readUpTo e.maxErrorBodyBytes with
      | waiting => rfl
      | done bytes => exact veiled_judgeSettled blind _ response body _
      | failed error => exact veiled_judgeSettled blind _ response body _
    | _ => rfl
  | pauseOver =>
    cases phase with
    | pausing delay => exact veiled_beginAttempt disk blind _
    | _ => rfl
  | cancelled =>
    cases phase with
    | sending request hops body => exact veiled_bind rfl (Run.veiled_cancel _)
    | reading response body flow => exact veiled_bind rfl (Run.veiled_cancel _)
    | pausing delay => exact veiled_bind rfl (Run.veiled_cancel _)
    | _ => rfl

theorem veiled_steps (blind : e.Blind) (signals : List Signal) (run : Run) :
    (e.steps disk signals run).veiled = e.veiled.steps disk (signals.map Signal.veiled) run.veiled := by
  induction signals generalizing run with
  | nil => rfl
  | cons signal rest ih => exact veiled_then (veiled_step disk blind signal run) ih

/-- An execution under the veil is the execution of the veiled command under the veiled signals. -/
theorem veiled_execution (blind : e.Blind) (command : Command) (lives : Lives)
    (signals : List Signal) :
    (e.execution disk command lives signals).veiled =
      e.veiled.execution disk command.veiled lives (signals.map Signal.veiled) :=
  veiled_then (veiled_start disk blind _) (veiled_steps disk blind signals)

end Executor

end Courier
