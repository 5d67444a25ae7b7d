import Courier.Proofs.Replay
import Courier.Proofs.Setbacks

/-!
What filters make of a request goes out with the send and never comes back to the command. Whatever the filters do, a
command holds the headers and the list of applied filters that it was built with, its own payload or none, and
the endpoint where the last redirect led (`Request.Unfiltered`). It holds so whenever a run waits, and whenever
the retry policy is shown the command in between.
-/
namespace Courier

namespace Request

@[simp] theorem redirected_headers (request hop : Request) :
    (Command.redirected request hop).headers = request.headers := by
  unfold Command.redirected
  split <;> rfl

@[simp] theorem redirected_appliedFilters (request hop : Request) :
    (Command.redirected request hop).appliedFilters = request.appliedFilters := by
  unfold Command.redirected
  split <;> rfl

/-- No redirect changes the headers. -/
theorem led_headers (request : Request) (hops : List Hop) :
    (request.led hops).headers = request.headers := by
  induction hops using List.reverseRecOn with
  | nil => rfl
  | append_singleton hops hop ih => rw [led_concat, redirected_headers, ih]

/-- Nor does one change the list of filters that the request has been through. -/
theorem led_appliedFilters (request : Request) (hops : List Hop) :
    (request.led hops).appliedFilters = request.appliedFilters := by
  induction hops using List.reverseRecOn with
  | nil => rfl
  | append_singleton hops hop ih => rw [led_concat, redirected_appliedFilters, ih]

/-- A request that comes from the initial one by redirects alone: nothing of it was made by a filter, except that a
redirect may have led elsewhere. -/
structure Unfiltered (initial : Request) (hops : List Hop) (base : Request) : Prop where
  headers : base.headers = initial.headers
  appliedFilters : base.appliedFilters = initial.appliedFilters
  payload : base.payload = initial.payload ∨ base.payload = none
  endpoint : base.endpoint = initial.whither hops

theorem unfiltered_led (initial : Request) (hops : List Hop) :
    initial.Unfiltered hops (initial.led hops) where
  headers := initial.led_headers hops
  appliedFilters := initial.led_appliedFilters hops
  payload := by
    rw [led_payload]
    exact ite_eq_or_eq _ _ _
  endpoint := initial.led_endpoint hops

end Request

/-- The redirect was one to follow under the policy, and led where its location points, seen from the request that it
answered. -/
structure Hop.Followed (policy : RedirectPolicy) (hop : Hop) : Prop where
  redirects : policy.isRedirect hop.response = true
  target : RedirectPolicy.resolve hop.request.endpoint ((hop.response.header "Location").getD "") =
    .ok hop.next.endpoint

theorem RedirectPolicy.resolve_of_nextRequest {policy : RedirectPolicy} {request next : Request}
    {response : Response} {hops : Nat}
    (leads : (policy.nextRequest request response hops).value = .ok (some next)) :
    resolve request.endpoint ((response.header "Location").getD "") = .ok next.endpoint := by
  unfold nextRequest at leads
  split at leads
  · cases leads
  · split at leads
    · cases leads
    · split at leads
      · cases leads
      · next target resolved =>
        simp only [Writer.value_bind, Writer.value_pure, Except.ok.injEq, Option.some.injEq] at leads
        rw [resolved, ← leads]
        unfold hop
        split <;> rfl

section

variable {e : Executor} {disk : Disk} {run after : Run} {deeds : List Event} {seen : Command}
  {response : Response} {decision : RetryDecision}

/-- On the way to a send nothing is decided. -/
theorem Departed.undecided {request : Request} {hops : Nat}
    (departed : Departed request hops run after deeds) : .decided seen response decision ∉ deeds := by
  cases departed <;> simp

theorem Rested.undecided {delay : Duration} (rest : Rested delay run after deeds) :
    .decided seen response decision ∉ deeds := by
  cases rest <;> simp

theorem Begun.undecided (begun : Begun e disk run after deeds) :
    .decided seen response decision ∉ deeds := by
  cases begun with
  | refused filters => simp
  | filtered filters sent => exact sent.departed.undecided

/-- The policy is shown the request that the command holds. -/
theorem Judged.shown {judgedResponse : Response} (judged : Judged e judgedResponse run after deeds)
    (done : .decided seen response decision ∈ deeds) : seen.request = run.command.request := by
  have own : seen = run.command.answeredBy e judgedResponse := by
    cases judged with
    | final verdict => exact (Event.decided.inj (List.mem_singleton.mp done)).1
    | exhausted verdict spent => exact (Event.decided.inj (List.mem_singleton.mp done)).1
    | rested verdict left rest =>
      rcases List.mem_cons.mp done with same | later
      · exact (Event.decided.inj same).1
      · exact absurd later rest.undecided
  rw [own]
  rfl

theorem Answered.shown {request : Request} {hops : Nat} {answer : Response}
    (answered : Answered e disk request hops answer run after deeds)
    (done : .decided seen response decision ∈ deeds) : seen.request = run.command.request := by
  cases answered with
  | astray next => cases done
  | followed next sent => exact absurd done sent.departed.undecided
  | succeeded next success => cases done
  | stopped next success cancelled => cases done
  | judged next success quiet buffers judged => exact judged.shown done
  | reading next success quiet buffers => cases done

/-- In every step the policy is shown the request that the command held before the step. -/
theorem Moved.shown {signal : Signal} (moved : Moved e disk run signal after deeds)
    (done : .decided seen response decision ∈ deeds) : seen.request = run.command.request := by
  cases moved with
  | unmoved deaf calm => cases done
  | marked runs => cases done
  | stopped waits => cases done
  | refused phase => cases done
  | opened phase hands => exact absurd done hands.departed.undecided
  | failed phase fails =>
    cases fails with
    | final lasting => cases done
    | exhausted passing spent => cases done
    | rested passing left rest => exact absurd done rest.undecided
  | answered phase answer => exact answer.shown done
  | judged phase reads judged => exact judged.shown done
  | begun phase begins => exact absurd done begins.undecided

end

namespace Executor

variable {e : Executor} {disk : Disk} {number : Nat} {request : Request} {retrySafe : Bool}
  {cancelled : Bool} {lives : Lives}

/-- What the policy is shown is the request that the command held at some point of the run. -/
theorem execution_shown (signals : List Signal) {seen : Command} {response : Response}
    {decision : RetryDecision}
    (done : .decided seen response decision ∈
      (e.execution disk (.built number request retrySafe cancelled) lives signals).deeds) :
    ∃ before, before <+: signals ∧ seen.request =
      (e.execution disk (.built number request retrySafe cancelled) lives before).value.command.request := by
  refine execution_induction
    (P := fun signals history _ => .decided seen response decision ∈ history →
      ∃ before, before <+: signals ∧ seen.request =
        (e.execution disk (.built number request retrySafe cancelled) lives
          before).value.command.request)
    rfl ?_ ?_ signals done
  · intro after deeds begun done
    exact absurd done begun.undecided
  · intro signals history signal after deeds before moved done
    rcases List.mem_append.mp done with earlier | now
    · obtain ⟨point, within, same⟩ := before earlier
      exact ⟨point, within.trans (List.prefix_append _ _), same⟩
    · exact ⟨signals, List.prefix_append _ _, moved.shown now⟩

/-- Nothing that a filter makes sticks to a command. Whatever the filters, the policies, the answers of the transport
and the moment of a cancellation, at every point of a run: the request of the command has the headers and the
applied filters that it was built with, its payload or none, and the endpoint where the last redirect that was
followed led, which is where its location points; and so had every request that the policy was shown. -/
theorem base_untouched_by_filters (e : Executor) (disk : Disk) (number : Nat) (request : Request)
    (retrySafe cancelled : Bool) (lives : Lives) (signals : List Signal) :
    let command := Command.built number request retrySafe cancelled
    let run := e.execution disk command lives signals
    let hops := e.hops disk command lives signals
    request.Unfiltered hops run.value.command.request ∧
      (∀ hop ∈ hops, hop.Followed e.redirectPolicy) ∧
      ∀ seen response decision, .decided seen response decision ∈ run.output →
        ∃ before, before <+: signals ∧
          request.Unfiltered (e.hops disk command lives before) seen.request := by
  intro command run hops
  have held : ∀ point, request.Unfiltered (e.hops disk command lives point)
      (e.execution disk command lives point).value.command.request := by
    intro point
    rw [execution_request point]
    exact request.unfiltered_led _
  refine ⟨held signals, fun hop followed => ?_, fun seen response decision done => ?_⟩
  · obtain ⟨⟨point, signal⟩, -, found⟩ := List.mem_filterMap.mp followed
    obtain ⟨count, body, -, leads⟩ := hop?_eq_some found
    exact ⟨RedirectPolicy.isRedirect_of_leads leads, RedirectPolicy.resolve_of_nextRequest leads⟩
  · obtain ⟨before, within, same⟩ := execution_shown signals (Writer.mem_deeds_of_mem done rfl)
    refine ⟨before, within, ?_⟩
    rw [same]
    exact held before

/-- Credentials that a filter puts on an upload, and the envelope around its body, are on the wire after a redirect
and not on the command. -/
example :
    let home : Url := ⟨"http", some { host := "h" }, .rooted [""], none, none⟩
    let upload : Request := ⟨.put, home, [], some ⟨.given 0, .ofText "body"⟩, []⟩
    let rules := ({} : Config).described.equipped
      [.basicAuth "user" "password", .envelope "soap" [0x3c] [0x3e]] (.upTo 5)
    let run := (rules.execution {} (.built 0 upload false false) .fresh
      [.answered (.ok { status := 307, headers := [⟨"Location", "/r"⟩] }) 1 false]).value
    (run.phase.request?.map fun sent => (sent.headers.length, sent.appliedFilters.length)) = some (1, 2) ∧
      run.command.request.headers = [] ∧ run.command.request.appliedFilters = [] ∧
      run.command.request.endpoint.text = "http://h/r" := by
  decide +kernel

end Executor

end Courier
