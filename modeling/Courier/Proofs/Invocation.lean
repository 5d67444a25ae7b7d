import Courier.Executor.Invocation
import Courier.Proofs.Destination

/-!
What the fallback of an invocation is told. A final response that is no success becomes an error with the response,
its status and an endpoint. The endpoint is that of the command before it was begun (`Executor.invocation`), whatever
redirects and filters have done since. So it is the one that the response came from only if the last request still
went there (`fallback_told_of_start`).
-/
namespace Courier

/-- The error that a fallback was asked about. -/
def Event.substituted? : Event → Option CommandError
  | substituting error => some error
  | _ => none

/-- Is the event the end of an invocation? -/
def Event.isConclusion : Event → Bool
  | reading _ | substituting _ => true
  | _ => false

section

variable {e : Executor} {disk : Disk} {run after : Run} {deeds : List Event}

theorem Departed.inconclusive {request : Request} {hops : Nat}
    (departed : Departed request hops run after deeds) :
    ∀ deed ∈ deeds, deed.isConclusion = false := by
  cases departed <;> simp [Event.isConclusion]

theorem Concluded.inconclusive (concluded : Concluded e run after deeds) :
    ∀ deed ∈ deeds, deed.isConclusion = false := by
  have apart : ∀ deed : Event, deed.isDecided = true → deed.isConclusion = false := by
    intro deed decided
    cases deed <;> first | rfl | cases decided
  cases concluded with
  | ended charge decided => exact fun deed belongs => apart deed (decided deed belongs)
  | rested charge decided left rest =>
    refine List.forall_mem_append.mpr ⟨fun deed belongs => apart deed (decided deed belongs), ?_⟩
    cases rest <;> simp [Event.isConclusion]

theorem Begun.inconclusive (begun : Begun e disk run after deeds) :
    ∀ deed ∈ deeds, deed.isConclusion = false := by
  cases begun with
  | refused filters => simp
  | filtered filters sent => exact sent.departed.inconclusive

/-- A run neither reads a response nor asks a fallback. -/
theorem Moved.inconclusive {signal : Signal} (moved : Moved e disk run signal after deeds) :
    ∀ deed ∈ deeds, deed.isConclusion = false := by
  cases moved with
  | unmoved deaf calm => simp
  | marked runs => simp
  | stopped waits => simp
  | refused phase => simp
  | opened phase hands => exact hands.departed.inconclusive
  | failed phase fails => exact fails.concluded.inconclusive
  | answered phase answer =>
    cases answer with
    | astray next => simp
    | followed next sent => exact sent.departed.inconclusive
    | succeeded next success => simp
    | stopped next success cancelled => simp
    | judged next success quiet buffers judged => exact judged.concluded.inconclusive
    | reading next success quiet buffers => simp
  | judged phase reads judged => exact judged.concluded.inconclusive
  | begun phase begins => exact begins.inconclusive

end

/-- No filter of the chain changes the endpoint of a request. -/
def FilterChain.KeepsEndpoint (chain : FilterChain) : Prop :=
  ∀ filter ∈ chain, ∀ fresh request filtered,
    filter.transform fresh request = .ok filtered → filtered.endpoint = request.endpoint

namespace Executor

/-- If no filter changes the endpoint, the latest attempt came to the endpoint that the command holds. -/
theorem goal?_of_keepsEndpoint {e : Executor} {c : Command} {sends : Nat} {url : Url}
    (keeps : e.filters.KeepsEndpoint) (goal : e.goal? c sends = some url) :
    url = c.request.endpoint := by
  unfold goal? at goal
  split at goal
  · cases goal
    rfl
  · split at goal
    · next request filters =>
      cases goal
      rw [filtered, FilterChain.apply_value] at filters
      exact FilterChain.view_of_applyAll Request.endpoint keeps (fun _ _ => rfl) filters
    · cases goal

section

variable {e : Executor} {disk : Disk} {number : Nat} {request : Request} {retrySafe : Bool}
  {cancelled : Bool} {lives : Lives}

theorem execution_inconclusive {command : Command} (live : command.state.isTerminal = false)
    (signals : List Signal) :
    ∀ deed ∈ (e.execution disk command lives signals).deeds, deed.isConclusion = false := by
  refine execution_induction
    (P := fun _ history _ => ∀ deed ∈ history, deed.isConclusion = false) live ?_ ?_ signals
  · intro after deeds begun
    exact begun.inconclusive
  · intro signals history signal after deeds before moved
    exact List.forall_mem_append.mpr ⟨before, moved.inconclusive⟩

/-- Before its end an invocation asks no fallback. -/
theorem execution_unsubstituted (signals : List Signal) :
    (e.execution disk (.built number request retrySafe cancelled) lives signals).output.filterMap
      Event.substituted? = [] := by
  rw [List.filterMap_eq_nil_iff]
  intro event done
  cases event with
  | substituting error =>
    have quiet := execution_inconclusive rfl signals _ (Writer.mem_deeds_of_mem done rfl)
    cases quiet
  | _ => rfl

/-- An invocation that ends in a response other than of success asks the fallback once. -/
theorem substituted_of_failure {α : Type} {signals : List Signal} {response : Response}
    (ended : (e.execution disk (.built number request retrySafe cancelled) lives signals).value.phase =
      .finished (.ok response)) (fails : response.isSuccess = false)
    (read : Response → Noted (Except CommandError α)) (fallback : Fallback α) :
    (e.invocation disk (.built number request retrySafe cancelled) lives signals read
      fallback).output.filterMap Event.substituted? =
        [.nonRetryableResponse response.status request.endpoint.text response] := by
  unfold invocation
  rw [Writer.output_bind, List.filterMap_append, execution_unsubstituted, ended]
  simp [conclude, conclude.substitute, fails, Noted.traced, Event.substituted?]
  rfl

end

/-- What the fallback is told of a final response. Whatever the executor, the answers of the transport and the moment
of a cancellation: an invocation that ends in a response other than of success asks the fallback once, about the
response, its status and the endpoint that the command was built with. The last request had come to the goal of the
latest attempt, so where no filter changes the endpoint the fallback is told the right one exactly if no redirect
was followed or the last one led back. -/
theorem fallback_told_of_start {α : Type} (e : Executor) (disk : Disk) (number : Nat) (request : Request)
    (retrySafe cancelled : Bool) (lives : Lives) (signals : List Signal)
    (read : Response → Noted (Except CommandError α)) (fallback : Fallback α) (response : Response)
    (ended : (e.execution disk (.built number request retrySafe cancelled) lives signals).value.phase =
      .finished (.ok response)) (fails : response.isSuccess = false) :
    let command := Command.built number request retrySafe cancelled
    let run := e.execution disk command lives signals
    let told := (e.invocation disk command lives signals read fallback).output.filterMap
      Event.substituted?
    told = [.nonRetryableResponse response.status request.endpoint.text response] ∧
      ∃ last, lastHanded run.output = some last ∧
        e.goal? run.value.command (latestSends run.output) = some last.endpoint ∧
        (e.filters.KeepsEndpoint →
          (request.endpoint.text = last.endpoint.text ↔
            ∀ hop ∈ (e.hops disk command lives signals).getLast?,
              hop.next.endpoint.text = request.endpoint.text)) := by
  intro command run told
  have holds : (e.execution disk command lives signals).value.phase.holdsAnswer = true := by
    rw [ended]
    rfl
  obtain ⟨last, handed, goal⟩ := goal_of_answer signals holds
  refine ⟨substituted_of_failure ended fails read fallback, last, handed, goal, fun keeps => ?_⟩
  have led : run.value.command.request = request.led (e.hops disk command lives signals) :=
    execution_request signals
  rw [goal?_of_keepsEndpoint keeps goal, led, Request.led_endpoint]
  cases (e.hops disk command lives signals).getLast? with
  | none => simp
  | some hop => simp [eq_comm]

/-- A page that is missing where it was looked for: the fallback is told where. -/
theorem fallback_told_of_missing_page :
    let home : Request := { endpoint := ⟨"http", some { host := "h" }, .rooted [""], none, none⟩ }
    let rules := ({} : Config).described
    let command := Command.built 0 home false false
    let signals : List Signal := [.answered (.ok { status := 404 }) 0 false]
    (rules.invocation {} command .fresh signals (fun _ => pure (.ok ())) .rethrow).output.filterMap
        Event.substituted? = [.nonRetryableResponse 404 home.endpoint.text { status := 404 }] ∧
      ∃ last, lastHanded (rules.execution {} command .fresh signals).output = some last ∧
        home.endpoint.text = last.endpoint.text := by
  intro home rules command signals
  have ended : (rules.execution {} command .fresh signals).value.phase =
      .finished (.ok { status := 404 }) := rfl
  have fails : ({ status := 404 } : Response).isSuccess = false := by decide
  obtain ⟨told, last, handed, -, exactly⟩ := fallback_told_of_start rules {} 0 home false false .fresh
    signals (fun _ => pure (.ok ())) .rethrow { status := 404 } ended fails
  have unfiltered : rules.filters.KeepsEndpoint := fun filter belongs => by cases belongs
  have straight : rules.hops {} command .fresh signals = [] := rfl
  exact ⟨told, last, handed, (exactly unfiltered).mpr (by simp [command, signals, straight])⟩

/-- A page that a redirect led to and that is missing there: the fallback is told of the first endpoint. -/
theorem fallback_told_of_endpoint_before_redirect :
    let home : Request := { endpoint := ⟨"http", some { host := "h" }, .rooted [""], none, none⟩ }
    let rules := ({} : Config).described.equipped [] (.upTo 5)
    let command := Command.built 0 home false false
    let signals : List Signal :=
      [.answered (.ok { status := 302, headers := [⟨"Location", "/r"⟩] }) 0 false,
        .answered (.ok { status := 404 }) 0 false]
    let invocation := rules.invocation {} command .fresh signals (fun _ => pure (.ok ())) .rethrow
    (invocation.output.filterMap Event.substituted?).map CommandError.message =
        ["HTTP 404 from http://h/"] ∧
      (lastHanded invocation.output).map (·.endpoint.text) = some "http://h/r" := by
  decide +kernel

end Executor

end Courier
