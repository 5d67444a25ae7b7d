import Courier.Filter.Basic
import Courier.Proofs.Frames

/-!
What becomes of the request that a command holds. Filters never touch it: it is the request the command was built
with, led on by every redirect that was followed (`Executor.execution_request`). A redirect other than "see
other" is meant to move nothing but the endpoint. It does so exactly if the request that it answers went out
under the method that the command was built with. Where a filter had changed the method, the redirect is taken
for a "see other": the method of the filter becomes that of the command, and the payload is lost to all later
attempts.
-/
namespace Courier

/-- The request after redirects in turn. -/
def Request.led (request : Request) (hops : List Hop) : Request :=
  hops.foldl (fun base hop => Command.redirected base hop.next) request

namespace Request

theorem led_concat (request : Request) (hops : List Hop) (hop : Hop) :
    request.led (hops ++ [hop]) = Command.redirected (request.led hops) hop.next := by
  simp [led]

/-- A redirect hands its method on. -/
@[simp] theorem redirected_method (request hop : Request) :
    (Command.redirected request hop).method = hop.method := by
  unfold Command.redirected
  split
  · next same => exact same.symm
  · rfl

/-- It leads to its endpoint. -/
@[simp] theorem redirected_endpoint (request hop : Request) :
    (Command.redirected request hop).endpoint = hop.endpoint := by
  unfold Command.redirected
  split <;> rfl

/-- A redirect under another method drops the payload. -/
@[simp] theorem redirected_payload (request hop : Request) :
    (Command.redirected request hop).payload =
      if hop.method = request.method then request.payload else none := by
  unfold Command.redirected
  split <;> rfl

/-- The method is that of the last redirect. -/
theorem led_method (request : Request) (hops : List Hop) :
    (request.led hops).method = (hops.getLast?.map (·.next.method)).getD request.method := by
  induction hops using List.reverseRecOn with
  | nil => rfl
  | append_singleton hops hop ih => simp [led_concat]

/-- The endpoint is where the last redirect led. -/
theorem led_endpoint (request : Request) (hops : List Hop) :
    (request.led hops).endpoint = (hops.getLast?.map (·.next.endpoint)).getD request.endpoint := by
  induction hops using List.reverseRecOn with
  | nil => rfl
  | append_singleton hops hop ih => simp [led_concat]

theorem led_method_of_kept {request : Request} {hops : List Hop}
    (kept : ∀ hop ∈ hops, hop.next.method = request.method) :
    (request.led hops).method = request.method := by
  rw [led_method]
  cases last : hops.getLast? with
  | none => rfl
  | some hop => exact kept hop (List.mem_of_getLast? last)

/-- The payload is there as long as every redirect kept to the method of the request. -/
theorem led_payload (request : Request) (hops : List Hop) :
    (request.led hops).payload =
      if ∀ hop ∈ hops, hop.next.method = request.method then request.payload else none := by
  induction hops using List.reverseRecOn with
  | nil => simp [led]
  | append_singleton hops hop ih =>
    rw [led_concat, redirected_payload, ih]
    by_cases kept : ∀ earlier ∈ hops, earlier.next.method = request.method
    · rw [led_method_of_kept kept, if_pos kept]
      refine if_congr ?_ rfl rfl
      simp only [List.forall_mem_append, List.forall_mem_singleton]
      exact (and_iff_right kept).symm
    -- A payload that is lost stays lost, even if a later redirect comes back to the method.
    · have lost : ¬∀ earlier ∈ hops ++ [hop], earlier.next.method = request.method :=
        fun all => kept fun earlier belongs => all earlier (List.mem_append_left _ belongs)
      rw [if_neg kept, if_neg lost, ite_self]

/-- Redirects leave method and payload if each keeps to the method, or if there is no payload to lose and the last
one comes back to the method. -/
theorem led_kept_iff (request : Request) (hops : List Hop) :
    ((request.led hops).method = request.method ∧ (request.led hops).payload = request.payload) ↔
      (∀ hop ∈ hops, hop.next.method = request.method) ∨
      (request.payload = none ∧ ∀ hop ∈ hops.getLast?, hop.next.method = request.method) := by
  constructor
  · rintro ⟨method, payload⟩
    rw [led_payload] at payload
    by_cases kept : ∀ hop ∈ hops, hop.next.method = request.method
    · exact .inl kept
    · rw [if_neg kept] at payload
      refine .inr ⟨payload.symm, fun hop last => ?_⟩
      rw [led_method, Option.mem_def.mp last] at method
      exact method
  · rintro (kept | ⟨empty, last⟩)
    · exact ⟨led_method_of_kept kept, by rw [led_payload, if_pos kept]⟩
    · refine ⟨?_, by rw [led_payload, empty, ite_self]⟩
      rw [led_method]
      cases final : hops.getLast? with
      | none => rfl
      | some hop => exact last hop final

end Request

/-- A redirect other than "see other" moves nothing but the endpoint. -/
theorem RedirectPolicy.withEndpoint_of_nextRequest {policy : RedirectPolicy} {request next : Request}
    {response : Response} {hops : Nat}
    (leads : (policy.nextRequest request response hops).value = .ok (some next))
    (other : response.status ≠ 303) : next = request.withEndpoint next.endpoint := by
  unfold nextRequest at leads
  split at leads
  · cases leads
  · split at leads
    · cases leads
    · split at leads
      · cases leads
      · next target _ =>
        simp only [Writer.value_bind, Writer.value_pure, Except.ok.injEq, Option.some.injEq] at leads
        have goes : ¬(response.status = seeOther ∧ request.method ≠ .get ∧ request.method ≠ .head) :=
          fun asks => other asks.1
        rw [hop, if_neg goes] at leads
        rw [← leads]
        rfl

/-- Only "see other" asks for another method. -/
theorem RedirectPolicy.method_of_nextRequest {policy : RedirectPolicy} {request next : Request}
    {response : Response} {hops : Nat}
    (leads : (policy.nextRequest request response hops).value = .ok (some next))
    (other : response.status ≠ 303) : next.method = request.method := by
  rw [withEndpoint_of_nextRequest leads other]
  rfl

namespace Executor

variable {e : Executor} {disk : Disk} {number : Nat} {request : Request} {retrySafe : Bool}
  {cancelled : Bool} {lives : Lives}

/-- The redirects that a command follows on its way, in order. -/
def hops (e : Executor) (disk : Disk) (command : Command) (lives : Lives) (signals : List Signal) :
    List Hop :=
  (e.encounters disk signals (e.start disk ⟨command, lives, .idle⟩).value).filterMap
    fun (run, signal) => e.hop? run signal

theorem hops_concat (e : Executor) (disk : Disk) (command : Command) (lives : Lives)
    (signals : List Signal) (signal : Signal) :
    e.hops disk command lives (signals ++ [signal]) = e.hops disk command lives signals ++
      (e.hop? (e.execution disk command lives signals).value signal).toList := by
  unfold hops
  rw [encounters_append, List.filterMap_append]
  congr 1

/-- A redirect that a run follows answers the request that is with the transport. -/
theorem hop?_eq_some {run : Run} {signal : Signal} {hop : Hop} (found : e.hop? run signal = some hop) :
    ∃ hops body, run.phase = .sending hop.request hops body ∧
      (e.redirectPolicy.nextRequest hop.request hop.response hops).value = .ok (some hop.next) := by
  unfold hop? at found
  split at found
  · next request hops body response taken meanwhile phase =>
    dsimp only at found
    split at found
    · next next leads =>
      cases found
      exact ⟨hops, body, phase, leads⟩
    · cases found
  · cases found

/-- A redirect other than "see other" goes on with the method of the request that it answers. -/
theorem hop?_method {run : Run} {signal : Signal} {hop : Hop} (found : e.hop? run signal = some hop)
    (other : hop.response.status ≠ 303) : hop.next.method = hop.request.method := by
  obtain ⟨hops, body, -, leads⟩ := hop?_eq_some found
  exact RedirectPolicy.method_of_nextRequest leads other

/-- A command holds the request it was built with, led on by the redirects it followed. -/
theorem execution_request (signals : List Signal) :
    (e.execution disk (.built number request retrySafe cancelled) lives signals).value.command.request =
      request.led (e.hops disk (.built number request retrySafe cancelled) lives signals) := by
  refine execution_induction
    (P := fun signals _ run => run.command.request =
      request.led (e.hops disk (.built number request retrySafe cancelled) lives signals)) rfl ?_ ?_
    signals
  · intro after deeds begun
    exact begun.kept.request
  · intro signals history signal after deeds before moved
    obtain ⟨now, -, kept⟩ := moved.kept
    rw [kept.request, hops_concat]
    cases e.hop? (e.execution disk _ lives signals).value signal with
    | none => simpa [Command.led, Run.heeding] using before
    | some hop =>
      rw [Option.toList_some, Request.led_concat, ← before]
      rfl

/-- When redirects other than "see other" leave method and payload of a command alone: if every request that was
answered with one went out under the method the command was built with, or if there was no payload to lose
and the last of them did. -/
theorem base_kept_iff (e : Executor) (disk : Disk) (number : Nat) (request : Request)
    (retrySafe cancelled : Bool) (lives : Lives) (signals : List Signal)
    (others : ∀ hop ∈ e.hops disk (.built number request retrySafe cancelled) lives signals,
      hop.response.status ≠ 303) :
    let command := Command.built number request retrySafe cancelled
    let base := (e.execution disk command lives signals).value.command.request
    let hops := e.hops disk command lives signals
    (base.method = request.method ∧ base.payload = request.payload) ↔
      (∀ hop ∈ hops, hop.request.method = request.method) ∨
      (request.payload = none ∧ ∀ hop ∈ hops.getLast?, hop.request.method = request.method) := by
  intro command base hops
  have same : ∀ hop ∈ hops, hop.next.method = hop.request.method := by
    intro hop followed
    obtain ⟨⟨run, signal⟩, -, found⟩ := List.mem_filterMap.mp followed
    exact hop?_method found (others hop followed)
  have led : base = request.led hops := execution_request signals
  rw [led, Request.led_kept_iff]
  refine or_congr ?_ (and_congr_right fun _ => ?_)
  · exact forall₂_congr fun hop followed => by rw [same hop followed]
  · exact forall₂_congr fun hop last => by rw [same hop (List.mem_of_getLast? last)]

/-- A redirect of an upload that no filter touched leaves method and payload. -/
theorem base_kept_without_filters :
    let upload : Request := ⟨.put, ⟨"http", some { host := "h" }, .rooted [""], none, none⟩, [],
      some ⟨.given 0, .ofText "body"⟩, []⟩
    let command := Command.built 0 upload false false
    let rules := ({} : Config).described.equipped [] (.upTo 5)
    let signals := [.answered (.ok { status := 307, headers := [⟨"Location", "/r"⟩] }) 0 false]
    (rules.hops {} command .fresh signals).length = 1 ∧
      let base := (rules.execution {} command .fresh signals).value.command.request
      base.method = upload.method ∧ base.payload = upload.payload := by
  intro upload command rules signals
  have all : ((rules.hops {} command .fresh signals).all fun hop =>
      hop.response.status ≠ 303 ∧ hop.request.method = upload.method) = true := by decide +kernel
  have each := List.all_eq_true.mp all
  simp only [decide_eq_true_eq] at each
  refine ⟨by decide +kernel, ?_⟩
  have kept := base_kept_iff rules {} 0 upload false false .fresh signals fun hop followed =>
    (each hop followed).1
  have both := kept.mpr (.inl fun hop followed => (each hop followed).2)
  with_reducible exact both

/-- Where a filter turns an upload into a `DELETE`, a redirect other than "see other" makes the command one, and
takes its payload. -/
theorem base_lost_at_filtered_method :
    let upload : Request := ⟨.put, ⟨"http", some { host := "h" }, .rooted [""], none, none⟩, [],
      some ⟨.given 0, .ofText "body"⟩, []⟩
    let rules := ({} : Config).described.equipped [Filter.setMethod "m" .delete] (.upTo 5)
    let signals := [.answered (.ok { status := 307, headers := [⟨"Location", "/r"⟩] }) 0 false]
    let run := rules.execution {} (.built 0 upload false false) .fresh signals
    (rules.hops {} (.built 0 upload false false) .fresh signals).map (·.response.status) = [307] ∧
      run.value.command.request.method = .delete ∧
      run.value.command.request.payload.isSome = false := by
  decide +kernel

end Executor

end Courier
