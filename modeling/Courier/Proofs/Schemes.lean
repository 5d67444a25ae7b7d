import Courier.Proofs.Exchanges
import Courier.Proofs.Exhaustion
import Courier.Proofs.Unfiltered

/-!
Where a server can lead a command. A request is built for `http` or `https` only, a redirect is followed only to such a
place (`RedirectPolicy.isHttp_of_nextRequest`), and filters are asked to keep to it (`FilterChain.KeepsHttp`). So every
request that is handed over and every request that a command comes to is for `http` or `https`, whatever the locations
that servers answer with (`Executor.execution_onHttp`). A location that leads elsewhere, or nowhere, ends the run
(`RedirectPolicy.nextRequest_of_nowhere`). Of the way in which locations are resolved nothing is used but that it gives
a URL or none.
-/
namespace Courier

/-- The request came out of a builder: its endpoint passed the check. -/
def Request.Built (request : Request) : Prop := ∃ draft : Request, draft.checkEndpoint = .ok request

namespace Request

theorem isHttp_of_built {request : Request} (built : request.Built) :
    request.endpoint.isHttp = true := by
  obtain ⟨draft, checked⟩ := built
  unfold checkEndpoint at checked
  split at checked
  · next http =>
    cases checked
    exact http
  · cases checked

/-- A request built from its parts has passed the check. -/
theorem built_of_build {method : Method} {endpoint : String} {headers : Headers}
    {payload : Option SharedPayload} {request : Request}
    (build : build method endpoint headers payload = .ok request) : request.Built := by
  unfold Request.build at build
  obtain ⟨url, -, checked⟩ := exists_of_bind_eq_ok build
  exact ⟨_, checked⟩

end Request

/-- No filter of the chain leads a request away from `http` and `https`. -/
def FilterChain.KeepsHttp (chain : FilterChain) : Prop :=
  ∀ filter ∈ chain, ∀ fresh request filtered, request.endpoint.isHttp = true →
    filter.transform fresh request = .ok filtered → filtered.endpoint.isHttp = true

theorem FilterChain.isHttp_of_applyAll {chain : FilterChain} (keeps : chain.KeepsHttp)
    {fresh : Nat → PayloadId} {request filtered : Request} (http : request.endpoint.isHttp = true)
    (applied : (chain.applyAll fresh request).value = .ok filtered) :
    filtered.endpoint.isHttp = true := by
  refine of_applyAll (P := fun other => other.endpoint.isHttp = true) ?_ http applied
  intro filter belongs position before changed holds transforms
  have still : changed.endpoint.isHttp = true := keeps filter belongs _ _ _ holds transforms
  exact still

namespace RedirectPolicy

/-- A redirect is followed only to `http` and `https`. -/
theorem isHttp_of_resolve {base target : Url} {location : String}
    (resolved : resolve base location = .ok target) : target.isHttp = true := by
  unfold resolve at resolved
  split at resolved
  · split at resolved
    · next http =>
      cases resolved
      exact http
    · cases resolved
  · cases resolved

theorem isHttp_of_nextRequest {policy : RedirectPolicy} {request next : Request} {response : Response}
    {hops : Nat} (leads : (policy.nextRequest request response hops).value = .ok (some next)) :
    next.endpoint.isHttp = true :=
  isHttp_of_resolve (resolve_of_nextRequest leads)

/-- The location leads from the base to no place on `http` or `https`. -/
def Nowhere (base : Url) (location : String) : Prop :=
  ∀ target, Url.resolve? base location = some target → target.isHttp = false

/-- The error for a redirect that leads nowhere: the limit of redirects is looked at first. -/
def refusal (policy : RedirectPolicy) (base : Url) (location : String) (hops : Nat) : CommandError :=
  if policy.maxRedirects ≤ hops then .tooManyRedirects base.text policy.maxRedirects
  else .invalidRedirect base.text location

theorem resolve_of_nowhere {base : Url} {location : String} (nowhere : Nowhere base location) :
    resolve base location = .error (.invalidRedirect base.text location) := by
  unfold resolve
  split
  · next target resolves => rw [if_neg (by simp [nowhere target resolves])]
  · rfl

/-- A redirect that leads nowhere is refused. -/
theorem nextRequest_of_nowhere {policy : RedirectPolicy} {request : Request} {response : Response}
    {location : String} (hops : Nat) (follows : policy.follow = true)
    (moved : response.status ∈ statuses) (located : response.header "Location" = some location)
    (nowhere : Nowhere request.endpoint location) :
    (policy.nextRequest request response hops).value =
      .error (policy.refusal request.endpoint location hops) := by
  have redirects : policy.isRedirect response = true := by
    simpa [isRedirect, follows, located] using moved
  have refused : resolve request.endpoint ((response.header "Location").getD "") =
      .error (.invalidRedirect request.endpoint.text location) := by
    rw [located, Option.getD_some, resolve_of_nowhere nowhere]
  by_cases limit : policy.maxRedirects ≤ hops
  · simp [nextRequest, refusal, redirects, limit]
  · simp [nextRequest, refusal, redirects, limit, refused]

end RedirectPolicy

/-- Where nothing is handed over there is no request. -/
theorem Event.request?_of_silent {deeds : List Event} (silent : deeds.countP Event.isHanded = 0) :
    deeds.filterMap Event.request? = [] := by
  refine Event.filterMap_of_countP (fun event other => ?_) silent
  cases event with
  | handed request body => cases other
  | _ => rfl

/-- A leg keeps to `http` and `https`: the command does, the request on its way does, and what was handed over did. -/
structure OnHttp (run : Run) (deeds : List Event) : Prop where
  command : run.command.request.endpoint.isHttp = true
  request : ∀ request ∈ run.phase.request?, request.endpoint.isHttp = true
  handed : ∀ request ∈ deeds.filterMap Event.request?, request.endpoint.isHttp = true

section

variable {e : Executor} {disk : Disk} {run after : Run} {history deeds : List Event} {request : Request}
  {hops : Nat}

/-- A run without a request on its way. -/
theorem OnHttp.idle (http : run.command.request.endpoint.isHttp = true)
    (none : run.phase.request? = none) (silent : deeds.countP Event.isHanded = 0) :
    OnHttp run deeds where
  command := http
  request := by simp [none]
  handed := by simp [Event.request?_of_silent silent]

theorem Departed.onHttp (departed : Departed request hops run after deeds)
    (base : run.command.request.endpoint.isHttp = true) (target : request.endpoint.isHttp = true) :
    OnHttp after deeds := by
  have still : after.command.request.endpoint.isHttp = true := departed.onward.request ▸ base
  cases departed with
  | ended kept phase sends => exact .idle still (by rw [phase]; rfl) rfl
  | opening kept phase sends =>
    exact ⟨still, by simpa [phase, Phase.request?] using target, by simp⟩
  | sending kept phase sends =>
    exact ⟨still, by simpa [phase, Phase.request?] using target, by simpa [Event.request?] using target⟩

theorem Concluded.onHttp (concluded : Concluded e run after deeds)
    (base : run.command.request.endpoint.isHttp = true) : OnHttp after deeds := by
  have none : after.phase.request? = none := by
    obtain ⟨outcome, finished⟩ | ⟨delay, pausing⟩ := concluded.finished_or_pausing
    · rw [finished]; rfl
    · rw [pausing]; rfl
  exact .idle (concluded.kept.request ▸ base) none concluded.silent

theorem Begun.onHttp (begun : Begun e disk run after deeds) (keeps : e.filters.KeepsHttp)
    (base : run.command.request.endpoint.isHttp = true) : OnHttp after deeds := by
  cases begun with
  | refused filters => exact .idle base rfl rfl
  | filtered filters sent =>
    rw [FilterChain.apply_value] at filters
    exact sent.departed.onHttp base (FilterChain.isHttp_of_applyAll keeps base filters)

/-- A redirect leads the command to where it leads the request. -/
theorem Answered.onHttp {response : Response}
    (answered : Answered e disk request hops response run after deeds)
    (base : run.command.request.endpoint.isHttp = true) : OnHttp after deeds := by
  cases answered with
  | astray next => exact .idle base rfl rfl
  | @followed hop after deeds next sent =>
    have target := RedirectPolicy.isHttp_of_nextRequest next
    refine sent.departed.onHttp ?_ target
    exact (Request.redirected_endpoint run.command.request hop).symm ▸ target
  | succeeded next success => exact .idle base rfl rfl
  | stopped next success cancelled => exact .idle base rfl rfl
  | judged next success quiet buffers judged => exact judged.concluded.onHttp base
  | reading next success quiet buffers => exact .idle base rfl rfl

theorem Moved.onHttp {signal : Signal} (moved : Moved e disk run signal after deeds)
    (keeps : e.filters.KeepsHttp) (before : OnHttp run history) : OnHttp after (history ++ deeds) := by
  have base := before.command
  have leg : OnHttp after deeds := by
    cases moved with
    | unmoved deaf calm => exact ⟨base, before.request, by simp⟩
    | marked runs => exact ⟨base, before.request, by simp⟩
    | stopped waits => exact .idle base rfl rfl
    | refused phase => exact .idle base rfl rfl
    | opened phase hands =>
      have target := before.request
      rw [phase] at target
      exact hands.departed.onHttp base (target _ rfl)
    | failed phase fails => exact fails.concluded.onHttp base
    | answered phase answer => exact answer.onHttp base
    | judged phase reads judged => exact judged.concluded.onHttp base
    | begun phase begins => exact begins.onHttp keeps base
  refine ⟨leg.command, leg.request, ?_⟩
  rw [List.filterMap_append]
  exact List.forall_mem_append.mpr ⟨before.handed, leg.handed⟩

end

namespace Executor

variable {e : Executor} {disk : Disk} {command : Command} {lives : Lives}

variable (disk lives) in
theorem execution_onHttp (keeps : e.filters.KeepsHttp)
    (base : command.request.endpoint.isHttp = true) (signals : List Signal) :
    OnHttp (e.execution disk command lives signals).value
      (e.execution disk command lives signals).deeds := by
  cases past : command.state.isTerminal with
  | true =>
    obtain ⟨now, failed⟩ := execution_of_terminal e disk lives past signals
    rw [failed]
    exact .idle base rfl rfl
  | false =>
    refine execution_induction (P := fun _ history run => OnHttp run history) past ?_ ?_ signals
    · intro after deeds begun
      exact begun.onHttp keeps base
    · intro signals history signal after deeds before moved
      exact moved.onHttp keeps before

/-- A request that is with the transport was handed over after as many others as redirects were followed in the
attempt. -/
theorem latestSends_of_sending {signals : List Signal} {request : Request} {hops : Nat}
    {body : Option Flow}
    (phase : (e.execution disk command lives signals).value.phase = .sending request hops body) :
    latestSends (e.execution disk command lives signals).output = hops + 1 := by
  cases past : command.state.isTerminal with
  | true =>
    obtain ⟨now, failed⟩ := execution_of_terminal e disk lives past signals
    rw [failed] at phase
    cases phase
  | false =>
    rw [← latestSends_deeds]
    exact ((execution_placed past signals).of_sending phase).sends

variable (disk) in
/-- A redirect that leads nowhere ends the run, and nothing is handed over. -/
theorem step_of_nowhere {run : Run} {request : Request} {hops : Nat} {body : Option Flow}
    {response : Response} {location : String} (taken : Nat) (meanwhile : Bool)
    (phase : run.phase = .sending request hops body) (follows : e.redirectPolicy.follow = true)
    (moved : response.status ∈ RedirectPolicy.statuses)
    (located : response.header "Location" = some location)
    (nowhere : RedirectPolicy.Nowhere request.endpoint location) :
    (e.step disk (.answered (.ok response) taken meanwhile) run).value.phase =
        .finished (.error (e.redirectPolicy.refusal request.endpoint location hops)) ∧
      (e.step disk (.answered (.ok response) taken meanwhile) run).output.filterMap Event.request? =
        [] := by
  have answered := answered_answered e disk phase response taken meanwhile
  have ends := answered.of_astray
    (RedirectPolicy.nextRequest_of_nowhere hops follows moved located nowhere)
  have silent := answered.inFlight
  rw [ends] at silent ⊢
  refine ⟨rfl, ?_⟩
  rw [← Writer.filterMap_deeds _ Event.request? fun _ => rfl]
  exact Event.request?_of_silent silent

/-- Servers cannot lead a command away from `http` and `https`. Whatever the executor, the answers of the transport and
the moment of a cancellation, if the request of the command came out of a builder and the filters keep to `http` and
`https`: every request that is handed over is for one of them, and so is the request of the command at any time. If
redirects are followed and the request with the transport is answered by one whose location leads to no such place,
the run ends in the refusal of the redirect, which looks at the number of redirects that the attempt has followed, and
nothing is handed over after it, whatever signals come. -/
theorem never_led_off_http (e : Executor) (keeps : e.filters.KeepsHttp) (disk : Disk)
    (command : Command) (built : command.request.Built) (lives : Lives) (signals : List Signal) :
    let run := e.execution disk command lives signals
    run.value.command.request.endpoint.isHttp = true ∧
      (∀ request ∈ run.output.filterMap Event.request?, request.endpoint.isHttp = true) ∧
      ∀ request hops body response taken meanwhile location more,
        e.redirectPolicy.follow = true → run.value.phase = .sending request hops body →
        response.status ∈ RedirectPolicy.statuses → response.header "Location" = some location →
        RedirectPolicy.Nowhere request.endpoint location →
        let later := e.execution disk command lives
          (signals ++ .answered (.ok response) taken meanwhile :: more)
        latestSends run.output = hops + 1 ∧
          later.value.phase =
            .finished (.error (e.redirectPolicy.refusal request.endpoint location hops)) ∧
          later.output.filterMap Event.request? = run.output.filterMap Event.request? := by
  intro run
  have safe := execution_onHttp disk lives keeps (Request.isHttp_of_built built) signals
  have handed := safe.handed
  rw [Writer.filterMap_deeds _ Event.request? fun _ => rfl] at handed
  refine ⟨safe.command, handed, ?_⟩
  intro request hops body response taken meanwhile location more follows phase moved located nowhere later
  obtain ⟨ended, silent⟩ :=
    step_of_nowhere disk taken meanwhile phase follows moved located nowhere
  obtain ⟨now, still⟩ := steps_of_finished e disk more (Phase.isFinished_iff.mpr ⟨_, ended⟩)
  have continues : later = (do
      let next ← run
      let next ← e.step disk (.answered (.ok response) taken meanwhile) next
      e.steps disk more next) := execution_append e disk command lives signals _
  refine ⟨latestSends_of_sending phase, ?_⟩
  rw [continues]
  constructor
  · rw [Writer.value_bind, Writer.value_bind, still]
    exact ended
  · rw [Writer.output_bind, Writer.output_bind, still, Writer.output_pure, List.append_nil,
      List.filterMap_append, silent, List.append_nil]

/-- A server that points to its own files over another scheme: the request is sent to it once, with the credentials that
a filter puts on it, and that is all. -/
theorem never_led_to_ftp :
    let home : Request := { endpoint := ⟨"https", some { host := "h" }, .rooted [""], none, none⟩ }
    let rules := ({} : Config).described.equipped [.basicAuth "user" "password"] (.upTo 5)
    let command := Command.built 0 home false false
    let moved : Response := { status := 302, headers := [⟨"Location", "ftp://h/secret"⟩] }
    let run := rules.execution {} command .fresh [.answered (.ok moved) 0 false, .pauseOver false]
    run.value.phase = .finished (.error (.invalidRedirect "https://h/" "ftp://h/secret")) ∧
      (run.output.filterMap Event.request?).length = 1 ∧
      ∀ request ∈ run.output.filterMap Event.request?, request.endpoint.isHttp = true := by
  intro home rules command moved run
  have built : command.request.Built := ⟨home, rfl⟩
  have keeps : rules.filters.KeepsHttp := by
    intro filter belongs fresh request filtered http applied
    have basic : filter = .basicAuth "user" "password" := List.mem_singleton.mp belongs
    rw [basic] at applied
    cases applied
    exact http
  have nowhere : RedirectPolicy.Nowhere home.endpoint "ftp://h/secret" := by
    intro target resolved
    have other : (Url.resolve? home.endpoint "ftp://h/secret").all (!·.isHttp) = true := by decide +kernel
    simpa [resolved] using other
  obtain ⟨-, -, ends⟩ := never_led_off_http rules keeps {} command built .fresh []
  obtain ⟨-, ended, sends⟩ := ends _ 0 none moved 0 false "ftp://h/secret" [.pauseOver false] rfl rfl
    (by decide) rfl nowhere
  obtain ⟨-, safe, -⟩ := never_led_off_http rules keeps {} command built .fresh
    [.answered (.ok moved) 0 false, .pauseOver false]
  refine ⟨ended, ?_, safe⟩
  rw [show run.output.filterMap Event.request? = _ from sends]
  rfl

end Executor

end Courier
