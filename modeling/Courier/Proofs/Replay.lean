import Courier.Proofs.Cancellation
import Courier.Proofs.ChainCalls

/-!
Every send of a command is the same but for where it goes. A retry filters the request of the command anew, and a
redirect sends the filtered request on, so both come to what the filters make of the initial request as long as
they can do their work over (`FilterChain.Replayable`) and only the endpoint moves. The invariant of a run is
therefore that its command holds the initial request with another endpoint, and that what is with the
transport replays the initial request (`Replays`).
-/
namespace Courier

/-- Where a request goes after redirects. -/
def Request.whither (request : Request) (hops : List Hop) : Url :=
  (hops.getLast?.map (·.next.endpoint)).getD request.endpoint

theorem Request.whither_append (request : Request) (hops : List Hop) (hop : Hop) :
    request.whither (hops ++ [hop]) = hop.next.endpoint := by
  simp [whither]

/-- What is handed over replays the initial request after redirects: it is what the filters make of the initial
request, however they name payloads, with the whole body from its start, and goes where the last redirect
led. Each filter transformed it once: the calls of the attempt began with the initial request, at the endpoint that
redirects had led to before, and nothing but the endpoint moved since. -/
structure Replays (chain : FilterChain) (initial : Request) (hops : List Hop) (sent : Request)
    (body : Option Flow) : Prop where
  filtered : ∀ names, ∃ filtered, (chain.apply names initial).value = .ok filtered ∧
    filtered.InMemory ∧ sent.Alike filtered ∧ body = filtered.memoryFlow
  endpoint : sent.endpoint = initial.whither hops
  recorded : ∀ id ∈ chain.ids, sent.appliedFilters.count id = max 1 (initial.appliedFilters.count id)
  called : ∃ names earlier filtered, earlier <+: hops ∧
    let base := initial.withEndpoint (initial.whither earlier)
    let calls := (chain.calling names base).output
    FilterChain.Relayed base calls (.ok filtered) ∧ chain.CalledOnce names base calls ∧
      sent = filtered.withEndpoint sent.endpoint

namespace Replays

variable {chain : FilterChain} {initial sent : Request} {hops : List Hop} {body : Option Flow}

theorem inMemory (replays : Replays chain initial hops sent body) : sent.InMemory := by
  obtain ⟨filtered, -, memory, alike, -⟩ := replays.filtered fun _ => .given 0
  exact alike.symm.inMemory memory

theorem method (replays : Replays chain initial hops sent body) (replayable : chain.Replayable) :
    sent.method = initial.method := by
  obtain ⟨filtered, applied, -, alike, -⟩ := replays.filtered fun _ => .given 0
  rw [FilterChain.apply_value] at applied
  exact alike.method.trans (FilterChain.applyAll_kept replayable applied).1

/-- What replays the initial request does so after one more redirect that moves nothing but the endpoint. -/
theorem onward (replays : Replays chain initial hops sent body) {hop : Hop}
    (moves : hop.next = sent.withEndpoint hop.next.endpoint) :
    Replays chain initial (hops ++ [hop]) hop.next hop.next.memoryFlow := by
  have alike : hop.next.Alike sent := by
    rw [moves]
    exact sent.alike_withEndpoint _
  refine ⟨fun names => ?_, (initial.whither_append hops hop).symm, ?_, ?_⟩
  · obtain ⟨filtered, applied, memory, same, -⟩ := replays.filtered names
    exact ⟨filtered, applied, memory, alike.trans same, (alike.trans same).memoryFlow⟩
  · rw [alike.appliedFilters]
    exact replays.recorded
  · obtain ⟨names, earlier, filtered, reached, relayed, once, made⟩ := replays.called
    refine ⟨names, earlier, filtered, reached.trans (List.prefix_append hops [hop]), relayed, once, ?_⟩
    rw [moves, made]
    rfl

/-- What the filters make of the request of a command replays the initial one if the request is that with another
endpoint. -/
theorem of_apply {names : Nat → PayloadId} (replayable : chain.Replayable) (memory : initial.InMemory)
    (applied : (chain.apply names (initial.withEndpoint (initial.whither hops))).value = .ok sent) :
    Replays chain initial hops sent sent.memoryFlow := by
  rw [FilterChain.apply_value] at applied
  have alike := initial.alike_withEndpoint (initial.whither hops)
  obtain ⟨-, goes, holds⟩ := FilterChain.applyAll_kept replayable applied
  refine ⟨fun other => ?_, goes, fun id belongs => ?_, names, hops, sent, List.prefix_rfl, ?_⟩
  · obtain ⟨filtered, again, same⟩ := FilterChain.applyAll_alike replayable alike memory applied
    refine ⟨filtered, ?_, same.inMemory (holds memory), same, same.memoryFlow⟩
    rw [FilterChain.apply_value]
    exact again
  · rw [FilterChain.count_of_applyAll replayable applied id, if_pos belongs]
    rfl
  · have keeps : chain.KeepsRecord := fun filter belongs => (replayable filter belongs).appliedFilters
    have relayed := chain.relayed_calling names (initial.withEndpoint (initial.whither hops))
    rw [← FilterChain.value_calling] at applied
    rw [applied] at relayed
    exact ⟨relayed, FilterChain.calledOnce_calling keeps applied, rfl⟩

end Replays

/-- The body of a payload in memory is all its bytes. -/
theorem Payload.flow_of_memory {p : Payload} {bytes : Bytes} (memory : p.bytes? = some bytes)
    {disk : Disk} {life later : Life} {stream : Stream}
    (opens : (p.openStream disk life).value = (.ok stream, later)) :
    stream.flow disk = .ofBytes bytes := by
  cases content : p.content with
  | memory held =>
    have same : held = bytes := by simpa [bytes?, content] using memory
    unfold openStream at opens
    split at opens
    · cases opens
    · simp only [content, Writer.value_bind, Writer.value_pure, Prod.mk.injEq, Except.ok.injEq] at opens
      rw [← opens.1, ← same]
      rfl
  | _ => simp [bytes?, content] at memory

theorem Payload.isFile_of_memory {p : Payload} {bytes : Bytes} (memory : p.bytes? = some bytes) :
    p.isFile = false := by
  unfold isFile
  split
  · next name content => simp [bytes?, content] at memory
  · rfl

theorem Request.memoryFlow_of_payload {request : Request} {p : SharedPayload}
    (memory : request.InMemory) (full : request.payload = some p) :
    ∃ bytes, p.payload.bytes? = some bytes ∧ request.memoryFlow = some (.ofBytes bytes) := by
  have contents : request.contents = some p.payload.bytes? := by rw [Request.contents, full]; rfl
  cases read : p.payload.bytes? with
  | none => exact absurd (contents.trans (congrArg some read)) memory
  | some bytes => exact ⟨bytes, rfl, by rw [Request.memoryFlow, contents, read]; rfl⟩

section

variable {e : Executor} {disk : Disk} {run after : Run} {deeds : List Event} {request : Request}
  {hops : Nat}

/-- A leg that leaves no request on its way and handed none over. -/
structure Idled (after : Run) (deeds : List Event) : Prop where
  idle : after.phase.request? = none
  silent : deeds.countP Event.isHanded = 0

/-- The request is with the transport, and this is all that was done. -/
structure SentOut (request : Request) (body : Option Flow) (after : Run) (deeds : List Event) : Prop where
  phase : ∃ hops, after.phase = .sending request hops body
  handed : deeds = [.handed request body]

theorem Idled.ended (run : Run) (outcome : Outcome) : Idled (run.ended outcome) [] := ⟨rfl, rfl⟩

theorem HandedOver.sentOut_or_idled {body : Option Flow}
    (hands : HandedOver request hops body run after deeds) :
    SentOut request body after deeds ∨ Idled after deeds := by
  cases hands with
  | stopped cancelled => exact .inr (.ended _ _)
  | handed quiet => exact .inl ⟨⟨hops, rfl⟩, rfl⟩

/-- A request with its payload in memory is sent at once, with all bytes of it, or not at all. -/
theorem Dispatched.sentOut_or_idled (sent : Dispatched disk request hops run after deeds)
    (memory : request.InMemory) : SentOut request request.memoryFlow after deeds ∨ Idled after deeds := by
  cases sent with
  | stopped cancelled => exact .inr (.ended _ _)
  | bodiless quiet empty hands =>
    have none : request.memoryFlow = none := by simp [Request.memoryFlow, Request.contents, empty]
    rw [none]
    exact hands.sentOut_or_idled
  | refused quiet full opens => exact .inr (.ended _ _)
  | opened quiet full opens hands =>
    obtain ⟨bytes, held, flow⟩ := Request.memoryFlow_of_payload memory full
    rw [flow, ← Payload.flow_of_memory held opens]
    exact hands.sentOut_or_idled
  | opening quiet full opens file live =>
    obtain ⟨bytes, held, -⟩ := Request.memoryFlow_of_payload memory full
    rw [Payload.isFile_of_memory held] at file
    cases file

theorem Concluded.idled (concluded : Concluded e run after deeds) : Idled after deeds := by
  refine ⟨?_, concluded.silent⟩
  obtain ⟨outcome, finished⟩ | ⟨delay, pausing⟩ := concluded.finished_or_pausing
  · rw [finished]
    rfl
  · rw [pausing]
    rfl

/-- A response leads to the next send, or to none yet. -/
theorem Answered.followed_or_idled {response : Response}
    (answered : Answered e disk request hops response run after deeds) :
    (∃ hop, (e.redirectPolicy.nextRequest request response hops).value = .ok (some hop) ∧
      Dispatched disk hop (hops + 1) (run.withCommand (run.command.bound hop)) after deeds) ∨
    Idled after deeds := by
  cases answered with
  | astray next => exact .inr (.ended _ _)
  | followed next sent => exact .inl ⟨_, next, sent⟩
  | succeeded next success => exact .inr (.ended _ _)
  | stopped next success cancelled => exact .inr (.ended _ _)
  | judged next success quiet buffers judged => exact .inr judged.concluded.idled
  | reading next success quiet buffers => exact .inr ⟨rfl, rfl⟩

end

/-- A run that replays the initial request: its command holds that, with the endpoint where redirects led, and so does
what is with the transport. A body in memory is not waited for. -/
structure Faithful (chain : FilterChain) (initial : Request) (hops : List Hop) (run : Run) : Prop where
  base : run.command.request = initial.withEndpoint (initial.whither hops)
  opens : run.phase.isOpening = false
  going : ∀ request count body, run.phase = .sending request count body →
    Replays chain initial hops request body

/-- A leg that leaves a run faithful and hands over only what replays the initial request. -/
structure FaithfulLeg (chain : FilterChain) (initial : Request) (hops : List Hop) (after : Run)
    (deeds : List Event) : Prop extends Faithful chain initial hops after where
  handed : ∀ request body, .handed request body ∈ deeds → Replays chain initial hops request body

section

variable {e : Executor} {disk : Disk} {run after : Run} {deeds : List Event} {chain : FilterChain}
  {initial request : Request} {hops : List Hop}

/-- Where nothing is done, nothing is handed over. -/
theorem Faithful.still (faithful : Faithful chain initial hops run) :
    FaithfulLeg chain initial hops run [] where
  toFaithful := faithful
  handed := by
    intro request body belongs
    cases belongs

theorem Idled.faithful (idled : Idled after deeds)
    (base : after.command.request = initial.withEndpoint (initial.whither hops)) :
    FaithfulLeg chain initial hops after deeds where
  base := base
  opens := by
    have idle := idled.idle
    cases phase : after.phase with
    | opening request count opened => simp [phase, Phase.request?] at idle
    | _ => rfl
  going := by
    intro request count body phase
    have idle := idled.idle
    simp [phase, Phase.request?] at idle
  handed := by
    intro request body belongs
    have never := List.countP_eq_zero.mp idled.silent _ belongs
    exact absurd rfl never

theorem SentOut.faithful {body : Option Flow} (sent : SentOut request body after deeds)
    (base : after.command.request = initial.withEndpoint (initial.whither hops))
    (replays : Replays chain initial hops request body) : FaithfulLeg chain initial hops after deeds where
  base := base
  opens := by
    obtain ⟨count, phase⟩ := sent.phase
    rw [phase]
    rfl
  going := by
    intro other later flow phase
    obtain ⟨count, sending⟩ := sent.phase
    rw [phase] at sending
    cases sending
    exact replays
  handed := by
    intro other flow belongs
    rw [sent.handed, List.mem_singleton] at belongs
    cases belongs
    exact replays

theorem Dispatched.faithful {count : Nat} (sent : Dispatched disk request count run after deeds)
    (base : after.command.request = initial.withEndpoint (initial.whither hops))
    (replays : Replays chain initial hops request request.memoryFlow) :
    FaithfulLeg chain initial hops after deeds := by
  rcases sent.sentOut_or_idled replays.inMemory with out | idled
  · exact out.faithful base replays
  · exact idled.faithful base

theorem Begun.faithful (begun : Begun e disk run after deeds) (replayable : e.filters.Replayable)
    (memory : initial.InMemory)
    (base : run.command.request = initial.withEndpoint (initial.whither hops)) :
    FaithfulLeg e.filters initial hops after deeds := by
  have kept : after.command.request = initial.withEndpoint (initial.whither hops) :=
    begun.kept.request.trans base
  cases begun with
  | refused filters => exact (Idled.ended _ _).faithful kept
  | filtered filters sent =>
    rw [base] at filters
    exact sent.faithful kept (.of_apply replayable memory filters)

/-- Where a step leads the request of the command. -/
theorem Moved.base {signal : Signal} (moved : Moved e disk run signal after deeds)
    (before : Faithful e.filters initial hops run) (replayable : e.filters.Replayable)
    (others : ∀ hop ∈ e.hop? run signal, hop.response.status ≠ 303) :
    after.command.request =
      initial.withEndpoint (initial.whither (hops ++ (e.hop? run signal).toList)) := by
  obtain ⟨now, -, kept⟩ := moved.kept
  rw [kept.request]
  cases found : e.hop? run signal with
  | none =>
    rw [Option.toList_none, List.append_nil]
    exact before.base
  | some hop =>
    obtain ⟨count, body, phase, leads⟩ := Executor.hop?_eq_some found
    have method := RedirectPolicy.method_of_nextRequest leads (others hop found)
    have same : hop.next.method = (run.heeding now).command.request.method := by
      rw [method, (before.going _ _ _ phase).method replayable]
      exact (congrArg Request.method before.base).symm
    rw [Option.toList_some, Request.whither_append]
    show Command.redirected (run.heeding now).command.request hop.next = _
    rw [Command.redirected, if_pos same]
    exact congrArg (·.withEndpoint hop.next.endpoint) before.base

/-- Every step leaves a run faithful. -/
theorem Moved.faithful {signal : Signal} (moved : Moved e disk run signal after deeds)
    (before : Faithful e.filters initial hops run) (replayable : e.filters.Replayable)
    (memory : initial.InMemory) (others : ∀ hop ∈ e.hop? run signal, hop.response.status ≠ 303) :
    FaithfulLeg e.filters initial (hops ++ (e.hop? run signal).toList) after deeds := by
  have base := moved.base before replayable others
  cases moved with
  | unmoved deaf calm =>
    rw [Executor.hop?_of_deaf deaf, Option.toList_none, List.append_nil]
    exact before.still
  | marked runs =>
    have stays : e.hop? run .cancelled = none := Executor.hop?_of_no_response rfl
    rw [stays, Option.toList_none, List.append_nil]
    exact Faithful.still ⟨before.base, before.opens, before.going⟩
  | stopped waits => exact (Idled.ended _ _).faithful base
  | refused phase => exact (Idled.ended _ _).faithful base
  | opened phase hands =>
    have never := before.opens
    rw [phase] at never
    cases never
  | failed phase fails => exact fails.concluded.idled.faithful base
  | @answered request count body response taken meanwhile after deeds phase answer =>
    obtain ⟨next, leads, sent⟩ | idled := answer.followed_or_idled
    · let answered := { response with requestDigest := e.digestOfTaken body taken }
      have found : e.hop? run (.answered (.ok response) taken meanwhile) =
          some ⟨request, answered, next⟩ := by
        rw [Executor.hop?_of_sending meanwhile phase rfl, leads]
      rw [found, Option.toList_some] at base ⊢
      have moves := RedirectPolicy.withEndpoint_of_nextRequest leads (others _ found)
      exact sent.faithful base ((before.going _ _ _ phase).onward moves)
    · exact idled.faithful base
  | judged phase reads judged => exact judged.concluded.idled.faithful base
  | @begun delay meanwhile after deeds phase begins =>
    have stays : e.hop? run (.pauseOver meanwhile) = none := Executor.hop?_of_no_response rfl
    rw [stays, Option.toList_none, List.append_nil]
    exact begins.faithful replayable memory before.base

end

namespace Executor

variable {e : Executor} {disk : Disk} {number : Nat} {request : Request} {retrySafe : Bool}
  {cancelled : Bool} {lives : Lives}

theorem execution_faithful (replayable : e.filters.Replayable) (memory : request.InMemory)
    (signals : List Signal)
    (others : ∀ hop ∈ e.hops disk (.built number request retrySafe cancelled) lives signals,
      hop.response.status ≠ 303) :
    Faithful e.filters request (e.hops disk (.built number request retrySafe cancelled) lives signals)
      (e.execution disk (.built number request retrySafe cancelled) lives signals).value := by
  refine execution_induction
    (P := fun signals _ run =>
      (∀ hop ∈ e.hops disk (.built number request retrySafe cancelled) lives signals,
        hop.response.status ≠ 303) →
      Faithful e.filters request
        (e.hops disk (.built number request retrySafe cancelled) lives signals) run)
    rfl ?_ ?_ signals others
  · intro after deeds begun _
    exact (begun.faithful replayable memory rfl).toFaithful
  · intro signals history signal after deeds before moved others
    rw [hops_concat] at others ⊢
    obtain ⟨earlier, latest⟩ := List.forall_mem_append.mp others
    refine (moved.faithful (before earlier) replayable memory fun hop found => ?_).toFaithful
    exact latest hop (by simpa using found)

/-- Every send replays the initial request. Whatever the answers of the transport and the moment of a cancellation, if
the filters can do their work over, the payload is in memory and no redirect was a "see other": what is
handed over at the beginning or on any signal is what the filters make of the initial request, each of them called
once for it, with the whole body from its start, and goes where the last redirect led. -/
theorem every_send_replays {e : Executor} (replayable : e.filters.Replayable) (disk : Disk)
    (number : Nat) {request : Request} (memory : request.InMemory) (retrySafe cancelled : Bool)
    (lives : Lives) (signals : List Signal) (signal : Signal)
    (others : ∀ hop ∈ e.hops disk (.built number request retrySafe cancelled) lives
      (signals ++ [signal]), hop.response.status ≠ 303) :
    let command := Command.built number request retrySafe cancelled
    let run := (e.execution disk command lives signals).value
    (∀ sent body, .handed sent body ∈ (e.start disk ⟨command, lives, .idle⟩).output →
      Replays e.filters request [] sent body) ∧
    ∀ sent body, .handed sent body ∈ (e.step disk signal run).output →
      Replays e.filters request (e.hops disk command lives (signals ++ [signal])) sent body := by
  intro command run
  constructor
  · intro sent body done
    rw [start_of_live e disk command lives rfl] at done
    have begun := begun_beginAttempt e disk ⟨command, lives, .idle⟩
    have leg : FaithfulLeg e.filters request [] _ _ := begun.faithful replayable memory rfl
    exact leg.handed sent body (Writer.mem_deeds_of_mem done rfl)
  · intro sent body done
    rw [hops_concat] at others ⊢
    obtain ⟨earlier, latest⟩ := List.forall_mem_append.mp others
    have before := execution_faithful replayable memory signals earlier
    have leg := (moved_step e disk signal run).faithful before replayable memory fun hop found =>
      latest hop (by simpa using found)
    exact leg.handed sent body (Writer.mem_deeds_of_mem done rfl)

/-- An upload in an envelope that is redirected with 307, answered with 504 and sent again, with credentials and a
header: the third request, to where the redirect led, is enveloped once. -/
theorem upload_replayed_after_redirect :
    let home : Url := ⟨"http", some { host := "h" }, .rooted [""], none, none⟩
    let upload : Request := ⟨.put, home, [], some ⟨.given 0, .ofText "body"⟩, []⟩
    let rules := ({} : Config).described.equipped
      [.basicAuth "user" "password", .setHeaders "trace" [⟨"X-Trace", "on"⟩],
        .envelope "soap" [0x3c] [0x3e]] (.upTo 5)
    let signals : List Signal :=
      [.answered (.ok { status := 307, headers := [⟨"Location", "/r"⟩] }) 1 false,
        .answered (.ok { status := 504 }) 1 false]
    let command := Command.built 0 upload false false
    let hops := rules.hops {} command .fresh (signals ++ [.pauseOver false])
    let again := rules.step {} (.pauseOver false) (rules.execution {} command .fresh signals).value
    rules.filters.Replayable ∧ upload.InMemory ∧ hops.map (·.response.status) = [307] ∧
      again.output.countP Event.isHanded = 1 ∧
      ∀ sent body, .handed sent body ∈ again.output →
        Replays rules.filters upload hops sent body := by
  intro home upload rules signals command hops again
  have replayable : rules.filters.Replayable := by
    have empty : FilterChain.Replayable [] := by simp [FilterChain.Replayable]
    have chain := ((empty.cons (Filter.replayable_envelope "soap" [0x3c] [0x3e])).cons
      (Filter.replayable_setHeaders "trace" [⟨"X-Trace", "on"⟩])).cons
      (Filter.replayable_basicAuth "user" "password")
    exact chain
  have memory : upload.InMemory := nofun
  have statuses : hops.map (·.response.status) = [307] := by decide +kernel
  have others : ∀ hop ∈ hops, hop.response.status ≠ 303 := by
    intro hop followed
    have listed : hop.response.status ∈ hops.map (·.response.status) := List.mem_map_of_mem followed
    rw [statuses, List.mem_singleton] at listed
    rw [listed]
    decide
  have once : again.output.countP Event.isHanded = 1 := by decide +kernel
  exact ⟨replayable, memory, statuses, once,
    (every_send_replays replayable {} 0 memory false false .fresh signals (.pauseOver false) others).2⟩

end Executor

end Courier
