import Courier.Proofs.Chronicle
import Courier.Proofs.Forwarding
import Courier.Proofs.Replay

/-!
Commands with a body that can be read once, where no filter puts another in its place. The body is opened for the
first send, and what is opened is handed over, so the account of the run (`OneShotAccount`) knows from the life
of the payload whether the body is gone. From then on the requests of the run have the payload or none
(`Request.Bears`): one that has none goes out bare, and one that still has it is not sent but ends the command.
-/
namespace Courier

/-- The body that was handed over together with a request. -/
def Event.body? : Event → Option Flow
  | handed _ body => body
  | _ => none

/-- The request has this payload or none. -/
def Request.Bears (request : Request) (p : SharedPayload) : Prop :=
  request.payload = some p ∨ request.payload = none

theorem Request.Bears.payload_eq {request : Request} {p q : SharedPayload} (bears : request.Bears p)
    (full : request.payload = some q) : p = q := by
  rcases bears with same | empty
  · exact Option.some.inj (same.symm.trans full)
  · rw [empty] at full
    cases full

theorem Request.Bears.redirected {request : Request} {p : SharedPayload} (bears : request.Bears p)
    (hop : Request) : (Command.redirected request hop).Bears p := by
  unfold Bears
  rw [redirected_payload]
  split
  · exact bears
  · exact .inr rfl

/-- A redirect leaves the payload or drops it. -/
theorem Request.Bears.followed {policy : RedirectPolicy} {request next : Request} {p : SharedPayload}
    {response : Response} {hops : Nat} (bears : request.Bears p)
    (leads : (policy.nextRequest request response hops).value = .ok (some next)) : next.Bears p := by
  unfold RedirectPolicy.nextRequest at leads
  split at leads
  · cases leads
  · split at leads
    · cases leads
    · split at leads
      · cases leads
      · simp only [Writer.value_bind, Writer.value_pure, Except.ok.injEq, Option.some.injEq] at leads
        rw [← leads]
        unfold RedirectPolicy.hop
        split
        · exact .inr rfl
        · exact bears

namespace Payload

variable {p : Payload} {flow : Flow}

theorem openStream_unused (single : p.content = .oneShot flow) (disk : Disk) {life : Life}
    (live : life.released = false) (unused : life.opens = 0) :
    (p.openStream disk life).value = (.ok (.queue flow), { life with opens := 1 }) := by
  unfold openStream
  simp [live, unused, single]

theorem openStream_used (single : p.content = .oneShot flow) (disk : Disk) {life : Life}
    (live : life.released = false) (used : life.opens ≠ 0) :
    (p.openStream disk life).value =
      (.error .notReplayable, { life with opens := life.opens + 1 }) := by
  unfold openStream
  simp [live, used, single]

theorem isFile_of_oneShot (single : p.content = .oneShot flow) : p.isFile = false := by
  simp [isFile, single]

theorem opens_release (p : Payload) (life : Life) : (p.release life).value.2.opens = life.opens := by
  unfold release
  split <;> rfl

end Payload

/-- To let go of a payload is not to open it. -/
theorem Command.opens_releasePayload (c : Command) (lives : Lives) (id : PayloadId) :
    ((c.releasePayload lives).value.2 id).opens = (lives id).opens := by
  unfold releasePayload
  split
  · rfl
  · next p held =>
    have kept : ((lives.set p.id (p.payload.release (lives p.id)).value.2) id).opens =
        (lives id).opens := by
      by_cases same : id = p.id
      · rw [same, Lives.set_same, Payload.opens_release]
      · rw [Lives.set_other _ _ same]
    rw [Writer.value_bind]
    dsimp only
    split
    · exact kept
    · exact kept

/-- What was handed over of a command that was built with the payload `p`, which yields `flow` once: each request with
the payload had the body, each without had none, and the body is gone if the payload was ever opened. -/
structure OneShotAccount (p : SharedPayload) (flow : Flow) (history : List Event) (run : Run) : Prop where
  base : run.command.request.Bears p
  bodies : history.filterMap Event.body? = if (run.lives p.id).opens = 0 then [] else [flow]
  handed : ∀ sent body, .handed sent body ∈ history →
    sent.Bears p ∧ body = sent.payload.map fun _ => flow
  sends : run.command.attempts = history.countP Event.isHanded

/-- A run on its way has used the body up, and what is with the transport has the payload or none. -/
structure SentOnce (p : SharedPayload) (flow : Flow) (history : List Event) (run : Run) : Prop
    extends OneShotAccount p flow history run where
  closed : run.phase.isOpening = false
  going : ∀ sent ∈ run.phase.request?, sent.Bears p
  used : run.phase.isFinished = false →
    (run.lives p.id).released = false ∧ (run.lives p.id).opens ≠ 0

section

variable {e : Executor} {disk : Disk} {run after : Run} {history deeds : List Event}
  {request : Request} {hops : Nat} {p : SharedPayload} {flow : Flow}

/-- The account of a run at another place, after deeds that send nothing. -/
theorem OneShotAccount.silent (account : OneShotAccount p flow history run)
    (silent : deeds.countP Event.isHanded = 0) (base : after.command.request.Bears p)
    (opens : (after.lives p.id).opens = (run.lives p.id).opens)
    (sends : after.command.attempts = run.command.attempts) :
    OneShotAccount p flow (history ++ deeds) after := by
  have none : ∀ deed ∈ deeds, deed.isHanded = false := by
    simpa [List.countP_eq_zero] using silent
  refine ⟨base, ?_, fun sent body done => ?_, ?_⟩
  · have bare : deeds.filterMap Event.body? = [] := by
      refine Event.filterMap_of_countP (fun event other => ?_) silent
      cases event <;> first | rfl | cases other
    rw [List.filterMap_append, bare, List.append_nil, opens]
    exact account.bodies
  · rcases List.mem_append.mp done with earlier | now
    · exact account.handed sent body earlier
    · cases none _ now
  · rw [sends, List.countP_append, silent, Nat.add_zero]
    exact account.sends

/-- At the end of a run the account is what it was. -/
theorem OneShotAccount.ended (account : OneShotAccount p flow history run) (outcome : Outcome) :
    SentOnce p flow history (run.ended outcome) := by
  have same : ((run.ended outcome).lives p.id).opens = (run.lives p.id).opens :=
    run.command.opens_releasePayload run.lives p.id
  refine ⟨⟨account.base, ?_, account.handed, account.sends⟩, rfl, ?_, ?_⟩
  · rw [same]
    exact account.bodies
  · intro sent going
    cases going
  · intro runs
    cases runs

/-- A request goes out with what the account says of its body. -/
theorem HandedOver.sentOnce {body : Option Flow} (hands : HandedOver request hops body run after deeds)
    (quiet : run.command.cancelled = false) (base : run.command.request.Bears p)
    (bears : request.Bears p) (carries : body = request.payload.map fun _ => flow)
    (used : (run.lives p.id).released = false ∧ (run.lives p.id).opens ≠ 0)
    (bodies : history.filterMap Event.body? ++ body.toList = [flow])
    (handed : ∀ sent body, .handed sent body ∈ history →
      sent.Bears p ∧ body = sent.payload.map fun _ => flow)
    (sends : run.command.attempts = history.countP Event.isHanded) :
    SentOnce p flow (history ++ deeds) after := by
  cases hands with
  | stopped cancelled =>
    rw [quiet] at cancelled
    cases cancelled
  | handed quiet =>
    refine ⟨⟨base, ?_, fun sent flow done => ?_, ?_⟩, rfl, fun sent going => ?_, fun _ => used⟩
    · have now : [Event.handed request body].filterMap Event.body? = body.toList := by
        cases body <;> rfl
      rw [List.filterMap_append, now, bodies]
      exact (if_neg used.2).symm
    · rcases List.mem_append.mp done with earlier | now
      · exact handed sent flow earlier
      · cases List.mem_singleton.mp now
        exact ⟨bears, carries⟩
    · rw [List.countP_append, ← sends]
      rfl
    · cases going
      exact bears

/-- The body goes out with the first request; a later one that has the payload is not sent. -/
theorem Dispatched.sentOnce (sent : Dispatched disk request hops run after deeds)
    (single : p.payload.content = .oneShot flow) (account : OneShotAccount p flow history run)
    (live : (run.lives p.id).released = false) (bears : request.Bears p)
    (first : (run.lives p.id).opens = 0 → request.payload = some p) :
    SentOnce p flow (history ++ deeds) after := by
  cases sent with
  | stopped cancelled =>
    rw [List.append_nil]
    exact account.ended _
  | bodiless quiet empty hands =>
    have used : (run.lives p.id).opens ≠ 0 := by
      intro unused
      rw [first unused] at empty
      cases empty
    refine hands.sentOnce quiet account.base bears (by rw [empty]; rfl) ⟨live, used⟩ ?_ account.handed
      account.sends
    rw [account.bodies, if_neg used]
    rfl
  | @refused q error life quiet full opens =>
    obtain rfl := bears.payload_eq full
    -- Only a body that is gone is refused.
    have used : (run.lives p.id).opens ≠ 0 := by
      intro unused
      rw [Payload.openStream_unused single disk live unused] at opens
      cases opens
    rw [Payload.openStream_used single disk live used, Prod.mk.injEq] at opens
    obtain ⟨-, rfl⟩ := opens
    let opened : Run :=
      { run with lives := run.lives.set p.id { (run.lives p.id) with opens := (run.lives p.id).opens + 1 } }
    have still : OneShotAccount p flow history opened := by
      refine ⟨account.base, ?_, account.handed, account.sends⟩
      simp only [opened, Lives.set_same, account.bodies, used, Nat.succ_ne_zero, ↓reduceIte]
    rw [List.append_nil]
    exact still.ended _
  | @opened q stream life after deeds quiet full opens hands =>
    obtain rfl := bears.payload_eq full
    have unused : (run.lives p.id).opens = 0 := by
      by_contra used
      rw [Payload.openStream_used single disk live used] at opens
      cases opens
    rw [Payload.openStream_unused single disk live unused, Prod.mk.injEq, Except.ok.injEq] at opens
    obtain ⟨rfl, rfl⟩ := opens
    refine hands.sentOnce quiet account.base bears (by rw [full]; rfl) ?_ ?_ account.handed account.sends
    · simp only [Lives.set_same]
      exact ⟨live, Nat.one_ne_zero⟩
    · rw [account.bodies, if_pos unused]
      rfl
  | @opening q outcome life quiet full opens file live =>
    obtain rfl := bears.payload_eq full
    rw [Payload.isFile_of_oneShot single] at file
    cases file

/-- A request that has the payload is not sent when its body is gone: the run ends, as cancelled or for want of the
body. -/
theorem Dispatched.of_used (sent : Dispatched disk request hops run after deeds)
    (single : p.payload.content = .oneShot flow) (full : request.payload = some p)
    (live : (run.lives p.id).released = false) (used : (run.lives p.id).opens ≠ 0) :
    deeds = [] ∧ after.phase = .finished (.error (if after.command.cancelled then
        .cancelled run.command.attempts
      else .payloadNotReplayable request.endpoint.text (run.command.attempts + 1))) := by
  have opens := Payload.openStream_used single disk live used
  cases sent with
  | stopped cancelled =>
    have ended : run.stopped.command.cancelled = true := cancelled
    rw [ended]
    exact ⟨rfl, rfl⟩
  | bodiless quiet empty hands =>
    rw [full] at empty
    cases empty
  | @refused q error life quiet held refuses =>
    obtain rfl : p = q := Option.some.inj (full.symm.trans held)
    rw [opens, Prod.mk.injEq, Except.error.injEq] at refuses
    obtain ⟨rfl, rfl⟩ := refuses
    have calm : ∀ lives outcome,
        (Run.ended { run with lives } outcome).command.cancelled = false := fun _ _ => quiet
    refine ⟨rfl, ?_⟩
    rw [calm]
    rfl
  | @opened q stream life after deeds quiet held opens' hands =>
    obtain rfl : p = q := Option.some.inj (full.symm.trans held)
    rw [opens] at opens'
    cases opens'
  | @opening q outcome life quiet held opens' file live =>
    obtain rfl : p = q := Option.some.inj (full.symm.trans held)
    rw [Payload.isFile_of_oneShot single] at file
    cases file

theorem Rested.sentOnce {delay : Duration} (rest : Rested delay run after deeds)
    (account : OneShotAccount p flow history run)
    (used : (run.lives p.id).released = false ∧ (run.lives p.id).opens ≠ 0) :
    SentOnce p flow (history ++ deeds) after := by
  cases rest with
  | stopped cancelled =>
    rw [List.append_nil]
    have resting : OneShotAccount p flow history (run.withCommand run.command.resting) :=
      ⟨account.base, account.bodies, account.handed, account.sends⟩
    exact resting.ended _
  | pausing quiet =>
    refine ⟨account.silent rfl account.base rfl rfl, rfl, ?_, fun _ => used⟩
    intro sent going
    cases going

theorem Concluded.sentOnce (concluded : Concluded e run after deeds)
    (account : OneShotAccount p flow history run)
    (used : (run.lives p.id).released = false ∧ (run.lives p.id).opens ≠ 0) :
    SentOnce p flow (history ++ deeds) after := by
  cases concluded with
  | @ended charged outcome verdict charge decided =>
    have base : (run.withCommand charged).command.request.Bears p := by
      rw [Run.withCommand_command, charge.request]
      exact account.base
    have silent := Event.countP_isHanded_of_isDecided decided
    exact OneShotAccount.ended (account.silent silent base rfl charge.attempts) outcome
  | @rested charged delay verdict deeds after charge decided left rest =>
    have base : (run.withCommand charged).command.request.Bears p := by
      rw [Run.withCommand_command, charge.request]
      exact account.base
    have silent := Event.countP_isHanded_of_isDecided decided
    rw [← List.append_assoc]
    exact rest.sentOnce (account.silent silent base rfl charge.attempts) used

/-- Without filters an attempt sends the request of the command. -/
theorem Begun.dispatched (begun : Begun e disk run after deeds) (unfiltered : e.filters = []) :
    Dispatched disk run.command.request 0 (run.withCommand run.command.filtered) after deeds := by
  cases begun with
  | refused filters =>
    rw [unfiltered] at filters
    cases filters
  | filtered filters sent =>
    rw [unfiltered] at filters
    cases filters
    exact sent

theorem Begun.sentOnce (begun : Begun e disk run after deeds) (unfiltered : e.filters = [])
    (single : p.payload.content = .oneShot flow) (account : OneShotAccount p flow history run)
    (live : (run.lives p.id).released = false)
    (first : (run.lives p.id).opens = 0 → run.command.request.payload = some p) :
    SentOnce p flow (history ++ deeds) after := by
  have filtered : OneShotAccount p flow history (run.withCommand run.command.filtered) :=
    ⟨account.base, account.bodies, account.handed, account.sends⟩
  exact (begun.dispatched unfiltered).sentOnce single filtered live account.base first

theorem Answered.sentOnce {response : Response}
    (answered : Answered e disk request hops response run after deeds)
    (single : p.payload.content = .oneShot flow) (account : OneShotAccount p flow history run)
    (used : (run.lives p.id).released = false ∧ (run.lives p.id).opens ≠ 0) (bears : request.Bears p) :
    SentOnce p flow (history ++ deeds) after := by
  cases answered with
  | astray next =>
    rw [List.append_nil]
    exact account.ended _
  | @followed hop after deeds next sent =>
    have bound : OneShotAccount p flow history (run.withCommand (run.command.bound hop)) :=
      ⟨account.base.redirected hop, account.bodies, account.handed, account.sends⟩
    exact sent.sentOnce single bound used.1 (bears.followed next) fun unused => absurd unused used.2
  | succeeded next success =>
    rw [List.append_nil]
    exact account.ended _
  | stopped next success cancelled =>
    rw [List.append_nil]
    exact account.ended _
  | judged next success quiet buffers judged => exact judged.concluded.sentOnce account used
  | reading next success quiet buffers =>
    refine ⟨account.silent rfl account.base rfl rfl, rfl, ?_, fun _ => used⟩
    intro sent going
    cases going

/-- Every step keeps to one body. -/
theorem Moved.sentOnce {signal : Signal} (moved : Moved e disk run signal after deeds)
    (unfiltered : e.filters = []) (single : p.payload.content = .oneShot flow)
    (before : SentOnce p flow history run) : SentOnce p flow (history ++ deeds) after := by
  have account := before.toOneShotAccount
  have heeds : ∀ now, OneShotAccount p flow history (run.heeding now) := fun _ =>
    ⟨account.base, account.bodies, account.handed, account.sends⟩
  cases moved with
  | unmoved deaf calm =>
    rw [List.append_nil]
    exact before
  | marked runs =>
    rw [List.append_nil]
    exact ⟨heeds true, before.closed, before.going, before.used⟩
  | stopped waits =>
    rw [List.append_nil]
    exact (heeds true).ended _
  | refused phase => exact absurd before.closed (by simp [phase, Phase.isOpening])
  | opened phase hands => exact absurd before.closed (by simp [phase, Phase.isOpening])
  | failed phase fails =>
    exact fails.concluded.sentOnce (heeds _) (before.used (by simp [phase, Phase.isFinished]))
  | answered phase answer =>
    have used := before.used (by simp [phase, Phase.isFinished])
    exact answer.sentOnce single (heeds _) used (before.going _ (by simp [phase, Phase.request?]))
  | judged phase reads judged =>
    exact judged.concluded.sentOnce (heeds _) (before.used (by simp [phase, Phase.isFinished]))
  | begun phase begins =>
    have used := before.used (by simp [phase, Phase.isFinished])
    exact begins.sentOnce unfiltered single (heeds _) used.1 fun unused => absurd unused used.2

end

section

variable {e : Executor} {disk : Disk} {run after : Run} {history deeds : List Event}
  {request : Request} {signal : Signal} {p : SharedPayload} {flow : Flow}

/-- What is due of a run whose command has the payload or none has it or none. -/
theorem Executor.due?_bears (unfiltered : e.filters = []) (base : run.command.request.Bears p)
    (going : ∀ sent ∈ run.phase.request?, sent.Bears p) (due : e.due? run signal = some request) :
    request.Bears p := by
  unfold due? at due
  split at due
  · rw [unfiltered] at due
    cases due
    exact base
  · obtain ⟨hop, found, rfl⟩ := Option.map_eq_some_iff.mp due
    obtain ⟨hops, body, phase, leads⟩ := hop?_eq_some found
    exact (going hop.request (by rw [phase]; rfl)).followed leads

/-- Nothing is due of a run that is over. -/
theorem Executor.runs_of_due (due : e.due? run signal = some request) : run.phase.isFinished = false := by
  cases phase : run.phase with
  | finished outcome => simp [due?, hop?, phase] at due
  | _ => rfl

/-- What is due and still has the payload is not sent, since the body is gone: the run ends, as cancelled or for want
of the body. -/
theorem SentOnce.ends_of_due (account : SentOnce p flow history run)
    (moved : Moved e disk run signal after deeds) (unfiltered : e.filters = [])
    (single : p.payload.content = .oneShot flow) (due : e.due? run signal = some request)
    (full : request.payload.isSome = true) :
    deeds = [] ∧ after.phase = .finished (.error (if after.command.cancelled then
        .cancelled run.command.attempts
      else .payloadNotReplayable request.endpoint.text (run.command.attempts + 1))) := by
  obtain ⟨q, held⟩ := Option.isSome_iff_exists.mp full
  obtain rfl := (Executor.due?_bears unfiltered account.base account.going due).payload_eq held
  have used := account.used (Executor.runs_of_due due)
  rcases moved.forwards account.closed with
    ⟨other, hops, begun, same, lives, counts, dispatched⟩ | ⟨none, -⟩
  · obtain rfl : request = other := Option.some.inj (due.symm.trans same)
    have attempts : begun.command.attempts = run.command.attempts := congrArg RetryState.attempt counts
    rw [← lives] at used
    rw [← attempts]
    exact dispatched.of_used single held used.1 used.2
  · rw [due] at none
    cases none

end

namespace Executor

variable {e : Executor} {disk : Disk} {number : Nat} {request : Request} {retrySafe : Bool}
  {cancelled : Bool} {lives : Lives} {p : SharedPayload} {flow : Flow}

theorem execution_sentOnce (unfiltered : e.filters = []) (attached : request.payload = some p)
    (single : p.payload.content = .oneShot flow) (unused : lives p.id = {}) (signals : List Signal) :
    SentOnce p flow
      (e.execution disk (.built number request retrySafe cancelled) lives signals).deeds
      (e.execution disk (.built number request retrySafe cancelled) lives signals).value := by
  refine execution_induction (P := fun _ history run => SentOnce p flow history run) rfl ?_ ?_ signals
  · intro after deeds begun
    have live : (lives p.id).released = false := by rw [unused]
    have fresh : (lives p.id).opens = 0 := by rw [unused]
    have account : OneShotAccount p flow []
        ⟨.built number request retrySafe cancelled, lives, .idle⟩ := by
      refine ⟨.inl attached, (if_pos fresh).symm, fun sent body done => ?_, rfl⟩
      cases done
    exact begun.sentOnce unfiltered single account live fun _ => attached
  · intro signals history signal after deeds before moved
    exact moved.sentOnce unfiltered single before

/-- A body that can be read once goes out at most once. Whatever the method, the policies, the answers of the transport
and the moment of a cancellation, where no filters are: of all requests that are handed over at most one has a
body, which is the whole stream, and a request that still has the payload has it for its body. Whatever is sent
later was due, by a redirect or after a pause; if what is due still has the payload it is not sent, and the
command ends for want of the body, at the send after those that were made, unless it was cancelled. -/
theorem one_shot_sent_once {e : Executor} (unfiltered : e.filters = []) (disk : Disk) (number : Nat)
    {request : Request} {p : SharedPayload} {flow : Flow} (attached : request.payload = some p)
    (single : p.payload.content = .oneShot flow) (retrySafe cancelled : Bool) {lives : Lives}
    (unused : lives p.id = {}) (signals : List Signal) :
    let run := e.execution disk (.built number request retrySafe cancelled) lives signals
    let sends := run.output.countP Event.isHanded
    (run.output.filterMap Event.body? = [] ∨ run.output.filterMap Event.body? = [flow]) ∧
      (∀ sent body, .handed sent body ∈ run.output →
        sent.Bears p ∧ body = sent.payload.map fun _ => flow) ∧
      ∀ signal,
        let later := e.step disk signal run.value
        (∀ sent body, .handed sent body ∈ later.output → e.due? run.value signal = some sent) ∧
        ∀ due, e.due? run.value signal = some due → due.payload.isSome = true →
          later.output.countP Event.isHanded = 0 ∧
          later.value.phase = .finished (.error (if later.value.command.cancelled then
              .cancelled sends
            else .payloadNotReplayable due.endpoint.text (sends + 1))) := by
  intro run sends
  have account : SentOnce p flow run.deeds run.value :=
    execution_sentOnce unfiltered attached single unused signals
  have bodies := Writer.filterMap_deeds run Event.body? fun _ => rfl
  have counted : ∀ x : Traced Run, x.deeds.countP Event.isHanded = x.output.countP Event.isHanded :=
    fun x => Writer.countP_deeds x _ Event.isDeed_of_isHanded
  refine ⟨?_, fun sent body done => account.handed sent body (Writer.mem_deeds_of_mem done rfl), ?_⟩
  · rw [← bodies, account.bodies]
    split
    · exact .inl rfl
    · exact .inr rfl
  intro signal later
  have moved := moved_step e disk signal run.value
  refine ⟨fun sent body done => ?_, fun due found full => ?_⟩
  · exact (moved.forwards account.closed).due_of_handed (Writer.mem_deeds_of_mem done rfl)
  · obtain ⟨silent, ends⟩ := account.ends_of_due moved unfiltered single found full
    have attempts : run.value.command.attempts = sends := account.sends.trans (counted run)
    rw [← counted later, silent, ends, attempts]
    exact ⟨rfl, rfl⟩

/-- A `PUT` of a stream that is answered with 504 is to be sent again, and ends for want of the body. -/
theorem upload_unreplayable_after_504 :
    let home : Url := ⟨"http", some { host := "h" }, .rooted ["r"], none, none⟩
    let p : SharedPayload := ⟨.given 0, ⟨.oneShot (.ofBytes [0x62]), {}⟩⟩
    let upload : Request := ⟨.put, home, [], some p, []⟩
    let rules := ({} : Config).described
    let signals : List Signal := [.answered (.ok { status := 504 }) 1 false]
    let run := rules.execution {} (.built 0 upload false false) .fresh signals
    run.output.filterMap Event.body? = [.ofBytes [0x62]] ∧
      (rules.step {} (.pauseOver false) run.value).value.phase =
        .finished (.error (.payloadNotReplayable "http://h/r" 2)) := by
  intro home p upload rules signals run
  have unfiltered : rules.filters = [] := rfl
  have attached : upload.payload = some p := rfl
  have single : p.payload.content = .oneShot (.ofBytes [0x62]) := rfl
  have unused : Lives.fresh p.id = {} := rfl
  have once := one_shot_sent_once unfiltered {} 0 attached single false false unused signals
  have sent : run.output.filterMap Event.body? = [.ofBytes [0x62]] := by decide +kernel
  have due : rules.due? run.value (.pauseOver false) = some upload := by rfl
  have quiet : (rules.step {} (.pauseOver false) run.value).value.command.cancelled = false := by decide +kernel
  have sends : run.output.countP Event.isHanded = 1 := by decide +kernel
  have told : upload.endpoint.text = "http://h/r" := by decide +kernel
  obtain ⟨-, ends⟩ := (once.2.2 (.pauseOver false)).2 upload due rfl
  refine ⟨sent, ?_⟩
  rw [ends, quiet, sends, told]
  rfl

end Executor

end Courier
