import Courier.Proofs.Deeds

/-!
What a step can do, said once. Each predicate here tells how one leg of a run may end: where the run stands
then, and which deeds it did on the way. A leg that goes on in another holds that leg's predicate, so what a
run keeps is shown for each leg by its cases. The legs are those that the executor really takes
(`Executor.moved_step`, `Executor.begun_beginAttempt`); nothing after this module opens its definitions.
-/
namespace Courier

namespace Command

/-- The command after its request went through the filters. -/
def filtered (c : Command) : Command := { c with rounds := c.rounds + 1, state := .filtered }

/-- The command after a send without a response. -/
def unanswered (c : Command) : Command :=
  { c with retryState := c.retryState.recordTransportFailure }

/-- The command after a response that is no success. -/
def answeredBy (c : Command) (e : Executor) (response : Response) : Command :=
  { c with retryState :=
      c.retryState.recordResponse response.status (e.retryPolicy.errorCode response).value }

/-- The names for payloads that the filters make in the next round. -/
def freshName (c : Command) (position : Nat) : PayloadId := .made c.number c.rounds position

end Command

@[simp] theorem Run.heeding_false (run : Run) : run.heeding false = run := by
  simp [heeding, withCommand]

/-- Is the run over? -/
def Phase.isFinished : Phase → Bool
  | .finished _ => true
  | _ => false

theorem Phase.isFinished_iff {phase : Phase} :
    phase.isFinished = true ↔ ∃ outcome, phase = .finished outcome := by
  cases phase <;> simp [isFinished]

/-- Does a cancellation end a run that waits in this phase? -/
def Phase.isStoppable : Phase → Bool
  | .sending .. | .reading .. | .pausing _ => true
  | _ => false

namespace Executor

/-- The response with its body as far as it was read; none while the reading does not end. -/
def settled? (e : Executor) (response : Response) (body : Body) (flow : Flow) : Option Response :=
  match flow.readUpTo e.maxErrorBodyBytes with
  | .done bytes => some (response.settle body (.ok bytes)).value
  | .failed error => some (response.settle body (.error (.stream error))).value
  | .waiting => none

/-- Is this the signal that a run waits for in the phase? The end of a body that never ends is none. -/
def awaits (e : Executor) (phase : Phase) (signal : Signal) : Bool :=
  match signal, phase with
  | .opened, .opening .. => true
  | .answered .., .sending .. => true
  | .bodyRead _, .reading response body flow => (e.settled? response body flow).isSome
  | .pauseOver _, .pausing _ => true
  | _, _ => false

end Executor

/-- How handing a request over may end. -/
inductive HandedOver (request : Request) (hops : Nat) (body : Option Flow) (run : Run) :
    Run → List Event → Prop
  | stopped (cancelled : run.command.cancelled = true) :
      HandedOver request hops body run (run.withCommand run.command.sent).stopped []
  | handed (quiet : run.command.cancelled = false) :
      HandedOver request hops body run
        { run with command := run.command.sent, phase := .sending request hops body }
        [.handed request body]

/-- How sending a request may end. -/
inductive Dispatched (disk : Disk) (request : Request) (hops : Nat) (run : Run) :
    Run → List Event → Prop
  | stopped (cancelled : run.command.cancelled = true) :
      Dispatched disk request hops run run.stopped []
  | bodiless {after : Run} {deeds : List Event} (quiet : run.command.cancelled = false)
      (empty : request.payload = none) (hands : HandedOver request hops none run after deeds) :
      Dispatched disk request hops run after deeds
  /-- The body cannot be opened. -/
  | refused {p : SharedPayload} {error : PayloadError} {life : Life}
      (quiet : run.command.cancelled = false) (full : request.payload = some p)
      (opens : (p.payload.openStream disk (run.lives p.id)).value = (.error error, life)) :
      Dispatched disk request hops run
        (({ run with lives := run.lives.set p.id life } : Run).ended
          (.error (Executor.openingError run request error))) []
  | opened {p : SharedPayload} {stream : Stream} {life : Life} {after : Run} {deeds : List Event}
      (quiet : run.command.cancelled = false) (full : request.payload = some p)
      (opens : (p.payload.openStream disk (run.lives p.id)).value = (.ok stream, life))
      (hands : HandedOver request hops (some (stream.flow disk))
        { run with lives := run.lives.set p.id life } after deeds) :
      Dispatched disk request hops run after deeds
  /-- A file takes time to open. -/
  | opening {p : SharedPayload} {outcome : Except PayloadError Stream} {life : Life}
      (quiet : run.command.cancelled = false) (full : request.payload = some p)
      (opens : (p.payload.openStream disk (run.lives p.id)).value = (outcome, life))
      (file : p.payload.isFile = true) (live : (run.lives p.id).released = false) :
      Dispatched disk request hops run
        { run with lives := run.lives.set p.id life, phase := .opening request hops outcome } []

/-- How an attempt may begin. -/
inductive Begun (e : Executor) (disk : Disk) (run : Run) : Run → List Event → Prop
  | refused {error : FilterError}
      (filters : (e.filters.apply run.command.freshName run.command.request).value = .error error) :
      Begun e disk run
        ((run.withCommand { run.command with rounds := run.command.rounds + 1 }).ended
          (.error (.filter error))) []
  | filtered {request : Request} {after : Run} {deeds : List Event}
      (filters : (e.filters.apply run.command.freshName run.command.request).value = .ok request)
      (sent : Dispatched disk request 0 (run.withCommand run.command.filtered) after deeds) :
      Begun e disk run after deeds

/-- How the turn to a pause may end. -/
inductive Rested (delay : Duration) (run : Run) : Run → List Event → Prop
  | stopped (cancelled : run.command.cancelled = true) :
      Rested delay run (run.withCommand run.command.resting).stopped []
  | pausing (quiet : run.command.cancelled = false) :
      Rested delay run { run with command := run.command.resting, phase := .pausing delay }
        [.pausing delay]

/-- What may come of a send without a response. -/
inductive Failed (e : Executor) (error : TransportError) (run : Run) : Run → List Event → Prop
  | final (lasting : (error.isTransient && run.command.isRetryEligible) = false) :
      Failed e error run (run.ended (.error (.transport error))) []
  | exhausted (passing : (error.isTransient && run.command.isRetryEligible) = true)
      (spent : e.maxRetries ≤ run.command.retryState.retries) :
      Failed e error run
        ((run.withCommand run.command.unanswered).ended
          (.error (.retryExhausted run.command.attempts error.endpoint none none (some error)))) []
  | rested {after : Run} {deeds : List Event}
      (passing : (error.isTransient && run.command.isRetryEligible) = true)
      (left : run.command.retryState.retries < e.maxRetries)
      (rest : Rested (e.transportBackoff.delay (run.command.retryState.failures + 1))
        (run.withCommand run.command.unanswered) after deeds) :
      Failed e error run after deeds

/-- What may come of a response that is no success, once its body is read as far as it will be. -/
inductive Judged (e : Executor) (response : Response) (run : Run) : Run → List Event → Prop
  | final {reason : String}
      (decision : (e.retryPolicy.shouldRetry (run.command.answeredBy e response) response).value =
        .doNotRetry reason) :
      Judged e response run
        ((run.withCommand (run.command.answeredBy e response)).ended (.ok response))
        [.decided (run.command.answeredBy e response) response (.doNotRetry reason)]
  | exhausted {delay : Duration} {attempt : Nat}
      (decision : (e.retryPolicy.shouldRetry (run.command.answeredBy e response) response).value =
        .retry delay attempt)
      (spent : e.maxRetries ≤ run.command.retryState.retries) :
      Judged e response run
        ((run.withCommand (run.command.answeredBy e response)).ended
          (.error (.retryExhausted run.command.attempts run.command.request.endpoint.text
            (some response.status) (some response) none)))
        [.decided (run.command.answeredBy e response) response (.retry delay attempt)]
  | rested {delay : Duration} {attempt : Nat} {after : Run} {deeds : List Event}
      (decision : (e.retryPolicy.shouldRetry (run.command.answeredBy e response) response).value =
        .retry delay attempt)
      (left : run.command.retryState.retries < e.maxRetries)
      (rest : Rested delay (run.withCommand (run.command.answeredBy e response)) after deeds) :
      Judged e response run after
        (.decided (run.command.answeredBy e response) response (.retry delay attempt) :: deeds)

/-- What may come of a response. -/
inductive Answered (e : Executor) (disk : Disk) (request : Request) (hops : Nat) (response : Response)
    (run : Run) : Run → List Event → Prop
  /-- A redirect that leads nowhere. -/
  | astray {error : CommandError}
      (next : (e.redirectPolicy.nextRequest request response hops).value = .error error) :
      Answered e disk request hops response run (run.ended (.error error)) []
  | followed {hop : Request} {after : Run} {deeds : List Event}
      (next : (e.redirectPolicy.nextRequest request response hops).value = .ok (some hop))
      (sent : Dispatched disk hop (hops + 1) (run.withCommand (run.command.bound hop)) after deeds) :
      Answered e disk request hops response run after deeds
  | succeeded (next : (e.redirectPolicy.nextRequest request response hops).value = .ok none)
      (success : response.isSuccess = true) :
      Answered e disk request hops response run (run.ended (.ok response)) []
  | stopped (next : (e.redirectPolicy.nextRequest request response hops).value = .ok none)
      (success : response.isSuccess = false) (cancelled : run.command.cancelled = true) :
      Answered e disk request hops response run run.stopped []
  | judged {buffered : Response} {after : Run} {deeds : List Event}
      (next : (e.redirectPolicy.nextRequest request response hops).value = .ok none)
      (success : response.isSuccess = false) (quiet : run.command.cancelled = false)
      (buffers : (response.startBuffering disk).value = .settled buffered)
      (judged : Judged e buffered run after deeds) :
      Answered e disk request hops response run after deeds
  | reading {body : Body} {flow : Flow}
      (next : (e.redirectPolicy.nextRequest request response hops).value = .ok none)
      (success : response.isSuccess = false) (quiet : run.command.cancelled = false)
      (buffers : (response.startBuffering disk).value = .waiting body flow) :
      Answered e disk request hops response run { run with phase := .reading response body flow } []

/-- What a run may do on a signal. -/
inductive Moved (e : Executor) (disk : Disk) (run : Run) : Signal → Run → List Event → Prop
  /-- The run does not wait for the signal. -/
  | unmoved {signal : Signal} (deaf : e.awaits run.phase signal = false)
      (calm : signal ≠ .cancelled) : Moved e disk run signal run []
  /-- A cancellation that takes effect later. -/
  | marked (runs : run.phase.isStoppable = false) :
      Moved e disk run .cancelled (run.heeding true) []
  | stopped (waits : run.phase.isStoppable = true) :
      Moved e disk run .cancelled (run.heeding true).stopped []
  | refused {request : Request} {hops : Nat} {error : PayloadError}
      (phase : run.phase = .opening request hops (.error error)) :
      Moved e disk run .opened (run.ended (.error (Executor.openingError run request error))) []
  | opened {request : Request} {hops : Nat} {stream : Stream} {after : Run} {deeds : List Event}
      (phase : run.phase = .opening request hops (.ok stream))
      (hands : HandedOver request hops (some (stream.flow disk)) run after deeds) :
      Moved e disk run .opened after deeds
  | failed {request : Request} {hops : Nat} {body : Option Flow} {error : TransportError}
      {taken : Nat} {meanwhile : Bool} {after : Run} {deeds : List Event}
      (phase : run.phase = .sending request hops body)
      (fails : Failed e error (run.heeding meanwhile) after deeds) :
      Moved e disk run (.answered (.error error) taken meanwhile) after deeds
  | answered {request : Request} {hops : Nat} {body : Option Flow} {response : Response}
      {taken : Nat} {meanwhile : Bool} {after : Run} {deeds : List Event}
      (phase : run.phase = .sending request hops body)
      (answer : Answered e disk request hops
        { response with requestDigest := e.digestOfTaken body taken } (run.heeding meanwhile)
        after deeds) :
      Moved e disk run (.answered (.ok response) taken meanwhile) after deeds
  | judged {response buffered : Response} {body : Body} {flow : Flow} {meanwhile : Bool}
      {after : Run} {deeds : List Event} (phase : run.phase = .reading response body flow)
      (reads : e.settled? response body flow = some buffered)
      (judged : Judged e buffered (run.heeding meanwhile) after deeds) :
      Moved e disk run (.bodyRead meanwhile) after deeds
  | begun {delay : Duration} {meanwhile : Bool} {after : Run} {deeds : List Event}
      (phase : run.phase = .pausing delay)
      (begins : Begun e disk (run.heeding meanwhile) after deeds) :
      Moved e disk run (.pauseOver meanwhile) after deeds

namespace Executor

theorem handedOver_handOver (run : Run) (request : Request) (hops : Nat) (body : Option Flow) :
    HandedOver request hops body run (handOver run request hops body).value
      (handOver run request hops body).deeds := by
  cases cancelled : run.command.cancelled with
  | true =>
    have stops : run.command.sent.cancelled = true := cancelled
    simpa [handOver, stops] using HandedOver.stopped cancelled
  | false =>
    have goes : run.command.sent.cancelled = false := cancelled
    simpa [handOver, goes, Event.isDeed] using HandedOver.handed cancelled

theorem dispatched_send (run : Run) (disk : Disk) (request : Request) (hops : Nat) :
    Dispatched disk request hops run (send run disk request hops).value
      (send run disk request hops).deeds := by
  cases cancelled : run.command.cancelled with
  | true => simpa [send, cancelled] using Dispatched.stopped cancelled
  | false =>
    cases payload : request.payload with
    | none =>
      have hands := handedOver_handOver run request hops none
      simpa [send, cancelled, payload] using Dispatched.bodiless cancelled payload hands
    | some p =>
      cases opens : (p.payload.openStream disk (run.lives p.id)).value with
      | mk outcome life =>
        by_cases file : p.payload.isFile = true ∧ (run.lives p.id).released = false
        · simpa [send, cancelled, payload, opens, file] using
            Dispatched.opening cancelled payload opens file.1 file.2
        · cases outcome with
          | error error =>
            simpa [send, cancelled, payload, opens, file, afterOpening, openingError] using
              Dispatched.refused cancelled payload opens
          | ok stream =>
            have hands := handedOver_handOver { run with lives := run.lives.set p.id life } request
              hops (some (stream.flow disk))
            simpa [send, cancelled, payload, opens, file, afterOpening] using
              Dispatched.opened cancelled payload opens hands

theorem begun_beginAttempt (e : Executor) (disk : Disk) (run : Run) :
    Begun e disk run (e.beginAttempt disk run).value (e.beginAttempt disk run).deeds := by
  unfold beginAttempt
  simp only [Writer.value_bind, Writer.deeds_bind, value_traced, deeds_traced, List.nil_append]
  split
  · next error filters =>
    rw [Run.value_fail, Run.deeds_fail]
    exact .refused filters
  · next request filters =>
    simp only [Writer.value_bind, Writer.deeds_bind, value_traced, deeds_traced, List.nil_append]
    exact .filtered filters (dispatched_send (run.withCommand run.command.filtered) disk request 0)

theorem rested_pause (run : Run) (delay : Duration) :
    Rested delay run (pause run delay).value (pause run delay).deeds := by
  -- The same pause, with the command written as `resting`, which the cases of `Rested` speak of.
  have named : pause run delay = (do
      let _ ← (run.command.setState .retrying).traced
      if run.command.cancelled then
        (note (.cancelledDuringBackoff run.command.attempts)).traced
        (run.withCommand run.command.resting).cancel
      else
        Writer.tell (.pausing delay)
        pure { run with command := run.command.resting, phase := .pausing delay }) := rfl
  rw [named]
  cases cancelled : run.command.cancelled with
  | true => simpa using Rested.stopped cancelled
  | false => simpa [Event.isDeed] using Rested.pausing cancelled

theorem failed_judgeFailure (e : Executor) (run : Run) (error : TransportError) :
    Failed e error run (e.judgeFailure run error).value (e.judgeFailure run error).deeds := by
  unfold judgeFailure
  split
  · next lasting =>
    rw [Run.value_fail, Run.deeds_fail]
    exact .final (by simpa only [Bool.not_eq_true'] using lasting)
  · next passing =>
    have passes : (error.isTransient && run.command.isRetryEligible) = true := by
      simpa only [Bool.not_eq_true', Bool.not_eq_false] using passing
    dsimp only
    split
    · next spent =>
      rw [Run.value_fail, Run.deeds_fail]
      exact .exhausted passes spent
    · next left =>
      simp only [Writer.value_bind, Writer.deeds_bind, deeds_traced, List.nil_append]
      exact .rested passes (Nat.lt_of_not_le left)
        (rested_pause (run.withCommand run.command.unanswered) _)

theorem judged_judge (e : Executor) (run : Run) (response : Response) :
    Judged e response run (e.judge run response).value (e.judge run response).deeds := by
  unfold judge
  simp only [Writer.value_bind, Writer.deeds_bind, value_traced, deeds_traced, List.nil_append,
    Writer.deeds_tell, Event.isDeed, ↓reduceIte, RetryState.retries_recordResponse]
  split
  · next reason decision =>
    simp only [Writer.value_bind, Writer.deeds_bind, deeds_traced, Run.value_finish, Run.deeds_finish,
      List.append_nil]
    rw [decision]
    exact .final decision
  · next delay attempt decision =>
    rw [decision]
    by_cases spent : e.maxRetries ≤ run.command.retryState.retries
    · simp only [spent, ↓reduceIte, Run.value_fail, Run.deeds_fail, List.append_nil]
      exact .exhausted decision spent
    · simp only [spent, ↓reduceIte, Writer.value_bind, Writer.deeds_bind, deeds_traced, List.nil_append]
      have rest := rested_pause (run.withCommand (run.command.answeredBy e response)) delay
      exact .rested decision (Nat.lt_of_not_le spent) rest

theorem answered_takeResponse (e : Executor) (disk : Disk) (run : Run) (request : Request)
    (hops : Nat) (response : Response) :
    Answered e disk request hops response run (e.takeResponse disk run request hops response).value
      (e.takeResponse disk run request hops response).deeds := by
  unfold takeResponse
  simp only [Writer.value_bind, Writer.deeds_bind, value_traced, deeds_traced, List.nil_append]
  split
  · next error next =>
    rw [Run.value_fail, Run.deeds_fail]
    exact .astray next
  · next hop next =>
    simp only [Writer.value_bind, Writer.deeds_bind, value_traced, deeds_traced, List.nil_append,
      Command.value_followRedirect]
    exact .followed next (dispatched_send (run.withCommand (run.command.bound hop)) disk hop _)
  · next next =>
    cases success : response.isSuccess with
    | true =>
      simp only [↓reduceIte, Run.value_finish, Run.deeds_finish]
      exact .succeeded next success
    | false =>
      unfold takeError
      cases cancelled : run.command.cancelled with
      | true =>
        simp only [↓reduceIte, Bool.false_eq_true, Writer.value_bind, Writer.deeds_bind,
          deeds_traced, List.nil_append, Run.value_cancel, Run.deeds_cancel]
        exact .stopped next success cancelled
      | false =>
        simp only [↓reduceIte, Bool.false_eq_true, Writer.value_bind, Writer.deeds_bind,
          value_traced, deeds_traced, List.nil_append]
        split
        · next buffered buffers =>
          exact .judged next success cancelled buffers (judged_judge e run buffered)
        · next body flow buffers => exact .reading next success cancelled buffers

/-- A signal that a run does not wait for changes nothing. -/
theorem step_of_deaf (e : Executor) (disk : Disk) {signal : Signal} {run : Run}
    (deaf : e.awaits run.phase signal = false) (calm : signal ≠ .cancelled) :
    (e.step disk signal run).value = run ∧ (e.step disk signal run).deeds = [] := by
  unfold step
  cases signal <;> cases phase : run.phase <;> simp_all [awaits, settled?]
  next response body flow => cases read : flow.readUpTo e.maxErrorBodyBytes <;> simp_all

/-- A cancellation ends a run in the phases that can be stopped, and is kept in mind in the others. -/
theorem moved_cancelled (e : Executor) (disk : Disk) (run : Run) :
    Moved e disk run .cancelled (e.step disk .cancelled run).value
      (e.step disk .cancelled run).deeds := by
  unfold step
  cases phase : run.phase with
  | idle => exact .marked (by rw [phase]; rfl)
  | opening => exact .marked (by rw [phase]; rfl)
  | finished => exact .marked (by rw [phase]; rfl)
  | sending =>
    simpa using @Moved.stopped e disk run (by rw [phase]; rfl)
  | reading =>
    simpa using @Moved.stopped e disk run (by rw [phase]; rfl)
  | pausing =>
    simpa using @Moved.stopped e disk run (by rw [phase]; rfl)

theorem moved_opened (e : Executor) (disk : Disk) {run : Run} {request : Request} {hops : Nat}
    {opened : Except PayloadError Stream} (phase : run.phase = .opening request hops opened) :
    Moved e disk run .opened (e.step disk .opened run).value (e.step disk .opened run).deeds := by
  unfold step
  simp only [phase]
  cases opened with
  | error error => simpa [afterOpening] using @Moved.refused e disk run request hops error phase
  | ok stream =>
    exact .opened phase (handedOver_handOver run request hops (some (stream.flow disk)))

theorem failed_answered (e : Executor) (disk : Disk) {run : Run} {request : Request} {hops : Nat}
    {body : Option Flow} (phase : run.phase = .sending request hops body) (error : TransportError)
    (taken : Nat) (meanwhile : Bool) :
    Failed e error (run.heeding meanwhile)
      (e.step disk (.answered (.error error) taken meanwhile) run).value
      (e.step disk (.answered (.error error) taken meanwhile) run).deeds := by
  unfold step
  simp only [phase]
  exact failed_judgeFailure e (run.heeding meanwhile) error

theorem answered_answered (e : Executor) (disk : Disk) {run : Run} {request : Request} {hops : Nat}
    {body : Option Flow} (phase : run.phase = .sending request hops body) (response : Response)
    (taken : Nat) (meanwhile : Bool) :
    Answered e disk request hops { response with requestDigest := e.digestOfTaken body taken }
      (run.heeding meanwhile) (e.step disk (.answered (.ok response) taken meanwhile) run).value
      (e.step disk (.answered (.ok response) taken meanwhile) run).deeds := by
  unfold step
  simp only [phase]
  exact answered_takeResponse e disk (run.heeding meanwhile) request hops _

theorem moved_answered (e : Executor) (disk : Disk) {run : Run} {request : Request} {hops : Nat}
    {body : Option Flow} (phase : run.phase = .sending request hops body)
    (answer : Except TransportError Response) (taken : Nat) (meanwhile : Bool) :
    Moved e disk run (.answered answer taken meanwhile)
      (e.step disk (.answered answer taken meanwhile) run).value
      (e.step disk (.answered answer taken meanwhile) run).deeds := by
  cases answer with
  | error error => exact .failed phase (failed_answered e disk phase error taken meanwhile)
  | ok response => exact .answered phase (answered_answered e disk phase response taken meanwhile)

/-- When a body is read as far as it will be, the response is judged. -/
theorem judged_bodyRead (e : Executor) (disk : Disk) {run : Run} {response buffered : Response}
    {body : Body} {flow : Flow} (phase : run.phase = .reading response body flow)
    (reads : e.settled? response body flow = some buffered) (meanwhile : Bool) :
    Judged e buffered (run.heeding meanwhile) (e.step disk (.bodyRead meanwhile) run).value
      (e.step disk (.bodyRead meanwhile) run).deeds := by
  have judged := judged_judge e (run.heeding meanwhile) buffered
  unfold settled? at reads
  unfold step
  simp only [phase]
  cases read : flow.readUpTo e.maxErrorBodyBytes with
  | done bytes =>
    simp only [read, Option.some.injEq] at reads
    simpa [reads] using judged
  | failed error =>
    simp only [read, Option.some.injEq] at reads
    simpa [reads] using judged
  | waiting => simp [read] at reads

theorem begun_pauseOver (e : Executor) (disk : Disk) {run : Run} {delay : Duration}
    (phase : run.phase = .pausing delay) (meanwhile : Bool) :
    Begun e disk (run.heeding meanwhile) (e.step disk (.pauseOver meanwhile) run).value
      (e.step disk (.pauseOver meanwhile) run).deeds := by
  unfold step
  simp only [phase]
  exact begun_beginAttempt e disk (run.heeding meanwhile)

/-- Every step is one of the moves. -/
theorem moved_step (e : Executor) (disk : Disk) (signal : Signal) (run : Run) :
    Moved e disk run signal (e.step disk signal run).value (e.step disk signal run).deeds := by
  by_cases cancels : signal = .cancelled
  · subst cancels
    exact moved_cancelled e disk run
  cases heard : e.awaits run.phase signal with
  | false =>
    obtain ⟨stays, idle⟩ := step_of_deaf e disk heard cancels
    rw [stays, idle]
    exact .unmoved heard cancels
  | true =>
    -- Each phase waits for one kind of signal, so the others contradict `heard`.
    cases phase : run.phase with
    | opening request hops opened =>
      cases signal <;> simp [awaits, phase] at heard
      exact moved_opened e disk phase
    | sending request hops body =>
      cases signal <;> simp [awaits, phase] at heard
      exact moved_answered e disk phase _ _ _
    | reading response body flow =>
      cases signal <;> simp [awaits, phase] at heard
      obtain ⟨buffered, reads⟩ := Option.isSome_iff_exists.mp heard
      exact .judged phase reads (judged_bodyRead e disk phase reads _)
    | pausing delay =>
      cases signal <;> simp [awaits, phase] at heard
      exact .begun phase (begun_pauseOver e disk phase _)
    | idle => cases signal <;> simp [awaits, phase] at heard
    | finished => cases signal <;> simp [awaits, phase] at heard

end Executor

end Courier
