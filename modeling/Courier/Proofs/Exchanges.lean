import Courier.Proofs.Setbacks

/-!
Exchanges. Each request that the transport answers makes an exchange: the request and the body that the transport
had, its answer, and how much of the body it took before (`Executor.exchanges`). While a run waits for an answer it
waits for that to the request it handed over last, and a response that a run holds is the answer of the last exchange
and of no other (`Executor.execution_exchanged`): a response whose body is being read, and one that is the result. Reading
a body changes neither the status, nor the headers, nor the digest of the request bytes (`Response.Agrees`).
-/
namespace Courier

/-- A send that was answered. -/
structure Exchange where
  request : Request
  /-- The body that the transport had, from its start. -/
  body : Option Flow
  answer : Except TransportError Response
  /-- How many items of the body the transport took before it answered. -/
  taken : Nat

/-- The request that was handed to the transport, with its body. -/
def Event.handover? : Event → Option (Request × Option Flow)
  | handed request body => some (request, body)
  | _ => none

/-- The last request that was handed to the transport, with its body. -/
def lastHandover (events : List Event) : Option (Request × Option Flow) :=
  (events.filterMap Event.handover?).getLast?

theorem lastHandover_deeds {α : Type} (x : Writer Event α) :
    lastHandover x.deeds = lastHandover x.output := by
  rw [lastHandover, lastHandover, Writer.filterMap_deeds x Event.handover? fun _ => rfl]

theorem lastHandover_handed (history : List Event) (request : Request) (body : Option Flow) :
    lastHandover (history ++ [.handed request body]) = some (request, body) := by
  simp [lastHandover, Event.handover?]

/-- What is decided is not handed over. -/
theorem lastHandover_append_of_isDecided (history : List Event) {verdict : List Event}
    (decided : ∀ deed ∈ verdict, deed.isDecided = true) :
    lastHandover (history ++ verdict) = lastHandover history := by
  have none : verdict.filterMap Event.handover? = [] := by
    rw [List.filterMap_eq_nil_iff]
    intro deed belongs
    have told := decided deed belongs
    cases deed with
    | decided command response decision => rfl
    | _ => cases told
  rw [lastHandover, List.filterMap_append, none, List.append_nil, lastHandover]

/-- Two responses that differ in their bodies at most. -/
structure Response.Agrees (r other : Response) : Prop where
  status : other.status = r.status
  headers : other.headers = r.headers
  requestDigest : other.requestDigest = r.requestDigest

namespace Response

theorem Agrees.refl (r : Response) : r.Agrees r := ⟨rfl, rfl, rfl⟩

theorem Agrees.trans {r other last : Response} (first : r.Agrees other) (second : other.Agrees last) :
    r.Agrees last where
  status := second.status.trans first.status
  headers := second.headers.trans first.headers
  requestDigest := second.requestDigest.trans first.requestDigest

theorem agrees_settle (r : Response) (body : Body) (read : Except PayloadError Bytes) :
    r.Agrees (r.settle body read).value := by
  cases read with
  | ok bytes => exact ⟨rfl, rfl, rfl⟩
  | error error => exact ⟨rfl, rfl, rfl⟩

/-- A response that need not be read any further has at most lost its body. -/
theorem agrees_of_startBuffering {r buffered : Response} {disk : Disk}
    (buffers : (r.startBuffering disk).value = .settled buffered) : r.Agrees buffered := by
  unfold startBuffering at buffers
  split at buffers
  · cases buffers
    exact .refl r
  · next body held =>
    split at buffers
    · cases buffers
      exact .refl r
    · dsimp only [Writer.value_bind] at buffers
      split at buffers
      · cases buffers
      · cases buffers
        exact r.agrees_settle _ _

end Response

namespace Executor

/-- A body that is read as far as it will be changes nothing else of the response. -/
theorem agrees_of_settled? {e : Executor} {response buffered : Response} {body : Body} {flow : Flow}
    (reads : e.settled? response body flow = some buffered) : response.Agrees buffered := by
  unfold settled? at reads
  split at reads
  · cases reads
    exact response.agrees_settle body _
  · cases reads
    exact response.agrees_settle body _
  · cases reads

/-- The exchange that the signal completes, if it brings the answer to a send. -/
def exchange? (run : Run) (signal : Signal) : Option Exchange :=
  match run.phase, signal with
  | .sending request _ body, .answered answer taken _ => some ⟨request, body, answer, taken⟩
  | _, _ => none

/-- The exchanges of a command, in order. -/
def exchanges (e : Executor) (disk : Disk) (command : Command) (lives : Lives) (signals : List Signal) :
    List Exchange :=
  (e.encounters disk signals (e.start disk ⟨command, lives, .idle⟩).value).filterMap
    fun (run, signal) => exchange? run signal

theorem exchanges_concat (e : Executor) (disk : Disk) (command : Command) (lives : Lives)
    (signals : List Signal) (signal : Signal) :
    e.exchanges disk command lives (signals ++ [signal]) =
      e.exchanges disk command lives signals ++
        (exchange? (e.execution disk command lives signals).value signal).toList := by
  unfold exchanges
  rw [encounters_append, List.filterMap_append]
  congr 1

/-- The response is what came of the exchange. -/
structure Answers (e : Executor) (exchange : Exchange) (response : Response) : Prop where
  /-- It has status and headers of the answer. -/
  answer : ∃ answer, exchange.answer = .ok answer ∧ response.status = answer.status ∧
    response.headers = answer.headers
  /-- The digest is that of what the transport took of the body. -/
  digest : response.requestDigest = e.digestOfTaken exchange.body exchange.taken

theorem Answers.agrees {e : Executor} {exchange : Exchange} {response other : Response}
    (answers : e.Answers exchange response) (agrees : response.Agrees other) :
    e.Answers exchange other := by
  obtain ⟨⟨answer, answered, status, headers⟩, digest⟩ := answers
  exact ⟨⟨answer, answered, agrees.status.trans status, agrees.headers.trans headers⟩,
    agrees.requestDigest.trans digest⟩

/-- The response came of the last exchange, and that is about the request that was handed over last, with a body
exactly if the request has one. -/
structure AnswersLast (e : Executor) (exchanges : List Exchange) (history : List Event)
    (response : Response) (last : Exchange) : Prop extends e.Answers last response where
  final : exchanges.getLast? = some last
  handed : lastHandover history = some (last.request, last.body)
  body : last.body.isSome = last.request.payload.isSome

/-- How a run stands to its exchanges: a request on its way to the transport has a payload if a body is being opened for
it; the request that is with the transport was handed over last; and a response that the run holds is the answer of
the last exchange. -/
def Exchanged (e : Executor) (exchanges : List Exchange) (history : List Event) (run : Run) : Prop :=
  match run.phase with
  | .opening request _ _ => request.payload.isSome = true
  | .sending request _ body =>
    lastHandover history = some (request, body) ∧ body.isSome = request.payload.isSome
  | .reading response _ _ | .finished (.ok response) => ∃ last, e.AnswersLast exchanges history response last
  | _ => True

end Executor

section

variable {e : Executor} {disk : Disk} {run after : Run} {history deeds : List Event}
  {exchanges : List Exchange} {request : Request} {hops : Nat}

theorem Executor.Exchanged.of_sending {body : Option Flow} (exchanged : e.Exchanged exchanges history run)
    (phase : run.phase = .sending request hops body) :
    lastHandover history = some (request, body) ∧ body.isSome = request.payload.isSome := by
  unfold Executor.Exchanged at exchanged
  rwa [phase] at exchanged

/-- Only the phase matters. -/
theorem Executor.Exchanged.heeding (exchanged : e.Exchanged exchanges history run) (now : Bool) :
    e.Exchanged exchanges history (run.heeding now) := exchanged

theorem HandedOver.exchanged {body : Option Flow} (hands : HandedOver request hops body run after deeds)
    (opens : body.isSome = request.payload.isSome) :
    e.Exchanged exchanges (history ++ deeds) after := by
  cases hands with
  | stopped cancelled => trivial
  | handed quiet => exact ⟨lastHandover_handed history request body, opens⟩

theorem Dispatched.exchanged (sent : Dispatched disk request hops run after deeds) :
    e.Exchanged exchanges (history ++ deeds) after := by
  cases sent with
  | stopped cancelled => trivial
  | bodiless quiet empty hands =>
    refine hands.exchanged ?_
    rw [empty]
    rfl
  | refused quiet full opens => trivial
  | opened quiet full opens hands =>
    refine hands.exchanged ?_
    rw [full]
    rfl
  | opening quiet full opens file live =>
    unfold Executor.Exchanged
    simp [full]

theorem Begun.exchanged (begun : Begun e disk run after deeds) :
    e.Exchanged exchanges (history ++ deeds) after := by
  cases begun with
  | refused filters => trivial
  | filtered filters sent => exact sent.exchanged

theorem Rested.exchanged {delay : Duration} (rest : Rested delay run after deeds) :
    e.Exchanged exchanges (history ++ deeds) after := by
  cases rest with
  | stopped cancelled => trivial
  | pausing quiet => trivial

theorem Failed.exchanged {error : TransportError} (fails : Failed e error run after deeds) :
    e.Exchanged exchanges (history ++ deeds) after := by
  cases fails with
  | final lasting => trivial
  | exhausted passing spent => trivial
  | rested passing left rest => exact rest.exchanged

/-- A verdict that makes a response the result leaves it the answer that it was. -/
theorem Judged.exchanged {response : Response} {last : Exchange}
    (judged : Judged e response run after deeds)
    (answered : e.AnswersLast exchanges history response last) :
    e.Exchanged exchanges (history ++ deeds) after := by
  cases judged with
  | final decision =>
    refine ⟨last, answered.toAnswers, answered.final, ?_, answered.body⟩
    rw [lastHandover_append_of_isDecided history (by simp [Event.isDecided])]
    exact answered.handed
  | exhausted decision spent => trivial
  | rested decision left rest =>
    rw [List.append_cons]
    exact rest.exchanged

/-- The answer to a send is the result, is read, or is done with. -/
theorem Answered.exchanged {response : Response} {last : Exchange}
    (answer : Answered e disk request hops response run after deeds)
    (answered : e.AnswersLast exchanges history response last) :
    e.Exchanged exchanges (history ++ deeds) after := by
  cases answer with
  | astray next => trivial
  | followed next sent => exact sent.exchanged
  | succeeded next success =>
    rw [List.append_nil]
    exact ⟨last, answered⟩
  | stopped next success cancelled => trivial
  | judged next success quiet buffers judged =>
    have agrees := Response.agrees_of_startBuffering buffers
    exact judged.exchanged { answered with toAnswers := answered.toAnswers.agrees agrees }
  | reading next success quiet buffers =>
    rw [List.append_nil]
    exact ⟨last, answered⟩

/-- A signal that answers no send leaves the exchanges what they were. -/
theorem Executor.exchange?_of_no_answer {signal : Signal} (other : signal.isAnswer = false) :
    Executor.exchange? run signal = none := by
  unfold Executor.exchange?
  split
  · cases other
  · rfl

theorem Executor.exchange?_of_deaf {signal : Signal} (deaf : e.awaits run.phase signal = false) :
    Executor.exchange? run signal = none := by
  unfold Executor.exchange?
  split
  · next sending =>
    rw [sending] at deaf
    cases deaf
  · rfl

theorem Moved.exchanged {signal : Signal} (moved : Moved e disk run signal after deeds)
    (before : e.Exchanged exchanges history run) :
    e.Exchanged (exchanges ++ (Executor.exchange? run signal).toList) (history ++ deeds) after := by
  cases moved with
  | unmoved deaf calm =>
    rw [Executor.exchange?_of_deaf deaf, Option.toList_none, List.append_nil, List.append_nil]
    exact before
  | marked runs =>
    rw [Executor.exchange?_of_no_answer rfl, Option.toList_none, List.append_nil, List.append_nil]
    exact before.heeding true
  | stopped waits => trivial
  | refused phase => trivial
  | opened phase hands =>
    refine hands.exchanged ?_
    unfold Executor.Exchanged at before
    rw [phase] at before
    exact before.symm
  | failed phase fails => exact fails.exchanged
  | @answered request hops body response taken meanwhile after deeds phase answer =>
    obtain ⟨handed, opens⟩ := before.of_sending phase
    let last : Exchange := ⟨request, body, .ok response, taken⟩
    have found : Executor.exchange? run (.answered (.ok response) taken meanwhile) = some last := by
      simp only [Executor.exchange?, phase, last]
    have answered : e.AnswersLast (exchanges ++ [last]) history
        { response with requestDigest := e.digestOfTaken body taken } last :=
      { answer := ⟨response, rfl, rfl, rfl⟩
        digest := rfl
        final := List.getLast?_concat ..
        handed := handed
        body := opens }
    rw [found, Option.toList_some]
    exact answer.exchanged answered
  | judged phase reads judged =>
    rw [Executor.exchange?_of_no_answer rfl, Option.toList_none, List.append_nil]
    -- The response that is now judged has the head of the one whose body was read.
    unfold Executor.Exchanged at before
    rw [phase] at before
    obtain ⟨last, answered⟩ := before
    have agrees := Executor.agrees_of_settled? reads
    exact judged.exchanged { answered with toAnswers := answered.toAnswers.agrees agrees }
  | begun phase begins => exact begins.exchanged

end

namespace Executor

variable {e : Executor} {disk : Disk} {command : Command} {lives : Lives}

variable (e disk lives) in
theorem execution_exchanged (live : command.state.isTerminal = false) (signals : List Signal) :
    e.Exchanged (e.exchanges disk command lives signals) (e.execution disk command lives signals).deeds
      (e.execution disk command lives signals).value := by
  refine execution_induction (P := fun signals history run =>
    e.Exchanged (e.exchanges disk command lives signals) history run) live ?_ ?_ signals
  · intro after deeds begun
    have exchanged : e.Exchanged (e.exchanges disk command lives []) ([] ++ deeds) after :=
      begun.exchanged
    exact exchanged
  · intro signals history signal after deeds before moved
    rw [exchanges_concat]
    exact moved.exchanged before

variable (e disk) in
/-- Whatever comes after its end, a run does nothing more, and is left as it is but for a cancellation. -/
theorem steps_of_finished (signals : List Signal) {run : Run} (ended : run.phase.isFinished = true) :
    ∃ now, e.steps disk signals run = pure (run.heeding now) := by
  induction signals generalizing run with
  | nil =>
    refine ⟨false, ?_⟩
    rw [Run.heeding_false]
    rfl
  | cons signal rest ih =>
    obtain ⟨first, stays⟩ := step_of_finished (e := e) disk signal ended
    have ends : (run.heeding first).phase.isFinished = true := ended
    obtain ⟨later, still⟩ := ih ends
    refine ⟨first || later, ?_⟩
    rw [steps, stays, pure_bind, still]
    simp [Run.heeding, Run.withCommand, Bool.or_assoc]

variable (e disk lives) in
/-- A command that was at its end before it was begun fails at once. -/
theorem execution_of_terminal (past : command.state.isTerminal = true) (signals : List Signal) :
    ∃ now, e.execution disk command lives signals = pure
      (Run.heeding ⟨command, lives, .finished (.error (.invalidState command.state))⟩ now) := by
  rw [execution, start, if_pos past, pure_bind]
  exact steps_of_finished e disk signals rfl

/-- A response that is the result of a command came of its last exchange. -/
theorem answered_of_finished {signals : List Signal} {response : Response}
    (ended : (e.execution disk command lives signals).value.phase = .finished (.ok response)) :
    ∃ last, e.AnswersLast (e.exchanges disk command lives signals)
      (e.execution disk command lives signals).output response last := by
  cases past : command.state.isTerminal with
  | true =>
    obtain ⟨now, failed⟩ := execution_of_terminal e disk lives past signals
    rw [failed] at ended
    cases ended
  | false =>
    have exchanged := execution_exchanged e disk lives past signals
    unfold Exchanged at exchanged
    rw [ended] at exchanged
    obtain ⟨last, answered⟩ := exchanged
    refine ⟨last, answered.toAnswers, answered.final, ?_, answered.body⟩
    rw [← lastHandover_deeds]
    exact answered.handed

end Executor

end Courier
