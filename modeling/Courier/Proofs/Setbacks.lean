import Courier.Proofs.Cancellation
import Courier.Proofs.RetryDecision
import Mathlib.Data.List.ReduceOption

/-!
What the account of a command tells of its failures. Every answer that ends an attempt other than in a success is a
setback (`Executor.setbacks`), and the account is meant to sum them up: how many there were, and the status and the
error code of the last. When a run is over it does so, with one exception (`account_sums_up_iff`): the transport
error that is the result of the command never came to the account, so the account is that of the setbacks before.
-/
namespace Courier

/-- Does the signal bring the answer to a send? -/
def Signal.isAnswer : Signal → Bool
  | .answered .. => true
  | _ => false

/-- A send that ended an attempt in a setback, with the request that was with the transport. -/
structure FailedSend where
  request : Request
  setback : Setback

/-- What an account tells of failures. -/
structure Summary where
  failures : Nat
  lastStatus : Option Nat
  errorCode : Option String
  deriving DecidableEq, Repr

/-- What the account tells of failures. -/
def RetryState.summary (s : RetryState) : Summary := ⟨s.failures, s.lastStatus, s.errorCode⟩

namespace Setback

/-- The status of the response; a send without a response has none. -/
def status? : Setback → Option Nat
  | failure _ => none
  | response r => some r.status

/-- The error code that the policy finds in the response. -/
def errorCode? (policy : RetryPolicy) : Setback → Option String
  | failure _ => none
  | response r => (policy.errorCode r).value

end Setback

/-- Does the error tell of a send that failed? -/
def CommandError.isOfSend : CommandError → Bool
  | transport _ | retryExhausted .. => true
  | _ => false

namespace Phase

/-- Does the run hold, in this phase, what came of a send? -/
def holdsAnswer : Phase → Bool
  | reading .. | finished (.ok _) => true
  | finished (.error error) => error.isOfSend
  | _ => false

/-- The setback that is not on the account by this phase: the response whose body is still being read, and the
transport error that is the result. -/
def unrecorded? (e : Executor) : Phase → Option Setback
  | reading response body flow => (e.settled? response body flow).map .response
  | finished (.error (.transport error)) => some (.failure error)
  | _ => none

theorem unrecorded?_of_holdsAnswer {e : Executor} {phase : Phase} (free : phase.holdsAnswer = false) :
    phase.unrecorded? e = none := by
  cases phase with
  | reading response body flow => cases free
  | finished outcome =>
    cases outcome with
    | ok response => cases free
    | error error => cases error <;> first | rfl | cases free
  | _ => rfl

end Phase

namespace Executor

/-- The summary of setbacks. -/
def summary (e : Executor) (setbacks : List Setback) : Summary where
  failures := setbacks.length
  lastStatus := setbacks.getLast?.bind Setback.status?
  errorCode := setbacks.getLast?.bind (Setback.errorCode? e.retryPolicy)

@[simp] theorem summary_concat (e : Executor) (setbacks : List Setback) (setback : Setback) :
    e.summary (setbacks ++ [setback]) =
      ⟨setbacks.length + 1, setback.status?, setback.errorCode? e.retryPolicy⟩ := by
  simp [summary]

/-- What comes of the send that the signal answers, if it answers one: a setback that ends the attempt, or none. -/
def verdict? (e : Executor) (disk : Disk) (run : Run) (signal : Signal) : Option (Option FailedSend) :=
  match run.phase, signal with
  | .sending request _ body, .answered answer taken _ =>
    some ((e.setback? disk body taken answer).map (FailedSend.mk request))
  | _, _ => none

/-- The send that ends an attempt in a setback on the signal, if one does. -/
def failedSend? (e : Executor) (disk : Disk) (run : Run) (signal : Signal) : Option FailedSend :=
  (e.verdict? disk run signal).join

/-- What came of the sends of a command that were answered, in order. -/
def verdicts (e : Executor) (disk : Disk) (command : Command) (lives : Lives) (signals : List Signal) :
    List (Option FailedSend) :=
  (e.encounters disk signals (e.start disk ⟨command, lives, .idle⟩).value).filterMap
    fun (run, signal) => e.verdict? disk run signal

/-- The sends that ended the attempts of a command in setbacks, in order. -/
def failedSends (e : Executor) (disk : Disk) (command : Command) (lives : Lives)
    (signals : List Signal) : List FailedSend :=
  (e.verdicts disk command lives signals).reduceOption

/-- The setbacks of a command, in order. -/
def setbacks (e : Executor) (disk : Disk) (command : Command) (lives : Lives)
    (signals : List Signal) : List Setback :=
  (e.failedSends disk command lives signals).map (·.setback)

theorem verdicts_concat (e : Executor) (disk : Disk) (command : Command) (lives : Lives)
    (signals : List Signal) (signal : Signal) :
    e.verdicts disk command lives (signals ++ [signal]) = e.verdicts disk command lives signals ++
      (e.verdict? disk (e.execution disk command lives signals).value signal).toList := by
  unfold verdicts
  rw [encounters_append, List.filterMap_append]
  congr 1

theorem failedSends_concat (e : Executor) (disk : Disk) (command : Command) (lives : Lives)
    (signals : List Signal) (signal : Signal) :
    e.failedSends disk command lives (signals ++ [signal]) =
      e.failedSends disk command lives signals ++
        (e.failedSend? disk (e.execution disk command lives signals).value signal).toList := by
  unfold failedSends failedSend?
  rw [verdicts_concat, List.reduceOption_append]
  rcases e.verdict? disk (e.execution disk command lives signals).value signal with _ | _ | _ <;> rfl

theorem setbacks_concat (e : Executor) (disk : Disk) (command : Command) (lives : Lives)
    (signals : List Signal) (signal : Signal) :
    e.setbacks disk command lives (signals ++ [signal]) = e.setbacks disk command lives signals ++
      ((e.failedSend? disk (e.execution disk command lives signals).value signal).map
        (·.setback)).toList := by
  unfold setbacks
  rw [failedSends_concat, List.map_append, Option.toList_map]

end Executor

/-- A redirect that is followed, or leads nowhere, is no final response. -/
theorem RedirectPolicy.not_isRedirect_of_nextRequest {policy : RedirectPolicy} {request : Request}
    {response : Response} {hops : Nat}
    (stays : (policy.nextRequest request response hops).value = .ok Option.none) :
    policy.isRedirect response = false := by
  unfold nextRequest at stays
  split at stays
  · next final => simpa using final
  · split at stays
    · cases stays
    · split at stays <;> cases stays

theorem RedirectPolicy.isRedirect_of_leads {policy : RedirectPolicy} {request next : Request}
    {response : Response} {hops : Nat}
    (leads : (policy.nextRequest request response hops).value = .ok (some next)) :
    policy.isRedirect response = true := by
  by_contra final
  rw [Bool.not_eq_true] at final
  rw [nextRequest_of_not_isRedirect final] at leads
  cases leads

/-- An error that a redirect ends in tells of no send. -/
theorem CommandError.isOfSend_of_astray {policy : RedirectPolicy} {request : Request}
    {response : Response} {hops : Nat} {error : CommandError}
    (astray : (policy.nextRequest request response hops).value = .error error) :
    error.isOfSend = false := by
  obtain ⟨count, rfl⟩ | ⟨location, rfl⟩ := RedirectPolicy.error_of_astray astray
  · rfl
  · rfl

/-- A leg in which no send is judged: the account tells the same as before, and no answer is held. -/
structure Unjudged (run after : Run) : Prop where
  summary : after.command.retryState.summary = run.command.retryState.summary
  free : after.phase.holdsAnswer = false

section

variable {e : Executor} {disk : Disk} {run after : Run} {deeds : List Event}

theorem HandedOver.unjudged {request : Request} {hops : Nat} {body : Option Flow}
    (hands : HandedOver request hops body run after deeds) : Unjudged run after := by
  cases hands with
  | stopped cancelled => exact ⟨rfl, rfl⟩
  | handed quiet => exact ⟨rfl, rfl⟩

theorem Executor.isOfSend_openingError (run : Run) (request : Request) (error : PayloadError) :
    (openingError run request error).isOfSend = false := by
  cases error <;> rfl

theorem Dispatched.unjudged {request : Request} {hops : Nat}
    (sent : Dispatched disk request hops run after deeds) : Unjudged run after := by
  cases sent with
  | stopped cancelled => exact ⟨rfl, rfl⟩
  | bodiless quiet empty hands => exact hands.unjudged
  | refused quiet full opens => exact ⟨rfl, Executor.isOfSend_openingError run request _⟩
  | opened quiet full opens hands => exact ⟨hands.unjudged.summary, hands.unjudged.free⟩
  | opening quiet full opens file live => exact ⟨rfl, rfl⟩

theorem Begun.unjudged (begun : Begun e disk run after deeds) : Unjudged run after := by
  cases begun with
  | refused filters => exact ⟨rfl, rfl⟩
  | filtered filters sent => exact ⟨sent.unjudged.summary, sent.unjudged.free⟩

theorem Rested.unjudged {delay : Duration} (rest : Rested delay run after deeds) :
    Unjudged run after := by
  cases rest with
  | stopped cancelled => exact ⟨rfl, rfl⟩
  | pausing quiet => exact ⟨rfl, rfl⟩

end

/-- The account of a run that met these setbacks sums up all but the one that the phase holds back. A run that was
cancelled may have left a response unread. -/
inductive Recorded (e : Executor) (setbacks : List Setback) (run : Run) : Prop
  | cancelled (count : Nat) (stopped : run.phase = .finished (.error (.cancelled count)))
  | told (known : List Setback)
      (all : setbacks = known ++ (run.phase.unrecorded? e).toList)
      (summary : run.command.retryState.summary = e.summary known)

section

variable {e : Executor} {disk : Disk} {run after : Run} {deeds : List Event}
  {known : List Setback}

theorem Unjudged.recorded (leg : Unjudged run after)
    (summary : run.command.retryState.summary = e.summary known) : Recorded e known after := by
  refine .told known ?_ (leg.summary.trans summary)
  rw [Phase.unrecorded?_of_holdsAnswer leg.free, Option.toList_none, List.append_nil]

/-- A send without a response comes to the account. -/
theorem Command.summary_unanswered {command : Command} (error : TransportError)
    (summary : command.retryState.summary = e.summary known) :
    command.unanswered.retryState.summary = e.summary (known ++ [.failure error]) := by
  have failures : command.retryState.failures = known.length := congrArg Summary.failures summary
  rw [Executor.summary_concat, ← failures]
  rfl

/-- So does a response, with the error code that the policy finds in it. -/
theorem Command.summary_answeredBy {command : Command} (response : Response)
    (summary : command.retryState.summary = e.summary known) :
    (command.answeredBy e response).retryState.summary =
      e.summary (known ++ [.response response]) := by
  have failures : command.retryState.failures = known.length := congrArg Summary.failures summary
  rw [Executor.summary_concat, ← failures]
  rfl

theorem Failed.recorded {error : TransportError} (fails : Failed e error run after deeds)
    (summary : run.command.retryState.summary = e.summary known) :
    Recorded e (known ++ [.failure error]) after := by
  have charged := Command.summary_unanswered error summary
  cases fails with
  | final lasting => exact .told known rfl summary
  | exhausted passing spent => exact .told _ (List.append_nil _).symm charged
  | rested passing left rest => exact rest.unjudged.recorded charged

theorem Judged.recorded {response : Response} (judged : Judged e response run after deeds)
    (summary : run.command.retryState.summary = e.summary known) :
    Recorded e (known ++ [.response response]) after := by
  have charged := Command.summary_answeredBy response summary
  cases judged with
  | final decision => exact .told _ (List.append_nil _).symm charged
  | exhausted decision spent => exact .told _ (List.append_nil _).symm charged
  | rested decision left rest => exact rest.unjudged.recorded charged

/-- A redirect or a success is no setback. -/
theorem Executor.setback?_of_good {response : Response} (body : Option Flow) (taken : Nat)
    (good : (e.redirectPolicy.isRedirect response || response.isSuccess) = true) :
    e.setback? disk body taken (.ok response) = none := by
  rw [setback?, if_pos good]

/-- Any other response is one, with what is read of its body. -/
theorem Executor.setback?_of_bad {response : Response} (body : Option Flow) (taken : Nat)
    (final : e.redirectPolicy.isRedirect response = false) (fails : response.isSuccess = false) :
    e.setback? disk body taken (.ok response) =
      (({ response with requestDigest := e.digestOfTaken body taken } : Response).bufferBody disk
        e.maxErrorBodyBytes).value.map .response := by
  rw [setback?, final, fails, Bool.or_self, if_neg Bool.false_ne_true]

/-- What an answer adds to the setbacks comes to the account, at once or when its body is read. -/
theorem Answered.recorded {request : Request} {hops taken : Nat} {body : Option Flow}
    {response : Response}
    (answered : Answered e disk request hops
      { response with requestDigest := e.digestOfTaken body taken } run after deeds)
    (summary : run.command.retryState.summary = e.summary known) :
    Recorded e (known ++ (e.setback? disk body taken (.ok response)).toList) after := by
  cases answered with
  | @astray error next =>
    have redirects : e.redirectPolicy.isRedirect response = true :=
      RedirectPolicy.isRedirect_of_astray next
    have free : (run.ended (.error error)).phase.holdsAnswer = false :=
      CommandError.isOfSend_of_astray next
    rw [Executor.setback?_of_good _ _ (by rw [redirects, Bool.true_or]), Option.toList_none,
      List.append_nil]
    exact Unjudged.recorded ⟨rfl, free⟩ summary
  | followed next sent =>
    have redirects : e.redirectPolicy.isRedirect response = true :=
      RedirectPolicy.isRedirect_of_leads next
    rw [Executor.setback?_of_good _ _ (by rw [redirects, Bool.true_or]), Option.toList_none,
      List.append_nil]
    exact Unjudged.recorded ⟨sent.unjudged.summary, sent.unjudged.free⟩ summary
  | succeeded next success =>
    have good : response.isSuccess = true := success
    rw [Executor.setback?_of_good _ _ (by rw [good, Bool.or_true]), Option.toList_none,
      List.append_nil]
    exact .told known (List.append_nil _).symm summary
  | stopped next success cancelled => exact .cancelled _ rfl
  | judged next success quiet buffers judged =>
    have final : e.redirectPolicy.isRedirect response = false :=
      RedirectPolicy.not_isRedirect_of_nextRequest next
    have fails : response.isSuccess = false := success
    rw [Executor.setback?_of_bad _ _ final fails, Executor.bufferBody_value, buffers]
    exact judged.recorded summary
  | reading next success quiet buffers =>
    have final : e.redirectPolicy.isRedirect response = false :=
      RedirectPolicy.not_isRedirect_of_nextRequest next
    have fails : response.isSuccess = false := success
    rw [Executor.setback?_of_bad _ _ final fails, Executor.bufferBody_value, buffers]
    exact .told known rfl summary

/-- Only an answer settles what comes of a send. -/
theorem Executor.verdict?_of_no_answer {signal : Signal} (other : signal.isAnswer = false) :
    e.verdict? disk run signal = none := by
  unfold verdict?
  split
  · cases other
  · rfl

theorem Executor.verdict?_of_deaf {signal : Signal} (deaf : e.awaits run.phase signal = false) :
    e.verdict? disk run signal = none := by
  unfold verdict?
  split
  · next phase =>
    rw [phase] at deaf
    cases deaf
  · rfl

theorem Executor.verdict?_of_sending {request : Request} {hops taken : Nat} {body : Option Flow}
    (answer : Except TransportError Response) (meanwhile : Bool)
    (phase : run.phase = .sending request hops body) :
    e.verdict? disk run (.answered answer taken meanwhile) =
      some ((e.setback? disk body taken answer).map (FailedSend.mk request)) := by
  simp only [verdict?, phase]

theorem Executor.failedSend?_of_no_answer {signal : Signal} (other : signal.isAnswer = false) :
    e.failedSend? disk run signal = none := by
  rw [failedSend?, verdict?_of_no_answer other, Option.join_none]

theorem Executor.failedSend?_of_deaf {signal : Signal} (deaf : e.awaits run.phase signal = false) :
    e.failedSend? disk run signal = none := by
  rw [failedSend?, verdict?_of_deaf deaf, Option.join_none]

theorem Executor.failedSend?_of_sending {request : Request} {hops taken : Nat} {body : Option Flow}
    (answer : Except TransportError Response) (meanwhile : Bool)
    (phase : run.phase = .sending request hops body) :
    e.failedSend? disk run (.answered answer taken meanwhile) =
      (e.setback? disk body taken answer).map (FailedSend.mk request) := by
  rw [failedSend?, verdict?_of_sending answer meanwhile phase, Option.join_some]

/-- A signal that no answer comes with adds no setback. -/
theorem Recorded.unfailed {setbacks : List Setback} {signal : Signal}
    (recorded : Recorded e setbacks after) (none : e.failedSend? disk run signal = none) :
    Recorded e (setbacks ++ ((e.failedSend? disk run signal).map (·.setback)).toList) after := by
  rw [none]
  simpa using recorded

/-- While a run goes on and holds no answer, all setbacks are on the account. -/
theorem Recorded.summary_of_holdsAnswer {setbacks : List Setback} (recorded : Recorded e setbacks run)
    (free : run.phase.holdsAnswer = false) (runs : run.phase.isFinished = false) :
    run.command.retryState.summary = e.summary setbacks := by
  cases recorded with
  | cancelled count stopped =>
    rw [stopped] at runs
    cases runs
  | told known all summary =>
    rw [Phase.unrecorded?_of_holdsAnswer free, Option.toList_none, List.append_nil] at all
    rw [all]
    exact summary

/-- Every step brings the setback that it meets to the account, or the phase holds it back. -/
theorem Moved.recorded {signal : Signal} {setbacks : List Setback}
    (moved : Moved e disk run signal after deeds) (before : Recorded e setbacks run) :
    Recorded e (setbacks ++ ((e.failedSend? disk run signal).map (·.setback)).toList) after := by
  cases moved with
  | unmoved deaf calm => exact before.unfailed (Executor.failedSend?_of_deaf deaf)
  | marked runs =>
    refine Recorded.unfailed ?_ (Executor.failedSend?_of_no_answer rfl)
    cases before with
    | cancelled count stopped => exact .cancelled count stopped
    | told known all summary => exact .told known all summary
  | stopped waits => exact .cancelled _ rfl
  | @refused request hops error phase =>
    refine Recorded.unfailed ?_ (Executor.failedSend?_of_no_answer rfl)
    have summary := before.summary_of_holdsAnswer (by rw [phase]; rfl) (by rw [phase]; rfl)
    exact Unjudged.recorded ⟨rfl, Executor.isOfSend_openingError run request error⟩ summary
  | opened phase hands =>
    refine Recorded.unfailed ?_ (Executor.failedSend?_of_no_answer rfl)
    exact hands.unjudged.recorded
      (before.summary_of_holdsAnswer (by rw [phase]; rfl) (by rw [phase]; rfl))
  | failed phase fails =>
    have summary := before.summary_of_holdsAnswer (by rw [phase]; rfl) (by rw [phase]; rfl)
    rw [Executor.failedSend?_of_sending _ _ phase]
    exact fails.recorded summary
  | @answered request hops body response taken meanwhile after deeds phase answer =>
    have summary := before.summary_of_holdsAnswer (by rw [phase]; rfl) (by rw [phase]; rfl)
    rw [Executor.failedSend?_of_sending _ _ phase, Option.map_map]
    have recorded := answer.recorded summary
    cases met : e.setback? disk body taken (.ok response) with
    | none => simpa [met] using recorded
    | some setback => simpa [met] using recorded
  | judged phase reads judged =>
    refine Recorded.unfailed ?_ (Executor.failedSend?_of_no_answer rfl)
    -- The response that is now judged is the one that the phase held back.
    cases before with
    | cancelled count stopped =>
      rw [phase] at stopped
      cases stopped
    | told known all summary =>
      rw [phase, Phase.unrecorded?, reads] at all
      rw [all]
      exact judged.recorded summary
  | begun phase begins =>
    refine Recorded.unfailed ?_ (Executor.failedSend?_of_no_answer rfl)
    exact begins.unjudged.recorded
      (before.summary_of_holdsAnswer (by rw [phase]; rfl) (by rw [phase]; rfl))

end

namespace Executor

variable {e : Executor} {disk : Disk} {number : Nat} {request : Request} {retrySafe : Bool}
  {cancelled : Bool} {lives : Lives}

theorem execution_recorded (signals : List Signal) :
    Recorded e (e.setbacks disk (.built number request retrySafe cancelled) lives signals)
      (e.execution disk (.built number request retrySafe cancelled) lives signals).value := by
  refine execution_induction
    (P := fun signals _ run =>
      Recorded e (e.setbacks disk (.built number request retrySafe cancelled) lives signals) run)
    rfl ?_ ?_ signals
  · intro after deeds begun
    exact begun.unjudged.recorded rfl
  · intro signals history signal after deeds before moved
    rw [setbacks_concat]
    exact moved.recorded before

/-- What the account of a command is worth. Whatever the executor, the answers of the transport and the moment of a
cancellation: when a run is over and did not end as cancelled, the account sums up the setbacks of the run exactly
if its result is no transport error. Such a result is the last setback, and the account is that of the ones before. -/
theorem account_sums_up_iff (e : Executor) (disk : Disk) (number : Nat) (request : Request)
    (retrySafe cancelled : Bool) (lives : Lives) (signals : List Signal) (outcome : Outcome)
    (ended : (e.execution disk (.built number request retrySafe cancelled) lives signals).value.phase =
      .finished outcome)
    (uncancelled : ∀ count, outcome ≠ .error (.cancelled count)) :
    let command := Command.built number request retrySafe cancelled
    let account := (e.execution disk command lives signals).value.command.retryState
    let setbacks := e.setbacks disk command lives signals
    (account.summary = e.summary setbacks ↔ ∀ error, outcome ≠ .error (.transport error)) ∧
      ∀ error, outcome = .error (.transport error) →
        ∃ earlier, setbacks = earlier ++ [.failure error] ∧ account.summary = e.summary earlier := by
  intro command account setbacks
  have recorded : Recorded e setbacks (e.execution disk command lives signals).value :=
    execution_recorded signals
  cases recorded with
  | cancelled count stopped =>
    rw [stopped] at ended
    cases ended
    exact absurd rfl (uncancelled count)
  | told known all summary =>
    have summary : account.summary = e.summary known := summary
    rw [ended] at all
    by_cases result : ∃ error, outcome = .error (.transport error)
    · obtain ⟨error, rfl⟩ := result
      have all : setbacks = known ++ [.failure error] := all
      refine ⟨iff_of_false ?_ (fun none => none error rfl), ?_⟩
      · -- The account is short of the setback that is the result.
        rw [summary, all]
        intro same
        have counts := congrArg Summary.failures same
        simp [Executor.summary] at counts
      · rintro _ ⟨⟩
        exact ⟨known, all, summary⟩
    · have none : ∀ error, outcome ≠ .error (.transport error) := fun error same => result ⟨error, same⟩
      have full : setbacks = known := by
        have nothing : (Phase.finished outcome).unrecorded? e = Option.none := by
          unfold Phase.unrecorded?
          split
          · next clash => cases clash
          · next error clash =>
            cases clash
            exact absurd rfl (none error)
          · rfl
        rw [all, nothing, Option.toList_none, List.append_nil]
      rw [full]
      exact ⟨iff_of_true summary none, fun error same => absurd same (none error)⟩

/-- A command that is answered with 504 and then with success has one setback on its account. -/
theorem account_sums_up_gateway_timeout :
    let home : Request := { endpoint := ⟨"http", some { host := "h" }, .rooted [""], none, none⟩ }
    let rules := ({} : Config).described
    let command := Command.built 0 home false false
    let signals : List Signal :=
      [.answered (.ok { status := 504 }) 0 false, .pauseOver false, .answered (.ok { status := 200 }) 0 false]
    (rules.execution {} command .fresh signals).value.command.retryState.summary =
        rules.summary (rules.setbacks {} command .fresh signals) ∧
      (rules.setbacks {} command .fresh signals).map Setback.status? = [some 504] := by
  intro home rules command signals
  have ended : (rules.execution {} command .fresh signals).value.phase =
      .finished (.ok { status := 200 }) := rfl
  have sums := account_sums_up_iff rules {} 0 home false false .fresh signals (.ok { status := 200 }) ended
    nofun
  exact ⟨sums.1.mpr nofun, by decide +kernel⟩

/-- If a failure of the secure channel takes the place of the success, the account still tells of one setback, with
the status of the 504. -/
theorem account_short_of_secure_channel_failure :
    let home : Request := { endpoint := ⟨"http", some { host := "h" }, .rooted [""], none, none⟩ }
    let rules := ({} : Config).described
    let command := Command.built 0 home false false
    let signals : List Signal :=
      [.answered (.ok { status := 504 }) 0 false, .pauseOver false,
        .answered (.error (.tls "http://h/" ⟨"bad certificate", []⟩)) 0 false]
    (rules.execution {} command .fresh signals).value.phase.isFinished = true ∧
      (rules.setbacks {} command .fresh signals).map Setback.status? = [some 504, none] ∧
      (rules.execution {} command .fresh signals).value.command.retryState.summary = ⟨1, some 504, none⟩ := by
  decide +kernel

end Executor

end Courier
