import Courier.Proofs.Destination
import Courier.Proofs.SendCount

/-!
What a command tells when its retries are exhausted. Every request that was handed over is answered before a run goes on
(`Moved.inFlight`), and the error is made of what came of the last one (`Executor.Attributed`) and of what the command
holds then. A failed send brings the endpoint that it went to; for a response the endpoint is that of the command's
own request, and filters may have sent the request elsewhere (`exhaustion_tells_last_send`).
-/
namespace Courier

namespace Setback

/-- The response, if there was one. -/
def response? : Setback → Option Response
  | failure _ => none
  | response r => some r

/-- The error of the transport, if there was no response. -/
def error? : Setback → Option TransportError
  | failure error => some error
  | response _ => none

theorem status?_eq (setback : Setback) : setback.status? = setback.response?.map (·.status) := by
  cases setback <;> rfl

/-- The error that tells of the exhaustion tells of the setback, as a response or as an error of the transport. -/
theorem told_of_exhaustion {setback : Setback} {c : Command} {attempts : Nat} {endpoint : String}
    {lastStatus : Option Nat} {response : Option Response} {lastError : Option TransportError}
    (told : setback.exhaustion c =
      .retryExhausted attempts endpoint lastStatus response lastError) :
    lastStatus = setback.status? ∧ response = setback.response? ∧ lastError = setback.error? := by
  cases setback with
  | failure error =>
    cases told
    exact ⟨rfl, rfl, rfl⟩
  | response r =>
    cases told
    exact ⟨rfl, rfl, rfl⟩

end Setback

/-- Does the error of a send without a response name the endpoint that the request went to? -/
def FailedSend.NamesEndpoint (send : FailedSend) : Prop :=
  ∀ error, send.setback = .failure error → error.endpoint = send.request.endpoint.text

/-- The number of requests with the transport. -/
def Phase.inFlight : Phase → Nat
  | sending .. => 1
  | _ => 0

namespace Executor

/-- What the last send of a run accounts for: the response that is about to be judged, and the error that the run
ended in when no retry was left. -/
def Attributed (e : Executor) (verdicts : List (Option FailedSend)) (history : List Event) (run : Run) :
    Prop :=
  match run.phase with
  | .reading response body flow =>
    ∀ buffered ∈ e.settled? response body flow,
      ∃ last, verdicts.getLast? = some (some last) ∧ lastHanded history = some last.request ∧
        last.setback = .response buffered
  | .finished (.error (.retryExhausted attempts endpoint lastStatus response lastError)) =>
    e.maxRetries ≤ run.command.retryState.retries ∧
      ∃ last, verdicts.getLast? = some (some last) ∧ lastHanded history = some last.request ∧
        last.setback.exhaustion run.command =
          .retryExhausted attempts endpoint lastStatus response lastError
  | _ => True

end Executor

section

variable {e : Executor} {disk : Disk} {run after : Run} {history deeds : List Event}
  {verdicts : List (Option FailedSend)}

theorem Departed.inFlight {request : Request} {hops : Nat}
    (departed : Departed request hops run after deeds) :
    deeds.countP Event.isHanded = after.phase.inFlight := by
  cases departed with
  | ended kept phase sends => rw [phase]; rfl
  | opening kept phase sends => rw [phase]; rfl
  | sending kept phase sends => rw [phase]; rfl

theorem Concluded.inFlight (concluded : Concluded e run after deeds) :
    deeds.countP Event.isHanded = after.phase.inFlight := by
  have none : after.phase.inFlight = 0 := by
    obtain ⟨outcome, finished⟩ | ⟨delay, pausing⟩ := concluded.finished_or_pausing
    · rw [finished]; rfl
    · rw [pausing]; rfl
  rw [none]
  exact concluded.silent

theorem Begun.inFlight (begun : Begun e disk run after deeds) :
    deeds.countP Event.isHanded = after.phase.inFlight := by
  cases begun with
  | refused filters => rfl
  | filtered filters sent => exact sent.departed.inFlight

theorem Answered.inFlight {request : Request} {hops : Nat} {response : Response}
    (answered : Answered e disk request hops response run after deeds) :
    deeds.countP Event.isHanded = after.phase.inFlight := by
  cases answered with
  | astray next => rfl
  | followed next sent => exact sent.departed.inFlight
  | succeeded next success => rfl
  | stopped next success cancelled => rfl
  | judged next success quiet buffers judged => exact judged.concluded.inFlight
  | reading next success quiet buffers => rfl

/-- A step other than a cancellation gives up no request that is with the transport. -/
theorem Moved.inFlight {signal : Signal} (moved : Moved e disk run signal after deeds)
    (calm : signal.cancels = false) :
    run.phase.inFlight + deeds.countP Event.isHanded =
      (e.verdict? disk run signal).toList.length + after.phase.inFlight := by
  cases moved with
  | unmoved deaf other =>
    rw [Executor.verdict?_of_deaf deaf]
    exact Nat.add_comm _ _
  | marked runs => cases calm
  | stopped waits => cases calm
  | refused phase =>
    rw [Executor.verdict?_of_no_answer rfl, phase]
    rfl
  | opened phase hands =>
    rw [Executor.verdict?_of_no_answer rfl, phase, hands.departed.inFlight]
    rfl
  | failed phase fails =>
    rw [Executor.verdict?_of_sending _ _ phase, phase, fails.concluded.inFlight]
    rfl
  | answered phase answer =>
    rw [Executor.verdict?_of_sending _ _ phase, phase, answer.inFlight]
    rfl
  | judged phase reads judged =>
    rw [Executor.verdict?_of_no_answer rfl, phase, judged.concluded.inFlight]
    rfl
  | begun phase begins =>
    rw [Executor.verdict?_of_no_answer rfl, phase, begins.inFlight]
    rfl

/-- A run that holds no answer has nothing to account for. -/
theorem Executor.Attributed.of_free (free : run.phase.holdsAnswer = false) :
    e.Attributed verdicts history run := by
  unfold Executor.Attributed
  split
  · next response body flow phase =>
    rw [phase] at free
    cases free
  · next phase =>
    rw [phase] at free
    cases free
  · trivial

theorem Unjudged.attributed (leg : Unjudged run after) : e.Attributed verdicts history after :=
  .of_free leg.free

theorem Failed.attributed {error : TransportError} {request : Request}
    (fails : Failed e error run after deeds) (handed : lastHanded history = some request)
    (last : verdicts.getLast? = some (some ⟨request, .failure error⟩)) :
    e.Attributed verdicts (history ++ deeds) after := by
  cases fails with
  | final lasting => exact trivial
  | exhausted passing spent =>
    rw [List.append_nil]
    exact ⟨spent, _, last, handed, rfl⟩
  | rested passing left rest => exact rest.unjudged.attributed

theorem Judged.attributed {response : Response} {request : Request}
    (judged : Judged e response run after deeds) (handed : lastHanded history = some request)
    (last : verdicts.getLast? = some (some ⟨request, .response response⟩)) :
    e.Attributed verdicts (history ++ deeds) after := by
  cases judged with
  | final decision => exact trivial
  | exhausted decision spent =>
    refine ⟨spent, _, last, ?_, rfl⟩
    rw [lastHanded_append_of_isDecided history (by simp [Event.isDecided])]
    exact handed
  | rested decision left rest => exact rest.unjudged.attributed

/-- What an answer comes to accounts for the end that it leads to. -/
theorem Answered.attributed {request : Request} {hops taken : Nat} {body : Option Flow}
    {response : Response}
    (answered : Answered e disk request hops
      { response with requestDigest := e.digestOfTaken body taken } run after deeds)
    (handed : lastHanded history = some request) :
    e.Attributed
      (verdicts ++ [(e.setback? disk body taken (.ok response)).map (FailedSend.mk request)])
      (history ++ deeds) after := by
  cases answered with
  | astray next => exact .of_free (CommandError.isOfSend_of_astray next)
  | followed next sent => exact .of_free sent.unjudged.free
  | succeeded next success => exact trivial
  | stopped next success cancelled => exact .of_free rfl
  | judged next success quiet buffers judged =>
    have final : e.redirectPolicy.isRedirect response = false :=
      RedirectPolicy.not_isRedirect_of_nextRequest next
    have fails : response.isSuccess = false := success
    rw [Executor.setback?_of_bad _ _ final fails, Executor.bufferBody_value, buffers]
    exact judged.attributed handed (List.getLast?_concat ..)
  | reading next success quiet buffers =>
    have final : e.redirectPolicy.isRedirect response = false :=
      RedirectPolicy.not_isRedirect_of_nextRequest next
    have fails : response.isSuccess = false := success
    rw [Executor.setback?_of_bad _ _ final fails, Executor.bufferBody_value, buffers, List.append_nil]
    intro buffered reads
    refine ⟨⟨request, .response buffered⟩, ?_, handed, rfl⟩
    rw [List.getLast?_concat]
    exact congrArg (fun read => some ((read.map Setback.response).map (FailedSend.mk request))) reads

/-- A signal that answers no send leaves the last one what it was. -/
theorem Executor.Attributed.unanswered {signal : Signal} (attributed : e.Attributed verdicts history after)
    (none : e.verdict? disk run signal = none) :
    e.Attributed (verdicts ++ (e.verdict? disk run signal).toList) history after := by
  rw [none, Option.toList_none, List.append_nil]
  exact attributed

theorem Moved.attributed {signal : Signal} (moved : Moved e disk run signal after deeds)
    (placed : Placed e history run) (before : e.Attributed verdicts history run) :
    e.Attributed (verdicts ++ (e.verdict? disk run signal).toList) (history ++ deeds) after := by
  cases moved with
  | unmoved deaf calm =>
    rw [List.append_nil]
    exact before.unanswered (Executor.verdict?_of_deaf deaf)
  | marked runs =>
    rw [List.append_nil]
    exact Executor.Attributed.unanswered before (Executor.verdict?_of_no_answer rfl)
  | stopped waits => exact .of_free rfl
  | refused phase => exact .of_free (Executor.isOfSend_openingError run _ _)
  | opened phase hands => exact hands.unjudged.attributed
  | failed phase fails =>
    rw [Executor.verdict?_of_sending _ _ phase]
    exact fails.attributed (placed.of_sending phase).last (List.getLast?_concat ..)
  | answered phase answer =>
    rw [Executor.verdict?_of_sending _ _ phase]
    exact answer.attributed (placed.of_sending phase).last
  | judged phase reads judged =>
    rw [Executor.verdict?_of_no_answer rfl, Option.toList_none, List.append_nil]
    -- The response that is now judged is what came of the last send.
    unfold Executor.Attributed at before
    rw [phase] at before
    obtain ⟨last, final, handed, response⟩ := before _ reads
    refine judged.attributed handed ?_
    rw [final, ← response]
  | begun phase begins => exact begins.unjudged.attributed

end

namespace Executor

variable {e : Executor} {disk : Disk} {number : Nat} {request : Request} {retrySafe : Bool}
  {cancelled : Bool} {lives : Lives}

theorem execution_attributed (signals : List Signal) :
    e.Attributed (e.verdicts disk (.built number request retrySafe cancelled) lives signals)
      (e.execution disk (.built number request retrySafe cancelled) lives signals).deeds
      (e.execution disk (.built number request retrySafe cancelled) lives signals).value := by
  refine (execution_induction
    (P := fun signals history run => Placed e history run ∧
      e.Attributed (e.verdicts disk (.built number request retrySafe cancelled) lives signals)
        history run) rfl ?_ ?_ signals).2
  · intro after deeds begun
    have placed : Placed e ([] ++ deeds) after := begun.placed rfl
    exact ⟨placed, begun.unjudged.attributed⟩
  · rintro signals history signal after deeds ⟨placed, attributed⟩ moved
    rw [verdicts_concat]
    exact ⟨moved.placed placed, moved.attributed placed attributed⟩

/-- Of a command that is not cancelled every request that was handed over is answered, but for the one that is with
the transport. -/
theorem execution_inFlight (signals : List Signal)
    (quiet : ∀ signal ∈ signals, signal.cancels = false) :
    (e.execution disk (.built number request retrySafe cancelled) lives signals).deeds.countP
        Event.isHanded =
      (e.verdicts disk (.built number request retrySafe cancelled) lives signals).length +
        (e.execution disk (.built number request retrySafe cancelled) lives
          signals).value.phase.inFlight := by
  refine execution_induction
    (P := fun signals history run => (∀ signal ∈ signals, signal.cancels = false) →
      history.countP Event.isHanded =
        (e.verdicts disk (.built number request retrySafe cancelled) lives signals).length +
          run.phase.inFlight) rfl ?_ ?_ signals quiet
  · intro after deeds begun _
    have none : (e.verdicts disk (.built number request retrySafe cancelled) lives []).length = 0 := rfl
    rw [none, Nat.zero_add]
    exact begun.inFlight
  · intro signals history signal after deeds before moved quiet
    have still := before fun earlier belongs => quiet earlier (by simp [belongs])
    have step := moved.inFlight (quiet signal (by simp))
    rw [verdicts_concat, List.length_append, List.countP_append]
    omega

/-- Of such a command that has come to its end every request is answered. -/
theorem verdicts_length_of_finished {signals : List Signal}
    (quiet : ∀ signal ∈ signals, signal.cancels = false) {outcome : Outcome}
    (ended : (e.execution disk (.built number request retrySafe cancelled) lives signals).value.phase =
      .finished outcome) :
    (e.verdicts disk (.built number request retrySafe cancelled) lives signals).length =
      (e.execution disk (.built number request retrySafe cancelled) lives signals).output.countP
        Event.isHanded := by
  rw [← Writer.countP_deeds _ _ Event.isDeed_of_isHanded, execution_inFlight signals quiet, ended]
  rfl

/-- The endpoint that the error names is right for a failed send that named it, for a request that redirects led on,
and where the filters send the command's request to the endpoint it has. -/
theorem exhaustion_endpoint_iff {c : Command} {last : FailedSend} {sends : Nat}
    {attempts : Nat} {endpoint : String} {lastStatus : Option Nat} {response : Option Response}
    {lastError : Option TransportError} (names : last.NamesEndpoint)
    (goal : e.goal? c sends = some last.request.endpoint)
    (told : last.setback.exhaustion c =
      .retryExhausted attempts endpoint lastStatus response lastError) :
    endpoint = last.request.endpoint.text ↔
      last.setback.response? = none ∨ 1 < sends ∨
        ∀ filtered, e.filtered c = .ok filtered →
          filtered.endpoint.text = c.request.endpoint.text := by
  cases setback : last.setback with
  | failure error =>
    rw [setback] at told
    cases told
    exact iff_of_true (names error setback) (.inl rfl)
  | response r =>
    rw [setback] at told
    cases told
    by_cases led : 1 < sends
    · rw [goal?, if_pos led, Option.some.injEq] at goal
      exact iff_of_true (by rw [goal]) (.inr (.inl led))
    · rw [goal?, if_neg led] at goal
      cases filters : e.filtered c with
      | error error =>
        rw [filters] at goal
        cases goal
      | ok filtered =>
        rw [filters] at goal
        simp only [Option.some.injEq] at goal
        simp [Setback.response?, led, goal, eq_comm]

/-- What the exhaustion of the retries is worth. Whatever the executor, the filters, the way with redirects and the
answers of the transport: if a command that is not cancelled has no retry left when it fails, all the retries that
are allowed were made, the error tells how many requests were handed over, each of them was answered, and the
last answer is the one that the error tells, either a response with its status or an error of the transport. The
endpoint is the one that the last request went to exactly if there was no response, or its attempt had followed
redirects, or the filters left the endpoint what it was. -/
theorem exhaustion_tells_last_send (e : Executor) (disk : Disk) (number : Nat) (request : Request)
    (retrySafe : Bool) (lives : Lives) (signals : List Signal)
    (quiet : ∀ signal ∈ signals, signal.cancels = false)
    (names : ∀ send ∈ e.failedSends disk (.built number request retrySafe false) lives signals,
      send.NamesEndpoint) :
    let command := Command.built number request retrySafe false
    let run := e.execution disk command lives signals
    let verdicts := e.verdicts disk command lives signals
    ∀ attempts endpoint lastStatus response lastError,
      let error := CommandError.retryExhausted attempts endpoint lastStatus response lastError
      run.value.phase = .finished (.error error) →
      run.output.countP Event.isPausing = e.maxRetries ∧
      attempts = run.output.countP Event.isHanded ∧
      verdicts.length = run.output.countP Event.isHanded ∧
      error.status = error.response.map (·.status) ∧
      ∃ last, verdicts.getLast? = some (some last) ∧ lastHanded run.output = some last.request ∧
        lastStatus = last.setback.status? ∧ response = last.setback.response? ∧
        lastError = last.setback.error? ∧
        (endpoint = last.request.endpoint.text ↔
          last.setback.response? = none ∨ 1 < latestSends run.output ∨
            ∀ filtered, e.filtered run.value.command = .ok filtered →
              filtered.endpoint.text = run.value.command.request.endpoint.text) := by
  intro command run verdicts attempts endpoint lastStatus response lastError error ended
  have attributed : e.Attributed verdicts run.deeds run.value := execution_attributed signals
  unfold Attributed at attributed
  rw [ended] at attributed
  obtain ⟨spent, last, final, handed, told⟩ := attributed
  have holds : run.value.phase.holdsAnswer = true := by
    rw [ended]
    rfl
  obtain ⟨sent, arrived, goal⟩ := goal_of_answer signals holds
  rw [lastHanded_deeds] at handed
  have same : sent = last.request := Option.some.inj (arrived.symm.trans handed)
  have calm : run.value.command.cancelled = false := execution_uncancelled signals quiet
  have pauses : run.output.countP Event.isPausing = e.maxRetries := by
    have counted : Counted e run.deeds run.value := execution_counted signals
    have within := counted.within
    rw [← Writer.countP_deeds run _ Event.isDeed_of_isPausing, counted.exactly calm]
    omega
  have answers : verdicts.length = run.output.countP Event.isHanded :=
    verdicts_length_of_finished quiet ended
  have sends : attempts = run.output.countP Event.isHanded := by
    have account : SendsCounted _ run.deeds run.value := execution_sendsCounted signals
    have counts := account.told attempts (by rw [ended]; rfl)
    rcases account.once with none | ⟨-, stopped⟩
    · rw [counts, account.sends, none, Writer.countP_deeds run _ Event.isDeed_of_isHanded, Nat.add_zero]
    · rw [ended] at stopped
      simp only [error, Phase.finished.injEq, Except.error.injEq, reduceCtorEq] at stopped
  have known : last ∈ e.failedSends disk command lives signals :=
    List.reduceOption_mem_iff.mpr (List.mem_of_getLast? final)
  have right := exhaustion_endpoint_iff (names last known) (same ▸ goal) told
  obtain ⟨status, answer, trouble⟩ := Setback.told_of_exhaustion told
  have status_of_answer : error.status = error.response.map (·.status) := by
    change lastStatus = response.map (·.status)
    rw [status, answer, Setback.status?_eq]
  exact ⟨pauses, sends, answers, status_of_answer, last, final, handed, status, answer, trouble, right⟩

/-- A command with one retry that a gateway gives up and that then times out tells of the timeout. -/
theorem exhaustion_tells_timeout :
    let home : Request := { endpoint := ⟨"http", some { host := "h" }, .rooted [""], none, none⟩ }
    let rules := ({ maxRetries := 1 } : Config).described
    let command := Command.built 0 home false false
    let signals : List Signal := [.answered (.ok { status := 504 }) 0 false, .pauseOver false,
      .answered (.error (.timeout "http://h/")) 0 false]
    let run := rules.execution {} command .fresh signals
    run.value.phase = .finished
        (.error (.retryExhausted 2 "http://h/" none none (some (.timeout "http://h/")))) ∧
      run.output.countP Event.isPausing = 1 ∧ run.output.countP Event.isHanded = 2 ∧
      ∃ last, lastHanded run.output = some last ∧ last.endpoint.text = "http://h/" := by
  intro home rules command signals run
  have quiet : ∀ signal ∈ signals, signal.cancels = false := by decide
  have ended : run.value.phase = .finished
      (.error (.retryExhausted 2 "http://h/" none none (some (.timeout "http://h/")))) := rfl
  have failed : rules.failedSends {} command .fresh signals =
      [⟨home, .response { status := 504 }⟩, ⟨home, .failure (.timeout "http://h/")⟩] := rfl
  have names : ∀ send ∈ rules.failedSends {} command .fresh signals, send.NamesEndpoint := by
    rw [failed]
    simp only [List.mem_cons, List.not_mem_nil, or_false]
    rintro send (rfl | rfl) error failure
    · cases failure
    · cases failure
      rfl
  obtain ⟨pauses, sends, -, -, last, -, handed, -, response, -, right⟩ :=
    exhaustion_tells_last_send rules {} 0 home false .fresh signals quiet names 2 "http://h/" none none
      (some (.timeout "http://h/")) rfl
  exact ⟨ended, pauses, sends.symm, last.request, handed, (right.mpr (.inl response.symm)).symm⟩

/-- If a filter sends the request to a mirror and the mirror's gateway gives up, the error names the endpoint that the
command was built with. -/
theorem exhaustion_tells_unfiltered_endpoint :
    let home : Request := { endpoint := ⟨"http", some { host := "h" }, .rooted [""], none, none⟩ }
    let mirror : Url := ⟨"http", some { host := "m" }, .rooted [""], none, none⟩
    let rules := ({ maxRetries := 0 } : Config).described.equipped
      [⟨"mirror", fun _ request => .ok (request.withEndpoint mirror)⟩] (.upTo 5)
    let run := rules.execution {} (.built 0 home false false) .fresh
      [.answered (.ok { status := 504 }) 0 false]
    run.value.phase = .finished
        (.error (.retryExhausted 1 "http://h/" (some 504) (some { status := 504 }) none)) ∧
      (lastHanded run.output).map (·.endpoint.text) = some "http://m/" :=
  ⟨rfl, by decide +kernel⟩

end Executor

end Courier
