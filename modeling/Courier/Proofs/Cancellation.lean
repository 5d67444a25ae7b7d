import Courier.Proofs.Bounds
import Courier.Proofs.Release

/-!
What a cancellation does. A leg at whose end the command is cancelled ends the run and hands nothing over
(`Hushed`), since every way to a send and to a pause asks first whether the command is cancelled. So a run whose
command is cancelled is over, or waits for a file that is being opened (`Run.Heeds`), and when the file is open
it is over without a send. Only what the run waits for and what comes in the very step that cancels is still
taken: an answer of the transport or an error body may then end the run by itself, and a filter may fail when
a pause is over.
-/
namespace Courier

namespace Phase

/-- Does the run wait for a file? -/
def isOpening : Phase → Bool
  | opening .. => true
  | _ => false

/-- Does a cancellation decide what comes of a run in this phase? While it waits for a file it does if the file can be
opened. -/
def yields : Phase → Bool
  | opening _ _ (.ok _) | sending .. | reading .. | pausing _ => true
  | _ => false

theorem exists_of_isOpening {phase : Phase} (opens : phase.isOpening = true) :
    ∃ request hops opened, phase = .opening request hops opened := by
  cases phase <;> simp_all [isOpening]

theorem isStoppable_or_opening_of_yields {phase : Phase} (yields : phase.yields = true) :
    phase.isStoppable = true ∨ ∃ request hops stream, phase = .opening request hops (.ok stream) := by
  cases phase with
  | opening request hops opened =>
    cases opened with
    | error error => cases yields
    | ok stream => exact .inr ⟨request, hops, stream, rfl⟩
  | sending request hops body => exact .inl rfl
  | reading response body flow => exact .inl rfl
  | pausing delay => exact .inl rfl
  | idle => cases yields
  | finished outcome => cases yields

end Phase

/-- A leg at whose end the command is cancelled ends the run and hands nothing over. -/
def Hushed (after : Run) (deeds : List Event) : Prop :=
  after.command.cancelled = true →
    after.phase.isFinished = true ∧ deeds.countP Event.isHanded = 0

section

variable {e : Executor} {disk : Disk} {run after : Run} {deeds : List Event}

theorem Hushed.of_quiet (quiet : after.command.cancelled = false) : Hushed after deeds := by
  intro cancelled
  rw [quiet] at cancelled
  cases cancelled

theorem Hushed.ended (run : Run) (outcome : Outcome) : Hushed (run.ended outcome) [] :=
  fun _ => ⟨rfl, rfl⟩

theorem HandedOver.hushed {request : Request} {hops : Nat} {body : Option Flow}
    (hands : HandedOver request hops body run after deeds) : Hushed after deeds := by
  cases hands with
  | stopped cancelled => exact .ended _ _
  | handed quiet => exact .of_quiet quiet

theorem Dispatched.hushed {request : Request} {hops : Nat}
    (sent : Dispatched disk request hops run after deeds) : Hushed after deeds := by
  cases sent with
  | stopped cancelled => exact .ended _ _
  | bodiless quiet empty hands => exact hands.hushed
  | refused quiet full opens => exact .ended _ _
  | opened quiet full opens hands => exact hands.hushed
  | opening quiet full opens file live => exact .of_quiet quiet

theorem Begun.hushed (begun : Begun e disk run after deeds) : Hushed after deeds := by
  cases begun with
  | refused filters => exact .ended _ _
  | filtered filters sent => exact sent.hushed

theorem Rested.hushed {delay : Duration} (rest : Rested delay run after deeds) :
    Hushed after deeds := by
  cases rest with
  | stopped cancelled => exact .ended _ _
  | pausing quiet => exact .of_quiet quiet

/-- What is concluded from a send is no other send. -/
theorem Concluded.silent (concluded : Concluded e run after deeds) :
    deeds.countP Event.isHanded = 0 := by
  cases concluded with
  | ended charge decided => exact Event.countP_isHanded_of_isDecided decided
  | rested charge decided left rest =>
    rw [List.countP_append, Event.countP_isHanded_of_isDecided decided]
    cases rest <;> rfl

theorem Concluded.hushed (concluded : Concluded e run after deeds) : Hushed after deeds := by
  refine fun cancelled => ⟨?_, concluded.silent⟩
  cases concluded with
  | ended charge decided => rfl
  | rested charge decided left rest => exact (rest.hushed cancelled).1

theorem Answered.hushed {request : Request} {hops : Nat} {response : Response}
    (answered : Answered e disk request hops response run after deeds) : Hushed after deeds := by
  cases answered with
  | astray next => exact .ended _ _
  | followed next sent => exact sent.hushed
  | succeeded next success => exact .ended _ _
  | stopped next success cancelled => exact .ended _ _
  | judged next success quiet buffers judged => exact judged.concluded.hushed
  | reading next success quiet buffers => exact .of_quiet quiet

/-- A run that heeds a cancellation: if its command is cancelled it is over, or waits for a file. -/
def Run.Heeds (run : Run) : Prop :=
  run.command.cancelled = true → run.phase.isFinished = true ∨ run.phase.isOpening = true

theorem Hushed.heeds (hushed : Hushed after deeds) :
    after.Heeds ∧ (after.command.cancelled = true → deeds.countP Event.isHanded = 0) :=
  ⟨fun cancelled => .inl (hushed cancelled).1, fun cancelled => (hushed cancelled).2⟩

/-- Every step of a run that is begun heeds a cancellation, and hands nothing over if the command is cancelled by
then. -/
theorem Moved.heeds {signal : Signal} (moved : Moved e disk run signal after deeds)
    (begun : run.phase ≠ .idle) (before : run.Heeds) :
    after.Heeds ∧ (after.command.cancelled = true → deeds.countP Event.isHanded = 0) := by
  cases moved with
  | unmoved deaf calm => exact ⟨before, fun _ => rfl⟩
  | marked runs =>
    refine ⟨fun _ => ?_, fun _ => rfl⟩
    show run.phase.isFinished = true ∨ run.phase.isOpening = true
    cases phase : run.phase with
    | idle => exact absurd phase begun
    | opening request hops opened => exact .inr rfl
    | finished outcome => exact .inl rfl
    | _ => simp [phase, Phase.isStoppable] at runs
  | stopped waits => exact (Hushed.ended _ _).heeds
  | refused phase => exact (Hushed.ended _ _).heeds
  | opened phase hands => exact hands.hushed.heeds
  | failed phase fails => exact fails.concluded.hushed.heeds
  | answered phase answer => exact answer.hushed.heeds
  | judged phase reads judged => exact judged.concluded.hushed.heeds
  | begun phase begins => exact begins.hushed.heeds

theorem Moved.stays_cancelled {signal : Signal} (moved : Moved e disk run signal after deeds)
    (cancelled : run.command.cancelled = true) : after.command.cancelled = true := by
  obtain ⟨now, -, same⟩ := moved.cancelled
  rw [same, cancelled, Bool.true_or]

/-- No step leads on from the end of a run. -/
theorem Moved.finished {signal : Signal} (moved : Moved e disk run signal after deeds)
    {outcome : Outcome} (ended : run.phase = .finished outcome) :
    after.phase = .finished outcome ∧ after.command.attempts = run.command.attempts := by
  cases moved with
  | unmoved deaf calm => exact ⟨ended, rfl⟩
  | marked runs => exact ⟨ended, rfl⟩
  | stopped waits => simp [ended, Phase.isStoppable] at waits
  | refused phase => simp [ended] at phase
  | opened phase hands => simp [ended] at phase
  | failed phase fails => simp [ended] at phase
  | answered phase answer => simp [ended] at phase
  | judged phase reads judged => simp [ended] at phase
  | begun phase begins => simp [ended] at phase

theorem HandedOver.of_cancelled {request : Request} {hops : Nat} {body : Option Flow}
    (hands : HandedOver request hops body run after deeds) (cancelled : run.command.cancelled = true) :
    after = (run.withCommand run.command.sent).stopped := by
  cases hands with
  | stopped _ => rfl
  | handed quiet => simp [cancelled] at quiet

theorem Dispatched.of_cancelled {request : Request} {hops : Nat}
    (sent : Dispatched disk request hops run after deeds) (cancelled : run.command.cancelled = true) :
    after = run.stopped := by
  cases sent with
  | stopped _ => rfl
  | bodiless quiet => simp [cancelled] at quiet
  | refused quiet => simp [cancelled] at quiet
  | opened quiet => simp [cancelled] at quiet
  | opening quiet => simp [cancelled] at quiet

/-- A run that waits for a file waits on, at most keeping a cancellation in mind, or goes on with what comes of the
opening. -/
theorem Moved.of_opening {signal : Signal} (moved : Moved e disk run signal after deeds)
    {request : Request} {hops : Nat} {opened : Except PayloadError Stream}
    (phase : run.phase = .opening request hops opened) :
    (signal ≠ .opened ∧ ∃ now, after = run.heeding now) ∨
    (∃ error, opened = .error error ∧
      after = run.ended (.error (Executor.openingError run request error))) ∨
    ∃ stream, opened = .ok stream ∧
      HandedOver request hops (some (stream.flow disk)) run after deeds := by
  cases moved with
  | unmoved deaf calm =>
    refine .inl ⟨fun same => ?_, false, run.heeding_false.symm⟩
    simp [same, phase, Executor.awaits] at deaf
  | marked runs =>
    refine .inl ⟨fun same => ?_, true, rfl⟩
    cases same
  | stopped waits => simp [phase, Phase.isStoppable] at waits
  | refused refuses =>
    rw [phase] at refuses
    cases refuses
    exact .inr (.inl ⟨_, rfl, rfl⟩)
  | opened opens hands =>
    rw [phase] at opens
    cases opens
    exact .inr (.inr ⟨_, rfl, hands⟩)
  | failed sending fails => simp [phase] at sending
  | answered sending answer => simp [phase] at sending
  | judged reading reads judged => simp [phase] at reading
  | begun pausing begins => simp [phase] at pausing

/-- A cancelled run that waits for a file waits on, or ends when the file is open. -/
theorem Moved.over_or_opening {signal : Signal} (moved : Moved e disk run signal after deeds)
    (opens : run.phase.isOpening = true) (cancelled : run.command.cancelled = true) :
    after.phase.isFinished = true ∨ after.phase.isOpening = true ∧ signal ≠ .opened := by
  obtain ⟨request, hops, opened, phase⟩ := Phase.exists_of_isOpening opens
  obtain ⟨other, now, rfl⟩ | ⟨error, -, rfl⟩ | ⟨stream, -, hands⟩ := moved.of_opening phase
  · exact .inr ⟨opens, other⟩
  · exact .inl rfl
  · rw [hands.of_cancelled cancelled]
    exact .inl rfl

/-- A run that ends as cancelled: it is over so, or waits for a file that can be opened. -/
inductive Run.Doomed (run : Run) : Prop
  | ended (phase : run.phase = .finished (.error (.cancelled run.command.attempts)))
  | opening {request : Request} {hops : Nat} {stream : Stream}
      (phase : run.phase = .opening request hops (.ok stream))
      (cancelled : run.command.cancelled = true)

/-- A cancellation that comes while a run waits dooms it. -/
theorem Moved.doomed_of_cancelled (moved : Moved e disk run .cancelled after deeds)
    (waits : run.phase.yields = true) : after.Doomed := by
  obtain stops | ⟨request, hops, stream, phase⟩ := Phase.isStoppable_or_opening_of_yields waits
  · cases moved with
    | unmoved deaf calm => exact absurd rfl calm
    | marked runs =>
      rw [stops] at runs
      cases runs
    | stopped waits => exact .ended rfl
  · cases moved with
    | unmoved deaf calm => exact absurd rfl calm
    | marked runs => exact .opening phase (Bool.or_true _)
    | stopped stops => simp [phase, Phase.isStoppable] at stops

/-- Nothing saves a doomed run. -/
theorem Moved.doomed {signal : Signal} (moved : Moved e disk run signal after deeds)
    (before : run.Doomed) : after.Doomed := by
  cases before with
  | ended phase =>
    obtain ⟨same, sends⟩ := moved.finished phase
    exact .ended (by rw [same, sends])
  | opening phase cancelled =>
    obtain ⟨-, now, rfl⟩ | ⟨error, fails, -⟩ | ⟨stream, -, hands⟩ := moved.of_opening phase
    · exact .opening phase (by rw [Run.heeding, Run.withCommand_command, cancelled, Bool.true_or])
    · cases fails
    · rw [hands.of_cancelled cancelled]
      exact .ended rfl

end

/-- Where an answer that comes together with a cancellation leads: the run ends as cancelled, or as the answer alone
ends it. A response does that only if it is a success or a redirect, never if it would have to be judged. -/
def Overruled (e : Executor) (answer : Except TransportError Response) (after alone : Run) : Prop :=
  after.phase = .finished (.error (.cancelled after.command.attempts)) ∨
    after.phase = alone.phase ∧ ∀ response, answer = .ok response →
      response.isSuccess = true ∨ e.redirectPolicy.isRedirect response = true

/-- How a cancelled command ends by a response that is still judged: with the response if the policy does not retry it,
as exhausted if no retry is left, and as cancelled where its pause would begin. -/
def Executor.lastWord (e : Executor) (command : Command) (response : Response) : Outcome :=
  match (e.retryPolicy.shouldRetry (command.answeredBy e response) response).value with
  | .doNotRetry _ => .ok response
  | .retry _ _ =>
    if e.maxRetries ≤ command.retryState.retries then
      .error (.retryExhausted command.attempts command.request.endpoint.text (some response.status)
        (some response) none)
    else .error (.cancelled command.attempts)

/-- How a cancelled command ends whose pause is over: the filters see its request once more, and it is not sent. -/
def Executor.lastTry (e : Executor) (command : Command) : CommandError :=
  match (e.filters.apply command.freshName command.request).value with
  | .error error => .filter error
  | .ok _ => .cancelled command.attempts

section

variable {e : Executor} {disk : Disk} {run after alone : Run} {deeds others : List Event}

theorem Rested.of_cancelled {delay : Duration} (rest : Rested delay run after deeds)
    (cancelled : run.command.cancelled = true) :
    after = (run.withCommand run.command.resting).stopped := by
  cases rest with
  | stopped _ => rfl
  | pausing quiet => simp [cancelled] at quiet

theorem Judged.of_cancelled {response : Response} (judged : Judged e response run after deeds)
    (cancelled : run.command.cancelled = true) :
    after.phase = .finished (e.lastWord run.command response) := by
  unfold Executor.lastWord
  cases judged with
  | final decision =>
    rw [decision]
    rfl
  | exhausted decision spent =>
    simp only [decision, if_pos spent]
    rfl
  | rested decision left rest =>
    simp only [decision, if_neg (Nat.not_le_of_lt left)]
    rw [rest.of_cancelled cancelled]
    rfl

theorem Begun.of_cancelled (begun : Begun e disk run after deeds)
    (cancelled : run.command.cancelled = true) :
    after.phase = .finished (.error (e.lastTry run.command)) := by
  unfold Executor.lastTry
  cases begun with
  | refused filters =>
    rw [filters]
    rfl
  | filtered filters sent =>
    rw [filters, sent.of_cancelled cancelled]
    rfl

theorem Overruled.of_error {error : TransportError} (same : after.phase = alone.phase) :
    Overruled e (.error error) after alone := by
  refine .inr ⟨same, fun response answers => ?_⟩
  cases answers

theorem Failed.overruled {error : TransportError} (fails : Failed e error (run.heeding true) after deeds)
    (otherwise : Failed e error (run.heeding false) alone others) :
    Overruled e (.error error) after alone := by
  rw [Run.heeding_false] at otherwise
  cases fails with
  | final lasting =>
    cases otherwise with
    | final _ => exact .of_error rfl
    | exhausted passing _ => exact absurd (lasting.symm.trans passing) nofun
    | rested passing _ _ => exact absurd (lasting.symm.trans passing) nofun
  | exhausted passing spent =>
    cases otherwise with
    | final lasting => exact absurd (lasting.symm.trans passing) nofun
    | exhausted _ _ => exact .of_error rfl
    | rested _ left _ => exact absurd left (Nat.not_lt_of_le spent)
  | rested passing left rest =>
    cases rest with
    | stopped _ => exact .inl rfl
    | pausing quiet => exact absurd (quiet.symm.trans (Bool.or_true _)) nofun

theorem RedirectPolicy.isRedirect_of_astray {policy : RedirectPolicy} {request : Request}
    {response : Response} {hops : Nat} {error : CommandError}
    (astray : (policy.nextRequest request response hops).value = .error error) :
    policy.isRedirect response = true := by
  unfold nextRequest at astray
  split at astray
  · cases astray
  · next redirects => simpa using redirects

/-- What a redirect that leads nowhere is reported as. -/
theorem RedirectPolicy.error_of_astray {policy : RedirectPolicy} {request : Request}
    {response : Response} {hops : Nat} {error : CommandError}
    (astray : (policy.nextRequest request response hops).value = .error error) :
    (∃ maxRedirects, error = .tooManyRedirects request.endpoint.text maxRedirects) ∨
      ∃ location, error = .invalidRedirect request.endpoint.text location := by
  unfold nextRequest at astray
  split at astray
  · cases astray
  · split at astray
    · cases astray
      exact .inl ⟨_, rfl⟩
    · split at astray
      · next unresolved resolves =>
        cases astray
        unfold resolve at resolves
        split at resolves
        · split at resolves
          · cases resolves
          · cases resolves
            exact .inr ⟨_, rfl⟩
        · cases resolves
          exact .inr ⟨_, rfl⟩
      · cases astray

section

variable {request : Request} {hops : Nat} {response : Response}

theorem Answered.of_astray (answered : Answered e disk request hops response run after deeds)
    {error : CommandError}
    (astray : (e.redirectPolicy.nextRequest request response hops).value = .error error) :
    after = run.ended (.error error) := by
  cases answered with
  | astray next =>
    rw [astray] at next
    cases next
    rfl
  | followed next => simp [astray] at next
  | succeeded next => simp [astray] at next
  | stopped next => simp [astray] at next
  | judged next => simp [astray] at next
  | reading next => simp [astray] at next

theorem Answered.of_success (answered : Answered e disk request hops response run after deeds)
    (final : (e.redirectPolicy.nextRequest request response hops).value = .ok none)
    (succeeds : response.isSuccess = true) : after = run.ended (.ok response) := by
  cases answered with
  | astray next => simp [final] at next
  | followed next => simp [final] at next
  | succeeded next => rfl
  | stopped next success => simp [succeeds] at success
  | judged next success => simp [succeeds] at success
  | reading next success => simp [succeeds] at success

theorem Answered.overruled
    (answered : Answered e disk request hops response (run.heeding true) after deeds)
    (otherwise : Answered e disk request hops response (run.heeding false) alone others) :
    Overruled e (.ok response) after alone := by
  have cancelled : (run.heeding true).command.cancelled = true := Bool.or_true _
  cases answered with
  | astray next =>
    rw [otherwise.of_astray next]
    refine .inr ⟨rfl, fun _ same => ?_⟩
    cases same
    exact .inr (RedirectPolicy.isRedirect_of_astray next)
  | followed next sent =>
    rw [sent.of_cancelled cancelled]
    exact .inl rfl
  | succeeded next success =>
    rw [otherwise.of_success next success]
    refine .inr ⟨rfl, fun _ same => ?_⟩
    cases same
    exact .inl success
  | stopped next => exact .inl rfl
  | judged next success quiet => simp [cancelled] at quiet
  | reading next success quiet => simp [cancelled] at quiet

end

end

/-- What comes of a run whose command is cancelled by the end of the step on `signal`, whatever signals follow. -/
structure CalledOff (e : Executor) (disk : Disk) (payload : Option SharedPayload) (run : Run)
    (signal : Signal) (more : List Signal) : Prop where
  /-- No request is handed over any more. -/
  silent : ∀ event ∈ (e.steps disk (signal :: more) run).output, event.isHanded = false
  /-- The run is over, unless it waits for a file that is not open yet. -/
  ended : (e.steps disk (signal :: more) run).value.phase.isFinished = true ∨
    (e.step disk signal run).value.phase.isOpening = true ∧ .opened ∉ more
  /-- A cancellation that comes while the run waits decides what comes of it. -/
  result : signal = .cancelled → run.phase.yields = true →
    (e.steps disk (signal :: more) run).value.phase.isFinished = true →
    (e.steps disk (signal :: more) run).value.phase =
      .finished (.error (.cancelled (e.steps disk (signal :: more) run).value.command.attempts))
  /-- If it comes together with an answer, the answer is the result at most if it ends the run by itself. -/
  answer : ∀ answer taken request hops body, signal = .answered answer taken true →
    run.phase = .sending request hops body →
    Overruled e answer (e.steps disk (signal :: more) run).value
      (e.step disk (.answered answer taken false) run).value
  /-- If it comes together with the end of an error body, the response is still judged. -/
  judged : ∀ response body flow, signal = .bodyRead true → run.phase = .reading response body flow →
    ∃ buffered, e.settled? response body flow = some buffered ∧
      (e.steps disk (signal :: more) run).value.phase =
        .finished (e.lastWord (run.heeding true).command buffered)
  /-- If it comes together with the end of a pause, a filter may still fail. -/
  refiltered : ∀ delay, signal = .pauseOver true → run.phase = .pausing delay →
    (e.steps disk (signal :: more) run).value.phase = .finished (.error (e.lastTry run.command))
  /-- When the run is over, the command is at an end and its payload is released. -/
  closed : (e.steps disk (signal :: more) run).value.phase.isFinished = true →
    (e.steps disk (signal :: more) run).value.Closed payload

namespace Executor

variable {e : Executor} {disk : Disk}

theorem step_overruled {run : Run} {request : Request} {hops : Nat} {body : Option Flow}
    (phase : run.phase = .sending request hops body) (answer : Except TransportError Response)
    (taken : Nat)
    (cancelled : (e.step disk (.answered answer taken true) run).value.command.cancelled = true) :
    (e.step disk (.answered answer taken true) run).value.phase.isFinished = true ∧
      Overruled e answer (e.step disk (.answered answer taken true) run).value
        (e.step disk (.answered answer taken false) run).value := by
  cases answer with
  | error error =>
    have fails := failed_answered e disk phase error taken true
    have alone := failed_answered e disk phase error taken false
    exact ⟨(fails.concluded.hushed cancelled).1, fails.overruled alone⟩
  | ok response =>
    have answered := answered_answered e disk phase response taken true
    have alone := answered_answered e disk phase response taken false
    refine ⟨(answered.hushed cancelled).1, (answered.overruled alone).imp id fun ⟨same, settles⟩ => ?_⟩
    -- The digest that the response is given is no matter of the rules.
    refine ⟨same, fun _ answers => ?_⟩
    cases answers
    have digested := settles _ rfl
    exact digested

section

variable (e : Executor) (disk : Disk)

/-- No signal leads on from the end of a run. -/
theorem steps_finished (signals : List Signal) {run : Run} {outcome : Outcome}
    (ended : run.phase = .finished outcome) :
    (e.steps disk signals run).value.phase = .finished outcome ∧
      (e.steps disk signals run).value.command.attempts = run.command.attempts := by
  induction signals generalizing run with
  | nil => exact ⟨ended, rfl⟩
  | cons signal rest ih =>
    obtain ⟨still, same⟩ := (moved_step e disk signal run).finished ended
    rw [steps, Writer.value_bind, ← same]
    exact ih still

/-- A run that is over by the first of the signals is so after all of them. -/
theorem steps_cons_finished {signal : Signal} (more : List Signal) {run : Run} {outcome : Outcome}
    (ended : (e.step disk signal run).value.phase = .finished outcome) :
    (e.steps disk (signal :: more) run).value.phase = .finished outcome ∧
      (e.steps disk (signal :: more) run).value.command.attempts =
        (e.step disk signal run).value.command.attempts := by
  rw [steps, Writer.value_bind]
  exact steps_finished e disk more ended

theorem steps_hushed (signals : List Signal) {run : Run} (heeds : run.Heeds)
    (cancelled : run.command.cancelled = true) :
    (e.steps disk signals run).deeds.countP Event.isHanded = 0 := by
  induction signals generalizing run with
  | nil => rfl
  | cons signal rest ih =>
    have moved := moved_step e disk signal run
    have begun : run.phase ≠ .idle := by
      intro idle
      simpa [idle, Phase.isFinished, Phase.isOpening] using heeds cancelled
    have still := moved.stays_cancelled cancelled
    obtain ⟨later, silent⟩ := moved.heeds begun heeds
    rw [steps, Writer.deeds_bind, List.countP_append, silent still, ih later still]

/-- A cancelled run is over, at the latest when the file is open that it waits for. -/
theorem steps_over (signals : List Signal) {run : Run} (heeds : run.Heeds)
    (cancelled : run.command.cancelled = true) :
    (e.steps disk signals run).value.phase.isFinished = true ∨
      run.phase.isOpening = true ∧ .opened ∉ signals := by
  have ends : ∀ {rest : List Signal} {run : Run}, run.phase.isFinished = true →
      (e.steps disk rest run).value.phase.isFinished = true := by
    intro rest run ended
    obtain ⟨outcome, finished⟩ := Phase.isFinished_iff.mp ended
    exact Phase.isFinished_iff.mpr ⟨outcome, (steps_finished e disk rest finished).1⟩
  induction signals generalizing run with
  | nil => exact (heeds cancelled).imp id fun opens => ⟨opens, List.not_mem_nil⟩
  | cons signal rest ih =>
    rcases heeds cancelled with ended | opens
    · exact .inl (ends ended)
    · have moved := moved_step e disk signal run
      have still := moved.stays_cancelled cancelled
      rw [steps, Writer.value_bind]
      rcases moved.over_or_opening opens cancelled with ended | ⟨waits, other⟩
      · exact .inl (ends ended)
      · rcases ih (fun _ => .inr waits) still with ended | ⟨-, never⟩
        · exact .inl ended
        · refine .inr ⟨opens, ?_⟩
          simpa [List.mem_cons, never] using Ne.symm other

theorem steps_doomed (signals : List Signal) {run : Run} (doomed : run.Doomed) :
    (e.steps disk signals run).value.Doomed := by
  induction signals generalizing run with
  | nil => exact doomed
  | cons signal rest ih =>
    rw [steps, Writer.value_bind]
    exact ih ((moved_step e disk signal run).doomed doomed)

/-- A run that a cancellation finds waiting ends as cancelled, if it ends. -/
theorem steps_of_yielding (more : List Signal) {run : Run} (waits : run.phase.yields = true)
    (ended : (e.steps disk (.cancelled :: more) run).value.phase.isFinished = true) :
    (e.steps disk (.cancelled :: more) run).value.phase =
      .finished (.error (.cancelled (e.steps disk (.cancelled :: more) run).value.command.attempts)) := by
  have doomed : (e.step disk .cancelled run).value.Doomed :=
    (moved_cancelled e disk run).doomed_of_cancelled waits
  cases steps_doomed e disk more doomed with
  | ended phase => exact phase
  | opening phase _ =>
    rw [steps, Writer.value_bind, phase] at ended
    cases ended

/-- What an answer that comes together with a cancellation leads to is final. -/
theorem steps_overruled (more : List Signal) {run : Run} {request : Request} {hops : Nat}
    {body : Option Flow} (phase : run.phase = .sending request hops body)
    (answer : Except TransportError Response) (taken : Nat)
    (cancelled : (e.step disk (.answered answer taken true) run).value.command.cancelled = true) :
    Overruled e answer (e.steps disk (.answered answer taken true :: more) run).value
      (e.step disk (.answered answer taken false) run).value := by
  obtain ⟨ended, overruled⟩ := step_overruled phase answer taken cancelled
  obtain ⟨outcome, finished⟩ := Phase.isFinished_iff.mp ended
  obtain ⟨still, sends⟩ := steps_cons_finished e disk more finished
  unfold Overruled
  rw [still, sends, ← finished]
  exact overruled

/-- A response whose body is read to its end in the step that cancels is judged, and the run is over by that. -/
theorem steps_of_read (more : List Signal) {run : Run} {response : Response} {body : Body} {flow : Flow}
    (heeds : run.Heeds) (phase : run.phase = .reading response body flow)
    (cancelled : (e.step disk (.bodyRead true) run).value.command.cancelled = true) :
    ∃ buffered, e.settled? response body flow = some buffered ∧
      (e.steps disk (.bodyRead true :: more) run).value.phase =
        .finished (e.lastWord (run.heeding true).command buffered) := by
  cases reads : e.settled? response body flow with
  | none =>
    -- A body without an end is not waited for any longer than before, so nothing has cancelled the run.
    have deaf : e.awaits run.phase (.bodyRead true) = false := by simp [awaits, phase, reads]
    rw [(step_of_deaf e disk deaf (by simp)).1] at cancelled
    simpa [phase, Phase.isFinished, Phase.isOpening] using heeds cancelled
  | some buffered =>
    have ended := (judged_bodyRead e disk phase reads true).of_cancelled (Bool.or_true _)
    exact ⟨buffered, rfl, (steps_cons_finished e disk more ended).1⟩

/-- A pause that is over in the step that cancels is followed by no send. -/
theorem steps_of_pause (more : List Signal) {run : Run} {delay : Duration}
    (phase : run.phase = .pausing delay) :
    (e.steps disk (.pauseOver true :: more) run).value.phase =
      .finished (.error (e.lastTry run.command)) := by
  have ended : (e.step disk (.pauseOver true) run).value.phase =
      .finished (.error (e.lastTry run.command)) :=
    (begun_pauseOver e disk phase true).of_cancelled (Bool.or_true _)
  exact (steps_cons_finished e disk more ended).1

end

section

variable {number : Nat} {request : Request} {retrySafe cancelled : Bool} {lives : Lives}

theorem execution_heeds (signals : List Signal) :
    (e.execution disk (.built number request retrySafe cancelled) lives signals).value.Heeds := by
  refine execution_induction (P := fun _ _ run => run.Heeds) rfl ?_ ?_ signals
  · intro after deeds begun
    exact begun.hushed.heeds.1
  · intro signals history signal after deeds before moved
    exact (moved.heeds (execution_bounded signals).begun before).1

theorem execution_closed (signals : List Signal)
    (ended : (e.execution disk (.built number request retrySafe cancelled) lives
      signals).value.phase.isFinished = true) :
    (e.execution disk (.built number request retrySafe cancelled) lives signals).value.Closed
      request.payload :=
  (execution_chronicled disk _ rfl lives signals).closed ended

/-- A command that is cancelled before it begins is over at once. -/
theorem execution_of_cancelled (signals : List Signal) :
    let run := e.execution disk (.built number request retrySafe true) lives signals
    run.value.phase.isFinished = true ∧ run.deeds.countP Event.isHanded = 0 := by
  have begun := begun_beginAttempt e disk ⟨.built number request retrySafe true, lives, .idle⟩
  obtain ⟨ended, silent⟩ := begun.hushed begun.kept.cancelled
  obtain ⟨outcome, finished⟩ := Phase.isFinished_iff.mp ended
  have still := steps_finished e disk signals finished
  have hushed := steps_hushed e disk signals begun.hushed.heeds.1 begun.kept.cancelled
  intro run
  have whole : run = (do
      let run ← e.beginAttempt disk ⟨.built number request retrySafe true, lives, .idle⟩
      e.steps disk signals run) := by
    rw [← start_of_live e disk _ lives rfl]
    rfl
  rw [whole, Writer.deeds_bind, List.countP_append, silent, hushed]
  exact ⟨Phase.isFinished_iff.mpr ⟨outcome, still.1⟩, rfl⟩

end

/-- A cancellation is obeyed wherever it comes. Whatever the executor, the answers of the transport and the moment: a
command that is cancelled before it begins ends without a send; and once a command is cancelled, no request
of it is handed over, and its run is over with the payload released, at the latest when the file is open that
it waits for. -/
theorem no_send_after_cancellation (e : Executor) (disk : Disk) (number : Nat) (request : Request)
    (retrySafe cancelled : Bool) (lives : Lives) (signals : List Signal) :
    let run := e.execution disk (.built number request retrySafe cancelled) lives signals
    (cancelled = true → (∀ event ∈ run.output, event.isHanded = false) ∧
      run.value.phase.isFinished = true ∧ run.value.Closed request.payload) ∧
    ∀ signal more, (e.step disk signal run.value).value.command.cancelled = true →
      CalledOff e disk request.payload run.value signal more := by
  intro run
  constructor
  · intro before
    subst before
    have early : run.value.phase.isFinished = true ∧ run.deeds.countP Event.isHanded = 0 :=
      execution_of_cancelled signals
    obtain ⟨ended, silent⟩ := early
    rw [Writer.countP_deeds _ _ Event.isDeed_of_isHanded] at silent
    refine ⟨fun event done => ?_, ended, execution_closed signals ended⟩
    simpa using List.countP_eq_zero.mp silent event done
  · intro signal more later
    have moved := moved_step e disk signal run.value
    obtain ⟨heeds, silent⟩ := moved.heeds (execution_bounded signals).begun (execution_heeds signals)
    have whole : (e.steps disk (signal :: more) run.value).output.countP Event.isHanded = 0 := by
      rw [← Writer.countP_deeds _ _ Event.isDeed_of_isHanded, steps, Writer.deeds_bind,
        List.countP_append, silent later, steps_hushed e disk more heeds later]
    exact {
      silent := fun event done => by simpa using List.countP_eq_zero.mp whole event done
      ended := steps_over e disk more heeds later
      result := by
        intro cancels waits ended
        subst cancels
        exact steps_of_yielding e disk more waits ended
      answer := by
        intro answer taken current hops body answers sending
        subst answers
        exact steps_overruled e disk more sending answer taken later
      judged := by
        intro response body flow read reading
        subst read
        exact steps_of_read e disk more (execution_heeds signals) reading later
      refiltered := by
        intro delay passes pausing
        subst passes
        exact steps_of_pause e disk more pausing
      closed := by
        have whole : (e.steps disk (signal :: more) run.value).value =
            (e.execution disk (.built number request retrySafe cancelled) lives
              (signals ++ signal :: more)).value := by
          rw [execution_append]
          rfl
        rw [whole]
        exact execution_closed _ }

/-- A pause ends with the cancellation, and is followed by no send where it is over in the same step; a 404 whose body
is read to its end in that step is the result all the same; and a command cancelled before it begins is not sent. -/
theorem pause_called_off :
    let get : Request :=
      ⟨.get, ⟨"http", some { host := "h" }, .rooted [""], none, none⟩, [], none, []⟩
    let rules := ({} : Config).described
    let answered (answer : Response) : Run :=
      (rules.execution {} (.built 0 get false false) .fresh [.answered (.ok answer) 0 false]).value
    let pausing := answered { status := 504 }
    let reading := answered { status := 404, body := some ⟨.ofStream (.ofBytes [0x78]), {}⟩ }
    let late := rules.execution {} (.built 0 get false true) .fresh []
    (rules.step {} .cancelled pausing).value.command.cancelled = true ∧ pausing.phase.yields = true ∧
      CalledOff rules {} none pausing .cancelled [.pauseOver false] ∧
      CalledOff rules {} none pausing (.pauseOver true) [] ∧
      (∃ response body flow, reading.phase = .reading response body flow) ∧
      CalledOff rules {} none reading (.bodyRead true) [] ∧
      (∃ response, (rules.step {} (.bodyRead true) reading).value.phase = .finished (.ok response) ∧
        response.status = 404) ∧
      ∀ event ∈ late.output, event.isHanded = false := by
  intro get rules answered pausing reading late
  have later : (rules.step {} .cancelled pausing).value.command.cancelled = true := by decide +kernel
  have waits : pausing.phase.yields = true := by decide +kernel
  have paused := no_send_after_cancellation rules {} 0 get false false .fresh
    [.answered (.ok { status := 504 }) 0 false]
  have read := no_send_after_cancellation rules {} 0 get false false .fresh
    [.answered (.ok { status := 404, body := some ⟨.ofStream (.ofBytes [0x78]), {}⟩ }) 0 false]
  have before := no_send_after_cancellation rules {} 0 get false true .fresh []
  exact ⟨later, waits, paused.2 .cancelled [.pauseOver false] later,
    paused.2 (.pauseOver true) [] (by decide +kernel), ⟨_, _, _, rfl⟩,
    read.2 (.bodyRead true) [] (by decide +kernel), ⟨_, rfl, rfl⟩, (before.1 rfl).1⟩

/-- A response of success that comes together with the cancellation is the result all the same. -/
theorem answer_counts_despite_cancellation :
    let get : Request :=
      ⟨.get, ⟨"http", some { host := "h" }, .rooted [""], none, none⟩, [], none, []⟩
    let rules := ({} : Config).described
    let run := (rules.execution {} (.built 0 get false false) .fresh []).value
    let after := (rules.step {} (.answered (.ok { status := 200 }) 0 true) run).value
    run.phase = .sending get 0 none ∧ run.command.cancelled = false ∧
      after.command.cancelled = true ∧
      ∃ response, after.phase = .finished (.ok response) ∧ response.status = 200 := by
  intro get rules run after
  exact ⟨rfl, rfl, rfl, _, rfl, rfl⟩

end Executor

end Courier
