import Courier.Proofs.Execution

/-!
What the legs of a run leave alone. What the caller set of a command (`Command.Kept`) changes in two ways only: a
signal cancels the command, and a redirect that is followed moves its request (`Moved.kept`). A leg is either on
the way to a send (`Departed`), where not even the failures and retries change, or draws the conclusion from a
send that is no success (`Concluded`). A retry is counted where a pause begins and nowhere else
(`Moved.tallied`).
-/
namespace Courier

/-- `later` is `c` at another stage: what the caller set is as it was. -/
structure Command.Kept (c later : Command) : Prop where
  request : later.request = c.request
  initialPayload : later.initialPayload = c.initialPayload
  retrySafe : later.retrySafe = c.retrySafe
  cancelled : later.cancelled = c.cancelled

/-- `later` is `c` further on in the same attempt. -/
structure Command.Onward (c later : Command) : Prop extends c.Kept later where
  failures : later.retryState.failures = c.retryState.failures
  retries : later.retryState.retries = c.retryState.retries

/-- `later` is `c` with what came of a send on its account: at most one more failure. -/
structure Command.Charged (c later : Command) : Prop extends c.Kept later where
  attempts : later.attempts = c.attempts
  failures : later.retryState.failures ≤ c.retryState.failures + 1
  retries : later.retryState.retries = c.retryState.retries

namespace Command

theorem Kept.refl (c : Command) : c.Kept c := ⟨rfl, rfl, rfl, rfl⟩

theorem Kept.trans {c later last : Command} (first : c.Kept later) (second : later.Kept last) :
    c.Kept last where
  request := second.request.trans first.request
  initialPayload := second.initialPayload.trans first.initialPayload
  retrySafe := second.retrySafe.trans first.retrySafe
  cancelled := second.cancelled.trans first.cancelled

theorem Onward.refl (c : Command) : c.Onward c := ⟨.refl c, rfl, rfl⟩

theorem Onward.trans {c later last : Command} (first : c.Onward later) (second : later.Onward last) :
    c.Onward last where
  toKept := first.toKept.trans second.toKept
  failures := second.failures.trans first.failures
  retries := second.retries.trans first.retries

theorem onward_sent (c : Command) : c.Onward c.sent := ⟨⟨rfl, rfl, rfl, rfl⟩, rfl, rfl⟩

theorem onward_filtered (c : Command) : c.Onward c.filtered := ⟨⟨rfl, rfl, rfl, rfl⟩, rfl, rfl⟩

theorem charged_self (c : Command) : c.Charged c := ⟨.refl c, rfl, Nat.le_succ _, rfl⟩

theorem charged_unanswered (c : Command) : c.Charged c.unanswered :=
  ⟨⟨rfl, rfl, rfl, rfl⟩, rfl, Nat.le_refl _, rfl⟩

theorem charged_answeredBy (c : Command) (e : Executor) (response : Response) :
    c.Charged (c.answeredBy e response) := ⟨⟨rfl, rfl, rfl, rfl⟩, rfl, Nat.le_refl _, rfl⟩

end Command

theorem Run.onward_ended (run : Run) (outcome : Outcome) :
    run.command.Onward (run.ended outcome).command := ⟨⟨rfl, rfl, rfl, rfl⟩, rfl, rfl⟩

/-- Where the way to a send may lead. -/
inductive Departed (request : Request) (hops : Nat) (run after : Run) : List Event → Prop
  | ended {error : CommandError} (kept : run.command.Onward after.command)
      (phase : after.phase = .finished (.error error))
      (sends : after.command.attempts ≤ run.command.attempts + 1) :
      Departed request hops run after []
  | opening {opened : Except PayloadError Stream} (kept : run.command.Onward after.command)
      (phase : after.phase = .opening request hops opened)
      (sends : after.command.attempts = run.command.attempts) :
      Departed request hops run after []
  | sending {body : Option Flow} (kept : run.command.Onward after.command)
      (phase : after.phase = .sending request hops body)
      (sends : after.command.attempts = run.command.attempts + 1) :
      Departed request hops run after [.handed request body]

/-- Where a send that is no success may lead: the run ends, or it turns to a pause while retries are left. A verdict
of the policy may come first. -/
inductive Concluded (e : Executor) (run : Run) : Run → List Event → Prop
  | ended {charged : Command} {outcome : Outcome} {verdict : List Event}
      (charge : run.command.Charged charged) (decided : ∀ deed ∈ verdict, deed.isDecided = true) :
      Concluded e run ((run.withCommand charged).ended outcome) verdict
  | rested {charged : Command} {delay : Duration} {verdict deeds : List Event} {after : Run}
      (charge : run.command.Charged charged) (decided : ∀ deed ∈ verdict, deed.isDecided = true)
      (left : run.command.retryState.retries < e.maxRetries)
      (rest : Rested delay (run.withCommand charged) after deeds) :
      Concluded e run after (verdict ++ deeds)

section

variable {request : Request} {hops : Nat} {run after : Run} {deeds : List Event}

theorem Departed.onward (departed : Departed request hops run after deeds) :
    run.command.Onward after.command := by
  cases departed with
  | ended kept => exact kept
  | opening kept => exact kept
  | sending kept => exact kept

/-- Nothing but a send is done on the way to a send. -/
theorem Departed.no_pause (departed : Departed request hops run after deeds) :
    deeds.countP Event.isPausing = 0 := by
  cases departed <;> rfl

theorem HandedOver.departed {body : Option Flow}
    (hands : HandedOver request hops body run after deeds) : Departed request hops run after deeds := by
  cases hands with
  | stopped cancelled =>
    have ends := Run.onward_ended (run.withCommand run.command.sent)
      (.error (.cancelled run.command.sent.attempts))
    exact .ended (run.command.onward_sent.trans ends) rfl (Nat.le_refl _)
  | handed quiet => exact .sending run.command.onward_sent rfl rfl

theorem Dispatched.departed {disk : Disk} (sent : Dispatched disk request hops run after deeds) :
    Departed request hops run after deeds := by
  cases sent with
  | stopped cancelled => exact .ended (run.onward_ended _) rfl (Nat.le_succ _)
  | bodiless quiet empty hands => exact hands.departed
  | refused quiet full opens =>
    exact .ended (Run.onward_ended { run with lives := run.lives.set _ _ } _) rfl (Nat.le_succ _)
  | opened quiet full opens hands =>
    cases hands.departed with
    | ended kept phase sends => exact .ended kept phase sends
    | opening kept phase sends => exact .opening kept phase sends
    | sending kept phase sends => exact .sending kept phase sends
  | opening quiet full opens file live => exact .opening (Command.Onward.refl _) rfl rfl

theorem Failed.concluded {e : Executor} {error : TransportError}
    (fails : Failed e error run after deeds) : Concluded e run after deeds := by
  have silent : ∀ deed ∈ ([] : List Event), deed.isDecided = true := by simp
  cases fails with
  | final lasting => exact .ended run.command.charged_self silent
  | exhausted passing spent => exact .ended run.command.charged_unanswered silent
  | rested passing left rest => exact .rested run.command.charged_unanswered silent left rest

theorem Judged.concluded {e : Executor} {response : Response}
    (judged : Judged e response run after deeds) : Concluded e run after deeds := by
  have charge := run.command.charged_answeredBy e response
  have told : ∀ decision, ∀ deed ∈ [Event.decided (run.command.answeredBy e response) response decision],
      deed.isDecided = true := by simp [Event.isDecided]
  cases judged with
  | final decision => exact .ended charge (told _)
  | exhausted decision spent => exact .ended charge (told _)
  | rested decision left rest => exact .rested charge (told _) left rest

/-- After a send that is no success a run is finished or pauses. -/
theorem Concluded.finished_or_pausing {e : Executor} (concluded : Concluded e run after deeds) :
    (∃ outcome, after.phase = .finished outcome) ∨ ∃ delay, after.phase = .pausing delay := by
  cases concluded with
  | ended charge decided => exact .inl ⟨_, rfl⟩
  | rested charge decided left rest =>
    cases rest with
    | stopped cancelled => exact .inl ⟨_, rfl⟩
    | pausing quiet => exact .inr ⟨_, rfl⟩

end

/-- What a leg does to the count of retries: it begins a pause and counts it, or does neither. A cancelled
command does not pause although the retry is counted. -/
def Tallied (e : Executor) (run after : Run) (deeds : List Event) : Prop :=
  (after.command.retryState.retries = run.command.retryState.retries ∧
    deeds.countP Event.isPausing = 0) ∨
  (run.command.retryState.retries < e.maxRetries ∧
    after.command.retryState.retries = run.command.retryState.retries + 1 ∧
    (deeds.countP Event.isPausing = 1 ∨
      deeds.countP Event.isPausing = 0 ∧ after.command.cancelled = true))

section

variable {e : Executor} {disk : Disk} {run after : Run} {deeds : List Event}

theorem Tallied.of_onward (kept : run.command.Onward after.command)
    (still : deeds.countP Event.isPausing = 0) : Tallied e run after deeds :=
  .inl ⟨kept.retries, still⟩

theorem Rested.tallied {delay : Duration} (rest : Rested delay run after deeds)
    (left : run.command.retryState.retries < e.maxRetries) : Tallied e run after deeds := by
  cases rest with
  | stopped cancelled => exact .inr ⟨left, rfl, .inr ⟨rfl, cancelled⟩⟩
  | pausing quiet => exact .inr ⟨left, rfl, .inl rfl⟩

theorem Concluded.tallied (concluded : Concluded e run after deeds) : Tallied e run after deeds := by
  cases concluded with
  | ended charge decided => exact .inl ⟨charge.retries, Event.countP_isPausing_of_isDecided decided⟩
  | rested charge decided left rest =>
    have tallied := rest.tallied (charge.retries ▸ left)
    unfold Tallied at tallied ⊢
    rw [Run.withCommand_command, charge.retries] at tallied
    rw [List.countP_append, Event.countP_isPausing_of_isDecided decided, Nat.zero_add]
    exact tallied

theorem Begun.tallied (begun : Begun e disk run after deeds) : Tallied e run after deeds := by
  cases begun with
  | refused filters => exact .inl ⟨rfl, rfl⟩
  | filtered filters sent =>
    exact .of_onward (run.command.onward_filtered.trans sent.departed.onward) sent.departed.no_pause

theorem Answered.tallied {request : Request} {hops : Nat} {response : Response}
    (answered : Answered e disk request hops response run after deeds) :
    Tallied e run after deeds := by
  cases answered with
  | astray next => exact .inl ⟨rfl, rfl⟩
  | followed next sent => exact .inl ⟨sent.departed.onward.retries, sent.departed.no_pause⟩
  | succeeded next success => exact .inl ⟨rfl, rfl⟩
  | stopped next success cancelled => exact .inl ⟨rfl, rfl⟩
  | judged next success quiet buffers judged => exact judged.concluded.tallied
  | reading next success quiet buffers => exact .inl ⟨rfl, rfl⟩

/-- A retry is counted where a pause begins, and only while retries are left. -/
theorem Moved.tallied {signal : Signal} (moved : Moved e disk run signal after deeds) :
    Tallied e run after deeds := by
  cases moved with
  | unmoved deaf calm => exact .inl ⟨rfl, rfl⟩
  | marked runs => exact .inl ⟨rfl, rfl⟩
  | stopped waits => exact .inl ⟨rfl, rfl⟩
  | refused phase => exact .inl ⟨rfl, rfl⟩
  | opened phase hands => exact .of_onward hands.departed.onward hands.departed.no_pause
  | failed phase fails => exact fails.concluded.tallied
  | answered phase answer => exact answer.tallied
  | judged phase reads judged => exact judged.concluded.tallied
  | begun phase begins => exact begins.tallied

end

/-- Does the signal tell that the command is cancelled? -/
def Signal.cancels : Signal → Bool
  | .answered _ _ meanwhile | .bodyRead meanwhile | .pauseOver meanwhile => meanwhile
  | .cancelled => true
  | .opened => false

/-- Does the signal bring a response? -/
def Signal.isResponse : Signal → Bool
  | .answered (.ok _) .. => true
  | _ => false

/-- A redirect that was followed: the request that was answered with it, the answer, and the request that the
answer led to. -/
structure Hop where
  request : Request
  response : Response
  next : Request

/-- The redirect that a run follows on a signal, if it follows one. -/
def Executor.hop? (e : Executor) (run : Run) (signal : Signal) : Option Hop :=
  match run.phase, signal with
  | .sending request hops body, .answered (.ok response) taken _ =>
    let answer := { response with requestDigest := e.digestOfTaken body taken }
    match (e.redirectPolicy.nextRequest request answer hops).value with
    | .ok (some next) => some ⟨request, answer, next⟩
    | _ => none
  | _, _ => none

/-- The command with its request where the redirect leads, if there is one. -/
def Command.led (c : Command) : Option Hop → Command
  | some hop => { c with request := redirected c.request hop.next }
  | none => c

theorem Command.kept_bound (c : Command) (hop : Hop) : (c.led (some hop)).Kept (c.bound hop.next) :=
  ⟨rfl, rfl, rfl, rfl⟩

section

variable {e : Executor} {disk : Disk} {run after : Run} {deeds : List Event}

theorem Rested.kept {delay : Duration} (rest : Rested delay run after deeds) :
    run.command.Kept after.command := by
  cases rest <;> exact ⟨rfl, rfl, rfl, rfl⟩

theorem Concluded.kept (concluded : Concluded e run after deeds) : run.command.Kept after.command := by
  cases concluded with
  | @ended charged outcome verdict charge decided =>
    have ends := Run.onward_ended (run.withCommand charged) outcome
    exact charge.toKept.trans ends.toKept
  | rested charge decided left rest => exact charge.toKept.trans rest.kept

theorem Begun.kept (begun : Begun e disk run after deeds) : run.command.Kept after.command := by
  cases begun with
  | refused filters => exact ⟨rfl, rfl, rfl, rfl⟩
  | filtered filters sent =>
    exact (run.command.onward_filtered.trans sent.departed.onward).toKept

/-- A response changes what the caller set only by leading the request elsewhere. -/
theorem Answered.kept {request : Request} {hops : Nat} {response : Response}
    (answered : Answered e disk request hops response run after deeds) :
    ((∀ next, (e.redirectPolicy.nextRequest request response hops).value ≠ .ok (some next)) ∧
      run.command.Kept after.command) ∨
    ∃ next, (e.redirectPolicy.nextRequest request response hops).value = .ok (some next) ∧
      (run.command.bound next).Kept after.command := by
  cases answered with
  | astray next => exact .inl ⟨by simp [next], (run.onward_ended _).toKept⟩
  | followed next sent => exact .inr ⟨_, next, sent.departed.onward.toKept⟩
  | succeeded next success => exact .inl ⟨by simp [next], (run.onward_ended _).toKept⟩
  | stopped next success cancelled => exact .inl ⟨by simp [next], (run.onward_ended _).toKept⟩
  | judged next success quiet buffers judged => exact .inl ⟨by simp [next], judged.concluded.kept⟩
  | reading next success quiet buffers => exact .inl ⟨by simp [next], .refl _⟩

/-- Only a response can lead elsewhere. -/
theorem Executor.hop?_of_no_response {signal : Signal} (other : signal.isResponse = false) :
    e.hop? run signal = none := by
  unfold hop?
  split
  · cases other
  · rfl

theorem Executor.hop?_of_deaf {signal : Signal} (deaf : e.awaits run.phase signal = false) :
    e.hop? run signal = none := by
  unfold hop?
  split
  · next sending =>
    rw [sending] at deaf
    cases deaf
  · rfl

theorem Executor.hop?_of_sending {request : Request} {hops : Nat} {body : Option Flow}
    {response answer : Response} {taken : Nat} (meanwhile : Bool)
    (phase : run.phase = .sending request hops body)
    (digested : answer = { response with requestDigest := e.digestOfTaken body taken }) :
    e.hop? run (.answered (.ok response) taken meanwhile) =
      match (e.redirectPolicy.nextRequest request answer hops).value with
      | .ok (some next) => some ⟨request, answer, next⟩
      | _ => none := by
  simp only [hop?, phase, digested]

/-- A signal that leads nowhere else leaves what the caller set, but for the cancellation that it tells of. -/
theorem Command.Kept.heeded {signal : Signal} {now : Bool}
    (kept : (run.heeding now).command.Kept after.command) (told : now = true → signal.cancels = true)
    (stays : e.hop? run signal = none) :
    ∃ now, (now = true → signal.cancels = true) ∧
      ((run.heeding now).command.led (e.hop? run signal)).Kept after.command := by
  refine ⟨now, told, ?_⟩
  rw [stays]
  exact kept

/-- A signal that neither cancels nor leads elsewhere leaves what the caller set. -/
theorem Command.Kept.unled {signal : Signal} (kept : run.command.Kept after.command)
    (stays : e.hop? run signal = none) :
    ∃ now, (now = true → signal.cancels = true) ∧
      ((run.heeding now).command.led (e.hop? run signal)).Kept after.command := by
  rw [← run.heeding_false] at kept
  exact kept.heeded nofun stays

/-- What a step does to what the caller set: a signal that tells so cancels the command, which then stays
cancelled, and a redirect leads its request elsewhere. -/
theorem Moved.kept {signal : Signal} (moved : Moved e disk run signal after deeds) :
    ∃ now, (now = true → signal.cancels = true) ∧
      ((run.heeding now).command.led (e.hop? run signal)).Kept after.command := by
  have silent : ∀ {other : Signal}, other.isResponse = false → e.hop? run other = none :=
    fun silent => Executor.hop?_of_no_response silent
  cases moved with
  | unmoved deaf calm => exact Command.Kept.unled (.refl _) (Executor.hop?_of_deaf deaf)
  | marked runs => exact Command.Kept.heeded (.refl _) (fun _ => rfl) (silent rfl)
  | stopped waits =>
    exact Command.Kept.heeded ((run.heeding true).onward_ended _).toKept (fun _ => rfl) (silent rfl)
  | refused phase => exact Command.Kept.unled (run.onward_ended _).toKept (silent rfl)
  | opened phase hands => exact hands.departed.onward.toKept.unled (silent rfl)
  | failed phase fails => exact fails.concluded.kept.heeded id (silent rfl)
  | answered phase answer =>
    refine ⟨_, id, ?_⟩
    rw [Executor.hop?_of_sending _ phase rfl]
    -- `hop?` and `Answered.kept` ask the redirect policy about the same answer.
    obtain ⟨final, kept⟩ | ⟨next, leads, kept⟩ := answer.kept
    · split
      · next elsewhere => exact absurd elsewhere (final _)
      · exact kept
    · rw [leads]
      exact (Command.kept_bound _ ⟨_, _, next⟩).trans kept
  | judged phase reads judged => exact judged.concluded.kept.heeded id (silent rfl)
  | begun phase begins => exact begins.kept.heeded id (silent rfl)

theorem Moved.retrySafe {signal : Signal} (moved : Moved e disk run signal after deeds) :
    after.command.retrySafe = run.command.retrySafe := by
  obtain ⟨now, -, kept⟩ := moved.kept
  refine kept.retrySafe.trans ?_
  cases e.hop? run signal <;> rfl

/-- A command is cancelled by a signal that tells so, and stays cancelled. -/
theorem Moved.cancelled {signal : Signal} (moved : Moved e disk run signal after deeds) :
    ∃ now, (now = true → signal.cancels = true) ∧
      after.command.cancelled = (run.command.cancelled || now) := by
  obtain ⟨now, told, kept⟩ := moved.kept
  refine ⟨now, told, kept.cancelled.trans ?_⟩
  cases e.hop? run signal <;> rfl

end

/-- The account of retries of a run with this history. -/
structure Counted (e : Executor) (history : List Event) (run : Run) : Prop where
  within : run.command.retryState.retries ≤ e.maxRetries
  pauses : history.countP Event.isPausing ≤ run.command.retryState.retries
  exactly : run.command.cancelled = false →
    history.countP Event.isPausing = run.command.retryState.retries

theorem Tallied.counted {e : Executor} {run after : Run} {history deeds : List Event}
    (tallied : Tallied e run after deeds) (before : Counted e history run)
    (stays : after.command.cancelled = false → run.command.cancelled = false) :
    Counted e (history ++ deeds) after := by
  have within := before.within
  have pauses := before.pauses
  obtain ⟨same, still⟩ | ⟨left, counted, paused | ⟨still, cancelled⟩⟩ := tallied
  · refine ⟨by omega, ?_, fun uncancelled => ?_⟩
    · rw [List.countP_append]
      omega
    · rw [List.countP_append, before.exactly (stays uncancelled)]
      omega
  · refine ⟨by omega, ?_, fun uncancelled => ?_⟩
    · rw [List.countP_append]
      omega
    · rw [List.countP_append, before.exactly (stays uncancelled)]
      omega
  · refine ⟨by omega, ?_, fun uncancelled => ?_⟩
    · rw [List.countP_append]
      omega
    · rw [cancelled] at uncancelled
      cases uncancelled

namespace Executor

variable {e : Executor} {disk : Disk} {number : Nat} {request : Request} {retrySafe : Bool}
  {cancelled : Bool} {lives : Lives}

/-- A command that no signal cancels is not cancelled. -/
theorem execution_uncancelled (signals : List Signal)
    (quiet : ∀ signal ∈ signals, signal.cancels = false) :
    (e.execution disk (.built number request retrySafe false) lives signals).value.command.cancelled =
      false := by
  refine execution_induction
    (P := fun signals _ run => (∀ signal ∈ signals, signal.cancels = false) →
      run.command.cancelled = false) rfl ?_ ?_ signals quiet
  · intro after deeds begun _
    exact begun.kept.cancelled
  · intro signals history signal after deeds before moved quiet
    have still := before fun earlier belongs => quiet earlier (by simp [belongs])
    have calm := quiet signal (by simp)
    obtain ⟨now, told, heeds⟩ := moved.cancelled
    cases now with
    | false => rw [heeds, still, Bool.or_false]
    | true => simp [told] at calm

/-- The retries are within their limit, and each is a pause unless the command was cancelled. -/
theorem execution_counted (signals : List Signal) :
    Counted e (e.execution disk (.built number request retrySafe cancelled) lives signals).deeds
      (e.execution disk (.built number request retrySafe cancelled) lives signals).value := by
  refine execution_induction (P := fun _ history run => Counted e history run) rfl ?_ ?_ signals
  · intro after deeds begun
    have fresh : Counted e [] ⟨.built number request retrySafe cancelled, lives, .idle⟩ :=
      ⟨Nat.zero_le _, Nat.le_refl _, fun _ => rfl⟩
    have stays := begun.kept.cancelled
    exact begun.tallied.counted fresh fun uncancelled => stays ▸ uncancelled
  · intro signals history signal after deeds before moved
    obtain ⟨now, -, heeds⟩ := moved.cancelled
    refine moved.tallied.counted before fun uncancelled => ?_
    rw [heeds, Bool.or_eq_false_iff] at uncancelled
    exact uncancelled.1

end Executor

end Courier
