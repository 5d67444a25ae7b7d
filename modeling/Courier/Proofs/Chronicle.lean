import Courier.Proofs.Discretion

/-!
What a run tells of its command: each state that the command comes to, and that it lets go of its payload. A leg of a
run tells of the states between, and if it is the last leg it closes with the words of `Run.finish`
(`Chronicled`). So the chronicle of a whole run is a way through states that are not final, and after it, if
the run is finished, what is told at the end (`Executor.execution_chronicled`).
-/
namespace Courier

/-- To open a payload is not to release it. -/
theorem Payload.released_openStream (p : Payload) (disk : Disk) (life : Life) :
    (p.openStream disk life).value.2.released = life.released := by
  unfold openStream
  split
  · rfl
  · dsimp only [Writer.value_bind]
    repeat' split
    all_goals rfl

/-- What is told of a command that goes from a state through others. -/
def passage : CommandState → List CommandState → List Event
  | _, [] => []
  | state, next :: rest => .notice (.commandState state.name next.name) :: passage next rest

theorem getLastD_append {α : Type} (first second : List α) (a : α) :
    (first ++ second).getLastD a = second.getLastD (first.getLastD a) := by
  simp [List.getLastD_eq_getLast?, List.getLast?_append]

theorem passage_append (state : CommandState) (first second : List CommandState) :
    passage state (first ++ second) =
      passage state first ++ passage (first.getLastD state) second := by
  induction first generalizing state with
  | nil => rfl
  | cons next rest ih => rw [List.cons_append, passage, ih, List.getLastD_cons, passage, List.cons_append]

/-- `later` holds the payload that `run` holds, and all payloads are as far released. -/
structure Run.Holds (run later : Run) : Prop where
  initialPayload : later.command.initialPayload = run.command.initialPayload
  released : ∀ id, (later.lives id).released = (run.lives id).released

namespace Run

theorem Holds.refl (run : Run) : run.Holds run := ⟨rfl, fun _ => rfl⟩

theorem Holds.trans {run later last : Run} (first : run.Holds later) (second : later.Holds last) :
    run.Holds last where
  initialPayload := second.initialPayload.trans first.initialPayload
  released := fun id => (second.released id).trans (first.released id)

/-- An opened payload is held as before. -/
theorem holds_opened (run : Run) (disk : Disk) (p : SharedPayload) :
    run.Holds
      { run with lives := run.lives.set p.id (p.payload.openStream disk (run.lives p.id)).value.2 } where
  initialPayload := rfl
  released := by
    intro id
    dsimp only
    by_cases same : id = p.id
    · rw [same, Lives.set_same, Payload.released_openStream]
    · rw [Lives.set_other _ _ same]

end Run

/-- What a leg of a run comes to. It goes on in a state that is not final, or ends as `Run.finish` does; a
cancellation that comes after the end is kept in mind. What it tells of the command on the way are the
states in between, provided that nobody else speaks for the command. -/
inductive Chronicled (discreet : Prop) (run : Run) (leg : Traced Run) : Prop
  | onward (states : List CommandState)
      (told : discreet → leg.chronicle = passage run.command.state states)
      (live : ∀ state ∈ states, state.isTerminal = false)
      (state : leg.value.command.state = states.getLastD run.command.state)
      (holds : run.Holds leg.value) (runs : leg.value.phase.isFinished = false)
  | ended (states : List CommandState) (last : Run) (outcome : Outcome) (now : Bool)
      (told : discreet →
        leg.chronicle = passage run.command.state states ++ (last.finish outcome).chronicle)
      (live : ∀ state ∈ states, state.isTerminal = false)
      (state : last.command.state = states.getLastD run.command.state)
      (holds : run.Holds last) (value : leg.value = (last.ended outcome).heeding now)

namespace Chronicled

variable {discreet : Prop} {run mid : Run} {leg : Traced Run} {α : Type} {way : Traced α}
  {rest : α → Traced Run}

/-- A run that finishes at once. -/
theorem finish (run : Run) (outcome : Outcome) : Chronicled discreet run (run.finish outcome) :=
  .ended [] run outcome false (fun _ => rfl) (by simp) rfl (.refl run)
    (by rw [Run.value_finish, Run.heeding_false])

/-- A run that goes on to wait in a phase. -/
theorem waits (run : Run) {phase : Phase} (runs : phase.isFinished = false) :
    Chronicled discreet run (pure { run with phase }) :=
  .onward [] (fun _ => rfl) (by simp) rfl ⟨rfl, fun _ => rfl⟩ runs

/-- A leg that begins where a way through some states has led. -/
theorem after (states : List CommandState)
    (told : discreet → way.chronicle = passage run.command.state states)
    (live : ∀ state ∈ states, state.isTerminal = false) (holds : run.Holds mid)
    (state : mid.command.state = states.getLastD run.command.state)
    (leg : Chronicled discreet mid (rest way.value)) : Chronicled discreet run (way >>= rest) := by
  cases leg with
  | onward later toldLater liveLater stateLater holdsLater runs =>
    refine .onward (states ++ later) (fun quiet => ?_) ?_ ?_ (holds.trans holdsLater) runs
    · rw [Writer.chronicle_bind, told quiet, toldLater quiet, passage_append, state]
    · exact List.forall_mem_append.mpr ⟨live, liveLater⟩
    · rw [Writer.value_bind, stateLater, state, getLastD_append]
  | ended later last outcome now toldLater liveLater stateLater holdsLater value =>
    refine .ended (states ++ later) last outcome now (fun quiet => ?_) ?_ ?_
      (holds.trans holdsLater) value
    · rw [Writer.chronicle_bind, told quiet, toldLater quiet, passage_append, state, List.append_assoc]
    · exact List.forall_mem_append.mpr ⟨live, liveLater⟩
    · rw [stateLater, state, getLastD_append]

/-- A leg after something that does not concern the command. -/
theorem afterAll (told : discreet → way.chronicle = []) (holds : run.Holds mid)
    (state : mid.command.state = run.command.state)
    (leg : Chronicled discreet mid (rest way.value)) : Chronicled discreet run (way >>= rest) :=
  .after [] told (by simp) holds state leg

/-- A leg of the run with another account of its sends. -/
theorem charged (holds : run.Holds mid) (state : mid.command.state = run.command.state)
    (rest : Chronicled discreet mid leg) : Chronicled discreet run leg := by
  have led : Chronicled discreet run (pure () >>= fun _ => leg) :=
    .afterAll (fun _ => Writer.chronicle_pure ()) holds state rest
  rwa [pure_bind] at led

/-- A leg of the same run after a notice or a deed that does not concern the command. -/
theorem afterWord (told : way.chronicle = []) (leg : Chronicled discreet run (rest way.value)) :
    Chronicled discreet run (way >>= rest) :=
  .afterAll (fun _ => told) (.refl run) rfl leg

/-- A leg after the command came to a state that is not final. -/
theorem afterState (next : CommandState) (live : next.isTerminal = false)
    (told : way.chronicle = passage run.command.state [next]) (holds : run.Holds mid)
    (state : mid.command.state = next)
    (leg : Chronicled discreet mid (rest way.value)) : Chronicled discreet run (way >>= rest) :=
  .after [next] (fun _ => told) (by simpa using live) holds state leg

end Chronicled

namespace Executor

variable {discreet : Prop} {e : Executor} (disk : Disk)

theorem chronicled_handOver (run : Run) (request : Request) (hops : Nat) (body : Option Flow) :
    Chronicled discreet run (handOver run request hops body) := by
  unfold handOver
  have sent : run.Holds (run.withCommand run.command.sent) := ⟨rfl, fun _ => rfl⟩
  refine .afterState .sent rfl rfl sent rfl (.afterWord rfl ?_)
  split
  · exact .afterWord rfl (.finish _ _)
  · exact .afterWord rfl (.waits _ rfl)

theorem chronicled_afterOpening (run : Run) (request : Request) (hops : Nat)
    (opened : Except PayloadError Stream) :
    Chronicled discreet run (afterOpening run disk request hops opened) := by
  cases opened with
  | error error => exact .finish _ _
  | ok stream => exact chronicled_handOver _ _ _ _

theorem chronicled_send (run : Run) (request : Request) (hops : Nat) :
    Chronicled discreet run (send run disk request hops) := by
  unfold send
  split
  · exact .finish _ _
  · split
    · exact chronicled_handOver _ _ _ _
    · next p payload =>
      refine .afterAll (fun _ => (p.payload.discreet_openStream disk _).chronicle_eq_nil)
        (run.holds_opened disk p) rfl ?_
      dsimp only
      split
      · exact .waits _ rfl
      · exact chronicled_afterOpening disk _ _ _ _

theorem chronicled_beginAttempt (run : Run) : Chronicled discreet run (e.beginAttempt disk run) := by
  unfold beginAttempt
  have counted : run.Holds
      (run.withCommand { run.command with rounds := run.command.rounds + 1 }) := ⟨rfl, fun _ => rfl⟩
  refine .afterAll (fun _ => (e.filters.discreet_apply _ _).chronicle_eq_nil) counted rfl ?_
  split
  · exact .finish _ _
  · next request filters =>
    have leg : Chronicled discreet (run.withCommand run.command.filtered)
        (send (run.withCommand run.command.filtered) disk request 0) := chronicled_send disk _ _ _
    refine .afterState .filtered rfl rfl ?_ ?_ leg
    · exact ⟨rfl, fun _ => rfl⟩
    · rfl

theorem chronicled_pause (run : Run) (delay : Duration) : Chronicled discreet run (pause run delay) := by
  unfold pause
  have resting : run.Holds (run.withCommand run.command.resting) := ⟨rfl, fun _ => rfl⟩
  refine .afterState .retrying rfl rfl resting rfl ?_
  dsimp only
  split
  · exact .afterWord rfl (.finish _ _)
  · exact .afterWord rfl (.waits _ rfl)

theorem chronicled_judgeFailure (run : Run) (error : TransportError) :
    Chronicled discreet run (e.judgeFailure run error) := by
  unfold judgeFailure
  split
  · exact .finish _ _
  · have charged : run.Holds (run.withCommand run.command.unanswered) := ⟨rfl, fun _ => rfl⟩
    dsimp only
    split
    · exact .charged charged rfl (.finish (run.withCommand run.command.unanswered) _)
    · exact .charged charged rfl (.afterWord rfl (chronicled_pause _ _))

theorem chronicled_judge (run : Run) (response : Response) :
    Chronicled e.retryPolicy.Discreet run (e.judge run response) := by
  unfold judge
  have charged : run.Holds (run.withCommand (run.command.answeredBy e response)) :=
    ⟨rfl, fun _ => rfl⟩
  refine .afterAll (fun quiet => (quiet.errorCode response).chronicle_eq_nil) charged rfl ?_
  refine .afterAll (fun quiet => (quiet.shouldRetry _ response).chronicle_eq_nil) (.refl _) rfl ?_
  refine .afterWord rfl ?_
  split
  · exact .afterWord rfl (.finish _ _)
  · dsimp only
    split
    · exact .finish _ _
    · refine .afterWord rfl (.afterWord ?_ (chronicled_pause _ _))
      exact response.discreet_releaseBody.chronicle_eq_nil

theorem chronicled_takeError (run : Run) (response : Response) :
    Chronicled e.retryPolicy.Discreet run (e.takeError disk run response) := by
  unfold takeError
  split
  · exact .afterWord rfl (.finish _ _)
  · refine .afterWord (response.discreet_startBuffering disk).chronicle_eq_nil ?_
    split
    · exact chronicled_judge _ _
    · exact .waits _ rfl

theorem chronicled_takeResponse (run : Run) (request : Request) (hops : Nat) (response : Response) :
    Chronicled e.retryPolicy.Discreet run (e.takeResponse disk run request hops response) := by
  unfold takeResponse
  refine .afterWord rfl (.afterWord ?_ ?_)
  · exact (e.redirectPolicy.discreet_nextRequest request response hops).chronicle_eq_nil
  split
  · exact .finish _ _
  · next hop leads =>
    refine .afterWord response.discreet_releaseBody.chronicle_eq_nil ?_
    have bound : run.Holds (run.withCommand (run.command.bound hop)) := ⟨rfl, fun _ => rfl⟩
    exact .afterState .redirecting rfl rfl bound rfl (chronicled_send disk _ _ _)
  · split
    · exact .finish _ _
    · exact chronicled_takeError disk _ _

/-- A step of a run that is not over. -/
theorem chronicled_step (signal : Signal) (run : Run) (runs : run.phase.isFinished = false) :
    Chronicled e.retryPolicy.Discreet run (e.step disk signal run) := by
  have stays : Chronicled e.retryPolicy.Discreet run (pure run) := .waits run runs
  have heeds : ∀ now, run.Holds (run.heeding now) := fun _ => ⟨rfl, fun _ => rfl⟩
  unfold step
  split
  · exact chronicled_afterOpening disk _ _ _ _
  · next answer taken meanwhile request hops body phase =>
    dsimp only
    split
    · exact .charged (heeds meanwhile) rfl (chronicled_judgeFailure _ _)
    · exact .charged (heeds meanwhile) rfl (chronicled_takeResponse disk _ _ _ _)
  · next meanwhile response body flow phase =>
    have settles := fun read => (response.discreet_settle body read).chronicle_eq_nil
    dsimp only
    split
    · exact stays
    · exact .charged (heeds meanwhile) rfl (.afterWord (settles _) (chronicled_judge _ _))
    · exact .charged (heeds meanwhile) rfl (.afterWord (settles _) (chronicled_judge _ _))
  · next meanwhile delay phase =>
    exact .charged (heeds meanwhile) rfl (chronicled_beginAttempt disk _)
  · dsimp only
    split
    · exact .charged (heeds true) rfl (.afterWord rfl (.finish _ _))
    · exact .charged (heeds true) rfl (.afterWord rfl (.finish _ _))
    · exact .charged (heeds true) rfl (.afterWord rfl (.finish _ _))
    · exact .charged (heeds true) rfl (.waits _ runs)
  · exact stays

/-- A step of a run that is over. -/
theorem step_of_finished (signal : Signal) {run : Run} (ended : run.phase.isFinished = true) :
    ∃ now, e.step disk signal run = pure (run.heeding now) := by
  obtain ⟨outcome, phase⟩ := Phase.isFinished_iff.mp ended
  unfold step
  cases signal with
  | cancelled => exact ⟨true, by simp [phase]⟩
  | _ => exact ⟨false, by simp [phase]⟩

theorem execution_chronicled (command : Command) (live : command.state.isTerminal = false)
    (lives : Lives) (signals : List Signal) :
    Chronicled e.retryPolicy.Discreet ⟨command, lives, .idle⟩
      (e.execution disk command lives signals) := by
  induction signals using List.reverseRecOn with
  | nil =>
    rw [execution_nil, start_of_live e disk command lives live]
    exact chronicled_beginAttempt disk _
  | append_singleton signals signal before =>
    rw [execution_concat]
    cases before with
    | onward states told liveStates state holds runs =>
      exact .after states told liveStates holds state (chronicled_step disk signal _ runs)
    | ended states last outcome now told liveStates state holds value =>
      have ended : (e.execution disk command lives signals).value.phase.isFinished = true := by
        rw [value]
        rfl
      obtain ⟨later, steps⟩ := step_of_finished (e := e) disk signal ended
      refine .ended states last outcome (now || later) (fun quiet => ?_) liveStates state holds ?_
      · rw [Writer.chronicle_bind, told quiet, steps, Writer.chronicle_pure, List.append_nil]
      · rw [Writer.value_bind, steps, value, Writer.value_pure]
        simp [Run.heeding, Bool.or_assoc, Run.withCommand]

end Executor

end Courier
