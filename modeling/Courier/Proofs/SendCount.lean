import Courier.Proofs.Cancellation

/-!
What the count of sends counts. Every leg counts the requests that it hands over (`Accounted`), with one exception:
when a file is open, the send is counted before the run looks whether the command was cancelled meanwhile, so a
run that gives the send up then has counted one that the transport never saw (`Run.forgoes`). That happens
at most once, as it ends the run.
-/
namespace Courier

/-- The sends that the error speaks of as made. -/
def CommandError.attempts? : CommandError → Option Nat
  | cancelled attempts => some attempts
  | retryExhausted attempts .. => some attempts
  | _ => none

/-- The sends that the result of the run speaks of, if it is over and its error speaks of any. -/
def Phase.attempts? : Phase → Option Nat
  | finished (.error error) => error.attempts?
  | _ => none

/-- Does the run give up a send on the signal, with the body open and the send counted? -/
def Run.forgoes (run : Run) (signal : Signal) : Bool :=
  match run.phase, signal with
  | .opening _ _ (.ok _), .opened => run.command.cancelled
  | _, _ => false

/-- What a leg does to the account of sends: it counts what it hands over, and `lost` sends that it gives up. If it ends
the run, its error speaks of as many. -/
structure Accounted (lost : Nat) (run after : Run) (deeds : List Event) : Prop where
  sends : after.command.attempts = run.command.attempts + deeds.countP Event.isHanded + lost
  told : ∀ count ∈ after.phase.attempts?, count = after.command.attempts

section

variable {e : Executor} {disk : Disk} {run after : Run} {deeds : List Event}

/-- A leg after something that leaves the count of sends. -/
theorem Accounted.resumed {lost : Nat} {mid : Run} (rest : Accounted lost mid after deeds)
    (same : mid.command.attempts = run.command.attempts) : Accounted lost run after deeds :=
  ⟨same ▸ rest.sends, rest.told⟩

/-- A run that ends as cancelled. -/
theorem Accounted.stopped (run : Run) : Accounted 0 run run.stopped [] := by
  refine ⟨rfl, fun count speaks => ?_⟩
  cases speaks
  rfl

/-- A run that ends with an error that speaks of no sends. -/
theorem Accounted.ended_silent {error : CommandError} (silent : error.attempts? = none) :
    Accounted 0 run (run.ended (.error error)) [] := by
  refine ⟨rfl, fun count speaks => ?_⟩
  rw [show (run.ended (.error error)).phase.attempts? = none from silent] at speaks
  cases speaks

theorem HandedOver.accounted {request : Request} {hops : Nat} {body : Option Flow}
    (hands : HandedOver request hops body run after deeds) :
    Accounted run.command.cancelled.toNat run after deeds := by
  cases hands with
  | stopped cancelled =>
    rw [cancelled]
    refine ⟨rfl, fun count speaks => ?_⟩
    cases speaks
    rfl
  | handed quiet =>
    rw [quiet]
    exact ⟨rfl, nofun⟩

theorem Executor.attempts?_openingError (run : Run) (request : Request) (error : PayloadError) :
    (openingError run request error).attempts? = none := by
  cases error <;> rfl

theorem Dispatched.accounted {request : Request} {hops : Nat}
    (sent : Dispatched disk request hops run after deeds) : Accounted 0 run after deeds := by
  cases sent with
  | stopped cancelled => exact .stopped run
  | bodiless quiet empty hands =>
    have accounted := hands.accounted
    rwa [quiet] at accounted
  | @refused p error life quiet full opens =>
    have silent := Executor.attempts?_openingError run request error
    exact (Accounted.ended_silent silent).resumed rfl
  | @opened p stream life after deeds quiet full opens hands =>
    have accounted := hands.accounted
    rw [show ({ run with lives := run.lives.set p.id life } : Run).command.cancelled = false
      from quiet] at accounted
    exact accounted.resumed rfl
  | opening quiet full opens file live => exact ⟨rfl, nofun⟩

theorem Begun.accounted (begun : Begun e disk run after deeds) : Accounted 0 run after deeds := by
  cases begun with
  | @refused error filters =>
    exact Accounted.resumed (.ended_silent (show (CommandError.filter error).attempts? = none from rfl))
      rfl
  | filtered filters sent => exact sent.accounted.resumed rfl

theorem Rested.accounted {delay : Duration} (rest : Rested delay run after deeds) :
    Accounted 0 run after deeds := by
  cases rest with
  | stopped cancelled => exact (Accounted.stopped (run.withCommand run.command.resting)).resumed rfl
  | pausing quiet => exact ⟨rfl, nofun⟩

theorem Failed.accounted {error : TransportError} (fails : Failed e error run after deeds) :
    Accounted 0 run after deeds := by
  cases fails with
  | final lasting => exact .ended_silent rfl
  | exhausted passing spent =>
    refine ⟨rfl, fun count speaks => ?_⟩
    cases speaks
    rfl
  | rested passing left rest => exact rest.accounted.resumed rfl

theorem Judged.accounted {response : Response} (judged : Judged e response run after deeds) :
    Accounted 0 run after deeds := by
  cases judged with
  | final decision => exact ⟨rfl, nofun⟩
  | exhausted decision spent =>
    refine ⟨rfl, fun count speaks => ?_⟩
    cases speaks
    rfl
  | rested decision left rest =>
    have rested := rest.accounted
    refine ⟨?_, rested.told⟩
    rw [rested.sends, List.countP_cons_of_neg (by simp [Event.isHanded])]
    rfl

/-- A redirect that leads nowhere speaks of no sends. -/
theorem CommandError.attempts?_of_astray {policy : RedirectPolicy} {request : Request}
    {response : Response} {hops : Nat} {error : CommandError}
    (astray : (policy.nextRequest request response hops).value = .error error) :
    error.attempts? = none := by
  obtain ⟨count, rfl⟩ | ⟨location, rfl⟩ := RedirectPolicy.error_of_astray astray
  · rfl
  · rfl

theorem Answered.accounted {request : Request} {hops : Nat} {response : Response}
    (answered : Answered e disk request hops response run after deeds) :
    Accounted 0 run after deeds := by
  cases answered with
  | astray next => exact .ended_silent (CommandError.attempts?_of_astray next)
  | followed next sent => exact sent.accounted.resumed rfl
  | succeeded next success => exact ⟨rfl, nofun⟩
  | stopped next success cancelled => exact .stopped run
  | judged next success quiet buffers judged => exact judged.accounted
  | reading next success quiet buffers => exact ⟨rfl, nofun⟩

/-- Nothing is given up on a signal but that a file is open. -/
theorem Accounted.unforgone {signal : Signal} (other : signal ≠ .opened)
    (accounted : Accounted 0 run after deeds) : Accounted (run.forgoes signal).toNat run after deeds := by
  have kept : run.forgoes signal = false := by
    unfold Run.forgoes
    split
    · exact absurd rfl other
    · rfl
  rw [kept]
  exact accounted

theorem Run.forgoes_of_deaf {signal : Signal} (deaf : e.awaits run.phase signal = false) :
    run.forgoes signal = false := by
  unfold forgoes
  split
  · next phase =>
    rw [phase] at deaf
    cases deaf
  · rfl

/-- Every step counts the sends that it makes, and the one that it gives up. -/
theorem Moved.accounted {signal : Signal} (moved : Moved e disk run signal after deeds)
    (told : ∀ count ∈ run.phase.attempts?, count = run.command.attempts) :
    Accounted (run.forgoes signal).toNat run after deeds := by
  cases moved with
  | unmoved deaf calm =>
    rw [Run.forgoes_of_deaf deaf]
    exact ⟨rfl, told⟩
  | marked runs => exact .unforgone nofun ⟨rfl, told⟩
  | stopped waits =>
    exact .unforgone nofun ((Accounted.stopped (run.heeding true)).resumed rfl)
  | @refused request hops error phase =>
    rw [show run.forgoes .opened = false by simp [Run.forgoes, phase]]
    exact .ended_silent (Executor.attempts?_openingError run request error)
  | opened phase hands =>
    rw [show run.forgoes .opened = run.command.cancelled by simp [Run.forgoes, phase]]
    exact hands.accounted
  | failed phase fails => exact .unforgone nofun (fails.accounted.resumed rfl)
  | answered phase answer => exact .unforgone nofun (answer.accounted.resumed rfl)
  | judged phase reads judged => exact .unforgone nofun (judged.accounted.resumed rfl)
  | begun phase begins => exact .unforgone nofun (begins.accounted.resumed rfl)

/-- A run that gives up a send ends as cancelled. -/
theorem Moved.stopped_of_forgoes {signal : Signal} (moved : Moved e disk run signal after deeds)
    (forgoes : run.forgoes signal = true) :
    after.phase = .finished (.error (.cancelled after.command.attempts)) := by
  unfold Run.forgoes at forgoes
  split at forgoes
  · next request hops stream phase =>
    obtain ⟨other, -⟩ | ⟨error, fails, -⟩ | ⟨same, -, hands⟩ := moved.of_opening phase
    · exact absurd rfl other
    · cases fails
    · rw [hands.of_cancelled forgoes]
      rfl
  · cases forgoes

end

/-- The account of sends of a run with this history, in which it gave up so many: all that it counted it made, unless
it ended as cancelled when it gave one up. -/
structure SendsCounted (lost : Nat) (history : List Event) (run : Run) : Prop where
  sends : run.command.attempts = history.countP Event.isHanded + lost
  told : ∀ count ∈ run.phase.attempts?, count = run.command.attempts
  once : lost = 0 ∨
    lost = 1 ∧ run.phase = .finished (.error (.cancelled run.command.attempts))

theorem Moved.sendsCounted {e : Executor} {disk : Disk} {run after : Run} {history deeds : List Event}
    {signal : Signal} {lost : Nat} (moved : Moved e disk run signal after deeds)
    (before : SendsCounted lost history run) :
    SendsCounted (lost + (run.forgoes signal).toNat) (history ++ deeds) after := by
  have accounted := moved.accounted before.told
  have sends := before.sends
  refine ⟨?_, accounted.told, ?_⟩
  · rw [accounted.sends, List.countP_append]
    omega
  · rcases before.once with none | ⟨one, ended⟩
    · cases forgoes : run.forgoes signal with
      | false => exact .inl (by simp [none])
      | true => exact .inr ⟨by simp [none], moved.stopped_of_forgoes forgoes⟩
    · obtain ⟨still, same⟩ := moved.finished ended
      have kept : run.forgoes signal = false := by simp [Run.forgoes, ended]
      exact .inr ⟨by simp [one, kept], by rw [still, same]⟩

namespace Executor

/-- How often the run of a command gives up a send that it counted: its command was cancelled while a file was being
opened, and now the file is open. -/
def forgone (e : Executor) (disk : Disk) (command : Command) (lives : Lives) (signals : List Signal) : Nat :=
  (e.encounters disk signals (e.start disk ⟨command, lives, .idle⟩).value).countP
    fun encounter => encounter.1.forgoes encounter.2

theorem forgone_concat (e : Executor) (disk : Disk) (command : Command) (lives : Lives)
    (signals : List Signal) (signal : Signal) :
    e.forgone disk command lives (signals ++ [signal]) = e.forgone disk command lives signals +
      ((e.execution disk command lives signals).value.forgoes signal).toNat := by
  have last : ∀ run : Run, ([(run, signal)] : List (Run × Signal)).countP
      (fun encounter => encounter.1.forgoes encounter.2) = (run.forgoes signal).toNat := by
    intro run
    cases forgoes : run.forgoes signal <;> simp [forgoes]
  unfold forgone
  rw [encounters_append, List.countP_append, ← last]
  rfl

variable {e : Executor} {disk : Disk} {number : Nat} {request : Request} {retrySafe : Bool}
  {cancelled : Bool} {lives : Lives}

theorem execution_sendsCounted (signals : List Signal) :
    SendsCounted (e.forgone disk (.built number request retrySafe cancelled) lives signals)
      (e.execution disk (.built number request retrySafe cancelled) lives signals).deeds
      (e.execution disk (.built number request retrySafe cancelled) lives signals).value := by
  refine execution_induction
    (P := fun signals history run => SendsCounted
      (e.forgone disk (.built number request retrySafe cancelled) lives signals) history run)
    rfl ?_ ?_ signals
  · intro after deeds begun
    have accounted := begun.accounted
    have none : (Command.built number request retrySafe cancelled).attempts = 0 := rfl
    refine ⟨?_, accounted.told, .inl rfl⟩
    rw [accounted.sends, none, Nat.zero_add]
    rfl
  · intro signals history signal after deeds before moved
    rw [forgone_concat]
    exact moved.sendsCounted before

end Executor

end Courier
