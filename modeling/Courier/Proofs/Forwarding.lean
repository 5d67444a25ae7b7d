import Courier.Proofs.BaseRequest
import Courier.Proofs.Cancellation

/-!
What a step sends. The request that is due on a signal is known before the step (`Executor.due?`): a redirect leads to
it, or the filters make it of the request of the command when a pause is over. Unless the run waits for a file,
whatever it hands over was due, and what is due is on its way to the transport with nothing else done before
(`Moved.forwards`).
-/
namespace Courier

/-- The request that a run is about to send on a signal: after a pause what the filters make of the request of the
command, and on a redirect the request that it leads to. -/
def Executor.due? (e : Executor) (run : Run) (signal : Signal) : Option Request :=
  match run.phase, signal with
  | .pausing _, .pauseOver _ =>
    (e.filters.apply run.command.freshName run.command.request).value.toOption
  | _, _ => (e.hop? run signal).map (·.next)

section

variable {e : Executor} {disk : Disk} {run after : Run} {deeds : List Event} {request : Request}
  {hops : Nat}

theorem Executor.due?_of_pausing {delay : Duration} (phase : run.phase = .pausing delay)
    (meanwhile : Bool) : e.due? run (.pauseOver meanwhile) =
      (e.filters.apply run.command.freshName run.command.request).value.toOption := by
  simp only [due?, phase]

theorem Executor.due?_of_sending {body : Option Flow} (phase : run.phase = .sending request hops body)
    (signal : Signal) : e.due? run signal = (e.hop? run signal).map (·.next) := by
  simp only [due?, phase]

/-- Nothing is due where no response comes and no pause is over. -/
theorem Executor.due?_of_idle {signal : Signal} (stays : signal.isResponse = false)
    (other : ∀ meanwhile, signal ≠ .pauseOver meanwhile) : e.due? run signal = none := by
  unfold due?
  split
  · exact absurd rfl (other _)
  · rw [hop?_of_no_response stays]
    rfl

theorem Executor.due?_of_deaf {signal : Signal} (deaf : e.awaits run.phase signal = false) :
    e.due? run signal = none := by
  unfold due?
  split
  · next phase =>
    rw [phase] at deaf
    cases deaf
  · rw [hop?_of_deaf deaf]
    rfl

theorem HandedOver.request_of_handed {body flow : Option Flow} {sent : Request}
    (hands : HandedOver request hops body run after deeds) (done : .handed sent flow ∈ deeds) :
    sent = request := by
  cases hands with
  | stopped cancelled => cases done
  | handed quiet =>
    cases List.mem_singleton.mp done
    rfl

theorem Dispatched.request_of_handed {flow : Option Flow} {sent : Request}
    (dispatched : Dispatched disk request hops run after deeds) (done : .handed sent flow ∈ deeds) :
    sent = request := by
  cases dispatched with
  | stopped cancelled => cases done
  | bodiless quiet empty hands => exact hands.request_of_handed done
  | refused quiet full opens => cases done
  | opened quiet full opens hands => exact hands.request_of_handed done
  | opening quiet full opens file live => cases done

/-- What a step does about the sending of a request: it sends the one that is due, from where the run stands with the
payloads and its account, or there is none and it hands none over. -/
def Forwards (e : Executor) (disk : Disk) (run : Run) (signal : Signal) (after : Run)
    (deeds : List Event) : Prop :=
  (∃ request hops, ∃ begun : Run, e.due? run signal = some request ∧ begun.lives = run.lives ∧
    begun.command.retryState = run.command.retryState ∧
    Dispatched disk request hops begun after deeds) ∨
  (e.due? run signal = none ∧ deeds.countP Event.isHanded = 0)

theorem Begun.forwards {delay : Duration} {meanwhile : Bool}
    (begun : Begun e disk (run.heeding meanwhile) after deeds)
    (phase : run.phase = .pausing delay) : Forwards e disk run (.pauseOver meanwhile) after deeds := by
  unfold Forwards
  rw [Executor.due?_of_pausing phase]
  -- The filters see the request of the command, which a cancellation does not touch.
  cases begun with
  | refused filters =>
    replace filters :
      (e.filters.apply run.command.freshName run.command.request).value = .error _ := filters
    rw [filters]
    exact .inr ⟨rfl, rfl⟩
  | filtered filters sent =>
    replace filters :
      (e.filters.apply run.command.freshName run.command.request).value = .ok _ := filters
    rw [filters]
    let filtered := (run.heeding meanwhile).command.filtered
    exact .inl ⟨_, _, (run.heeding meanwhile).withCommand filtered, rfl, rfl, rfl, sent⟩

theorem Answered.forwards {response answer : Response} {body : Option Flow} {taken : Nat}
    {meanwhile : Bool} (phase : run.phase = .sending request hops body)
    (digested : answer = { response with requestDigest := e.digestOfTaken body taken })
    (answered : Answered e disk request hops answer (run.heeding meanwhile) after deeds) :
    Forwards e disk run (.answered (.ok response) taken meanwhile) after deeds := by
  unfold Forwards
  rw [Executor.due?_of_sending phase, Executor.hop?_of_sending _ phase digested]
  cases answered with
  | astray next =>
    rw [next]
    exact .inr ⟨rfl, rfl⟩
  | @followed hop after deeds next sent =>
    rw [next]
    let bound := (run.heeding meanwhile).command.bound hop
    exact .inl ⟨hop, _, (run.heeding meanwhile).withCommand bound, rfl, rfl, rfl, sent⟩
  | succeeded next success =>
    rw [next]
    exact .inr ⟨rfl, rfl⟩
  | stopped next success cancelled =>
    rw [next]
    exact .inr ⟨rfl, rfl⟩
  | judged next success quiet buffers judged =>
    rw [next]
    exact .inr ⟨rfl, judged.concluded.silent⟩
  | reading next success quiet buffers =>
    rw [next]
    exact .inr ⟨rfl, rfl⟩

/-- Every step of a run that waits for no file sends what is due, or tries to. -/
theorem Moved.forwards {signal : Signal} (moved : Moved e disk run signal after deeds)
    (closed : run.phase.isOpening = false) : Forwards e disk run signal after deeds := by
  cases moved with
  | unmoved deaf calm => exact .inr ⟨Executor.due?_of_deaf deaf, rfl⟩
  | marked runs => exact .inr ⟨Executor.due?_of_idle rfl (by simp), rfl⟩
  | stopped waits => exact .inr ⟨Executor.due?_of_idle rfl (by simp), rfl⟩
  | refused phase => exact absurd closed (by simp [phase, Phase.isOpening])
  | opened phase hands => exact absurd closed (by simp [phase, Phase.isOpening])
  | failed phase fails =>
    exact .inr ⟨Executor.due?_of_idle rfl (by simp), fails.concluded.silent⟩
  | answered phase answer => exact answer.forwards phase rfl
  | judged phase reads judged =>
    exact .inr ⟨Executor.due?_of_idle rfl (by simp), judged.concluded.silent⟩
  | begun phase begins => exact begins.forwards phase

/-- What a step hands over was due. -/
theorem Forwards.due_of_handed {signal : Signal} {sent : Request} {body : Option Flow}
    (forwards : Forwards e disk run signal after deeds) (done : .handed sent body ∈ deeds) :
    e.due? run signal = some sent := by
  rcases forwards with ⟨request, hops, begun, due, -, -, dispatched⟩ | ⟨-, silent⟩
  · rw [due, dispatched.request_of_handed done]
  · exact absurd rfl (List.countP_eq_zero.mp silent _ done)

end

end Courier
