import Courier.Proofs.Bounds
import Courier.Proofs.Resend
import Courier.Proofs.Setbacks

/-!
Where the last request of a run went. An attempt begins with the request that the filters make of the command's, and each
redirect that it follows leads the request and the command to the same endpoint. So the last request that was
handed over went where the redirects led, if its attempt followed any, and else where the filters send the request
of the command (`Executor.goal?`). That is so of every run that holds an answer (`Executor.goal_of_answer`).
-/
namespace Courier

/-- The request that was handed to the transport. -/
def Event.request? : Event → Option Request
  | handed request _ => some request
  | _ => none

/-- The last request that was handed to the transport. -/
def lastHanded (events : List Event) : Option Request := (events.filterMap Event.request?).getLast?

/-- The sends of the latest attempt. -/
def latestSends (events : List Event) : Nat := (sendsByAttempt events).headD 0

section

variable {history deeds : List Event}

theorem lastHanded_deeds {α : Type} (x : Writer Event α) : lastHanded x.deeds = lastHanded x.output := by
  rw [lastHanded, lastHanded, Writer.filterMap_deeds x Event.request? fun _ => rfl]

theorem latestSends_deeds {α : Type} (x : Writer Event α) : latestSends x.deeds = latestSends x.output := by
  rw [latestSends, latestSends, sendsByAttempt_deeds]

theorem lastHanded_handed (history : List Event) (request : Request) (body : Option Flow) :
    lastHanded (history ++ [.handed request body]) = some request := by
  simp [lastHanded, Event.request?]

/-- What is decided is not handed over. -/
theorem lastHanded_append_of_isDecided (history : List Event) {verdict : List Event}
    (decided : ∀ deed ∈ verdict, deed.isDecided = true) :
    lastHanded (history ++ verdict) = lastHanded history := by
  have none : verdict.filterMap Event.request? = [] := by
    rw [List.filterMap_eq_nil_iff]
    intro deed belongs
    have told := decided deed belongs
    cases deed <;> first | rfl | cases told
  rw [lastHanded, List.filterMap_append, none, List.append_nil, lastHanded]

theorem latestSends_handed (history : List Event) (request : Request) (body : Option Flow) :
    latestSends (history ++ [.handed request body]) = latestSends history + 1 := by
  have length := sendsByAttempt_length history
  unfold latestSends
  rw [sendsByAttempt_append]
  cases split : sendsByAttempt history with
  | nil => simp [split] at length
  | cons latest earlier => rfl

theorem latestSends_pausing (history : List Event) (delay : Duration) :
    latestSends (history ++ [.pausing delay]) = 0 := by
  rw [latestSends, sendsByAttempt_append]
  rfl

theorem latestSends_append_of_isDecided (history : List Event) {verdict : List Event}
    (decided : ∀ deed ∈ verdict, deed.isDecided = true) :
    latestSends (history ++ verdict) = latestSends history := by
  rw [latestSends, latestSends, sendsByAttempt_append_of_isDecided history decided]

end

/-- The names for payloads that the filters made in the latest round. -/
def Command.latestName (c : Command) (position : Nat) : PayloadId :=
  .made c.number (c.rounds - 1) position

namespace Executor

/-- What the filters make of the request of the command in its latest round. -/
def filtered (e : Executor) (c : Command) : Except FilterError Request :=
  (e.filters.apply c.latestName c.request).value

/-- The endpoint that the latest attempt of a command has come to with so many sends: where the redirects led, if it
followed any, and else where the filters send the request of the command. -/
def goal? (e : Executor) (c : Command) (sends : Nat) : Option Url :=
  if 1 < sends then some c.request.endpoint
  else match e.filtered c with
    | .ok request => some request.endpoint
    | .error _ => none

/-- How a request came about after so many redirects in the attempt. -/
structure Routed (e : Executor) (c : Command) (request : Request) (hops : Nat) : Prop where
  first : hops = 0 → e.filtered c = .ok request
  later : 0 < hops → request.endpoint = c.request.endpoint

/-- The last request that was handed over, after so many redirects in the attempt. -/
structure Sent (e : Executor) (history : List Event) (c : Command) (request : Request) (hops : Nat) :
    Prop extends Routed e c request hops where
  sends : latestSends history = hops + 1
  last : lastHanded history = some request

/-- The same of the command at another stage. -/
theorem Routed.kept {e : Executor} {c later : Command} {request : Request} {hops : Nat}
    (route : e.Routed c request hops) (number : later.number = c.number)
    (rounds : later.rounds = c.rounds) (base : later.request = c.request) :
    e.Routed later request hops := by
  have same : e.filtered later = e.filtered c := by
    unfold filtered Command.latestName
    rw [number, rounds, base]
  exact ⟨fun none => same.trans (route.first none), fun some => by rw [base, route.later some]⟩

theorem Sent.kept {e : Executor} {history : List Event} {c later : Command} {request : Request}
    {hops : Nat} (sent : e.Sent history c request hops) (number : later.number = c.number)
    (rounds : later.rounds = c.rounds) (base : later.request = c.request) :
    e.Sent history later request hops :=
  ⟨sent.toRouted.kept number rounds base, sent.sends, sent.last⟩

theorem Sent.goal {e : Executor} {history : List Event} {c : Command} {request : Request} {hops : Nat}
    (sent : e.Sent history c request hops) :
    e.goal? c (latestSends history) = some request.endpoint := by
  unfold goal?
  rw [sent.sends]
  cases hops with
  | zero => rw [if_neg (by omega), sent.first rfl]
  | succ hops => rw [if_pos (by omega), sent.later (Nat.succ_pos hops)]

end Executor

/-- Where the request of a run is: on its way, with the transport, or answered. -/
def Placed (e : Executor) (history : List Event) (run : Run) : Prop :=
  match run.phase with
  | .opening request hops _ => latestSends history = hops ∧ e.Routed run.command request hops
  | .sending request hops _ => e.Sent history run.command request hops
  | .pausing _ => latestSends history = 0
  | phase => phase.holdsAnswer = true → ∃ request hops, e.Sent history run.command request hops

section

variable {e : Executor} {disk : Disk} {run after : Run} {history deeds : List Event}
  {request : Request} {hops : Nat}

/-- A run that has ended without an answer. -/
theorem Placed.closed {outcome : Outcome} (ended : run.phase = .finished outcome)
    (free : run.phase.holdsAnswer = false) : Placed e history run := by
  unfold Placed
  rw [ended] at free ⊢
  intro holds
  rw [free] at holds
  cases holds

/-- A run that holds the answer to the last request. -/
theorem Placed.answering (sent : e.Sent history run.command request hops)
    (holds : run.phase.holdsAnswer = true) : Placed e history run := by
  unfold Placed
  cases phase : run.phase with
  | reading response body flow => exact fun _ => ⟨request, hops, sent⟩
  | finished outcome => exact fun _ => ⟨request, hops, sent⟩
  | _ =>
    rw [phase] at holds
    cases holds

theorem Placed.of_opening {opened : Except PayloadError Stream} (placed : Placed e history run)
    (phase : run.phase = .opening request hops opened) :
    latestSends history = hops ∧ e.Routed run.command request hops := by
  unfold Placed at placed
  rw [phase] at placed
  exact placed

theorem Placed.of_sending {body : Option Flow} (placed : Placed e history run)
    (phase : run.phase = .sending request hops body) : e.Sent history run.command request hops := by
  unfold Placed at placed
  rw [phase] at placed
  exact placed

theorem Placed.of_pausing {delay : Duration} (placed : Placed e history run)
    (phase : run.phase = .pausing delay) : latestSends history = 0 := by
  unfold Placed at placed
  rw [phase] at placed
  exact placed

theorem Placed.of_holdsAnswer (placed : Placed e history run) (holds : run.phase.holdsAnswer = true) :
    ∃ request hops, e.Sent history run.command request hops := by
  unfold Placed at placed
  cases phase : run.phase with
  | reading response body flow =>
    rw [phase] at placed
    exact placed rfl
  | finished outcome =>
    rw [phase] at placed holds
    exact placed holds
  | _ =>
    rw [phase] at holds
    cases holds

/-- A cancellation that takes effect later moves nothing. -/
theorem Placed.heeding (placed : Placed e history run) (now : Bool) :
    Placed e history (run.heeding now) := by
  have same : (run.heeding now).phase = run.phase := rfl
  unfold Placed at placed ⊢
  rw [same]
  cases phase : run.phase with
  | opening request hops opened =>
    rw [phase] at placed
    exact ⟨placed.1, placed.2.kept rfl rfl rfl⟩
  | sending request hops body =>
    rw [phase] at placed
    exact placed.kept rfl rfl rfl
  | pausing delay =>
    rw [phase] at placed
    exact placed
  | _ =>
    rw [phase] at placed
    intro holds
    obtain ⟨request, hops, sent⟩ := placed holds
    exact ⟨request, hops, sent.kept rfl rfl rfl⟩

theorem HandedOver.placed {body : Option Flow} (hands : HandedOver request hops body run after deeds)
    (sends : latestSends history = hops) (route : e.Routed run.command request hops) :
    Placed e (history ++ deeds) after := by
  cases hands with
  | stopped cancelled => exact .closed rfl rfl
  | handed quiet =>
    have counted : latestSends (history ++ [.handed request body]) = hops + 1 := by
      rw [latestSends_handed, sends]
    exact ⟨route.kept rfl rfl rfl, counted, lastHanded_handed history request body⟩

theorem Dispatched.placed (sent : Dispatched disk request hops run after deeds)
    (sends : latestSends history = hops) (route : e.Routed run.command request hops) :
    Placed e (history ++ deeds) after := by
  cases sent with
  | stopped cancelled => exact .closed rfl rfl
  | bodiless quiet empty hands => exact hands.placed sends route
  | refused quiet full opens => exact .closed rfl (Executor.isOfSend_openingError run request _)
  | opened quiet full opens hands => exact hands.placed sends (route.kept rfl rfl rfl)
  | opening quiet full opens file live =>
    rw [List.append_nil]
    exact ⟨sends, route.kept rfl rfl rfl⟩

theorem Begun.placed (begun : Begun e disk run after deeds) (sends : latestSends history = 0) :
    Placed e (history ++ deeds) after := by
  cases begun with
  | refused filters => exact .closed rfl rfl
  | filtered filters sent =>
    refine sent.placed sends ⟨fun _ => filters, fun some => ?_⟩
    exact absurd some (Nat.lt_irrefl 0)

theorem Rested.placed {delay : Duration} (rest : Rested delay run after deeds) :
    Placed e (history ++ deeds) after := by
  cases rest with
  | stopped cancelled => exact .closed rfl rfl
  | pausing quiet => exact latestSends_pausing history delay

/-- What is decided about an answer does not move the request. -/
theorem Executor.Sent.decided {c : Command} (sent : e.Sent history c request hops)
    {verdict : List Event} (decided : ∀ deed ∈ verdict, deed.isDecided = true) :
    e.Sent (history ++ verdict) c request hops where
  toRouted := sent.toRouted
  sends := (latestSends_append_of_isDecided history decided).trans sent.sends
  last := (lastHanded_append_of_isDecided history decided).trans sent.last

theorem Failed.placed {error : TransportError} (fails : Failed e error run after deeds)
    (sent : e.Sent history run.command request hops) : Placed e (history ++ deeds) after := by
  cases fails with
  | final lasting =>
    rw [List.append_nil]
    exact .answering (sent.kept rfl rfl rfl) rfl
  | exhausted passing spent =>
    rw [List.append_nil]
    exact .answering (sent.kept rfl rfl rfl) rfl
  | rested passing left rest => exact rest.placed

theorem Judged.placed {response : Response} (judged : Judged e response run after deeds)
    (sent : e.Sent history run.command request hops) : Placed e (history ++ deeds) after := by
  have told : ∀ decision, ∀ deed ∈ [Event.decided (run.command.answeredBy e response) response decision],
      deed.isDecided = true := by simp [Event.isDecided]
  cases judged with
  | final decision => exact .answering ((sent.decided (told _)).kept rfl rfl rfl) rfl
  | exhausted decision spent => exact .answering ((sent.decided (told _)).kept rfl rfl rfl) rfl
  | rested decision left rest =>
    rw [List.append_cons]
    exact rest.placed

theorem Answered.placed {response : Response}
    (answered : Answered e disk request hops response run after deeds)
    (sent : e.Sent history run.command request hops) : Placed e (history ++ deeds) after := by
  cases answered with
  | astray next => exact .closed rfl (CommandError.isOfSend_of_astray next)
  | @followed hop after deeds next dispatched =>
    refine dispatched.placed sent.sends ⟨fun none => ?_, fun _ => ?_⟩
    · exact absurd none (Nat.succ_ne_zero hops)
    · exact (Request.redirected_endpoint run.command.request hop).symm
  | succeeded next success =>
    rw [List.append_nil]
    exact .answering (sent.kept rfl rfl rfl) rfl
  | stopped next success cancelled => exact .closed rfl rfl
  | judged next success quiet buffers judged => exact judged.placed sent
  | reading next success quiet buffers =>
    rw [List.append_nil]
    exact .answering (sent.kept rfl rfl rfl) rfl

theorem Moved.placed {signal : Signal} (moved : Moved e disk run signal after deeds)
    (before : Placed e history run) : Placed e (history ++ deeds) after := by
  cases moved with
  | unmoved deaf calm =>
    rw [List.append_nil]
    exact before
  | marked runs =>
    rw [List.append_nil]
    exact before.heeding true
  | stopped waits => exact .closed rfl rfl
  | refused phase => exact .closed rfl (Executor.isOfSend_openingError run _ _)
  | opened phase hands =>
    obtain ⟨sends, route⟩ := before.of_opening phase
    exact hands.placed sends route
  | failed phase fails => exact fails.placed ((before.of_sending phase).kept rfl rfl rfl)
  | answered phase answer => exact answer.placed ((before.of_sending phase).kept rfl rfl rfl)
  | judged phase reads judged =>
    obtain ⟨request, hops, sent⟩ := before.of_holdsAnswer (by rw [phase]; rfl)
    exact judged.placed (sent.kept rfl rfl rfl)
  | begun phase begins => exact begins.placed (before.of_pausing phase)

end

namespace Executor

variable {e : Executor} {disk : Disk} {number : Nat} {request : Request} {retrySafe : Bool}
  {cancelled : Bool} {lives : Lives}

theorem execution_placed {command : Command} (live : command.state.isTerminal = false)
    (signals : List Signal) :
    Placed e (e.execution disk command lives signals).deeds
      (e.execution disk command lives signals).value := by
  refine execution_induction (P := fun _ history run => Placed e history run) live ?_ ?_ signals
  · intro after deeds begun
    have placed : Placed e ([] ++ deeds) after := begun.placed rfl
    exact placed
  · intro signals history signal after deeds before moved
    exact moved.placed before

/-- A run that holds an answer has the last request it handed over to thank for it, and that went to the goal of the
latest attempt. -/
theorem goal_of_answer (signals : List Signal)
    (holds : (e.execution disk (.built number request retrySafe cancelled) lives
      signals).value.phase.holdsAnswer = true) :
    let run := e.execution disk (.built number request retrySafe cancelled) lives signals
    ∃ last, lastHanded run.output = some last ∧
      e.goal? run.value.command (latestSends run.output) = some last.endpoint := by
  intro run
  obtain ⟨last, hops, sent⟩ := (execution_placed rfl signals).of_holdsAnswer holds
  have goal := sent.goal
  have handed := sent.last
  rw [lastHanded_deeds] at handed
  rw [latestSends_deeds] at goal
  exact ⟨last, handed, goal⟩

end Executor

end Courier
