import Courier.Proofs.BaseRequest
import Courier.Proofs.Chronicle
import Courier.Proofs.Termination
import Mathlib.Data.List.Chain

/-!
The life of a command as a way through its states. `CommandState.leadsTo` is the graph of the states, and a leg of a run
takes a way through it (`Staged`): the way begins where the command stands, ends where the leg leaves it, and passes
through "sent", "retrying" and "redirecting" as often as the leg counts a send or a retry or follows a redirect.
What a run waits for tells the state of its command (`Phase.befits`), which is what the next leg begins from.

The states are read off the notices of the run. A policy could note what it likes, in the words of a command too;
so the run is looked at under the same policy without its notices (`Executor.muted`), which is the same run
(`Executor.concur_execution`).
-/
namespace Courier

namespace CommandState

/-- May a command go from the one state to the other? -/
def leadsTo : CommandState → CommandState → Bool
  | built, filtered => true
  | filtered, sent => true
  | sent, redirecting => true
  | redirecting, sent => true
  | sent, retrying => true
  | retrying, filtered => true
  | sent, succeeded => true
  | state, failed => !state.isTerminal
  | _, _ => false

/-- Nothing comes after the end of a command. -/
theorem isTerminal_of_leadsTo {state next : CommandState} (leads : state.leadsTo next = true) :
    state.isTerminal = false := by
  cases state <;> cases next <;> first | rfl | cases leads

theorem leadsTo_failed {state : CommandState} (live : state.isTerminal = false) :
    state.leadsTo .failed = true := by
  cases state <;> first | rfl | cases live

/-- The state in which a command ends with this outcome. -/
def ofOutcome (outcome : Outcome) : CommandState := if outcome.isOk then succeeded else failed

/-- The state with this name. -/
def ofName? (name : String) : Option CommandState :=
  [built, filtered, sent, retrying, redirecting, succeeded, failed].find? (·.name == name)

theorem ofName?_name (state : CommandState) : ofName? state.name = some state := by
  cases state <;> rfl

end CommandState

/-- The state that the event says a command has come to. -/
def Event.state? : Event → Option CommandState
  | notice (.commandState _ after) => CommandState.ofName? after
  | _ => none

namespace Writer

variable {α β : Type}

/-- The states that a command comes to on the way to a value. -/
def states (x : Writer Event α) : List CommandState := x.output.filterMap Event.state?

@[simp] theorem states_pure (x : α) : (pure x : Writer Event α).states = [] := rfl

@[simp] theorem states_bind (x : Writer Event α) (f : α → Writer Event β) :
    (x >>= f).states = x.states ++ (f x.value).states := by
  simp [states]

end Writer

/-- What does not speak of a command tells no state of it. -/
theorem Noted.Discreet.states_eq_nil {α : Type} {x : Noted α} (discreet : x.Discreet) :
    x.traced.states = [] := by
  rw [Writer.states, List.filterMap_eq_nil_iff]
  intro event belongs
  obtain ⟨n, noted, rfl⟩ := List.mem_map.mp belongs
  have other := discreet n noted
  cases n <;> first | rfl | cases other

@[simp] theorem Command.states_setState (c : Command) (state : CommandState) :
    (c.setState state).traced.states = [state] := by
  have named : (Event.notice (.commandState c.state.name state.name)).state? = some state :=
    state.ofName?_name
  simp [Writer.states, Noted.traced, setState, named]

@[simp] theorem Command.states_releasePayload (c : Command) (lives : Lives) :
    (c.releasePayload lives).traced.states = [] := by
  unfold releasePayload
  split
  · rfl
  · next p held =>
    have silent := (p.payload.discreet_release (lives p.id)).states_eq_nil
    simp only [Writer.states, Noted.traced, Writer.output_mapOutput] at silent ⊢
    simp only [Writer.output_bind, List.map_append, List.filterMap_append, silent]
    split <;> rfl

@[simp] theorem Run.states_finish (run : Run) (outcome : Outcome) :
    (run.finish outcome).states = [.ofOutcome outcome] := by
  cases outcome <;> simp [finish, CommandState.ofOutcome] <;> rfl

/-- A way that a command takes through the graph, following so many redirects. -/
structure Traversed (redirects : Nat) (before after : Command) (path : List CommandState) : Prop where
  follows : (before.state :: path).IsChain fun state next => state.leadsTo next = true
  arrives : after.state = path.getLastD before.state
  sends : after.attempts = before.attempts + path.count .sent
  retries : after.retryState.retries = before.retryState.retries + path.count .retrying
  redirects : path.count .redirecting = redirects

/-- What a command is on its way: its state and what it counts. -/
def Command.standing (c : Command) : CommandState × Nat × Nat :=
  (c.state, c.attempts, c.retryState.retries)

namespace Traversed

variable {before mid after : Command} {m n : Nat} {first second : List CommandState}

/-- A command that stands where it stood. -/
theorem still (same : after.standing = before.standing) : Traversed 0 before after [] := by
  simp only [Command.standing, Prod.mk.injEq] at same
  obtain ⟨state, sends, retries⟩ := same
  exact ⟨.singleton _, state, sends, retries, rfl⟩

/-- One step through the graph. -/
theorem step (next : CommandState) (leads : before.state.leadsTo next = true)
    (arrives : after.standing = (next, before.attempts + [next].count .sent,
      before.retryState.retries + [next].count .retrying)) :
    Traversed ([next].count .redirecting) before after [next] := by
  simp only [Command.standing, Prod.mk.injEq] at arrives
  obtain ⟨state, sends, retries⟩ := arrives
  exact ⟨List.isChain_pair.mpr leads, state, sends, retries, rfl⟩

/-- A way that goes on where another ends. -/
theorem isChain_append {state : CommandState} {follows : CommandState → CommandState → Prop}
    (way : (state :: first).IsChain follows) (rest : (first.getLastD state :: second).IsChain follows) :
    (state :: (first ++ second)).IsChain follows := by
  induction first generalizing state with
  | nil => exact rest
  | cons next first ih =>
    obtain ⟨leads, onward⟩ := List.isChain_cons_cons.mp way
    rw [List.getLastD_cons] at rest
    exact List.isChain_cons_cons.mpr ⟨leads, ih onward rest⟩

/-- One way after another. -/
theorem trans (way : Traversed m before mid first) (rest : Traversed n mid after second) :
    Traversed (m + n) before after (first ++ second) where
  follows := isChain_append way.follows (way.arrives ▸ rest.follows)
  arrives := by rw [rest.arrives, way.arrives, getLastD_append]
  sends := by rw [rest.sends, way.sends, List.count_append, Nat.add_assoc]
  retries := by rw [rest.retries, way.retries, List.count_append, Nat.add_assoc]
  redirects := by rw [List.count_append, way.redirects, rest.redirects]

end Traversed

/-- May a command be in this state while its run is in the phase? -/
def Phase.befits : Phase → CommandState → Prop
  | idle, state => state = .built
  | opening .., state => state.leadsTo .sent = true
  | sending .., state => state = .sent
  | reading .., state => state = .sent
  | pausing _, state => state = .retrying
  | finished outcome, state => state = .ofOutcome outcome

/-- A command is at no end while its run goes on. -/
theorem Phase.live_of_befits {phase : Phase} {state : CommandState} (befits : phase.befits state)
    (runs : phase.isFinished = false) : state.isTerminal = false := by
  cases phase with
  | idle => exact befits ▸ rfl
  | opening request hops opened => exact CommandState.isTerminal_of_leadsTo befits
  | sending request hops body => exact befits ▸ rfl
  | reading response body flow => exact befits ▸ rfl
  | pausing delay => exact befits ▸ rfl
  | finished outcome => cases runs

/-- A leg of a run that takes its command a way through the graph, following so many redirects, to where the run waits
or is over. -/
structure Staged (redirects : Nat) (run : Run) (leg : Traced Run) : Prop where
  way : Traversed redirects run.command leg.value.command leg.states
  befits : leg.value.phase.befits leg.value.command.state

namespace Staged

variable {run : Run} {leg : Traced Run} {α : Type} {prior : Traced α} {rest : α → Traced Run}
  {m n : Nat}

/-- A run that ends at once. -/
theorem finish (run : Run) (outcome : Outcome)
    (leads : run.command.state.leadsTo (.ofOutcome outcome) = true) :
    Staged 0 run (run.finish outcome) := by
  constructor
  · rw [Run.states_finish, Run.value_finish]
    cases outcome with
    | ok response => exact .step _ leads rfl
    | error error => exact .step _ leads rfl
  · rw [Run.value_finish]
    rfl

theorem fail (run : Run) (error : CommandError) (live : run.command.state.isTerminal = false) :
    Staged 0 run (run.fail error) :=
  finish run _ (CommandState.leadsTo_failed live)

/-- A run that goes on to wait in a phase. -/
theorem waits (run : Run) {phase : Phase} (befits : phase.befits run.command.state) :
    Staged 0 run (pure { run with phase }) :=
  ⟨.still rfl, befits⟩

/-- A leg that begins where the run stands after a part of the way. -/
theorem after (mid : Run) (way : Traversed m run.command mid.command prior.states)
    (leg : Staged n mid (rest prior.value)) : Staged (m + n) run (prior >>= rest) where
  way := by
    rw [Writer.states_bind]
    exact way.trans leg.way
  befits := leg.befits

/-- A leg after something that leaves the command where it stands. -/
theorem afterAll (mid : Run) (told : prior.states = [])
    (same : mid.command.standing = run.command.standing) (leg : Staged n mid (rest prior.value)) :
    Staged n run (prior >>= rest) := by
  have led : Staged (0 + n) run (prior >>= rest) := .after mid (told ▸ .still same) leg
  rwa [Nat.zero_add] at led

/-- A leg of the same run after a notice or a deed. -/
theorem afterWord (told : prior.states = []) (leg : Staged n run (rest prior.value)) :
    Staged n run (prior >>= rest) :=
  .afterAll run told rfl leg

/-- A leg of the run with another account of what went wrong. -/
theorem charged (mid : Run) (same : mid.command.standing = run.command.standing)
    (onward : Staged n mid leg) : Staged n run leg where
  way := by
    have led := (Traversed.still same).trans onward.way
    rwa [Nat.zero_add] at led
  befits := onward.befits

/-- A leg after the command came to a state that is no redirect. -/
theorem afterState (mid : Run) (next : CommandState) (told : prior.states = [next])
    (leads : run.command.state.leadsTo next = true)
    (arrives : mid.command.standing = (next, run.command.attempts + [next].count .sent,
      run.command.retryState.retries + [next].count .retrying))
    (other : [next].count .redirecting = 0) (leg : Staged n mid (rest prior.value)) :
    Staged n run (prior >>= rest) := by
  have led : Staged ([next].count .redirecting + n) run (prior >>= rest) :=
    .after mid (told ▸ .step next leads arrives) leg
  rwa [other, Nat.zero_add] at led

/-- A leg after a redirect. -/
theorem afterRedirect (mid : Run) (told : prior.states = [.redirecting])
    (sent : run.command.state = .sent)
    (arrives : mid.command.standing = (.redirecting, run.command.attempts,
      run.command.retryState.retries))
    (leg : Staged n mid (rest prior.value)) : Staged (n + 1) run (prior >>= rest) := by
  have leads : run.command.state.leadsTo .redirecting = true := sent ▸ rfl
  have led : Staged (1 + n) run (prior >>= rest) :=
    .after mid (told ▸ .step .redirecting leads arrives) leg
  rwa [Nat.add_comm] at led

end Staged

namespace Executor

variable {e : Executor} (disk : Disk) {run : Run}

theorem staged_handOver (request : Request) (hops : Nat) (body : Option Flow)
    (leads : run.command.state.leadsTo .sent = true) :
    Staged 0 run (handOver run request hops body) := by
  unfold handOver
  refine .afterState (run.withCommand run.command.sent) .sent rfl leads rfl rfl (.afterWord rfl ?_)
  split
  · exact .afterWord rfl (.fail _ _ rfl)
  · exact .afterWord rfl (.waits (run.withCommand run.command.sent) rfl)

theorem staged_afterOpening (request : Request) (hops : Nat) (opened : Except PayloadError Stream)
    (leads : run.command.state.leadsTo .sent = true) :
    Staged 0 run (afterOpening run disk request hops opened) := by
  cases opened with
  | error error => exact .fail _ _ (CommandState.isTerminal_of_leadsTo leads)
  | ok stream => exact staged_handOver _ _ _ leads

theorem staged_send (request : Request) (hops : Nat) (leads : run.command.state.leadsTo .sent = true) :
    Staged 0 run (send run disk request hops) := by
  unfold send
  split
  · exact .fail _ _ (CommandState.isTerminal_of_leadsTo leads)
  · split
    · exact staged_handOver _ _ _ leads
    · next p payload =>
      let life := (p.payload.openStream disk (run.lives p.id)).value.2
      let opened : Run := { run with lives := run.lives.set p.id life }
      refine .afterAll opened (p.payload.discreet_openStream disk _).states_eq_nil rfl ?_
      dsimp only
      split
      · exact .waits opened leads
      · exact staged_afterOpening disk _ _ _ leads

theorem staged_beginAttempt (leads : run.command.state.leadsTo .filtered = true) :
    Staged 0 run (e.beginAttempt disk run) := by
  unfold beginAttempt
  let counted := run.withCommand { run.command with rounds := run.command.rounds + 1 }
  refine .afterAll counted (e.filters.discreet_apply _ _).states_eq_nil rfl ?_
  split
  · exact .fail _ _ (CommandState.isTerminal_of_leadsTo leads)
  · next request filters =>
    have sent : Staged 0 (run.withCommand run.command.filtered)
      (send (run.withCommand run.command.filtered) disk request 0) := staged_send disk _ _ rfl
    exact .afterState (run.withCommand run.command.filtered) .filtered
      (Command.states_setState _ _) leads rfl rfl sent

theorem staged_pause (delay : Duration) (sent : run.command.state = .sent) :
    Staged 0 run (pause run delay) := by
  have leads : run.command.state.leadsTo .retrying = true := sent ▸ rfl
  unfold pause
  refine .afterState (run.withCommand run.command.resting) .retrying (Command.states_setState _ _) leads
    rfl rfl ?_
  dsimp only
  split
  · exact .afterWord rfl (.fail _ _ rfl)
  · exact .afterWord rfl (.waits (run.withCommand run.command.resting) rfl)

theorem staged_judgeFailure (error : TransportError) (sent : run.command.state = .sent) :
    Staged 0 run (e.judgeFailure run error) := by
  have live : run.command.state.isTerminal = false := sent ▸ rfl
  unfold judgeFailure
  split
  · exact .fail _ _ live
  · let unanswered := run.withCommand run.command.unanswered
    dsimp only
    split
    · exact .charged unanswered rfl (.fail unanswered _ live)
    · exact .charged unanswered rfl (.afterWord rfl (staged_pause _ sent))

theorem staged_judge (discreet : e.retryPolicy.Discreet) (response : Response)
    (sent : run.command.state = .sent) : Staged 0 run (e.judge run response) := by
  unfold judge
  let answered := run.withCommand (run.command.answeredBy e response)
  have standing : answered.command.state = .sent := sent
  refine .afterAll answered (discreet.errorCode response).states_eq_nil rfl ?_
  refine .afterWord (discreet.shouldRetry _ response).states_eq_nil (.afterWord rfl ?_)
  split
  · exact .afterWord rfl (.finish answered _ (standing ▸ rfl))
  · dsimp only
    split
    · exact .fail answered _ (standing ▸ rfl)
    · refine .afterWord rfl (.afterWord ?_ (staged_pause _ standing))
      exact response.discreet_releaseBody.states_eq_nil

theorem staged_takeError (discreet : e.retryPolicy.Discreet) (response : Response)
    (sent : run.command.state = .sent) : Staged 0 run (e.takeError disk run response) := by
  unfold takeError
  split
  · exact .afterWord rfl (.fail _ _ (sent ▸ rfl))
  · refine .afterWord (response.discreet_startBuffering disk).states_eq_nil ?_
    split
    · exact staged_judge discreet _ sent
    · exact .waits _ sent

/-- The redirects that an answer of the redirect policy makes the run follow. -/
def redirectsOf : Except CommandError (Option Request) → Nat
  | .ok (some _) => 1
  | _ => 0

theorem staged_takeResponse (discreet : e.retryPolicy.Discreet) (request : Request) (hops : Nat)
    (response : Response) (sent : run.command.state = .sent) :
    Staged (redirectsOf (e.redirectPolicy.nextRequest request response hops).value) run
      (e.takeResponse disk run request hops response) := by
  unfold takeResponse
  refine .afterWord rfl (.afterWord ?_ ?_)
  · exact (e.redirectPolicy.discreet_nextRequest request response hops).states_eq_nil
  split
  · next error leads =>
    rw [value_traced] at leads
    rw [leads]
    exact .fail _ _ (sent ▸ rfl)
  · next hop leads =>
    rw [value_traced] at leads
    rw [leads]
    refine .afterWord response.discreet_releaseBody.states_eq_nil ?_
    have onward : Staged 0 (run.withCommand (run.command.bound hop))
      (send (run.withCommand (run.command.bound hop)) disk hop (hops + 1)) := staged_send disk _ _ rfl
    exact .afterRedirect _ rfl sent rfl onward
  · next leads =>
    rw [value_traced] at leads
    rw [leads]
    split
    · exact .finish _ _ (sent ▸ rfl)
    · exact staged_takeError disk discreet _ sent

/-- A response makes the run follow as many redirects as the redirect policy says. -/
theorem length_hop? {request : Request} {hops : Nat} {body : Option Flow} {response : Response}
    {taken : Nat} (meanwhile : Bool) (phase : run.phase = .sending request hops body) :
    (e.hop? run (.answered (.ok response) taken meanwhile)).toList.length =
      redirectsOf (e.redirectPolicy.nextRequest request
        { response with requestDigest := e.digestOfTaken body taken } hops).value := by
  rw [hop?_of_sending meanwhile phase rfl]
  match (e.redirectPolicy.nextRequest request _ hops).value with
  | .error error => rfl
  | .ok none => rfl
  | .ok (some next) => rfl

theorem staged_step (discreet : e.retryPolicy.Discreet) (signal : Signal)
    (befits : run.phase.befits run.command.state) :
    Staged (e.hop? run signal).toList.length run (e.step disk signal run) := by
  have heard : signal.isResponse = false → (e.hop? run signal).toList.length = 0 := fun other => by
    rw [hop?_of_no_response other]
    rfl
  unfold step
  split
  · next request hops opened phase =>
    rw [phase] at befits
    rw [heard rfl]
    exact staged_afterOpening disk _ _ _ befits
  · next answer taken meanwhile request hops body phase =>
    rw [phase] at befits
    dsimp only
    split
    · rw [heard rfl]
      exact .charged (run.heeding meanwhile) rfl (staged_judgeFailure _ befits)
    · next response =>
      rw [length_hop? meanwhile phase]
      exact .charged (run.heeding meanwhile) rfl (staged_takeResponse disk discreet _ _ _ befits)
  · next meanwhile response body flow phase =>
    rw [phase] at befits
    rw [heard rfl]
    have settles := response.discreet_settle body
    have judged : ∀ buffered, Staged 0 (run.heeding meanwhile) (e.judge (run.heeding meanwhile) buffered) :=
      fun buffered => staged_judge discreet buffered befits
    dsimp only
    split
    · exact .waits run (by rw [phase]; exact befits)
    · exact .afterAll (run.heeding meanwhile) (settles _).states_eq_nil rfl (judged _)
    · exact .afterAll (run.heeding meanwhile) (settles _).states_eq_nil rfl (judged _)
  · next meanwhile delay phase =>
    rw [phase] at befits
    rw [heard rfl]
    have leads : run.command.state.leadsTo .filtered = true := befits ▸ rfl
    exact .charged (run.heeding meanwhile) rfl (staged_beginAttempt disk leads)
  · let later := run.heeding true
    rw [heard rfl]
    dsimp only
    have ends : run.phase.isFinished = false → Staged 0 later later.cancel :=
      fun runs => .fail later _ (Phase.live_of_befits befits runs)
    split
    · next phase => exact .charged later rfl (.afterWord rfl (ends (by rw [phase]; rfl)))
    · next phase => exact .charged later rfl (.afterWord rfl (ends (by rw [phase]; rfl)))
    · next phase => exact .charged later rfl (.afterWord rfl (ends (by rw [phase]; rfl)))
    · exact .charged later rfl (.waits later befits)
  · next signal _ _ _ _ other _ _ =>
    have stays : e.hop? run signal = none := by
      unfold hop?
      split
      · next phase _ _ _ _ => exact (other _ _ _ _ _ _ rfl phase).elim
      · rfl
    rw [stays]
    exact .waits run befits

end Executor

/-- The policy without its notices. -/
def RetryPolicy.muted (policy : RetryPolicy) : RetryPolicy where
  shouldRetry := fun command response => pure (policy.shouldRetry command response).value
  errorCode := fun response => pure (policy.errorCode response).value

theorem RetryPolicy.discreet_muted (policy : RetryPolicy) : policy.muted.Discreet where
  errorCode := fun _ => Noted.discreet_pure _
  shouldRetry := fun _ _ => Noted.discreet_pure _

/-- Two ways come to the same, and tell the same states of a command if nobody else speaks for it. -/
structure Concur {α : Type} (discreet : Prop) (x y : Traced α) : Prop where
  value : x.value = y.value
  states : discreet → x.states = y.states

namespace Concur

variable {α β : Type} {discreet : Prop}

theorem refl (x : Traced α) : Concur discreet x x := ⟨rfl, fun _ => rfl⟩

theorem bind {x y : Traced α} {f g : α → Traced β} (first : Concur discreet x y)
    (rest : ∀ value, Concur discreet (f value) (g value)) : Concur discreet (x >>= f) (y >>= g) where
  value := by
    rw [Writer.value_bind, Writer.value_bind, first.value]
    exact (rest y.value).value
  states := by
    intro quiet
    rw [Writer.states_bind, Writer.states_bind, first.states quiet, first.value,
      (rest y.value).states quiet]

end Concur

namespace Executor

/-- The executor under the same policy without its notices. -/
def muted (e : Executor) : Executor := { e with retryPolicy := e.retryPolicy.muted }

variable (e : Executor) (disk : Disk)

theorem concur_judge (run : Run) (response : Response) :
    Concur e.retryPolicy.Discreet (e.muted.judge run response) (e.judge run response) := by
  unfold judge
  refine .bind ⟨rfl, fun quiet => ?_⟩ fun code => .bind ⟨rfl, fun quiet => ?_⟩ fun decision => .refl _
  · rw [(quiet.errorCode response).states_eq_nil]
    rfl
  · rw [(quiet.shouldRetry _ response).states_eq_nil]
    rfl

theorem concur_takeError (run : Run) (response : Response) :
    Concur e.retryPolicy.Discreet (e.muted.takeError disk run response)
      (e.takeError disk run response) := by
  unfold takeError
  cases run.command.cancelled with
  | true => exact .refl _
  | false =>
    refine .bind (.refl _) fun buffered => ?_
    cases buffered with
    | settled response => exact e.concur_judge run response
    | waiting body flow => exact .refl _

theorem concur_takeResponse (run : Run) (request : Request) (hops : Nat) (response : Response) :
    Concur e.retryPolicy.Discreet (e.muted.takeResponse disk run request hops response)
      (e.takeResponse disk run request hops response) := by
  unfold takeResponse
  refine .bind (.refl _) fun _ => .bind (.refl _) fun next => ?_
  match next with
  | .error error => exact .refl _
  | .ok (some hop) => exact .refl _
  | .ok none =>
    cases response.isSuccess with
    | true => exact .refl _
    | false => exact e.concur_takeError disk run response

theorem concur_step (signal : Signal) (run : Run) :
    Concur e.retryPolicy.Discreet (e.muted.step disk signal run) (e.step disk signal run) := by
  unfold step
  split
  · exact .refl _
  · next answer taken meanwhile request hops body phase =>
    cases answer with
    | error error => exact .refl _
    | ok response => exact e.concur_takeResponse disk _ request hops _
  · next response body flow phase =>
    dsimp only [muted]
    split
    · exact .refl _
    · exact .bind (.refl _) fun settled => e.concur_judge _ settled
    · exact .bind (.refl _) fun settled => e.concur_judge _ settled
  · exact .refl _
  · exact .refl _
  · exact .refl _

theorem concur_steps (signals : List Signal) (run : Run) :
    Concur e.retryPolicy.Discreet (e.muted.steps disk signals run) (e.steps disk signals run) := by
  induction signals generalizing run with
  | nil => exact .refl _
  | cons signal rest ih => exact .bind (e.concur_step disk signal run) fun run => ih run

/-- Without the notices of its policy a run is the same. -/
theorem concur_execution (command : Command) (lives : Lives) (signals : List Signal) :
    Concur e.retryPolicy.Discreet (e.muted.execution disk command lives signals)
      (e.execution disk command lives signals) :=
  .bind (.refl _) fun run => e.concur_steps disk signals run

theorem hops_muted (command : Command) (lives : Lives) (signals : List Signal) :
    e.muted.hops disk command lives signals = e.hops disk command lives signals := by
  induction signals using List.reverseRecOn with
  | nil => rfl
  | append_singleton signals signal ih =>
    rw [hops_concat, hops_concat, ih, (e.concur_execution disk command lives signals).value]
    rfl

/-- The states that a command comes to on its way, in order: those that the run tells of if its policy gives no notices
of its own. -/
def itinerary (command : Command) (lives : Lives) (signals : List Signal) : List CommandState :=
  (e.muted.execution disk command lives signals).states

variable {e disk} {number : Nat} {request : Request} {retrySafe cancelled : Bool} {lives : Lives}

theorem execution_staged (discreet : e.retryPolicy.Discreet) (signals : List Signal) :
    Staged (e.hops disk (.built number request retrySafe cancelled) lives signals).length
      ⟨.built number request retrySafe cancelled, lives, .idle⟩
      (e.execution disk (.built number request retrySafe cancelled) lives signals) := by
  induction signals using List.reverseRecOn with
  | nil =>
    rw [execution_nil, start_of_live e disk _ lives rfl]
    exact staged_beginAttempt disk rfl
  | append_singleton signals signal before =>
    rw [execution_concat, hops_concat, List.length_append]
    exact .after _ before.way (staged_step disk discreet signal before.befits)

end Executor

/-- A way through the graph passes through no end but at its own. -/
theorem live_of_follows {state last : CommandState} {way : List CommandState}
    (follows : (state :: (way ++ [last])).IsChain fun state next => state.leadsTo next = true) :
    ∀ state ∈ way, state.isTerminal = false := by
  induction way generalizing state with
  | nil => simp
  | cons next way ih =>
    have onward := (List.isChain_cons_cons.mp follows).2
    refine List.forall_mem_cons.mpr ⟨?_, ih onward⟩
    cases way with
    | nil => exact CommandState.isTerminal_of_leadsTo (List.isChain_cons_cons.mp onward).1
    | cons following way => exact CommandState.isTerminal_of_leadsTo (List.isChain_cons_cons.mp onward).1

/-- The life of a command so far. Its states are a way through the graph from "built" to where it stands; it was sent as
often as it counts sends, retried as often as it counts retries, and redirected as often as redirects were
followed. While its run goes on it has come to no end, and when the run is over it has come to the one end
that its outcome calls for, at the last. -/
structure Lifecycle (path : List CommandState) (redirects : Nat) (run : Run) : Prop where
  follows : (.built :: path).IsChain fun state next => state.leadsTo next = true
  arrives : run.command.state = path.getLastD .built
  sends : path.count .sent = run.command.attempts
  retries : path.count .retrying = run.command.retryState.retries
  redirects : path.count .redirecting = redirects
  live : run.phase.isFinished = false → ∀ state ∈ path, state.isTerminal = false
  final : ∀ outcome, run.phase = .finished outcome →
    ∃ way, path = way ++ [if outcome.isOk then .succeeded else .failed] ∧
      ∀ state ∈ way, state.isTerminal = false

theorem Staged.lifecycle {number redirects : Nat} {request : Request} {retrySafe cancelled : Bool}
    {lives : Lives} {leg : Traced Run}
    (staged : Staged redirects ⟨.built number request retrySafe cancelled, lives, .idle⟩ leg) :
    Lifecycle leg.states redirects leg.value := by
  have way := staged.way
  have befits := staged.befits
  have follows := way.follows
  have arrives : leg.value.command.state = leg.states.getLastD .built := way.arrives
  refine ⟨follows, arrives, ?_, ?_, way.redirects, fun runs => ?_, fun outcome finished => ?_⟩
  · rw [way.sends]
    exact (Nat.zero_add _).symm
  · rw [way.retries]
    exact (Nat.zero_add _).symm
  · have live := Phase.live_of_befits befits runs
    rcases leg.states.eq_nil_or_concat' with empty | ⟨way, last, whole⟩
    · simp [empty]
    · rw [whole] at follows arrives ⊢
      rw [List.getLastD_concat] at arrives
      rw [arrives] at live
      exact List.forall_mem_append.mpr ⟨live_of_follows follows, by simpa using live⟩
  · rw [finished] at befits
    have ends : leg.value.command.state = .ofOutcome outcome := befits
    rcases leg.states.eq_nil_or_concat' with empty | ⟨way, last, whole⟩
    · rw [arrives, empty] at ends
      cases outcome <;> cases ends
    · rw [whole] at follows arrives ⊢
      rw [List.getLastD_concat] at arrives
      rw [← arrives, ends]
      exact ⟨way, rfl, live_of_follows follows⟩

namespace Executor

/-- A command lives as the graph of its states says. Whatever the filters, the policies, the answers of the transport
and the moment of a cancellation: its states are a way through the graph that begins at "built", passes
through "sent", "retrying" and "redirecting" once for each send and retry that it counts and each redirect
that was followed, and comes to an end just once, when the run is over, which succeeds if the result is a
response and fails if it is an error. A policy that leaves the command to the run leaves these states to be
read in the notices of the run. If what the run waits for comes each time, the end is reached. -/
theorem states_follow_graph (e : Executor) (disk : Disk) (number : Nat) (request : Request)
    (retrySafe cancelled : Bool) (lives : Lives) :
    let command := Command.built number request retrySafe cancelled
    (∀ signals,
      let run := e.execution disk command lives signals
      let path := e.itinerary disk command lives signals
      Lifecycle path (e.hops disk command lives signals).length run.value ∧
      (e.retryPolicy.Discreet → run.states = path)) ∧
    (∀ signals, e.Responsive disk command lives signals →
      ∃ n outcome, (e.runAfter disk command lives signals n).phase = .finished outcome) := by
  intro command
  refine ⟨fun signals => ?_, fun signals responsive => responsive.finishes⟩
  have same := e.concur_execution disk command lives signals
  have staged : Staged (e.muted.hops disk command lives signals).length ⟨command, lives, .idle⟩
      (e.muted.execution disk command lives signals) :=
    execution_staged e.retryPolicy.discreet_muted signals
  have life := staged.lifecycle
  rw [hops_muted, same.value] at life
  exact ⟨life, fun discreet => (same.states discreet).symm⟩

/-- The life of a command that is redirected, then answered with 504 and sent again with success, as its run notes it. A
command that is answered at once is finished. -/
theorem lifecycle_after_redirect_and_retry :
    let home : Url := ⟨"http", some { host := "h" }, .rooted [""], none, none⟩
    let command := Command.built 0 { endpoint := home } false false
    let rules := ({} : Config).described
    let signals : List Signal :=
      [.answered (.ok { status := 307, headers := [⟨"Location", "/r"⟩] }) 0 false,
        .answered (.ok { status := 504 }) 0 false, .pauseOver false, .answered (.ok { status := 200 }) 0 false]
    let prompt : Nat → Signal := fun _ => .answered (.ok { status := 200 }) 0 false
    rules.retryPolicy.Discreet ∧ rules.Responsive {} command .fresh prompt ∧
      (rules.execution {} command .fresh signals).states =
        [.filtered, .sent, .redirecting, .sent, .retrying, .filtered, .sent, .succeeded] ∧
      ∃ n outcome, (rules.runAfter {} command .fresh prompt n).phase = .finished outcome := by
  intro home command rules signals prompt
  have discreet : rules.retryPolicy.Discreet := ({} : Config).discreet_retryPolicy
  have graph := states_follow_graph rules {} 0 { endpoint := home } false false .fresh
  have path : rules.itinerary {} command .fresh signals =
      [.filtered, .sent, .redirecting, .sent, .retrying, .filtered, .sent, .succeeded] := by
    decide +kernel
  have ended : (rules.runAfter {} command .fresh prompt 1).phase.isFinished = true := by decide +kernel
  have responsive : rules.Responsive {} command .fresh prompt := by
    intro n
    refine ⟨n, Nat.le_refl n, ?_⟩
    cases n with
    | zero => exact .inr rfl
    | succ n =>
      obtain ⟨outcome, finished⟩ := Phase.isFinished_iff.mp ended
      have stays := runAfter_of_finished finished (fun _ => nofun) n
      rw [Nat.add_comm, stays]
      exact .inl ⟨_, finished⟩
  exact ⟨discreet, responsive, ((graph.1 signals).2 discreet).trans path, graph.2 prompt responsive⟩

end Executor

end Courier
