import Courier.Proofs.Frames
import Mathlib.Algebra.Order.BigOperators.Group.List
import Mathlib.Algebra.Order.Ring.Nat

/-!
How far a run can go. A retry is one pause, a redirect is one hop within an attempt, and both are limited, so the
sends of an attempt, those of a run and every count that a command keeps are bounded (`Bounded`), whatever the
policies decide.
-/
namespace Courier

/-- How many redirects are followed in one attempt. -/
def RedirectPolicy.limit (policy : RedirectPolicy) : Nat :=
  if policy.follow then policy.maxRedirects else 0

/-- The sends of each attempt, those of the latest first, after one more event. -/
def billed : List Nat → Event → List Nat
  | counts, .pausing _ => 0 :: counts
  | count :: counts, .handed .. => (count + 1) :: counts
  | counts, _ => counts

/-- How many requests each attempt handed over, the latest attempt first. A pause parts two attempts. -/
def sendsByAttempt (events : List Event) : List Nat := events.foldl billed [0]

section

theorem sendsByAttempt_append (first second : List Event) :
    sendsByAttempt (first ++ second) = second.foldl billed (sendsByAttempt first) := List.foldl_append

/-- Notices are not billed. -/
theorem sendsByAttempt_deeds {α : Type} (x : Writer Event α) :
    sendsByAttempt x.deeds = sendsByAttempt x.output := by
  unfold sendsByAttempt Writer.deeds
  rw [List.foldl_filter]
  congr 1
  funext counts event
  cases event <;> rfl

/-- What is decided is not billed. -/
theorem sendsByAttempt_append_of_isDecided (events : List Event) {verdict : List Event}
    (decided : ∀ deed ∈ verdict, deed.isDecided = true) :
    sendsByAttempt (events ++ verdict) = sendsByAttempt events := by
  rw [sendsByAttempt_append]
  generalize sendsByAttempt events = counts
  induction verdict with
  | nil => rfl
  | cons deed rest ih =>
    have told := decided deed List.mem_cons_self
    have later := ih fun other belongs => decided other (List.mem_cons_of_mem _ belongs)
    cases deed with
    | decided seen response decision => exact later
    | _ => cases told

theorem foldl_billed_length (events : List Event) (counts : List Nat) :
    (events.foldl billed counts).length = counts.length + events.countP Event.isPausing := by
  induction events generalizing counts with
  | nil => rfl
  | cons event rest ih =>
    rw [List.foldl_cons, ih, List.countP_cons]
    have one : (billed counts event).length =
        counts.length + if event.isPausing = true then 1 else 0 := by
      cases event <;> cases counts <;> simp [billed, Event.isPausing]
    omega

/-- There is one attempt more than there are pauses. -/
theorem sendsByAttempt_length (events : List Event) :
    (sendsByAttempt events).length = events.countP Event.isPausing + 1 := by
  have length := foldl_billed_length events [0]
  unfold sendsByAttempt
  simp only [List.length_singleton] at length
  omega

theorem foldl_billed_sum (events : List Event) (count : Nat) (counts : List Nat) :
    (events.foldl billed (count :: counts)).sum =
      (count :: counts).sum + events.countP Event.isHanded := by
  induction events generalizing count counts with
  | nil => rfl
  | cons event rest ih =>
    rw [List.foldl_cons, List.countP_cons]
    cases event with
    | handed request body =>
      simp only [billed, ih, List.sum_cons, Event.isHanded, ↓reduceIte]
      omega
    | pausing delay => simp [billed, ih, Event.isHanded]
    | notice notice => simp [billed, ih, Event.isHanded]
    | decided command response decision => simp [billed, ih, Event.isHanded]
    | reading response => simp [billed, ih, Event.isHanded]
    | substituting error => simp [billed, ih, Event.isHanded]

/-- Every request that is handed over belongs to one attempt. -/
theorem sendsByAttempt_sum (events : List Event) :
    (sendsByAttempt events).sum = events.countP Event.isHanded := by
  rw [sendsByAttempt, foldl_billed_sum, List.sum_singleton, Nat.zero_add]

end

namespace Phase

/-- The hops behind a run in this phase. -/
def hops : Phase → Nat
  | opening _ hops _ | sending _ hops _ => hops
  | _ => 0

/-- The sends that the attempt can have made by this phase, if at most `limit` redirects are followed. -/
def sends (limit : Nat) : Phase → Nat
  | idle | pausing _ => 0
  | opening _ hops _ => hops
  | sending _ hops _ => hops + 1
  | reading .. | finished _ => limit + 1

/-- The failures that no retry has followed by this phase. -/
def unmended : Phase → Nat
  | finished _ => 1
  | _ => 0

theorem sends_le {limit : Nat} {phase : Phase} (few : phase.hops ≤ limit) :
    phase.sends limit ≤ limit + 1 := by
  cases phase with
  | opening request hops opened => exact Nat.le_succ_of_le few
  | sending request hops body => exact Nat.succ_le_succ few
  | reading response body flow => exact Nat.le_refl _
  | finished outcome => exact Nat.le_refl _
  | idle => exact Nat.zero_le _
  | pausing delay => exact Nat.zero_le _

theorem unmended_le (phase : Phase) : phase.unmended ≤ 1 := by
  cases phase <;> simp [unmended]

end Phase

/-- The account of a command with this history: each attempt so far made no more than `limit + 1` sends, the
latest no more than `room`, and all but `unmended` failures were retried. -/
structure Within (limit room unmended : Nat) (history : List Event) (state : RetryState) : Prop where
  attempts : state.attempt ≤ state.retries * (limit + 1) + room
  failures : state.failures ≤ state.retries + unmended
  sends : ∃ latest earlier, sendsByAttempt history = latest :: earlier ∧ latest ≤ room ∧
    ∀ count ∈ earlier, count ≤ limit + 1

/-- A run keeps to its bounds: the account of its command is that of its phase. -/
structure Bounded (limit : Nat) (history : List Event) (run : Run) : Prop where
  begun : run.phase ≠ .idle
  hops : run.phase.hops ≤ limit
  account : Within limit (run.phase.sends limit) run.phase.unmended history run.command.retryState

section

variable {limit room unmended : Nat} {history : List Event} {state : RetryState} {command : Command}

theorem Within.mono {more further : Nat} (account : Within limit room unmended history state)
    (wider : room ≤ more) (longer : unmended ≤ further) : Within limit more further history state := by
  obtain ⟨latest, earlier, split, last, rest⟩ := account.sends
  have attempts := account.attempts
  have failures := account.failures
  exact ⟨by omega, by omega, latest, earlier, split, by omega, rest⟩

theorem Within.onward {later : Command} {extra : Nat}
    (account : Within limit room unmended history command.retryState) (kept : command.Onward later)
    (sends : later.attempts ≤ command.attempts + extra) :
    Within limit (room + extra) unmended history later.retryState := by
  obtain ⟨latest, earlier, split, last, rest⟩ := account.sends
  have attempts : command.attempts ≤ _ := account.attempts
  have failures := account.failures
  rw [← kept.retries] at attempts failures
  rw [← kept.failures] at failures
  exact ⟨Nat.le_trans sends (by omega), failures, latest, earlier, split, by omega, rest⟩

theorem Within.handed {later : Command}
    (account : Within limit room unmended history command.retryState) (kept : command.Onward later)
    (sends : later.attempts = command.attempts + 1) (request : Request) (body : Option Flow) :
    Within limit (room + 1) unmended (history ++ [.handed request body]) later.retryState := by
  obtain ⟨latest, earlier, split, last, rest⟩ := account.sends
  have onward := account.onward kept (Nat.le_of_eq sends)
  refine ⟨onward.attempts, onward.failures, latest + 1, earlier, ?_, by omega, rest⟩
  rw [sendsByAttempt_append, split]
  rfl

/-- A pause parts the attempt before it from the next, which has not sent anything. -/
theorem Within.rested (account : Within limit (limit + 1) 1 history state) (delay : Duration) :
    Within limit 0 0 (history ++ [.pausing delay]) state.recordRetry := by
  obtain ⟨latest, earlier, split, last, rest⟩ := account.sends
  have attempts := account.attempts
  have failures := account.failures
  refine ⟨?_, failures, 0, latest :: earlier, ?_, Nat.le_refl _, ?_⟩
  · show state.attempt ≤ (state.retries + 1) * (limit + 1) + 0
    rw [Nat.succ_mul]
    exact attempts
  · rw [sendsByAttempt_append, split]
    rfl
  · intro count belongs
    rcases List.mem_cons.mp belongs with rfl | belongs
    · exact last
    · exact rest count belongs

theorem Within.decided {verdict : List Event} (account : Within limit room unmended history state)
    (decided : ∀ deed ∈ verdict, deed.isDecided = true) :
    Within limit room unmended (history ++ verdict) state := by
  obtain ⟨latest, earlier, split, last, rest⟩ := account.sends
  have same := sendsByAttempt_append_of_isDecided history decided
  exact ⟨account.attempts, account.failures, latest, earlier, same.trans split, last, rest⟩

theorem Within.charged {later : Command}
    (account : Within limit room unmended history command.retryState) (charge : command.Charged later) :
    Within limit room (unmended + 1) history later.retryState := by
  have attempts : command.attempts ≤ _ := account.attempts
  have failures := account.failures
  have charged := charge.failures
  rw [← charge.retries] at attempts failures
  exact ⟨Nat.le_trans (Nat.le_of_eq charge.attempts) attempts, by omega, account.sends⟩

/-- At its end a run keeps to its bounds if its attempt did. -/
theorem Bounded.ended (run : Run) (account : Within limit (limit + 1) 1 history run.command.retryState)
    (outcome : Outcome) : Bounded limit history (run.ended outcome) where
  begun := nofun
  hops := Nat.zero_le _
  account := ⟨account.attempts, account.failures, account.sends⟩

end

section

variable {e : Executor} {disk : Disk} {limit hops : Nat} {history deeds : List Event} {run after : Run}

theorem Departed.bounded {request : Request} (departed : Departed request hops run after deeds)
    (few : hops ≤ limit) (account : Within limit hops 0 history run.command.retryState) :
    Bounded limit (history ++ deeds) after := by
  cases departed with
  | ended kept phase sends =>
    rw [List.append_nil]
    refine ⟨by rw [phase]; nofun, by rw [phase]; exact Nat.zero_le _, ?_⟩
    rw [phase]
    exact (account.onward kept sends).mono (Nat.succ_le_succ few) (Nat.zero_le _)
  | opening kept phase sends =>
    rw [List.append_nil]
    refine ⟨by rw [phase]; nofun, by rw [phase]; exact few, ?_⟩
    rw [phase]
    exact account.onward kept (Nat.le_of_eq (sends.trans (Nat.add_zero _).symm))
  | sending kept phase sends =>
    refine ⟨by rw [phase]; nofun, by rw [phase]; exact few, ?_⟩
    rw [phase]
    exact account.handed kept sends request _

theorem Rested.bounded {delay : Duration} (rest : Rested delay run after deeds)
    (account : Within limit (limit + 1) 1 history run.command.retryState) :
    Bounded limit (history ++ deeds) after := by
  cases rest with
  | stopped cancelled =>
    rw [List.append_nil]
    -- The retry is counted although no pause begins, so the account only gets wider.
    refine .ended (run.withCommand run.command.resting) ?_ _
    obtain ⟨latest, earlier, split, last, others⟩ := account.sends
    refine ⟨?_, Nat.le_succ_of_le account.failures, latest, earlier, split, last, others⟩
    have attempts := account.attempts
    show run.command.retryState.attempt ≤ (run.command.retryState.retries + 1) * (limit + 1) + (limit + 1)
    rw [Nat.succ_mul]
    omega
  | pausing quiet => exact ⟨nofun, Nat.zero_le _, account.rested delay⟩

theorem Concluded.bounded (concluded : Concluded e run after deeds)
    (account : Within limit (limit + 1) 0 history run.command.retryState) :
    Bounded limit (history ++ deeds) after := by
  cases concluded with
  | @ended charged outcome verdict charge decided =>
    exact .ended (run.withCommand charged) ((account.charged charge).decided decided) outcome
  | rested charge decided left rest =>
    rw [← List.append_assoc]
    exact rest.bounded ((account.charged charge).decided decided)

theorem Begun.bounded (begun : Begun e disk run after deeds)
    (account : Within limit 0 0 history run.command.retryState) : Bounded limit (history ++ deeds) after := by
  cases begun with
  | refused filters =>
    rw [List.append_nil]
    refine .ended (run.withCommand _) ?_ _
    exact account.mono (Nat.zero_le _) (Nat.zero_le _)
  | filtered filters sent =>
    have filtered := account.onward run.command.onward_filtered (Nat.le_add_right _ 0)
    exact sent.departed.bounded (Nat.zero_le _) filtered

/-- A redirect is followed only while the limit is not reached. -/
theorem RedirectPolicy.hops_lt_limit {policy : RedirectPolicy} {request hop : Request}
    {response : Response} (next : (policy.nextRequest request response hops).value = .ok (some hop)) :
    hops < policy.limit := by
  unfold nextRequest at next
  split at next
  · cases next
  · next redirects =>
    split at next
    · cases next
    · next below =>
      have follows : policy.follow = true := by
        simp only [isRedirect, Bool.not_eq_true', Bool.not_eq_false, Bool.and_eq_true] at redirects
        exact redirects.1.1
      simp only [limit, follows, ↓reduceIte]
      omega

theorem Answered.bounded {request : Request} {response : Response}
    (answered : Answered e disk request hops response run after deeds)
    (few : hops ≤ e.redirectPolicy.limit)
    (account : Within e.redirectPolicy.limit (hops + 1) 0 history run.command.retryState) :
    Bounded e.redirectPolicy.limit (history ++ deeds) after := by
  have whole := account.mono (Nat.succ_le_succ few) (Nat.le_refl 0)
  have ended := whole.mono (Nat.le_refl _) (Nat.zero_le 1)
  cases answered with
  | astray next =>
    rw [List.append_nil]
    exact .ended run ended _
  | followed next sent =>
    exact sent.departed.bounded (RedirectPolicy.hops_lt_limit next) account
  | succeeded next success =>
    rw [List.append_nil]
    exact .ended run ended _
  | stopped next success cancelled =>
    rw [List.append_nil]
    exact .ended run ended _
  | judged next success quiet buffers judged => exact judged.concluded.bounded whole
  | reading next success quiet buffers =>
    rw [List.append_nil]
    exact ⟨nofun, Nat.zero_le _, whole⟩

/-- Every step keeps a run to its bounds. -/
theorem Moved.bounded {signal : Signal} (moved : Moved e disk run signal after deeds)
    (before : Bounded e.redirectPolicy.limit history run) :
    Bounded e.redirectPolicy.limit (history ++ deeds) after := by
  have begun := before.begun
  have few := before.hops
  have account := before.account
  have ended := account.mono (Phase.sends_le few) run.phase.unmended_le
  cases moved with
  | unmoved deaf calm =>
    rw [List.append_nil]
    exact before
  | marked runs =>
    rw [List.append_nil]
    exact ⟨begun, few, account⟩
  | stopped waits =>
    rw [List.append_nil]
    exact .ended (run.heeding true) ended _
  | refused phase =>
    rw [List.append_nil]
    exact .ended run ended _
  | opened phase hands =>
    rw [phase] at few account
    exact hands.departed.bounded few account
  | failed phase fails =>
    rw [phase] at few account
    exact fails.concluded.bounded (account.mono (Nat.succ_le_succ few) (Nat.le_refl _))
  | answered phase answer =>
    rw [phase] at few account
    exact answer.bounded few account
  | judged phase reads judged =>
    rw [phase] at account
    exact judged.concluded.bounded account
  | begun phase begins =>
    rw [phase] at account
    exact begins.bounded account

end

namespace Executor

variable {e : Executor} {disk : Disk} {number : Nat} {request : Request} {retrySafe : Bool}
  {cancelled : Bool} {lives : Lives}

theorem execution_bounded (signals : List Signal) :
    Bounded e.redirectPolicy.limit
      (e.execution disk (.built number request retrySafe cancelled) lives signals).deeds
      (e.execution disk (.built number request retrySafe cancelled) lives signals).value := by
  refine execution_induction
    (P := fun _ history run => Bounded e.redirectPolicy.limit history run) rfl ?_ ?_ signals
  · intro after deeds begun
    have fresh : Within e.redirectPolicy.limit 0 0 []
        (Command.built number request retrySafe cancelled).retryState :=
      ⟨Nat.zero_le _, Nat.le_refl _, 0, [], rfl, Nat.le_refl _, by simp⟩
    exact begun.bounded fresh
  · intro signals history signal after deeds before moved
    exact moved.bounded before

end Executor

end Courier
