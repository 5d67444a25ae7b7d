import Courier.Proofs.Bounds

/-!
Every run comes to an end. What a run still has ahead of it is counted in signals: the rest of its attempt, and a
whole attempt for each retry that is left (`Executor.ahead`). No step adds to it and each signal that the run
waits for takes from it (`Moved.ahead_lt`), so a run whose signals keep coming is finished after finitely
many of them. On the way it keeps to the bounds on its pauses, its sends and its counts.
-/
namespace Courier

/-- The signals that a run in this phase can still wait for before the next attempt, if at most `limit` redirects
are followed. -/
def Phase.ahead (limit : Nat) : Phase → Nat
  | idle | finished _ => 0
  | reading .. => 1
  | sending _ hops _ => 2 * (limit - hops) + 2
  | opening _ hops _ => 2 * (limit - hops) + 3
  | pausing _ => 2 * limit + 4

namespace Executor

/-- The signals that a command with these retries behind it can wait for in the attempts after this one. -/
def spare (e : Executor) (retries : Nat) : Nat :=
  (e.maxRetries - retries) * (2 * e.redirectPolicy.limit + 4)

/-- The signals that a run can still wait for. -/
def ahead (e : Executor) (run : Run) : Nat :=
  e.spare run.command.retryState.retries + run.phase.ahead e.redirectPolicy.limit

/-- A retry takes one attempt from those that are spare. -/
theorem spare_succ (e : Executor) {retries : Nat} (left : retries < e.maxRetries) :
    e.spare retries = e.spare (retries + 1) + (2 * e.redirectPolicy.limit + 4) := by
  have split : e.maxRetries - retries = e.maxRetries - (retries + 1) + 1 := by omega
  unfold spare
  rw [split, Nat.succ_mul]

end Executor

section

variable {e : Executor} {disk : Disk} {hops : Nat} {deeds : List Event} {run after : Run}

theorem Departed.ahead_le {request : Request} (departed : Departed request hops run after deeds) :
    e.ahead after ≤
      e.spare run.command.retryState.retries + (2 * (e.redirectPolicy.limit - hops) + 3) := by
  have rest : after.phase.ahead e.redirectPolicy.limit ≤ 2 * (e.redirectPolicy.limit - hops) + 3 := by
    cases departed with
    | ended kept phase sends => simp [phase, Phase.ahead]
    | opening kept phase sends => simp [phase, Phase.ahead]
    | sending kept phase sends => simp [phase, Phase.ahead]
  unfold Executor.ahead
  rw [departed.onward.retries]
  exact Nat.add_le_add_left rest _

theorem HandedOver.ahead_le {request : Request} {body : Option Flow}
    (hands : HandedOver request hops body run after deeds) :
    e.ahead after ≤
      e.spare run.command.retryState.retries + (2 * (e.redirectPolicy.limit - hops) + 2) := by
  unfold Executor.ahead
  rw [hands.departed.onward.retries]
  cases hands with
  | stopped cancelled => exact Nat.add_le_add_left (Nat.zero_le _) _
  | handed quiet => exact Nat.le_refl _

theorem Rested.ahead_le {delay : Duration} (rest : Rested delay run after deeds)
    (left : run.command.retryState.retries < e.maxRetries) :
    e.ahead after ≤ e.spare run.command.retryState.retries := by
  rw [e.spare_succ left]
  cases rest with
  | stopped cancelled => exact Nat.add_le_add_left (Nat.zero_le _) _
  | pausing quiet => exact Nat.le_refl _

theorem Concluded.ahead_le (concluded : Concluded e run after deeds) :
    e.ahead after ≤ e.spare run.command.retryState.retries := by
  cases concluded with
  | @ended charged outcome verdict charge decided =>
    rw [← charge.retries]
    exact Nat.le_refl _
  | rested charge decided left rest =>
    rw [← charge.retries] at left ⊢
    exact rest.ahead_le left

theorem Begun.ahead_le (begun : Begun e disk run after deeds) :
    e.ahead after ≤
      e.spare run.command.retryState.retries + (2 * e.redirectPolicy.limit + 3) := by
  cases begun with
  | refused filters => exact Nat.add_le_add_left (Nat.zero_le _) _
  | filtered filters sent => exact sent.departed.ahead_le

theorem Answered.ahead_le {request : Request} {response : Response}
    (answered : Answered e disk request hops response run after deeds) :
    e.ahead after ≤
      e.spare run.command.retryState.retries + (2 * (e.redirectPolicy.limit - hops) + 1) := by
  cases answered with
  | astray next => exact Nat.add_le_add_left (Nat.zero_le _) _
  | followed next sent =>
    have few := RedirectPolicy.hops_lt_limit next
    have ahead := sent.departed.ahead_le (e := e)
    simp only [Run.withCommand_command, Command.bound] at ahead
    omega
  | succeeded next success => exact Nat.add_le_add_left (Nat.zero_le _) _
  | stopped next success cancelled => exact Nat.add_le_add_left (Nat.zero_le _) _
  | judged next success quiet buffers judged => exact Nat.le_add_right_of_le judged.concluded.ahead_le
  | reading next success quiet buffers => exact Nat.add_le_add_left (Nat.le_add_left _ _) _

/-- A step on a signal that is waited for takes from what is ahead. -/
theorem Moved.ahead_lt {signal : Signal} (moved : Moved e disk run signal after deeds)
    (heard : e.awaits run.phase signal = true) : e.ahead after < e.ahead run := by
  have whole : e.ahead run =
    e.spare run.command.retryState.retries + run.phase.ahead e.redirectPolicy.limit := rfl
  cases moved with
  | unmoved deaf calm =>
    rw [deaf] at heard
    cases heard
  | marked runs => cases heard
  | stopped waits => cases heard
  | refused phase =>
    rw [whole, phase]
    exact Nat.add_lt_add_left (Nat.succ_pos _) _
  | opened phase hands =>
    have ahead := hands.ahead_le (e := e)
    simp only [phase, Phase.ahead] at whole
    omega
  | failed phase fails =>
    have ahead : e.ahead after ≤ e.spare run.command.retryState.retries := fails.concluded.ahead_le
    simp only [phase, Phase.ahead] at whole
    omega
  | answered phase answer =>
    have ahead : e.ahead after ≤ e.spare run.command.retryState.retries + _ := answer.ahead_le
    simp only [phase, Phase.ahead] at whole
    omega
  | judged phase reads judged =>
    have ahead : e.ahead after ≤ e.spare run.command.retryState.retries := judged.concluded.ahead_le
    simp only [phase, Phase.ahead] at whole
    omega
  | begun phase begins =>
    have ahead : e.ahead after ≤ e.spare run.command.retryState.retries + _ := begins.ahead_le
    simp only [phase, Phase.ahead] at whole
    omega

/-- No step adds to what is ahead. -/
theorem Moved.ahead_le {signal : Signal} (moved : Moved e disk run signal after deeds) :
    e.ahead after ≤ e.ahead run := by
  cases heard : e.awaits run.phase signal with
  | true => exact Nat.le_of_lt (moved.ahead_lt heard)
  | false =>
    cases moved with
    | unmoved deaf calm => exact Nat.le_refl _
    | marked runs => exact Nat.le_refl _
    | stopped waits => exact Nat.add_le_add_left (Nat.zero_le _) _
    | refused phase => simp [Executor.awaits, phase] at heard
    | opened phase hands => simp [Executor.awaits, phase] at heard
    | failed phase fails => simp [Executor.awaits, phase] at heard
    | answered phase answer => simp [Executor.awaits, phase] at heard
    | judged phase reads judged => simp [Executor.awaits, phase, reads] at heard
    | begun phase begins => simp [Executor.awaits, phase] at heard

end

namespace Executor

section

variable (e : Executor) (disk : Disk) (command : Command) (lives : Lives) (signals : Nat → Signal)

/-- The run after the first `n` signals of a row without end. -/
def runAfter (n : Nat) : Run := (e.execution disk command lives ((List.range n).map signals)).value

/-- What the run waits for comes sooner or later: the file is opened or is found not to open, the transport
answers, the body is read and the pause passes. -/
def Responsive : Prop :=
  ∀ n, ∃ k, n ≤ k ∧ ((∃ outcome, (e.runAfter disk command lives signals k).phase = .finished outcome) ∨
    e.awaits (e.runAfter disk command lives signals k).phase (signals k) = true)

theorem runAfter_succ (n : Nat) :
    e.runAfter disk command lives signals (n + 1) =
      (e.step disk (signals n) (e.runAfter disk command lives signals n)).value := by
  unfold runAfter
  rw [List.range_succ, List.map_append, List.map_singleton, execution_concat, Writer.value_bind]

theorem ahead_runAfter_antitone :
    Antitone fun n => e.ahead (e.runAfter disk command lives signals n) := by
  refine antitone_nat_of_succ_le fun n => ?_
  rw [runAfter_succ]
  exact (moved_step e disk (signals n) _).ahead_le

variable {e disk command lives signals}

/-- A run whose signals keep coming is finished after finitely many of them. -/
theorem Responsive.finishes (responsive : e.Responsive disk command lives signals) :
    ∃ n outcome, (e.runAfter disk command lives signals n).phase = .finished outcome := by
  have within : ∀ bound n, e.ahead (e.runAfter disk command lives signals n) = bound →
      ∃ k outcome, (e.runAfter disk command lives signals k).phase = .finished outcome := by
    intro bound
    -- On what is ahead: the next signal that is waited for takes from it, and none until then adds to it.
    induction bound using Nat.strong_induction_on with
    | _ bound ih =>
      intro n exactly
      obtain ⟨k, later, ⟨outcome, finished⟩ | heard⟩ := responsive n
      · exact ⟨k, outcome, finished⟩
      · have shrinks := (moved_step e disk (signals k) _).ahead_lt heard
        have kept : e.ahead (e.runAfter disk command lives signals k) ≤
            e.ahead (e.runAfter disk command lives signals n) :=
          e.ahead_runAfter_antitone disk command lives signals later
        rw [← runAfter_succ] at shrinks
        exact ih _ (by omega) (k + 1) rfl
  exact within _ 0 rfl

/-- No attempt makes more sends than the redirects allow, and a command makes no more than all its attempts. -/
theorem sends_le (e : Executor) (disk : Disk) (number : Nat) (request : Request)
    (retrySafe cancelled : Bool) (lives : Lives) (signals : List Signal) :
    let run := e.execution disk (.built number request retrySafe cancelled) lives signals
    (∀ sends ∈ sendsByAttempt run.output, sends ≤ e.redirectPolicy.limit + 1) ∧
      run.output.countP Event.isPausing ≤ e.maxRetries ∧
      run.output.countP Event.isHanded ≤ (e.maxRetries + 1) * (e.redirectPolicy.limit + 1) := by
  intro run
  have bounded : Bounded e.redirectPolicy.limit run.deeds run.value := execution_bounded signals
  have counted : Counted e run.deeds run.value := execution_counted signals
  have pauses : run.output.countP Event.isPausing ≤ e.maxRetries := by
    rw [← Writer.countP_deeds run _ Event.isDeed_of_isPausing]
    exact Nat.le_trans counted.pauses counted.within
  have attempts : ∀ sends ∈ sendsByAttempt run.output, sends ≤ e.redirectPolicy.limit + 1 := by
    obtain ⟨latest, earlier, split, last, rest⟩ := bounded.account.sends
    rw [← sendsByAttempt_deeds, split]
    intro sends belongs
    rcases List.mem_cons.mp belongs with rfl | belongs
    · exact Nat.le_trans last (Phase.sends_le bounded.hops)
    · exact rest sends belongs
  refine ⟨attempts, pauses, ?_⟩
  calc
    run.output.countP Event.isHanded = (sendsByAttempt run.output).sum :=
      (sendsByAttempt_sum run.output).symm
    _ ≤ (sendsByAttempt run.output).length * (e.redirectPolicy.limit + 1) := by
      simpa using List.sum_le_card_nsmul _ _ attempts
    _ ≤ (e.maxRetries + 1) * (e.redirectPolicy.limit + 1) := by
      refine Nat.mul_le_mul_right _ ?_
      rw [sendsByAttempt_length]
      omega

end

end Executor

/-- What a run counts fits a number of 32 bits, with one more to spare: the sends and failures of its command, the
retries, and the hops of its attempt. -/
structure Run.Countable (run : Run) : Prop where
  attempts : run.command.attempts + 1 < 2 ^ 32
  failures : run.command.retryState.failures + 1 < 2 ^ 32
  retries : run.command.retryState.retries + 1 < 2 ^ 32
  hops : run.phase.hops + 1 < 2 ^ 32

namespace Executor

theorem countable_execution {e : Executor} (retries : e.maxRetries ≤ 100)
    (redirects : e.redirectPolicy.limit ≤ 20) (disk : Disk) (number : Nat) (request : Request)
    (retrySafe cancelled : Bool) (lives : Lives) (signals : List Signal) :
    (e.execution disk (.built number request retrySafe cancelled) lives signals).value.Countable := by
  have bounded : Bounded _ _ (e.execution disk (.built number request retrySafe cancelled) lives
    signals).value := execution_bounded signals
  have counted : Counted e _ (e.execution disk (.built number request retrySafe cancelled) lives
    signals).value := execution_counted signals
  generalize (e.execution disk (.built number request retrySafe cancelled) lives signals).value = run
    at bounded counted
  have within := counted.within
  have room := Phase.sends_le bounded.hops
  have unmended := run.phase.unmended_le
  have attempts := bounded.account.attempts
  have failures := bounded.account.failures
  have hops := bounded.hops
  have product : run.command.retryState.retries * (e.redirectPolicy.limit + 1) ≤ 100 * 21 :=
    Nat.mul_le_mul (by omega) (by omega)
  have sent : run.command.attempts ≤ 2121 := Nat.le_trans attempts (by omega)
  exact ⟨by omega, by omega, by omega, by omega⟩

/-- Every run comes to an end, and keeps to its bounds on the way. For every executor that a configuration in
order describes, whatever its filters, its policies and the moments of cancellation: the run makes no more
pauses than retries are allowed, in each attempt no more sends than one and the redirects that are followed,
and so many in all attempts together. With the redirects of the configuration no count outgrows 32 bits. If
what the run waits for comes each time, it is finished in the end. -/
theorem finishes_within_bounds {config : Config} {e : Executor} (valid : ofConfig config = .ok e)
    (filters : FilterChain) (policy : RetryPolicy) (redirects : RedirectPolicy) (disk : Disk)
    (number : Nat) (request : Request) (retrySafe cancelled : Bool) (lives : Lives) :
    let rules := { e.equipped filters redirects with retryPolicy := policy }
    let command := Command.built number request retrySafe cancelled
    (∀ signals,
      let run := rules.execution disk command lives signals
      run.output.countP Event.isPausing ≤ config.maxRetries ∧
      (∀ sends ∈ sendsByAttempt run.output, sends ≤ redirects.limit + 1) ∧
      run.output.countP Event.isHanded ≤ (config.maxRetries + 1) * (redirects.limit + 1) ∧
      (redirects = .upTo config.maxRedirects → run.value.Countable)) ∧
    (∀ signals, rules.Responsive disk command lives signals →
      ∃ n outcome, (rules.runAfter disk command lives signals n).phase = .finished outcome) := by
  obtain ⟨rfl, ranges⟩ := ofConfig_eq_ok valid
  intro rules command
  have allowed : rules.maxRetries = config.maxRetries := rfl
  refine ⟨fun signals => ?_, fun signals responsive => responsive.finishes⟩
  obtain ⟨attempts, pauses, sends⟩ :=
    rules.sends_le disk number request retrySafe cancelled lives signals
  rw [allowed] at pauses sends
  refine ⟨pauses, attempts, sends, fun own => ?_⟩
  have few : rules.redirectPolicy.limit ≤ 20 := by
    show redirects.limit ≤ 20
    rw [own]
    exact ranges.redirects
  exact countable_execution (by rw [allowed]; exact ranges.retries) few disk number request retrySafe
    cancelled lives signals

/-- A finished run stays as it is, whatever the transport says. -/
theorem runAfter_of_finished {e : Executor} {disk : Disk} {command : Command} {lives : Lives}
    {signals : Nat → Signal} {n : Nat} {outcome : Outcome}
    (finished : (e.runAfter disk command lives signals n).phase = .finished outcome)
    (calm : ∀ k, signals k ≠ .cancelled) (more : Nat) :
    e.runAfter disk command lives signals (n + more) = e.runAfter disk command lives signals n := by
  induction more with
  | zero => rfl
  | succ more ih =>
    have deaf : e.awaits (e.runAfter disk command lives signals n).phase (signals (n + more)) = false := by
      rw [finished]
      cases signals (n + more) <;> rfl
    rw [← Nat.add_assoc, runAfter_succ, ih]
    exact (step_of_deaf e disk deaf (calm _)).1

/-- A policy that retries everything, and a server that answers each attempt first with a redirect and then with 504:
the run makes two sends in each of six attempts, pauses five times and is finished. -/
theorem finishes_despite_policy :
    let home : Request := { endpoint := ⟨"https", some { host := "h" }, .rooted [""], none, none⟩ }
    let command := Command.built 0 home false false
    let rules := { ({} : Config).described.equipped [] (.upTo 5) with retryPolicy := .always .zero }
    let moved : Response := { status := 307, headers := [⟨"Location", "/r"⟩] }
    let signals : Nat → Signal := fun n =>
      if n % 3 = 0 then .answered (.ok moved) 0 false
      else if n % 3 = 1 then .answered (.ok { status := 504 }) 0 false
      else .pauseOver false
    let run := rules.execution {} command .fresh ((List.range 17).map signals)
    ofConfig {} = .ok ({} : Config).described ∧ rules.Responsive {} command .fresh signals ∧
      (∃ n outcome, (rules.runAfter {} command .fresh signals n).phase = .finished outcome) ∧
      (∀ sends ∈ sendsByAttempt run.output, sends ≤ 6) ∧
      sendsByAttempt run.output = [2, 2, 2, 2, 2, 2] ∧
      run.output.countP Event.isPausing ≤ 5 ∧ run.output.countP Event.isPausing = 5 ∧
      run.output.countP Event.isHanded ≤ 36 ∧ run.output.countP Event.isHanded = 12 := by
  intro home command rules moved signals run
  have bounds := finishes_within_bounds ofConfig_default [] (.always .zero) (.upTo 5) {} 0 home false
    false .fresh
  have heard : ∀ n < 17,
      rules.awaits (rules.runAfter {} command .fresh signals n).phase (signals n) = true := by
    decide +kernel
  obtain ⟨outcome, last⟩ := Phase.isFinished_iff.mp
    (show (rules.runAfter {} command .fresh signals 17).phase.isFinished = true by decide +kernel)
  have calm : ∀ n, signals n ≠ .cancelled := by
    intro n
    simp only [signals]
    split_ifs <;> simp
  have responsive : rules.Responsive {} command .fresh signals := by
    intro n
    refine ⟨n, Nat.le_refl n, ?_⟩
    by_cases early : n < 17
    · exact .inr (heard n early)
    · obtain ⟨more, rfl⟩ := Nat.exists_eq_add_of_le (Nat.le_of_not_lt early)
      rw [runAfter_of_finished last calm more]
      exact .inl ⟨outcome, last⟩
  obtain ⟨pauses, attempts, sends, -⟩ := bounds.1 ((List.range 17).map signals)
  exact ⟨ofConfig_default, responsive, bounds.2 signals responsive, attempts, by decide +kernel, pauses,
    by decide +kernel, sends, by decide +kernel⟩

end Executor

end Courier
