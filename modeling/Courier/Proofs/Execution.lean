import Courier.Proofs.Moves
import Mathlib.Data.List.Induction

/-!
Executors that a configuration in order describes, and executions. What holds once the command is begun and is
kept by every move holds whatever the signals (`Executor.execution_induction`).
-/
namespace Courier

/-- The bounds that a checked configuration keeps to. -/
structure Config.Bounded (config : Config) : Prop where
  retries : config.maxRetries ≤ 100
  redirects : config.maxRedirects ≤ 20

theorem exists_of_bind_eq_ok {ε α β : Type} {x : Except ε α} {f : α → Except ε β} {b : β}
    (h : (x >>= f) = .ok b) : ∃ a, x = .ok a ∧ f a = .ok b := by
  cases x with
  | error e => cases h
  | ok a => exact ⟨a, rfl, h⟩

theorem Config.checkRange_eq_ok {field : String} {value low high : Nat} {u : Unit}
    (h : checkRange field value low high = .ok u) : low ≤ value ∧ value ≤ high := by
  unfold checkRange at h
  split at h
  · next inside => exact inside
  · cases h

theorem Config.bounded_of_validate {config : Config} (h : config.validate = .ok ()) :
    config.Bounded := by
  unfold validate at h
  obtain ⟨_, retries, h⟩ := exists_of_bind_eq_ok h
  obtain ⟨_, _, h⟩ := exists_of_bind_eq_ok h
  obtain ⟨_, _, h⟩ := exists_of_bind_eq_ok h
  obtain ⟨_, redirects, h⟩ := exists_of_bind_eq_ok h
  exact ⟨(checkRange_eq_ok retries).2, (checkRange_eq_ok redirects).2⟩

/-- Every default is in its range. -/
theorem Config.validate_default : ({} : Config).validate = .ok () := by
  have none : ({} : Config).sortedStatuses = [] := by simp [sortedStatuses]
  unfold validate
  rw [none]
  rfl

theorem Executor.ofConfig_eq_ok {config : Config} {e : Executor} (h : ofConfig config = .ok e) :
    e = config.described ∧ config.Bounded := by
  unfold ofConfig at h
  obtain ⟨_, valid, h⟩ := exists_of_bind_eq_ok h
  cases h
  exact ⟨rfl, Config.bounded_of_validate valid⟩

theorem Executor.ofConfig_default : ofConfig {} = .ok ({} : Config).described := by
  rw [ofConfig, Config.validate_default]
  rfl

namespace Executor

/-- Each signal with the run that it comes to. -/
def encounters (e : Executor) (disk : Disk) : List Signal → Run → List (Run × Signal)
  | [], _ => []
  | signal :: rest, run => (run, signal) :: e.encounters disk rest (e.step disk signal run).value

theorem steps_append (e : Executor) (disk : Disk) (first second : List Signal) (run : Run) :
    e.steps disk (first ++ second) run = (do
      let run ← e.steps disk first run
      e.steps disk second run) := by
  induction first generalizing run with
  | nil => exact (pure_bind _ _).symm
  | cons signal rest ih => simp only [List.cons_append, steps, bind_assoc, ih]

theorem encounters_append (e : Executor) (disk : Disk) (first second : List Signal) (run : Run) :
    e.encounters disk (first ++ second) run =
      e.encounters disk first run ++ e.encounters disk second (e.steps disk first run).value := by
  induction first generalizing run with
  | nil => rfl
  | cons signal rest ih => simp only [List.cons_append, encounters, steps, ih, Writer.value_bind]

variable (e : Executor) (disk : Disk) (command : Command) (lives : Lives)

theorem execution_append (signals more : List Signal) :
    e.execution disk command lives (signals ++ more) = (do
      let run ← e.execution disk command lives signals
      e.steps disk more run) := by
  simp only [execution, steps_append, bind_assoc]

theorem execution_nil : e.execution disk command lives [] = e.start disk ⟨command, lives, .idle⟩ :=
  bind_pure _

theorem execution_concat (signals : List Signal) (signal : Signal) :
    e.execution disk command lives (signals ++ [signal]) = (do
      let run ← e.execution disk command lives signals
      e.step disk signal run) := by
  rw [execution_append]
  congr
  funext run
  exact bind_pure _

theorem start_of_live (live : command.state.isTerminal = false) :
    e.start disk ⟨command, lives, .idle⟩ = e.beginAttempt disk ⟨command, lives, .idle⟩ := by
  simp [start, live]

variable {e disk command lives}

/-- What is so when a command is begun, and is kept by every move, is always so. -/
theorem execution_induction {P : List Signal → List Event → Run → Prop}
    (live : command.state.isTerminal = false)
    (begun : ∀ after deeds, Begun e disk ⟨command, lives, .idle⟩ after deeds → P [] deeds after)
    (moved : ∀ signals history signal after deeds,
      P signals history (e.execution disk command lives signals).value →
      Moved e disk (e.execution disk command lives signals).value signal after deeds →
      P (signals ++ [signal]) (history ++ deeds) after)
    (signals : List Signal) :
    P signals (e.execution disk command lives signals).deeds
      (e.execution disk command lives signals).value := by
  induction signals using List.reverseRecOn with
  | nil =>
    rw [execution_nil, start_of_live e disk command lives live]
    exact begun _ _ (begun_beginAttempt e disk _)
  | append_singleton signals signal ih =>
    rw [execution_concat, Writer.value_bind, Writer.deeds_bind]
    exact moved _ _ _ _ _ ih (moved_step e disk signal _)

end Executor

end Courier
