import Courier.Executor.Step

/-!
What a run does, apart from what it notes. The events of a run that are no notices are its deeds: requests
handed over, decisions taken and pauses begun. A payload, a response or a filter only ever notes, and so does
the end of a run (`Run.deeds_finish`), so the deeds of a step can be told without its notices.
-/
namespace Courier

namespace Event

/-- Is the event more than a notice? -/
def isDeed : Event → Bool
  | notice _ => false
  | _ => true

/-- Was a request handed to the transport? -/
def isHanded : Event → Bool
  | handed .. => true
  | _ => false

/-- Did a pause begin? -/
def isPausing : Event → Bool
  | pausing _ => true
  | _ => false

/-- Was it decided whether to try again? -/
def isDecided : Event → Bool
  | decided .. => true
  | _ => false

end Event

namespace Writer

variable {α β : Type}

/-- The events on the way to a value that are no notices. -/
def deeds (x : Writer Event α) : List Event := x.output.filter Event.isDeed

@[simp] theorem deeds_pure (x : α) : (pure x : Writer Event α).deeds = [] := rfl

@[simp] theorem deeds_bind (x : Writer Event α) (f : α → Writer Event β) :
    (x >>= f).deeds = x.deeds ++ (f x.value).deeds := by
  simp [deeds]

@[simp] theorem deeds_map (f : α → β) (x : Writer Event α) : (f <$> x).deeds = x.deeds := by
  simp [deeds]

@[simp] theorem deeds_tell (event : Event) :
    (tell event).deeds = if event.isDeed then [event] else [] := by
  cases event <;> rfl

/-- Counting deeds of one kind among all events passes over the notices. -/
theorem countP_deeds (x : Writer Event α) (p : Event → Bool)
    (deed : ∀ event, p event = true → event.isDeed = true) :
    x.deeds.countP p = x.output.countP p := by
  rw [deeds, List.countP_filter]
  apply List.countP_congr
  intro event _
  have implied := deed event
  cases holds : p event <;> simp_all

/-- Views of deeds pass over the notices. -/
theorem filterMap_deeds {γ : Type} (x : Writer Event α) (view : Event → Option γ)
    (deed : ∀ n, view (.notice n) = none) : x.deeds.filterMap view = x.output.filterMap view := by
  rw [deeds, List.filterMap_filter]
  congr 1
  funext event
  cases event with
  | notice n => simp [Event.isDeed, deed n]
  | _ => rfl

theorem mem_deeds_of_mem {x : Writer Event α} {event : Event} (belongs : event ∈ x.output)
    (deed : event.isDeed = true) : event ∈ x.deeds :=
  List.mem_filter.mpr ⟨belongs, deed⟩

end Writer

@[simp] theorem value_traced {α : Type} (x : Noted α) : x.traced.value = x.value := rfl

@[simp] theorem deeds_traced {α : Type} (x : Noted α) : x.traced.deeds = [] := by
  simp [Noted.traced, Writer.deeds, Event.isDeed]

theorem Event.isDeed_of_isHanded (event : Event) (h : event.isHanded = true) :
    event.isDeed = true := by
  cases event <;> simp_all [isHanded, isDeed]

theorem Event.isDeed_of_isPausing (event : Event) (h : event.isPausing = true) :
    event.isDeed = true := by
  cases event <;> simp_all [isPausing, isDeed]

/-- Counting deeds of another kind passes over what is decided. -/
theorem Event.countP_of_isDecided {p : Event → Bool}
    (other : ∀ command response decision, p (.decided command response decision) = false)
    {verdict : List Event} (decided : ∀ deed ∈ verdict, deed.isDecided = true) :
    verdict.countP p = 0 := by
  rw [List.countP_eq_zero]
  intro deed belongs
  have told := decided deed belongs
  cases deed with
  | decided command response decision => simp [other]
  | _ => cases told

/-- To decide is not to pause. -/
theorem Event.countP_isPausing_of_isDecided {verdict : List Event}
    (decided : ∀ deed ∈ verdict, deed.isDecided = true) : verdict.countP Event.isPausing = 0 :=
  countP_of_isDecided (fun _ _ _ => rfl) decided

/-- Nor is it to send. -/
theorem Event.countP_isHanded_of_isDecided {verdict : List Event}
    (decided : ∀ deed ∈ verdict, deed.isDecided = true) : verdict.countP Event.isHanded = 0 :=
  countP_of_isDecided (fun _ _ _ => rfl) decided

/-- A view of deeds of one kind shows nothing where there is none of that kind. -/
theorem Event.filterMap_of_countP {γ : Type} {view : Event → Option γ} {p : Event → Bool}
    (other : ∀ event, p event = false → view event = none) {deeds : List Event}
    (none : deeds.countP p = 0) : deeds.filterMap view = [] := by
  rw [List.filterMap_eq_nil_iff]
  intro deed belongs
  exact other deed (by simpa using List.countP_eq_zero.mp none deed belongs)

@[simp] theorem RetryState.retries_recordResponse (s : RetryState) (status : Nat)
    (errorCode : Option String) : (s.recordResponse status errorCode).retries = s.retries := rfl

namespace Command

/-- The command with one more send. -/
def sent (c : Command) : Command := { c with state := .sent, retryState := c.retryState.beginSend }

/-- The command, about to pause before a retry. -/
def resting (c : Command) : Command :=
  { c with state := .retrying, retryState := c.retryState.recordRetry }

/-- The command on its way to where a redirect leads. -/
def bound (c : Command) (hop : Request) : Command :=
  { c with state := .redirecting, request := redirected c.request hop }

@[simp] theorem value_beginSend (c : Command) : c.beginSend.value = c.sent := rfl

@[simp] theorem value_followRedirect (c : Command) (hop : Request) :
    (c.followRedirect hop).value = c.bound hop := rfl

end Command

namespace Run

/-- How a run stands when it has ended: the command is at an end too, and has let go of its payload. -/
def ended (run : Run) (outcome : Outcome) : Run where
  command := { run.command with state := if outcome.isOk then .succeeded else .failed }
  lives := (run.command.releasePayload run.lives).value.2
  phase := .finished outcome

/-- How a run stands when it was ended by a cancellation. -/
def stopped (run : Run) : Run := run.ended (.error (.cancelled run.command.attempts))

@[simp] theorem withCommand_command (run : Run) (command : Command) :
    (run.withCommand command).command = command := rfl

@[simp] theorem withCommand_lives (run : Run) (command : Command) :
    (run.withCommand command).lives = run.lives := rfl

@[simp] theorem withCommand_phase (run : Run) (command : Command) :
    (run.withCommand command).phase = run.phase := rfl

@[simp] theorem value_finish (run : Run) (outcome : Outcome) :
    (run.finish outcome).value = run.ended outcome := by
  cases outcome <;> rfl

@[simp] theorem deeds_finish (run : Run) (outcome : Outcome) : (run.finish outcome).deeds = [] := by
  cases outcome <;> simp [finish]

@[simp] theorem value_fail (run : Run) (error : CommandError) :
    (run.fail error).value = run.ended (.error error) := value_finish run _

@[simp] theorem deeds_fail (run : Run) (error : CommandError) : (run.fail error).deeds = [] :=
  deeds_finish run _

@[simp] theorem value_cancel (run : Run) : run.cancel.value = run.stopped := value_fail run _

@[simp] theorem deeds_cancel (run : Run) : run.cancel.deeds = [] := deeds_fail run _

end Run

end Courier
