import Courier.Proofs.Execution

/-!
The veil over credentials. To veil a header list is to put the placeholder for each value that is not to be shown; to veil
a request, a response, an error or a run is to veil the header lists in it. Whatever is shown of these is shown of the
veiled one too: descriptions, messages, causes and header lists as logs have them. Two header lists are the same
under the veil exactly if they differ at most in values that are not to be shown (`Header.veiled_eq_iff`).
-/
namespace Courier

/-- The line with what may be shown of its value. -/
def Header.veiled (h : Header) : Header := ⟨h.name, h.shownValue⟩

namespace Header

variable (h : Header)

@[simp] theorem veiled_name : h.veiled.name = h.name := rfl

@[simp] theorem shownValue_veiled : h.veiled.shownValue = h.shownValue := by
  unfold shownValue veiled
  split
  · rfl
  · next open_ => simp [shownValue, open_]

@[simp] theorem veiled_veiled : h.veiled.veiled = h.veiled := by
  rw [veiled, shownValue_veiled]
  rfl

@[simp] theorem shown_veiled : h.veiled.shown = h.shown := by
  rw [shown, shownValue_veiled]
  rfl

@[simp] theorem isNamed_veiled (name : String) : h.veiled.isNamed name = h.isNamed name := rfl

/-- Lines are the same under the veil if they differ at most in a value that is not to be shown. -/
theorem veiled_eq_iff {h other : Header} :
    h.veiled = other.veiled ↔
      h.name = other.name ∧ (isSensitive h.name = false → h.value = other.value) := by
  rw [veiled, veiled, Header.mk.injEq]
  refine and_congr_right fun named => ?_
  rw [shownValue, shownValue, ← named]
  cases isSensitive h.name <;> simp

/-- Whether a value may be shown does not depend on the letter case of the name. -/
theorem isSensitive_of_isNamed {h : Header} {name : String} (named : h.isNamed name = true) :
    isSensitive h.name = isSensitive name := by
  unfold isSensitive
  rw [Text.sameName_iff.mp named]

end Header

/-- The lines with what may be shown of their values. -/
def Headers.veiled (headers : Headers) : Headers := headers.map Header.veiled

namespace Headers

variable (headers : Headers)

@[simp] theorem veiled_veiled : headers.veiled.veiled = headers.veiled := by
  simp [veiled]

@[simp] theorem shown_veiled : headers.veiled.shown = headers.shown := by
  simp [shown, veiled, Function.comp_def]

variable {headers} in
/-- Lines that are the same under the veil are shown alike. -/
theorem shown_eq_of_veiled {others : Headers} (same : headers.veiled = others.veiled) :
    headers.shown = others.shown := by
  rw [← headers.shown_veiled, same, others.shown_veiled]

/-- A value that may be shown is the same under the veil. -/
theorem first?_veiled {name : String} (open_ : Header.isSensitive name = false) :
    headers.veiled.first? name = headers.first? name := by
  unfold first? veiled
  rw [List.find?_map, Option.map_map]
  refine Option.map_congr fun h found => ?_
  have named : h.isNamed name = true := by simpa using List.find?_some found
  show h.shownValue = h.value
  rw [Header.shownValue, Header.isSensitive_of_isNamed named, open_, if_neg Bool.false_ne_true]

@[simp] theorem veiled_without (name : String) :
    (headers.without name).veiled = headers.veiled.without name := by
  simp [veiled, without, List.filter_map, Function.comp_def]

theorem veiled_replace (name value : String) :
    (headers.replace name value).veiled =
      headers.veiled.without name ++ [Header.veiled ⟨name, value⟩] := by
  rw [replace, add, veiled, List.map_append, ← veiled, veiled_without]
  rfl

end Headers

/-- The request with its headers under the veil. -/
def Request.veiled (r : Request) : Request := { r with headers := r.headers.veiled }

/-- The response with its headers under the veil. -/
def Response.veiled (r : Response) : Response := { r with headers := r.headers.veiled }

/-- The command with its request under the veil. -/
def Command.veiled (c : Command) : Command := { c with request := c.request.veiled }

/-- The error with its response under the veil, if it has one. -/
def CommandError.veiled : CommandError → CommandError
  | nonRetryableResponse status endpoint response =>
    nonRetryableResponse status endpoint response.veiled
  | retryExhausted attempts endpoint lastStatus response lastError =>
    retryExhausted attempts endpoint lastStatus (response.map Response.veiled) lastError
  | error => error

/-- The result under the veil. -/
def Outcome.veiled : Outcome → Outcome
  | .ok response => .ok response.veiled
  | .error error => .error error.veiled

/-- The phase with the request or the response in it under the veil. -/
def Phase.veiled : Phase → Phase
  | opening request hops opened => opening request.veiled hops opened
  | sending request hops body => sending request.veiled hops body
  | reading response body flow => reading response.veiled body flow
  | finished outcome => finished (Outcome.veiled outcome)
  | phase => phase

/-- The run under the veil. -/
def Run.veiled (run : Run) : Run := ⟨run.command.veiled, run.lives, run.phase.veiled⟩

/-- The signal with the response in it under the veil. -/
def Signal.veiled : Signal → Signal
  | answered (.ok response) taken meanwhile => answered (.ok response.veiled) taken meanwhile
  | signal => signal

/-- The event with what it is about under the veil. -/
def Event.veiled : Event → Event
  | handed request body => handed request.veiled body
  | decided command response decision => decided command.veiled response.veiled decision
  | reading response => reading response.veiled
  | substituting error => substituting error.veiled
  | event => event

@[simp] theorem Request.veiled_veiled (r : Request) : r.veiled.veiled = r.veiled := by
  simp [veiled]

@[simp] theorem Request.describe_veiled (r : Request) (lives : Lives) :
    r.veiled.describe lives = r.describe lives := by
  simp [describe, veiled]

@[simp] theorem Response.describe_veiled (r : Response) : r.veiled.describe = r.describe := by
  simp [describe, veiled]

@[simp] theorem Command.describe_veiled (c : Command) (lives : Lives) :
    c.veiled.describe lives = c.describe lives := by
  simp [describe, veiled]

namespace CommandError

variable (error : CommandError)

@[simp] theorem message_veiled : error.veiled.message = error.message := by
  cases error <;> rfl

@[simp] theorem causes_veiled : error.veiled.causes = error.causes := by
  cases error with
  | retryExhausted attempts endpoint lastStatus response lastError => cases lastError <;> rfl
  | _ => rfl

@[simp] theorem describe_veiled (foreign : Cause → String) :
    error.veiled.describe foreign = error.describe foreign := by
  cases error with
  | nonRetryableResponse status endpoint response => simp [veiled, describe]
  | retryExhausted attempts endpoint lastStatus response lastError =>
    cases response <;> simp [veiled, describe]
  | _ => rfl

end CommandError

end Courier
