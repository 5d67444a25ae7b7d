import Courier.Command.Error

/-!
Substitutes for failures. A fallback is asked once, after a command has failed for good, and gives a
value in place of the failure or hands the error back.
-/
namespace Courier

abbrev Fallback (α : Type) := CommandError → Except CommandError α

namespace Fallback

def rethrow {α : Type} : Fallback α := .error

/-- Puts a value in place of a final 404 and hands every other error back. -/
def onNotFound {α : Type} (value : α) : Fallback α := fun error =>
  if error.isNotFound then .ok value else .error error

/-- Puts a value in place of a failure with this status and hands every other error back. -/
def onStatus {α : Type} (status : Nat) (value : α) : Fallback α := fun error =>
  if error.status = some status then .ok value else .error error

end Fallback

end Courier
