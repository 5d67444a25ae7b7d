import Courier.Executor.Basic

/-!
Scripts for rehearsing runs without a network. For every send the script has a reply that tells how much
of the request body is taken, whether the command is cancelled then, how long the answer takes, and what
it is.
-/
namespace Courier.Rehearsal

/-- What happens at one send. -/
structure Reply where
  /-- How many items of the body are taken; all if absent. -/
  takes : Option Nat := none
  /-- The command is cancelled once the body is taken. -/
  cancels : Bool := false
  delayMillis : Nat := 0
  /-- The answer to a request; there is none if absent. -/
  answer : Option (Request → Noted (Except TransportError Response))

/-- The reply after the end of a script: success without a body. -/
def Reply.last : Reply where
  answer := some fun _ => pure (.ok { status := 200 })

/-- How taking a request body went. -/
inductive Taken where
  | nothing
  /-- So many items were taken, with these bytes. -/
  | all (count : Nat) (bytes : Bytes)
  /-- An item was an error; so many items were taken, the error included. -/
  | broken (count : Nat) (bytes : Bytes) (error : String)
  | stuck
  deriving DecidableEq, Repr

namespace Taken

/-- Takes items of a body up to the first error; `count` items with the chunks `read`, newest first,
were taken before. -/
def takeItems (stalls : Bool) (count : Nat) (read : List Bytes) : Option Nat → List Item → Taken
  | some 0, _ => all count read.reverse.flatten
  | _, [] => if stalls then stuck else all count read.reverse.flatten
  | limit, .chunk bytes :: rest =>
    takeItems stalls (count + 1) (bytes :: read) (limit.map (· - 1)) rest
  | _, .failure error :: _ => broken (count + 1) read.reverse.flatten error

/-- Takes as much of a body as the reply says. -/
def ofBody (reply : Reply) : Option Flow → Taken
  | none => nothing
  | some flow => takeItems flow.stalls 0 [] reply.takes flow.items

def count : Taken → Nat
  | all count _ | broken count _ _ => count
  | nothing | stuck => 0

end Taken

/-- A send as the transport saw it. -/
structure Send where
  atMillis : Nat
  request : Request
  taken : Taken

end Courier.Rehearsal
