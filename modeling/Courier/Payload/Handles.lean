import Courier.Payload.Basic

/-!
A payload with its life, the files, and the streams that were opened on it. Each attempt to open the
payload has a number, counted from 0; the stream it gave, if it gave one, is known by that number.
-/
namespace Courier

/-- A payload in use; a failed attempt to open it left no stream. -/
structure Handles where
  payload : Payload
  disk : Disk
  life : Life := {}
  streams : List (Option Stream) := []

namespace Handles

def stream? (h : Handles) (i : Nat) : Option Stream := (h.streams[i]?).join

/-- Opens the payload: the number of the new stream. -/
def openStream (h : Handles) : Noted (Except PayloadError Nat × Handles) := do
  let (opened, life) ← h.payload.openStream h.disk h.life
  pure (opened.map fun _ => h.streams.length,
    { h with life, streams := h.streams ++ [opened.toOption] })

def next (h : Handles) (i : Nat) : Option (Pull × Handles) := do
  let stream ← h.stream? i
  let (pull, stream) := stream.next h.disk
  some (pull, { h with streams := h.streams.set i (some stream) })

def drain (h : Handles) (i : Nat) : Option (Reading (Bytes × Option String) × Handles) := do
  let stream ← h.stream? i
  some ((stream.flow h.disk).drain, { h with streams := h.streams.set i (some stream.afterDrain) })

/-- Does something with the payload that changes its life only. -/
def use {α : Type} (h : Handles) (action : Payload → Disk → Life → Noted (α × Life)) :
    Noted (α × Handles) := do
  let (result, life) ← action h.payload h.disk h.life
  pure (result, { h with life })

def describeAs (h : Handles) (change : Payload → Payload) : Handles :=
  { h with payload := change h.payload }

def writeFile (h : Handles) (data : Bytes) : Handles :=
  match h.payload.content with
  | .file name => { h with disk := h.disk.write name data }
  | _ => h

def deleteFile (h : Handles) : Handles :=
  match h.payload.content with
  | .file name => { h with disk := h.disk.remove name }
  | _ => h

end Handles

end Courier
