import Courier.Payload.Basic

/-!
Responses. A response owns its body, and with it the body's life. Before an error response is judged its
body is read into memory, up to a limit (`bufferBody`).
-/
namespace Courier

/-- The body of a response: a payload of its own and what has happened to it. -/
structure Body where
  payload : Payload
  life : Life := {}

structure Response where
  status : Nat
  headers : Headers := []
  body : Option Body := none
  /-- The digest of the request bytes that were taken for the send this response answers. -/
  requestDigest : Option ContentDigest := none

namespace Response

def isSuccess (r : Response) : Bool := 200 ≤ r.status && r.status < 300

def isRedirection (r : Response) : Bool := 300 ≤ r.status && r.status < 400

def header (r : Response) (name : String) : Option String := r.headers.first? name

def bodyBytes? (r : Response) : Option Bytes := r.body.bind (·.payload.bytes?)

/-- The description of a body read into memory: as before, except that the length is the number of
bytes read. -/
def bufferedBody (payload : Payload) (bytes : Bytes) : Body :=
  ⟨(Payload.ofBytes bytes).withMetadata { payload.metadata with length := none }, {}⟩

/-- Puts what was read of a body, whose stream is done with, in the place of the body. A body that fails
to read is dropped. -/
def settle (r : Response) (body : Body) (read : Except PayloadError Bytes) : Noted Response := do
  if let .error e := read then note (.bufferingFailed r.status e.message)
  let _ ← body.payload.release body.life
  match read with
  | .ok bytes => pure { r with body := some (bufferedBody body.payload bytes) }
  | .error _ => pure { r with body := none }

/-- A response on the way to be judged: ready for it, or with a body whose stream is still to be read. -/
inductive Buffering where
  | settled (response : Response)
  | waiting (body : Body) (flow : Flow)

/-- Begins to read a streamed body into memory; one held in memory is left as it is. -/
def startBuffering (r : Response) (disk : Disk) : Noted Buffering :=
  match r.body with
  | none => pure (.settled r)
  | some body =>
    if body.payload.bytes?.isSome then pure (.settled r)
    else do
      let (opened, life) ← body.payload.openStream disk body.life
      let body := { body with life }
      match opened with
      | .ok stream => pure (.waiting body (stream.flow disk))
      | .error e => pure (.settled (← r.settle body (.error e)))

/-- Reads a streamed body into memory, at most `limit` bytes of it. `none` means that the body never
ends. -/
def bufferBody (r : Response) (disk : Disk) (limit : Nat) : Noted (Option Response) := do
  match ← r.startBuffering disk with
  | .settled r => pure (some r)
  | .waiting body flow =>
    match flow.readUpTo limit with
    | .done bytes => pure (some (← r.settle body (.ok bytes)))
    | .failed error => pure (some (← r.settle body (.error (.stream error))))
    | .waiting => pure none

/-- Reads the whole body into memory; a response without body has no bytes. -/
def readBody (r : Response) (disk : Disk) : Noted (Option (Except PayloadError Bytes)) :=
  match r.body with
  | none => pure (some (.ok []))
  | some body => do
    let (outcome, _) ← body.payload.readUpTo disk body.life unlimited
    pure outcome

/-- Releases the body. The answer says whether this was the release, and is absent without body. -/
def releaseBody (r : Response) : Noted (Option Bool × Response) :=
  match r.body with
  | none => pure (none, r)
  | some body => do
    let (released, life) ← body.payload.release body.life
    pure (some released, { r with body := some { body with life := life } })

def describe (r : Response) : String :=
  Text.record "HttpResponse"
    [("status", toString r.status), ("headers", r.headers.shown),
     ("payload", Text.optional (r.body.map fun b => b.payload.describe b.life)),
     ("request_digest", Text.optional (r.requestDigest.map ContentMetadata.describeDigest))]

end Response

end Courier
