import Courier.Http.Metadata
import Courier.Notice
import Courier.Payload.Disk

/-!
Payloads: the content of a body with its description, and the life of a payload in use. Content held in
memory, in a file or by a factory can be opened any number of times; a one-shot stream only once. A
payload is released once, and after that it is never opened again. What a payload is made of does not
change; what happens to it is in its `Life`.
-/
namespace Courier

inductive Content where
  | memory (bytes : Bytes)
  | file (name : String)
  /-- A factory: what the opening with this number, counted from 1, yields, or the error it fails with. -/
  | factory (make : Nat → Except String Flow)
  | oneShot (flow : Flow)

/-- A body: its content and what is known about it. -/
structure Payload where
  content : Content
  metadata : ContentMetadata := {}

/-- What has happened to a payload: whether it was released, and how often its content was asked for
before that. -/
structure Life where
  released : Bool := false
  opens : Nat := 0
  deriving DecidableEq, Repr

inductive PayloadError where
  | released
  | notReplayable
  | io (file error : String)
  | stream (error : String)
  deriving DecidableEq, Repr

namespace PayloadError

def message : PayloadError → String
  | released => "payload has already been released"
  | notReplayable => "payload content source cannot be reopened"
  | io file error => s!"IO error opening payload file {file}: {error}"
  | stream error => s!"IO error streaming payload: {error}"

/-- The texts of the errors behind this one, nearest first. -/
def causes : PayloadError → List String
  | released | notReplayable => []
  | io _ error | stream error => [error]

/-- The error's description; an error behind it is described as `foreign` says. -/
def describe (foreign : String → String) : PayloadError → String
  | released => "Released"
  | notReplayable => "NotReplayable"
  | io file error => Text.record "Io" [("path", Text.quoted file), ("source", foreign error)]
  | stream error => Text.record "Stream" [("source", foreign error)]

end PayloadError

/-- The limit of a read that takes all: no body is longer. -/
def unlimited : Nat := UInt64.size - 1

def Verification.report : Verification → Noted Unit
  | agrees => pure ()
  | differs expected actual => note (.digestMismatch expected.text actual.text)

namespace Payload

/-- The name of the kind of content. -/
def source (p : Payload) : String :=
  match p.content with
  | .memory _ => "bytes"
  | .file _ => "file"
  | .factory _ => "factory"
  | .oneShot _ => "one-shot"

def ofBytes (bytes : Bytes) : Payload :=
  ⟨.memory bytes, { length := some (UInt64.ofNat bytes.length) }⟩

def ofText (text : String) : Payload :=
  ⟨.memory (Text.utf8 text),
    { length := some (UInt64.ofNat (Text.utf8 text).length),
      contentType := some "text/plain; charset=utf-8" }⟩

def ofFile (disk : Disk) (name : String) : Except PayloadError Payload :=
  match disk.find name with
  | .ok file =>
    .ok ⟨.file name, { length := some (UInt64.ofNat (disk.bytes file).length) }⟩
  | .error error => .error (.io name error)

def ofFactory (make : Nat → Except String Flow) : Payload := ⟨.factory make, {}⟩

def ofStream (flow : Flow) : Payload := ⟨.oneShot flow, {}⟩

/-- `p` with another description; a length known before is kept unless the new one has its own. -/
def withMetadata (p : Payload) (m : ContentMetadata) : Payload :=
  { p with metadata := m.keepingLength p.metadata.length }

def withContentType (p : Payload) (contentType : String) : Payload :=
  { p with metadata := { p.metadata with contentType := some contentType } }

def isRepeatable (p : Payload) : Bool :=
  match p.content with
  | .oneShot _ => false
  | _ => true

def bytes? (p : Payload) : Option Bytes :=
  match p.content with
  | .memory bytes => some bytes
  | _ => none

def isFile (p : Payload) : Bool :=
  match p.content with
  | .file _ => true
  | _ => false

def openStream (p : Payload) (disk : Disk) (life : Life) :
    Noted (Except PayloadError Stream × Life) :=
  if life.released then pure (.error .released, life)
  else do
    note (.openingPayload p.source)
    let opened := { life with opens := life.opens + 1 }
    match p.content with
    | .memory bytes => pure (.ok (.queue (.ofBytes bytes)), opened)
    | .file name =>
      match disk.find name with
      | .ok file => pure (.ok (.file file 0), opened)
      | .error error => pure (.error (.io name error), opened)
    | .factory make =>
      match make opened.opens with
      | .ok flow => pure (.ok (.queue flow), opened)
      | .error error => pure (.error (.stream error), opened)
    | .oneShot flow =>
      if life.opens = 0 then pure (.ok (.queue flow), opened)
      else pure (.error .notReplayable, opened)

/-- Opens the content and does something with all of it. `none` means that it never ends. -/
def consume {α : Type} (p : Payload) (disk : Disk) (life : Life) (use : Flow → Reading α) :
    Noted (Option (Except PayloadError α) × Life) := do
  let (opened, life) ← p.openStream disk life
  match opened with
  | .error e => pure (some (.error e), life)
  | .ok stream =>
    match use (stream.flow disk) with
    | .done value => pure (some (.ok value), life)
    | .failed error => pure (some (.error (.stream error)), life)
    | .waiting => pure (none, life)

/-- Reads the content into memory, at most `limit` bytes of it. What is in memory is not opened for
that. -/
def readUpTo (p : Payload) (disk : Disk) (life : Life) (limit : Nat) :
    Noted (Option (Except PayloadError Bytes) × Life) :=
  match p.bytes? with
  | some bytes =>
    if life.released then pure (some (.error .released), life)
    else pure (some (.ok (bytes.take limit)), life)
  | none => p.consume disk life (·.readUpTo limit)

def digest (p : Payload) (disk : Disk) (life : Life) (algorithm : DigestAlgorithm) :
    Noted (Option (Except PayloadError ContentDigest) × Life) :=
  p.consume disk life (·.digest algorithm)

def verify (p : Payload) (disk : Disk) (life : Life) (expected : ContentDigest) :
    Noted (Option (Except PayloadError Verification) × Life) :=
  do
    let (outcome, life) ← p.consume disk life (·.verify expected)
    if let some (.ok verification) := outcome then verification.report
    pure (outcome, life)

/-- Releases the payload. The answer says whether this was the release. -/
def release (p : Payload) (life : Life) : Noted (Bool × Life) :=
  if life.released then pure (false, life)
  else do
    note (.payloadReleased p.source)
    pure (true, { life with released := true })

def describe (p : Payload) (life : Life) : String :=
  Text.record "Payload"
    [("source", Text.quoted p.source), ("metadata", p.metadata.describe),
     ("released", toString life.released)]

end Payload

end Courier
