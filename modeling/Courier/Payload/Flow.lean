import Courier.Digest.Basic

/-!
The flow of a body: chunks of bytes and read errors in order. A flow closes after its last item, or it
stalls there, which means that nothing ever comes after it. Reading goes on to a limit, to the end, or to
the first error, whichever is met first.
-/
namespace Courier

/-- What a body's stream yields: some bytes, or an error with its text. The stream goes on after an
error. -/
inductive Item where
  | chunk (bytes : Bytes)
  | failure (error : String)
  deriving DecidableEq, Repr

def Item.bytes : Item → Bytes
  | chunk bytes => bytes
  | failure _ => []

/-- The items still to come, and whether the stream stalls after them instead of closing. -/
structure Flow where
  items : List Item
  stalls : Bool := false
  deriving DecidableEq, Repr

inductive Reading (α : Type) where
  | done (value : α)
  | failed (error : String)
  /-- Reading waits for an item that never comes. -/
  | waiting
  deriving DecidableEq, Repr

namespace Reading

def map {α β : Type} (f : α → β) : Reading α → Reading β
  | done value => done (f value)
  | failed error => failed error
  | waiting => waiting

end Reading

namespace Flow

def ofBytes (bytes : Bytes) : Flow := ⟨[.chunk bytes], false⟩

/-- All bytes that the items hold, errors passed over. -/
def content (flow : Flow) : Bytes := flow.items.flatMap Item.bytes

def close {α : Type} (flow : Flow) (value : α) : Reading α :=
  if flow.stalls then .waiting else .done value

/-- Reads at most `limit` bytes. A chunk that reaches the limit is cut, and nothing after it is looked
at. -/
def readUpTo (flow : Flow) (limit : Nat) : Reading Bytes :=
  go limit flow.items
where
  go (room : Nat) : List Item → Reading Bytes
    | [] => flow.close []
    | .failure error :: _ => .failed error
    | .chunk bytes :: rest =>
      if room ≤ bytes.length then .done (bytes.take room)
      else (go (room - bytes.length) rest).map (bytes ++ ·)

/-- Reads on until the first error: the bytes before it, and the error. -/
def drain (flow : Flow) : Reading (Bytes × Option String) :=
  go [] flow.items
where
  go (read : List Bytes) : List Item → Reading (Bytes × Option String)
    | [] => flow.close (read.reverse.flatten, none)
    | .failure error :: _ => .done (read.reverse.flatten, some error)
    | .chunk bytes :: rest => go (bytes :: read) rest

def digest (flow : Flow) (algorithm : DigestAlgorithm) : Reading ContentDigest :=
  go (.start algorithm) flow.items
where
  go (digester : Digester) : List Item → Reading ContentDigest
    | [] => flow.close digester.finish
    | .failure error :: _ => .failed error
    | .chunk bytes :: rest => go (digester.takeIn bytes) rest

end Flow

inductive Verification where
  | agrees
  | differs (expected actual : ContentDigest)
  deriving DecidableEq, Repr

def Verification.ofDigest (expected actual : ContentDigest) : Verification :=
  if actual = expected then .agrees else .differs expected actual

/-- Compares a body, chunk by chunk, with the digest it should have. -/
def Flow.verify (flow : Flow) (expected : ContentDigest) : Reading Verification :=
  (flow.digest expected.algorithm).map (Verification.ofDigest expected)

end Courier
