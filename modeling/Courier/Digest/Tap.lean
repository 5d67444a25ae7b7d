import Courier.Payload.Flow

/-!
Tapped streams: a stream hands its items on unchanged, and beside it the bytes are counted and taken into
a digest. The digest can be asked for once, at any time; counting goes on.
-/
namespace Courier

/-- A tapped stream: the items still to come (none once the stream is dropped), the digest in the making
until it is asked for, and the bytes seen so far. -/
structure Tap where
  flow : Option Flow
  digester : Option Digester
  bytesSeen : Nat := 0

namespace Tap

def ofFlow (flow : Flow) (algorithm : DigestAlgorithm) : Tap where
  flow := some flow
  digester := some (.start algorithm)

/-- What a tapped stream yields when asked for its next item. -/
inductive Next where
  | item (item : Item)
  | ended
  | waiting
  | dropped
  deriving DecidableEq, Repr

def see (t : Tap) (item : Item) : Tap :=
  match item with
  | .chunk bytes =>
    { t with
      digester := t.digester.map (·.takeIn bytes)
      bytesSeen := t.bytesSeen + bytes.length }
  | .failure _ => t

/-- Asks for the next item. -/
def next (t : Tap) : Next × Tap :=
  match t.flow with
  | none => (.dropped, t)
  | some ⟨[], stalls⟩ => (if stalls then .waiting else .ended, t)
  | some ⟨item :: items, stalls⟩ => (.item item, { t.see item with flow := some ⟨items, stalls⟩ })

/-- Asks for so many items and lets them go. -/
def advance : Nat → Tap → Tap
  | 0, t => t
  | count + 1, t => advance count t.next.2

def drop (t : Tap) : Tap := { t with flow := none }

/-- The digest of the bytes seen so far, the first time it is asked for. -/
def finish (t : Tap) : Option ContentDigest × Tap :=
  (t.digester.map (·.finish), { t with digester := none })

end Tap

end Courier
