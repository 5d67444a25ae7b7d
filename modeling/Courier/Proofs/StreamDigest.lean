import Courier.Proofs.Hashing
import Courier.Proofs.PayloadLife

/-!
Digests of streams. A digester takes a stream in chunk by chunk, so the digest of a stream that is read to its end is
that of all its bytes at once (`Flow.digest_eq`), and a stream with a read error has none. How the bytes come in
pieces does not show, and no part of a body is ever compared with a digest (`stream_digested_as_whole`).
-/
namespace Courier

namespace Flow

/-- What comes of a stream that is read to its end: its first error, or what is made of all its bytes. -/
def wholly {α : Type} (flow : Flow) (make : Bytes → α) : Reading α :=
  match firstError? flow.items with
  | some error => .failed error
  | none => flow.close (make flow.content)

theorem map_wholly {α β : Type} (flow : Flow) (make : Bytes → α) (f : α → β) :
    (flow.wholly make).map f = flow.wholly fun body => f (make body) := by
  unfold wholly
  cases firstError? flow.items with
  | some error => rfl
  | none => exact Reading.map_close f flow _

/-- A digester that is fed items up to their end has taken in all their bytes. -/
theorem digest_go_eq (flow : Flow) (digester : Digester) (items : List Item) :
    digest.go flow digester items = match firstError? items with
      | some error => .failed error
      | none => flow.close (digester.takeIn (items.flatMap Item.bytes)).finish := by
  induction items generalizing digester with
  | nil => rfl
  | cons item rest ih =>
    cases item with
    | failure error => rfl
    | chunk bytes =>
      rw [digest.go, ih, firstError?_chunk, List.flatMap_cons, digester.takeIn_append]
      rfl

/-- The digest of a stream is that of its bytes at once. -/
theorem digest_eq (flow : Flow) (algorithm : DigestAlgorithm) :
    flow.digest algorithm = flow.wholly (ContentDigest.compute algorithm) := by
  rw [digest, digest_go_eq, wholly, Digester.finish_takeIn]
  rfl

/-- So is what a stream is compared by. -/
theorem verify_eq (flow : Flow) (expected : ContentDigest) :
    flow.verify expected = flow.wholly fun body =>
      .ofDigest expected (ContentDigest.compute expected.algorithm body) := by
  rw [verify, digest_eq, map_wholly]

section

variable (chunks : List Bytes)

theorem firstError?_map_chunk : firstError? (chunks.map Item.chunk) = none := by
  induction chunks with
  | nil => rfl
  | cons bytes rest ih => rw [List.map_cons, firstError?_chunk, ih]

theorem firstError?_append_failure (error : String) (more : List Item) :
    firstError? (chunks.map Item.chunk ++ .failure error :: more) = some error := by
  induction chunks with
  | nil => rfl
  | cons bytes rest ih => rw [List.map_cons, List.cons_append, firstError?_chunk, ih]

theorem flatMap_bytes_map_chunk : (chunks.map Item.chunk).flatMap Item.bytes = chunks.flatten := by
  rw [List.flatMap_map]
  exact List.flatMap_id

variable {α : Type} (make : Bytes → α)

/-- What is made of a stream of chunks is made of their concatenation. -/
theorem wholly_chunks :
    Flow.wholly ⟨chunks.map Item.chunk, false⟩ make = .done (make chunks.flatten) := by
  rw [wholly, firstError?_map_chunk]
  exact congrArg (Reading.done ∘ make) (flatMap_bytes_map_chunk chunks)

/-- Nothing is made of a stream with an error in it. -/
theorem wholly_failure (error : String) (more : List Item) (stalls : Bool) :
    Flow.wholly ⟨chunks.map Item.chunk ++ .failure error :: more, stalls⟩ make = .failed error := by
  rw [wholly, firstError?_append_failure]

end

end Flow

namespace Payload

theorem value_digest_ofStream (flow : Flow) (disk : Disk) (algorithm : DigestAlgorithm) :
    ((ofStream flow).digest disk {} algorithm).value.1 = (flow.digest algorithm).outcome? := by
  rw [digest, value_consume]
  rfl

theorem value_verify_ofStream (flow : Flow) (disk : Disk) (expected : ContentDigest) :
    ((ofStream flow).verify disk {} expected).value.1 = (flow.verify expected).outcome? := by
  rw [value_verify, value_consume]
  rfl

end Payload

/-- Digests of streams are those of whole bodies. Whatever the algorithm, the chunks and the digest that is expected:
a stream of these chunks, empty ones among them or none at all, has the digest of their concatenation; compared with
what is expected, it agrees if and only if that is this digest, and else differs, with both of them told. A stream
with a read error, wherever it comes and whatever follows it, has no digest and agrees or differs with none: the
first error is what comes of it. So it is for streams by themselves and as bodies that are read once. -/
theorem stream_digested_as_whole (algorithm : DigestAlgorithm) (expected : ContentDigest) (disk : Disk)
    (chunks : List Bytes) :
    let actual := ContentDigest.compute expected.algorithm chunks.flatten
    let verdict := if actual = expected then Verification.agrees else .differs expected actual
    let sound : Flow := ⟨chunks.map .chunk, false⟩
    (sound.digest algorithm = .done (ContentDigest.compute algorithm chunks.flatten) ∧
      sound.verify expected = .done verdict ∧
      ((Payload.ofStream sound).digest disk {} algorithm).value.1 =
        some (.ok (ContentDigest.compute algorithm chunks.flatten)) ∧
      ((Payload.ofStream sound).verify disk {} expected).value.1 = some (.ok verdict)) ∧
    ∀ error more stalls,
      let torn : Flow := ⟨chunks.map .chunk ++ .failure error :: more, stalls⟩
      torn.digest algorithm = .failed error ∧ torn.verify expected = .failed error ∧
        ((Payload.ofStream torn).digest disk {} algorithm).value.1 = some (.error (.stream error)) ∧
        ((Payload.ofStream torn).verify disk {} expected).value.1 = some (.error (.stream error)) := by
  intro actual verdict sound
  constructor
  · have digests : sound.digest algorithm = .done (ContentDigest.compute algorithm chunks.flatten) := by
      rw [Flow.digest_eq, Flow.wholly_chunks]
    have verifies : sound.verify expected = .done verdict := by
      rw [Flow.verify_eq, Flow.wholly_chunks]
      rfl
    refine ⟨digests, verifies, ?_, ?_⟩
    · rw [Payload.value_digest_ofStream, digests, Reading.outcome?]
    · rw [Payload.value_verify_ofStream, verifies, Reading.outcome?]
  · intro error more stalls torn
    have digests : torn.digest algorithm = .failed error := by
      rw [Flow.digest_eq, Flow.wholly_failure]
    have verifies : torn.verify expected = .failed error := by
      rw [Flow.verify_eq, Flow.wholly_failure]
    refine ⟨digests, verifies, ?_, ?_⟩
    · rw [Payload.value_digest_ofStream, digests, Reading.outcome?]
    · rw [Payload.value_verify_ofStream, verifies, Reading.outcome?]

/-- A body in three pieces, one of them empty. -/
example : (⟨[.chunk [97], .chunk [], .chunk [98]], false⟩ : Flow).digest .md5 =
    .done (ContentDigest.compute .md5 [97, 98]) := by
  decide +kernel

end Courier
