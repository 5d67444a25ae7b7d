import Courier.Proofs.Exchanges
import Courier.Proofs.Hashing

/-!
The digest of an upload. A body is tapped anew for every send, so the digest that a response comes with is of the bytes
that the transport took of the body it was handed last, as many items as it took and nothing of a send before
(`Executor.digest_covers_last_send`). How the bytes came in pieces does not matter to the digest (`Tap.finish_advance`).
-/
namespace Courier

/-- The bytes that the transport took of the body. -/
def Exchange.takenBytes (exchange : Exchange) : Bytes :=
  exchange.body.toList.flatMap fun flow => (flow.items.take exchange.taken).flatMap Item.bytes

namespace Executor

/-- The digest of what was taken of a body is that of its bytes at once, if a digest is wanted and there is a body. -/
theorem digestOfTaken_eq (e : Executor) (exchange : Exchange) :
    e.digestOfTaken exchange.body exchange.taken =
      if exchange.body.isSome then e.uploadDigest.map (ContentDigest.compute · exchange.takenBytes)
      else none := by
  unfold digestOfTaken Exchange.takenBytes
  cases exchange.body with
  | none => cases e.uploadDigest <;> rfl
  | some flow =>
    cases e.uploadDigest with
    | none => rfl
    | some algorithm =>
      rw [Option.toList_some, List.flatMap_singleton]
      exact Tap.finish_advance flow algorithm exchange.taken

/-- What the digest of an upload covers. Whatever the executor, the command, the answers of the transport and how much of
each body it took before them: a response that is the result came of the last exchange, with the request and the body
that were handed over last. If that request had a payload, it was sent with a body, and the response has the digest of
the bytes that the transport took of this body, by the algorithm that the executor was given; without an algorithm or
without a payload it has none. -/
theorem digest_covers_last_send (e : Executor) (disk : Disk) (command : Command) (lives : Lives)
    (signals : List Signal) {response : Response}
    (ended : (e.execution disk command lives signals).value.phase = .finished (.ok response)) :
    ∃ last answer, (e.exchanges disk command lives signals).getLast? = some last ∧
      lastHandover (e.execution disk command lives signals).output = some (last.request, last.body) ∧
      last.body.isSome = last.request.payload.isSome ∧
      last.answer = .ok answer ∧ response.status = answer.status ∧ response.headers = answer.headers ∧
      response.requestDigest =
        if last.request.payload.isSome then
          e.uploadDigest.map (ContentDigest.compute · last.takenBytes)
        else none := by
  obtain ⟨last, answered⟩ := answered_of_finished ended
  obtain ⟨answer, came, status, headers⟩ := answered.answer
  have digest : response.requestDigest =
      if last.request.payload.isSome then e.uploadDigest.map (ContentDigest.compute · last.takenBytes)
      else none := by
    rw [answered.digest, e.digestOfTaken_eq, answered.body]
  exact ⟨last, answer, answered.final, answered.handed, answered.body, came, status, headers, digest⟩

/-- An upload that a gateway gives up and that is sent again: the transport takes all of the first body, and of the
second, which has a read error in it, only a part. -/
theorem digest_covers_retried_send :
    let items : List Item := [.chunk [97], .failure "broken", .chunk [98, 99], .chunk [100]]
    let upload : Request :=
      { method := .put
        endpoint := ⟨"http", some { host := "h" }, .rooted [""], none, none⟩
        payload := some ⟨.given 0, Payload.ofFactory fun _ => .ok ⟨items, false⟩⟩ }
    let rules := ({} : Config).described
    let command := Command.built 0 upload false false
    let signals : List Signal := [.answered (.ok { status := 504 }) 4 false, .pauseOver false,
      .answered (.ok { status := 200 }) 3 false]
    let run := rules.execution {} command .fresh signals
    ∃ response, run.value.phase = .finished (.ok response) ∧
      run.output.countP Event.isHanded = 2 ∧
      response.requestDigest = some (ContentDigest.compute .md5 [97, 98, 99]) := by
  intro items upload rules command signals run
  let digested := rules.digestOfTaken (some ⟨items, false⟩) 3
  have ended : run.value.phase = .finished (.ok { status := 200, requestDigest := digested }) := rfl
  have sends : run.output.countP Event.isHanded = 2 := by decide +kernel
  refine ⟨_, ended, sends, ?_⟩
  obtain ⟨last, answer, final, -, -, -, -, -, digest⟩ :=
    digest_covers_last_send rules {} command .fresh signals ended
  have exchanges : (rules.exchanges {} command .fresh signals).getLast? =
      some ⟨upload, some ⟨items, false⟩, .ok { status := 200 }, 3⟩ := rfl
  rw [exchanges, Option.some.injEq] at final
  rw [digest, ← final]
  rfl

end Executor

end Courier
