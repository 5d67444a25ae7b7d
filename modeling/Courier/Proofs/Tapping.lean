import Courier.Digest.Tap
import Courier.Proofs.Hashing
import Courier.Proofs.PayloadLife

/-!
A tapped stream in use, over every row of things asked of it and of its digest. What it yields is what the stream itself
would have yielded to as many pulls; what is counted and digested are the bytes that were yielded; and neither the
digest being asked for nor the stream being dropped changes the count (`Tap.tap_transparent_and_exact`).
-/
namespace Courier

namespace Flow

/-- The bytes of the first items. -/
def passed (flow : Flow) (count : Nat) : Bytes := (flow.items.take count).flatMap Item.bytes

/-- The bytes that come after so many items, up to the next. -/
def passing (flow : Flow) (count : Nat) : Bytes := (flow.items[count]?).toList.flatMap Item.bytes

theorem passed_succ (flow : Flow) (count : Nat) :
    flow.passed (count + 1) = flow.passed count ++ flow.passing count := by
  rw [passed, List.take_add_one, List.flatMap_append]
  rfl

theorem passing_drop (flow : Flow) (count : Nat) : (flow.drop count).passing 0 = flow.passing count := by
  rw [passing, drop, List.getElem?_drop]
  rfl

end Flow

namespace Tap

/-- What can be asked of a tapped stream and of the digest in the making. -/
inductive Ask where
  | next
  | seen
  | drop
  | finish
  deriving DecidableEq

/-- What comes of it. -/
inductive Reply where
  | yielded (next : Next)
  | seen (bytes : Nat)
  | dropped
  | digest (digest? : Option ContentDigest)
  deriving DecidableEq

/-- Does one thing, and gives the reply and what is then. -/
def perform (t : Tap) : Ask → Reply × Tap
  | .next => (.yielded t.next.1, t.next.2)
  | .seen => (.seen t.bytesSeen, t)
  | .drop => (.dropped, t.drop)
  | .finish => (.digest t.finish.1, t.finish.2)

/-- What is after a row of things asked for. -/
def after (t : Tap) (asks : List Ask) : Tap := asks.foldl (fun t ask => (t.perform ask).2) t

/-- The replies to a row of things asked for. -/
def replies (t : Tap) : List Ask → List Reply
  | [] => []
  | ask :: rest => (t.perform ask).1 :: (t.perform ask).2.replies rest

/-- The item that a reply holds, if it holds one. -/
def Reply.item? : Reply → Option Item
  | yielded (.item item) => some item
  | _ => none

/-- What an untapped stream gives, as a tapped one says it. -/
def Next.ofPull : Pull → Next
  | .item i => .item i
  | .ended => .ended
  | .waiting => .waiting

/-- How often the next item was asked for before the stream was dropped. -/
def pulls (asks : List Ask) : Nat := (asks.takeWhile (· ≠ .drop)).count .next

theorem pulls_cons (first : Ask) (rest : List Ask) :
    pulls (first :: rest) =
      match first with
      | .drop => 0
      | .next => pulls rest + 1
      | _ => pulls rest := by
  cases first <;> simp [pulls]

theorem pulls_concat (asks : List Ask) (ask : Ask) :
    pulls (asks ++ [ask]) = if ask = .next ∧ .drop ∉ asks then pulls asks + 1 else pulls asks := by
  induction asks with
  | nil => cases ask <;> rfl
  | cons first rest ih =>
    rw [List.cons_append, pulls_cons, pulls_cons, ih]
    cases first with
    | drop => simp
    | next => simp only [List.mem_cons, reduceCtorEq, false_or]; split <;> rfl
    | seen => simp only [List.mem_cons, reduceCtorEq, false_or]
    | finish => simp only [List.mem_cons, reduceCtorEq, false_or]

theorem after_concat (t : Tap) (asks : List Ask) (ask : Ask) :
    t.after (asks ++ [ask]) = ((t.after asks).perform ask).2 := by
  simp [after]

theorem replies_concat (t : Tap) (asks : List Ask) (ask : Ask) :
    t.replies (asks ++ [ask]) = t.replies asks ++ [((t.after asks).perform ask).1] := by
  induction asks generalizing t with
  | nil => rfl
  | cons first rest ih =>
    rw [List.cons_append, replies, ih]
    rfl

theorem next_of_dropped {t : Tap} (dropped : t.flow = none) : t.next = (.dropped, t) := by
  unfold next
  rw [dropped]

/-- A tap yields the next item of its stream, and sees the bytes of it pass. -/
theorem next_of_running {t : Tap} {flow : Flow} (running : t.flow = some flow) :
    t.next = (.ofPull (flow.pull 0),
      { flow := some (flow.drop 1)
        digester := t.digester.map (·.takeIn (flow.passing 0))
        bytesSeen := t.bytesSeen + (flow.passing 0).length }) := by
  obtain ⟨items, stalls⟩ := flow
  obtain ⟨flow?, digester, bytesSeen⟩ := t
  cases running
  cases items with
  | nil => cases stalls <;> simp [next, Flow.pull, Flow.passing, Flow.drop, Next.ofPull]
  | cons item rest =>
    cases item with
    | chunk bytes => simp [next, see, Flow.pull, Flow.passing, Flow.drop, Next.ofPull, Item.bytes]
    | failure error => simp [next, see, Flow.pull, Flow.passing, Flow.drop, Next.ofPull, Item.bytes]

/-- What has become of a tapped flow. -/
structure Tapped (flow : Flow) (algorithm : DigestAlgorithm) (asks : List Ask) (t : Tap) : Prop where
  running : t.flow = if .drop ∈ asks then none else some (flow.drop (pulls asks))
  digesting : t.digester =
    if .finish ∈ asks then none
    else some ((Digester.start algorithm).takeIn (flow.passed (pulls asks)))
  counted : t.bytesSeen = (flow.passed (pulls asks)).length

section

variable {flow : Flow} {algorithm : DigestAlgorithm} {asks : List Ask} {t : Tap}

theorem Tapped.perform (tapped : Tapped flow algorithm asks t) (ask : Ask) :
    Tapped flow algorithm (asks ++ [ask]) (t.perform ask).2 := by
  obtain ⟨running, digesting, counted⟩ := tapped
  cases ask with
  | next =>
    by_cases dropped : .drop ∈ asks
    · rw [if_pos dropped] at running
      have same : pulls (asks ++ [.next]) = pulls asks := by simp [pulls_concat, dropped]
      have stays : (t.perform .next).2 = t := congrArg Prod.snd (next_of_dropped running)
      rw [stays]
      refine ⟨?_, ?_, ?_⟩
      · simp [running, dropped]
      · simp [digesting, same]
      · rw [counted, same]
    · rw [if_neg dropped] at running
      have more : pulls (asks ++ [.next]) = pulls asks + 1 := by simp [pulls_concat, dropped]
      have moves := congrArg Prod.snd (next_of_running running)
      rw [Flow.passing_drop, Flow.drop_drop] at moves
      refine ⟨?_, ?_, ?_⟩
      · show t.next.2.flow = _
        simp [moves, more, dropped]
      · show t.next.2.digester = _
        rw [moves, more, Flow.passed_succ, Digester.takeIn_append, digesting]
        split <;> simp_all
      · show t.next.2.bytesSeen = _
        rw [moves, more, Flow.passed_succ, List.length_append, counted]
  | seen =>
    have same : pulls (asks ++ [.seen]) = pulls asks := by simp [pulls_concat]
    refine ⟨?_, ?_, ?_⟩
    · simpa [Tap.perform, same] using running
    · simpa [Tap.perform, same] using digesting
    · rw [same]
      exact counted
  | drop =>
    have same : pulls (asks ++ [.drop]) = pulls asks := by simp [pulls_concat]
    refine ⟨?_, ?_, ?_⟩
    · simp [Tap.perform, Tap.drop]
    · simpa [Tap.perform, Tap.drop, same] using digesting
    · rw [same]
      exact counted
  | finish =>
    have same : pulls (asks ++ [.finish]) = pulls asks := by simp [pulls_concat]
    refine ⟨?_, ?_, ?_⟩
    · simpa [Tap.perform, Tap.finish, same] using running
    · simp [Tap.perform, Tap.finish]
    · rw [same]
      exact counted

theorem tapped_after (flow : Flow) (algorithm : DigestAlgorithm) (asks : List Ask) :
    Tapped flow algorithm asks ((ofFlow flow algorithm).after asks) := by
  induction asks using List.reverseRecOn with
  | nil => exact ⟨rfl, rfl, rfl⟩
  | append_singleton asks ask ih =>
    rw [after_concat]
    exact ih.perform ask

/-- What is yielded when the next item is asked for. -/
theorem Tapped.yielded (tapped : Tapped flow algorithm asks t) :
    t.next.1 = if .drop ∈ asks then .dropped else .ofPull (flow.pull (pulls asks)) := by
  have running := tapped.running
  by_cases dropped : .drop ∈ asks
  · rw [if_pos dropped] at running ⊢
    exact congrArg Prod.fst (next_of_dropped running)
  · rw [if_neg dropped] at running ⊢
    rw [next_of_running running, Flow.pull_drop, Nat.add_zero]

theorem item?_ofPull (count : Nat) :
    (Reply.yielded (.ofPull (flow.pull count))).item? = flow.items[count]? := by
  unfold Flow.pull
  cases flow.items[count]? with
  | some item => rfl
  | none => cases flow.stalls <;> rfl

/-- The replies hold the first items of the flow, as many as were asked for. -/
theorem items_of_replies (flow : Flow) (algorithm : DigestAlgorithm) (asks : List Ask) :
    ((ofFlow flow algorithm).replies asks).filterMap Reply.item? = flow.items.take (pulls asks) := by
  induction asks using List.reverseRecOn with
  | nil => rfl
  | append_singleton asks ask ih =>
    have tapped := tapped_after flow algorithm asks
    rw [replies_concat, List.filterMap_append, ih, pulls_concat]
    cases ask with
    | next =>
      have reply : (((ofFlow flow algorithm).after asks).perform .next).1 = .yielded _ :=
        congrArg Reply.yielded tapped.yielded
      rw [reply]
      by_cases dropped : .drop ∈ asks
      · simp [dropped, Reply.item?]
      · rw [if_neg dropped, if_pos ⟨rfl, dropped⟩, List.take_add_one, ← item?_ofPull]
        cases found : (Reply.yielded (.ofPull (flow.pull (pulls asks)))).item? <;> simp [found]
    | seen => simp [perform, Reply.item?]
    | drop => simp [perform, Reply.item?]
    | finish => simp [perform, Reply.item?]

end

/-- What a tap does, whatever the flow, the algorithm and the row of things asked before. The items that were yielded are
those of the flow in order, errors included, as many as were asked for before the stream was dropped; and the next thing
that it yields is what the flow itself has after so many. The bytes counted are those of the chunks that were yielded.
The digest is that of these bytes at once, the first time it is asked for, and later there is none. To drop the stream
changes neither. -/
theorem tap_transparent_and_exact (flow : Flow) (algorithm : DigestAlgorithm) (asks : List Ask) :
    let t := (ofFlow flow algorithm).after asks
    let yielded := ((ofFlow flow algorithm).replies asks).filterMap Reply.item?
    let bytes := yielded.flatMap Item.bytes
    yielded = flow.items.take (pulls asks) ∧
    (t.perform .next).1 =
      .yielded (if .drop ∈ asks then .dropped else .ofPull (flow.pull (pulls asks))) ∧
    (t.perform .seen).1 = .seen bytes.length ∧
    (t.perform .finish).1 =
      .digest (if .finish ∈ asks then none else some (ContentDigest.compute algorithm bytes)) ∧
    (t.drop.perform .seen).1 = (t.perform .seen).1 ∧ (t.drop.perform .finish).1 = (t.perform .finish).1 := by
  intro t yielded bytes
  have tapped : Tapped flow algorithm asks t := tapped_after flow algorithm asks
  have items : yielded = flow.items.take (pulls asks) := items_of_replies flow algorithm asks
  have content : bytes = flow.passed (pulls asks) := congrArg (List.flatMap Item.bytes) items
  refine ⟨items, congrArg Reply.yielded tapped.yielded, ?_, ?_, rfl, rfl⟩
  · show Reply.seen t.bytesSeen = _
    rw [tapped.counted, content]
  · show Reply.digest (t.digester.map (·.finish)) = _
    rw [tapped.digesting, content]
    split
    · rfl
    · rw [Option.map_some, Digester.finish_takeIn]

/-- The digest is asked for between two chunks, and again after a read error and the second chunk. -/
example :
    (ofFlow ⟨[.chunk [1, 2], .failure "reset", .chunk [3]], false⟩ .md5).replies
        [.next, .finish, .next, .next, .seen, .finish, .next] =
      [.yielded (.item (.chunk [1, 2])), .digest (some (ContentDigest.compute .md5 [1, 2])),
        .yielded (.item (.failure "reset")), .yielded (.item (.chunk [3])), .seen 3, .digest none,
        .yielded .ended] := by
  decide +kernel

end Tap

end Courier
