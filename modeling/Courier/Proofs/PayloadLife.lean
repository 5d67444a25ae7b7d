import Courier.Payload.Handles
import Courier.Proofs.BoundedRead
import Mathlib.Data.List.Induction

/-!
The life of a payload in use, over every row of things asked of it. What an opening gives depends on the release and
on how many openings came before, and not on what was done with the streams (`Content.supply`); what a stream gives
next depends on how often it was asked before, and not on the payload any more (`Handles.flow?_after`).
-/
namespace Courier

namespace Flow

/-- What is left of a flow after so many of its items. -/
def drop (flow : Flow) (count : Nat) : Flow := ⟨flow.items.drop count, flow.stalls⟩

/-- What is got of a flow by asking for an item after so many have been had. -/
def pull (flow : Flow) (count : Nat) : Pull :=
  match flow.items[count]? with
  | some item => .item item
  | none => if flow.stalls then .waiting else .ended

@[simp] theorem drop_zero (flow : Flow) : flow.drop 0 = flow := rfl

theorem drop_drop (flow : Flow) (first second : Nat) :
    (flow.drop first).drop second = flow.drop (first + second) := by
  simp [drop]

theorem pull_drop (flow : Flow) (first second : Nat) :
    (flow.drop first).pull second = flow.pull (first + second) := by
  unfold pull drop
  rw [List.getElem?_drop]

end Flow

/-- More fuel than bytes changes nothing about the chunks of a file. -/
theorem Disk.chunksFrom_fuel {fuel more : Nat} {rest : Bytes} (enough : rest.length ≤ fuel)
    (plenty : rest.length ≤ more) : chunksFrom fuel rest = chunksFrom more rest := by
  induction fuel generalizing more rest with
  | zero =>
    obtain rfl := List.eq_nil_of_length_eq_zero (Nat.le_zero.mp enough)
    cases more <;> rfl
  | succ fuel ih =>
    cases rest with
    | nil => cases more <;> rfl
    | cons b rest =>
      cases more with
      | zero => simp at plenty
      | succ more =>
        have shorter : ((b :: rest).drop fileChunkLength).length ≤ rest.length := by
          simp [fileChunkLength]
        have same := ih (Nat.le_trans shorter (Nat.le_of_succ_le_succ enough))
          (Nat.le_trans shorter (Nat.le_of_succ_le_succ plenty))
        rw [chunksFrom, chunksFrom, same]

theorem drop_length_take {α : Type} (count : Nat) (items : List α) :
    items.drop (items.take count).length = items.drop count := by
  rw [List.length_take]
  by_cases fits : count ≤ items.length
  · rw [Nat.min_eq_left fits]
  · have beyond : items.length ≤ count := Nat.le_of_not_le fits
    rw [Nat.min_eq_right beyond, List.drop_length, List.drop_of_length_le beyond]

/-- Asking a stream for items one by one gives what its flow holds. -/
theorem Stream.next_eq (disk : Disk) (stream : Stream) :
    (stream.next disk).1 = (stream.flow disk).pull 0 ∧
      (stream.next disk).2.flow disk = (stream.flow disk).drop 1 := by
  cases stream with
  | queue flow =>
    obtain ⟨items, stalls⟩ := flow
    cases items with
    | nil => exact ⟨rfl, rfl⟩
    | cons item items => exact ⟨rfl, rfl⟩
  | file place offset =>
    unfold next flow
    dsimp only
    cases rest : (disk.bytes place).drop offset with
    | nil => exact ⟨rfl, rfl⟩
    | cons b bytes =>
      have further : (disk.bytes place).drop (offset + ((b :: bytes).take fileChunkLength).length) =
          (b :: bytes).drop fileChunkLength := by
        rw [← List.drop_drop, rest, drop_length_take]
      have shorter : ((b :: bytes).drop fileChunkLength).length ≤ bytes.length := by
        simp [fileChunkLength]
      refine ⟨rfl, ?_⟩
      show Stream.flow disk (.file place (offset + ((b :: bytes).take fileChunkLength).length)) = _
      rw [flow, further]
      show (⟨_, false⟩ : Flow) = ⟨Disk.chunksFrom bytes.length ((b :: bytes).drop fileChunkLength), false⟩
      rw [Disk.chunksFrom_fuel (Nat.le_refl _) shorter]

/-- What an opening gives that comes after so many others, while the payload is not released: content in memory and
files whole, a factory the flow made for this opening, and a one-shot stream itself the first time only. -/
def Content.supply (content : Content) (disk : Disk) (earlier : Nat) : Except PayloadError Flow :=
  match content with
  | .memory bytes => .ok (.ofBytes bytes)
  | .file name =>
    match disk.find name with
    | .ok place => .ok ((Stream.file place 0).flow disk)
    | .error error => .error (.io name error)
  | .factory make =>
    match make (earlier + 1) with
    | .ok flow => .ok flow
    | .error error => .error (.stream error)
  | .oneShot flow => if earlier = 0 then .ok flow else .error .notReplayable

namespace Payload

variable (p : Payload) (disk : Disk) (life : Life)

theorem opened_eq :
    p.opened disk life =
      if life.released then .error .released else p.content.supply disk life.opens := by
  unfold opened openStream Content.supply
  split
  · rfl
  · simp only [Writer.value_bind]
    cases p.content with
    | memory bytes => rfl
    | file name =>
      dsimp only
      cases disk.find name <;> rfl
    | factory make =>
      dsimp only
      cases make (life.opens + 1) <;> rfl
    | oneShot flow =>
      dsimp only
      split <;> rfl

/-- To open a payload is counted, unless it was released. -/
theorem life_openStream :
    (p.openStream disk life).value.2 =
      if life.released then life else { life with opens := life.opens + 1 } := by
  unfold openStream
  split
  · rfl
  · simp only [Writer.value_bind]
    split
    · rfl
    · split <;> rfl
    · split <;> rfl
    · split <;> rfl

/-- A digest that is not the expected one is noted, which changes nothing about the result. -/
theorem value_verify (expected : ContentDigest) :
    (p.verify disk life expected).value =
      (p.consume disk life fun flow => flow.verify expected).value := by
  unfold verify
  rw [Writer.value_bind]
  dsimp only
  split <;> rfl

variable {p} in
/-- Content in memory is the same however often it was opened. -/
theorem supply_of_bytes {bytes : Bytes} (held : p.bytes? = some bytes) (earlier : Nat) :
    p.content.supply disk earlier = .ok (.ofBytes bytes) := by
  unfold bytes? at held
  split at held
  · next content =>
    cases held
    rw [content]
    rfl
  · cases held

end Payload

namespace Handles

/-- Ways to get at the content of a payload. -/
inductive Opener where
  | stream
  | bytes (limit : Nat)
  | digest (algorithm : DigestAlgorithm)
  | verification (expected : ContentDigest)
  deriving DecidableEq

/-- What can be asked of a payload in use. -/
inductive Ask where
  | opener (opener : Opener)
  /-- The next item of the stream with this number. -/
  | next (stream : Nat)
  | release
  deriving DecidableEq

/-- Does it get at the content? -/
def Ask.isOpener : Ask → Bool
  | opener _ => true
  | _ => false

/-- What comes of it. A digest, for one, may fail to come because the stream does not end. -/
inductive Reply where
  | stream (number : Except PayloadError Nat)
  | bytes (read : Option (Except PayloadError Bytes))
  | digest (made : Option (Except PayloadError ContentDigest))
  | verification (done : Option (Except PayloadError Verification))
  | pulled (pull : Option Pull)
  | released (now : Bool)
  deriving DecidableEq

/-- Does one thing, and gives the reply and what is then. -/
def perform (h : Handles) : Ask → Reply × Handles
  | .opener .stream => (h.openStream.value.map .stream id)
  | .opener (.bytes limit) =>
    (h.use fun p disk life => p.readUpTo disk life limit).value.map .bytes id
  | .opener (.digest algorithm) =>
    (h.use fun p disk life => p.digest disk life algorithm).value.map .digest id
  | .opener (.verification expected) =>
    (h.use fun p disk life => p.verify disk life expected).value.map .verification id
  | .next i =>
    match h.next i with
    | some (pull, later) => (.pulled (some pull), later)
    | none => (.pulled none, h)
  | .release => (h.use fun p _ life => p.release life).value.map .released id

theorem perform_next_of_none {h : Handles} {i : Nat} (none : h.stream? i = none) :
    h.perform (.next i) = (.pulled .none, h) := by
  simp [perform, next, none]

theorem perform_next_of_some {h : Handles} {i : Nat} {stream : Stream}
    (found : h.stream? i = some stream) :
    h.perform (.next i) = (.pulled (some (stream.next h.disk).1),
      { h with streams := h.streams.set i (some (stream.next h.disk).2) }) := by
  simp [perform, next, found]

/-- What is after a row of things asked for. -/
def after (h : Handles) (asks : List Ask) : Handles := asks.foldl (fun h ask => (h.perform ask).2) h

/-- The reply to an opener that is given this to read; a new stream gets this number. -/
def Opener.reply (opened : Except PayloadError Flow) (number : Nat) : Opener → Reply
  | stream => .stream (opened.map fun _ => number)
  | bytes limit => .bytes (Reading.ofOpened opened fun flow => flow.readUpTo limit)
  | digest algorithm => .digest (Reading.ofOpened opened fun flow => flow.digest algorithm)
  | verification expected => .verification (Reading.ofOpened opened fun flow => flow.verify expected)

section

variable (h : Handles)

theorem perform_opener (opener : Opener) :
    (h.perform (.opener opener)).1 =
      opener.reply (h.payload.opened h.disk h.life) h.streams.length := by
  cases opener with
  | stream =>
    show Reply.stream _ = Reply.stream _
    unfold Payload.opened
    cases (h.payload.openStream h.disk h.life).value.1 <;> rfl
  | bytes limit =>
    show Reply.bytes (h.payload.readUpTo h.disk h.life limit).value.1 = _
    rw [Payload.value_readUpTo]
    rfl
  | digest algorithm =>
    show Reply.digest (h.payload.digest h.disk h.life algorithm).value.1 = _
    rw [Payload.digest, Payload.value_consume]
    rfl
  | verification expected =>
    show Reply.verification (h.payload.verify h.disk h.life expected).value.1 = _
    rw [Payload.value_verify, Payload.value_consume]
    rfl

/-- Every opener opens, except that content in memory is read without that. -/
theorem life_opener (opener : Opener) :
    (h.perform (.opener opener)).2.life = (h.payload.openStream h.disk h.life).value.2 ∨
      h.payload.bytes?.isSome ∧ (h.perform (.opener opener)).2.life = h.life := by
  cases opener with
  | stream => exact .inl rfl
  | bytes limit =>
    have read : (h.perform (.opener (.bytes limit))).2.life =
        (h.payload.readUpTo h.disk h.life limit).value.2 := rfl
    rw [read, Payload.readUpTo]
    split
    · next bytes held =>
      refine .inr ⟨by rw [held]; rfl, ?_⟩
      split <;> rfl
    · rw [Payload.value_consume]
      exact .inl rfl
  | digest algorithm =>
    have digested : (h.perform (.opener (.digest algorithm))).2.life =
        (h.payload.digest h.disk h.life algorithm).value.2 := rfl
    rw [digested, Payload.digest, Payload.value_consume]
    exact .inl rfl
  | verification expected =>
    have verified : (h.perform (.opener (.verification expected))).2.life =
        (h.payload.verify h.disk h.life expected).value.2 := rfl
    rw [verified, Payload.value_verify, Payload.value_consume]
    exact .inl rfl

theorem released_perform (ask : Ask) :
    (h.perform ask).2.life.released = (h.life.released || ask == .release) := by
  cases ask with
  | opener opener =>
    rcases h.life_opener opener with opens | ⟨-, same⟩
    · rw [opens, Payload.life_openStream]
      split <;> simp
    · rw [same]
      simp
  | next i =>
    cases found : h.stream? i with
    | none => simp [perform_next_of_none found]
    | some stream => simp [perform_next_of_some found]
  | release =>
    show (h.payload.release h.life).value.2.released = _
    unfold Payload.release
    split
    · next gone => simp [gone]
    · simp

theorem opens_perform (live : h.life.released = false) (streamed : h.payload.bytes? = none) (ask : Ask) :
    (h.perform ask).2.life.opens = h.life.opens + if ask.isOpener then 1 else 0 := by
  cases ask with
  | opener opener =>
    rcases h.life_opener opener with opens | ⟨held, -⟩
    · rw [opens, Payload.life_openStream, live]
      rfl
    · rw [streamed] at held
      cases held
  | next i =>
    cases found : h.stream? i with
    | none => simp [perform_next_of_none found, Ask.isOpener]
    | some stream => simp [perform_next_of_some found, Ask.isOpener]
  | release =>
    show (h.payload.release h.life).value.2.opens = _
    unfold Payload.release
    rw [live]
    rfl

/-- What stays as it is, whatever is asked. -/
theorem frame_perform (ask : Ask) :
    (h.perform ask).2.payload = h.payload ∧ (h.perform ask).2.disk = h.disk := by
  cases ask with
  | opener opener => cases opener <;> exact ⟨rfl, rfl⟩
  | next i =>
    cases found : h.stream? i with
    | none => simp [perform_next_of_none found]
    | some stream => simp [perform_next_of_some found]
  | release => exact ⟨rfl, rfl⟩

/-- Only an opening of a stream takes a number. -/
theorem length_perform (ask : Ask) :
    (h.perform ask).2.streams.length = h.streams.length + if ask = .opener .stream then 1 else 0 := by
  cases ask with
  | opener opener =>
    cases opener with
    | stream =>
      show (h.streams ++ [_]).length = _
      simp
    | bytes limit => rfl
    | digest algorithm => rfl
    | verification expected => rfl
  | next i =>
    cases found : h.stream? i with
    | none => simp [perform_next_of_none found]
    | some stream => simp [perform_next_of_some found]
  | release => rfl

end

/-- What has become of a payload that nothing was asked of before. -/
structure Lived (p : Payload) (disk : Disk) (asks : List Ask) (h : Handles) : Prop where
  payload : h.payload = p
  disk : h.disk = disk
  released : h.life.released = asks.contains .release
  /-- Openings are counted until the release; content in memory needs none to be read. -/
  opens : h.life.released = false → p.bytes? = none → h.life.opens = asks.countP Ask.isOpener
  streams : h.streams.length = asks.count (.opener .stream)

section

variable {p : Payload} {disk : Disk} {asks : List Ask} {h : Handles} {i : Nat}

theorem Lived.perform (lived : Lived p disk asks h) (ask : Ask) :
    Lived p disk (asks ++ [ask]) (h.perform ask).2 := by
  obtain ⟨payload, same⟩ := h.frame_perform ask
  refine ⟨payload.trans lived.payload, same.trans lived.disk, ?_, fun live streamed => ?_, ?_⟩
  · rw [released_perform, lived.released, Bool.beq_comm]
    simp [beq_eq_decide]
  · rw [released_perform, Bool.or_eq_false_iff] at live
    rw [opens_perform h live.1 (by rw [lived.payload, streamed]), lived.opens live.1 streamed]
    simp [List.countP_append, List.countP_cons]
  · rw [length_perform, lived.streams]
    simp [List.count_append, List.count_cons]

theorem after_concat (h : Handles) (asks : List Ask) (ask : Ask) :
    h.after (asks ++ [ask]) = ((h.after asks).perform ask).2 := by
  simp [after]

/-- A payload that nothing was asked of before, with the files that there are. -/
def fresh (p : Payload) (disk : Disk) : Handles := { payload := p, disk }

theorem lived_after (p : Payload) (disk : Disk) (asks : List Ask) :
    Lived p disk asks ((fresh p disk).after asks) := by
  induction asks using List.reverseRecOn with
  | nil => exact ⟨rfl, rfl, rfl, fun _ _ => rfl, rfl⟩
  | append_singleton asks ask ih =>
    rw [after_concat]
    exact ih.perform ask

/-- What an opening gives to read at some point in the life of a payload. -/
theorem Lived.opened (lived : Lived p disk asks h) :
    h.payload.opened h.disk h.life =
      if asks.contains .release then .error .released
      else p.content.supply disk (asks.countP Ask.isOpener) := by
  rw [Payload.opened_eq, lived.payload, lived.disk, lived.released]
  split
  · rfl
  · next kept =>
    cases held : p.bytes? with
    | some bytes => rw [Payload.supply_of_bytes disk held, Payload.supply_of_bytes disk held]
    | none =>
      have live : h.life.released = false := by
        rw [lived.released]
        simpa using kept
      rw [lived.opens live held]

/-- What the stream with this number has still to give. -/
def flow? (h : Handles) (i : Nat) : Option Flow := (h.stream? i).map (·.flow h.disk)

theorem flow?_eq_none (beyond : h.streams.length ≤ i) : h.flow? i = none := by
  unfold flow? stream?
  rw [List.getElem?_eq_none beyond]
  rfl

/-- A new stream is whole, and the others are as they were. -/
theorem flow?_stream (h : Handles) (i : Nat) :
    (h.perform (.opener .stream)).2.flow? i =
      if i = h.streams.length then (h.payload.opened h.disk h.life).toOption else h.flow? i := by
  have grown : (h.perform (.opener .stream)).2.flow? i =
      ((h.streams ++ [(h.payload.openStream h.disk h.life).value.1.toOption])[i]?).join.map
        (·.flow h.disk) := rfl
  rw [grown, List.getElem?_append]
  by_cases new : i = h.streams.length
  · subst new
    unfold Payload.opened
    cases (h.payload.openStream h.disk h.life).value.1 <;> simp [Except.map, Except.toOption]
  · by_cases old : i < h.streams.length
    · rw [if_pos old, if_neg new]
      rfl
    · have beyond : h.streams.length ≤ i := Nat.le_of_not_lt old
      rw [if_neg old, if_neg new, flow?_eq_none beyond, List.getElem?_eq_none (by simp; omega)]
      rfl

/-- Asking a stream for an item gives its next one. -/
theorem perform_next (h : Handles) (i : Nat) :
    (h.perform (.next i)).1 = .pulled ((h.flow? i).map (·.pull 0)) := by
  unfold flow?
  cases found : h.stream? i with
  | none => rw [perform_next_of_none found]; rfl
  | some stream =>
    rw [perform_next_of_some found, (stream.next_eq h.disk).1]
    rfl

/-- It takes that item from the stream, and leaves the other streams as they were. -/
theorem flow?_next (h : Handles) (i j : Nat) :
    (h.perform (.next i)).2.flow? j = if j = i then (h.flow? i).map (·.drop 1) else h.flow? j := by
  cases found : h.stream? i with
  | none =>
    rw [perform_next_of_none found]
    split
    · next same => simp [same, flow?, found]
    · rfl
  | some stream =>
    have inside : i < h.streams.length := by
      by_contra beyond
      rw [stream?, List.getElem?_eq_none (Nat.le_of_not_lt beyond)] at found
      cases found
    have set : (h.perform (.next i)).2.flow? j =
        ((h.streams.set i (some (stream.next h.disk).2))[j]?).join.map (·.flow h.disk) := by
      rw [perform_next_of_some found]
      rfl
    rw [set]
    by_cases same : j = i
    · rw [if_pos same, same, List.getElem?_set_self inside, flow?, found]
      exact congrArg some (stream.next_eq h.disk).2
    · have other : i ≠ j := fun equal => same equal.symm
      rw [if_neg same, List.getElem?_set_ne other]
      rfl

theorem length_after (h : Handles) (asks : List Ask) :
    h.streams.length ≤ (h.after asks).streams.length := by
  induction asks using List.reverseRecOn with
  | nil => exact Nat.le_refl _
  | append_singleton asks ask ih =>
    rw [after_concat, length_perform]
    exact Nat.le_add_right_of_le ih

/-- What is asked of the payload or of other streams does not show in a stream: so many items of it are gone as were
asked for. -/
theorem flow?_after (h : Handles) (asks : List Ask) (known : i < h.streams.length) :
    (h.after asks).flow? i = (h.flow? i).map (·.drop (asks.count (.next i))) := by
  induction asks using List.reverseRecOn with
  | nil => simp [after]
  | append_singleton asks ask ih =>
    rw [after_concat, List.count_append, List.count_singleton]
    cases ask with
    | opener opener =>
      have same : ((h.after asks).perform (.opener opener)).2.flow? i = (h.after asks).flow? i := by
        cases opener with
        | stream =>
          have old : i ≠ (h.after asks).streams.length :=
            Nat.ne_of_lt (Nat.lt_of_lt_of_le known (h.length_after asks))
          rw [flow?_stream, if_neg old]
        | bytes limit => rfl
        | digest algorithm => rfl
        | verification expected => rfl
      rw [same, ih]
      simp
    | next j =>
      rw [flow?_next]
      by_cases same : i = j
      · subst same
        simp [ih, Function.comp_def, Flow.drop_drop]
      · have other : ¬ j = i := fun equal => same equal.symm
        simp [same, other, ih]
    | release =>
      have same : ((h.after asks).perform .release).2.flow? i = (h.after asks).flow? i := rfl
      rw [same, ih]
      simp

end

/-- The life of a payload, whatever its source, after any row of things asked of it and of its streams. A release is
the one that lets go of it if there was none before. Whatever gets at the content is refused after a release, and
before that it is given what the source has for an opening with so many before it: all of the content anew from the
start, or, for a one-shot stream, the stream the first time and a refusal later. And a stream gives its next item,
whatever was asked besides: the payload may be released by then, and others may have been opened and read. -/
theorem life_of_payload (p : Payload) (disk : Disk) (asks : List Ask) :
    let h := (fresh p disk).after asks
    (h.perform .release).1 = .released (!asks.contains .release) ∧
    (∀ opener, (h.perform (.opener opener)).1 = opener.reply
      (if asks.contains .release then .error .released
        else p.content.supply disk (asks.countP Ask.isOpener))
      (asks.count (.opener .stream))) ∧
    ∀ before later flow, asks = before ++ .opener .stream :: later →
      before.contains .release = false →
      p.content.supply disk (before.countP Ask.isOpener) = .ok flow →
      let i := before.count (.opener .stream)
      (h.perform (.next i)).1 = .pulled (some (flow.pull (later.count (.next i)))) := by
  intro h
  have lived : Lived p disk asks h := lived_after p disk asks
  refine ⟨?_, fun opener => ?_, ?_⟩
  · show Reply.released (h.payload.release h.life).value.1 = _
    unfold Payload.release
    rw [lived.released]
    split
    · next gone => rw [gone]; rfl
    · next kept =>
      have never : asks.contains .release = false := by simpa using kept
      rw [never]
      rfl
  · rw [perform_opener, lived.opened, lived.streams]
  · rintro before later flow rfl live supplied i
    let h₀ := (fresh p disk).after before
    have early : Lived p disk before h₀ := lived_after p disk before
    have opened : h₀.payload.opened h₀.disk h₀.life = .ok flow := by
      rw [early.opened, live]
      exact supplied
    -- The stream that the opening gives has the next number.
    let h₁ := (h₀.perform (.opener .stream)).2
    have new : h₁.flow? i = some flow := by
      rw [flow?_stream, if_pos early.streams.symm, opened]
      rfl
    have known : i < h₁.streams.length := by
      rw [length_perform, early.streams]
      exact Nat.lt_succ_self _
    have last : h = h₁.after later := by
      simp only [h, h₁, h₀, after, List.foldl_append, List.foldl_cons]
    rw [perform_next, last, flow?_after h₁ later known, new]
    simp only [Option.map_some, Flow.pull_drop, Nat.add_zero]

/-- What a factory made for the second opening goes on after the release with the item that is next, whatever was read
of the first stream; no other stream can be opened then, and there is no second release. -/
theorem stream_outlives_release :
    let made (opening : Nat) : Flow := ⟨[.chunk [0], .chunk [UInt8.ofNat opening]], false⟩
    let asks : List Ask := [.opener .stream, .next 0, .opener .stream, .next 1, .release, .next 0]
    let h := (fresh (.ofFactory fun opening => .ok (made opening)) {}).after asks
    (h.perform .release).1 = .released false ∧
      (h.perform (.opener .stream)).1 = .stream (.error .released) ∧
      (h.perform (.next 1)).1 = .pulled (some (.item (.chunk [2]))) := by
  intro made asks h
  obtain ⟨again, refused, goes⟩ := life_of_payload (.ofFactory fun opening => .ok (made opening)) {} asks
  have supplied : (Content.factory fun opening => .ok (made opening)).supply {} 1 = .ok (made 2) := rfl
  exact ⟨again, refused .stream,
    goes [.opener .stream, .next 0] [.next 1, .release, .next 0] (made 2) rfl rfl supplied⟩

end Handles

end Courier
