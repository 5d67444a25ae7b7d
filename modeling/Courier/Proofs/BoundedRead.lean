import Courier.Payload.Basic
import Mathlib.Data.List.Basic

/-!
Reading a body into memory up to a limit. What is read is decided by the first error and by the bytes before it: if
these reach the limit, or if there is no error, the first bytes of the body come of it, and otherwise the error
(`Flow.readUpTo_eq`). Written as a loop that fills a buffer, the reading never asks for room that is not there
(`Flow.fill_eq_some`). How the body comes in pieces does not show in the result (`Payload.bounded_read`).
-/
namespace Courier

/-- The error of an item, if it is one. -/
def Item.error? : Item → Option String
  | chunk _ => none
  | failure error => some error

namespace Reading

variable {α β : Type}

@[simp] theorem map_done (f : α → β) (value : α) : (done value).map f = done (f value) := rfl

@[simp] theorem map_failed (f : α → β) (error : String) :
    (failed error : Reading α).map f = failed error := rfl

@[simp] theorem map_close (f : α → β) (flow : Flow) (value : α) :
    (flow.close value).map f = flow.close (f value) := by
  unfold Flow.close
  split <;> rfl

theorem map_nil_append (reading : Reading Bytes) : reading.map ([] ++ ·) = reading := by
  cases reading <;> rfl

/-- What comes of a payload whose stream is read like that; none if the reading does not end. -/
def outcome? : Reading α → Option (Except PayloadError α)
  | done value => some (.ok value)
  | failed error => some (.error (.stream error))
  | waiting => none

/-- What comes of a payload when what its opening gave is read. -/
def ofOpened (opened : Except PayloadError Flow) (use : Flow → Reading α) :
    Option (Except PayloadError α) :=
  match opened with
  | .error e => some (.error e)
  | .ok flow => (use flow).outcome?

end Reading

namespace Flow

/-- The bytes before the first error. -/
def soundBytes (items : List Item) : Bytes :=
  (items.takeWhile fun item => item.error?.isNone).flatMap Item.bytes

/-- The first error. -/
def firstError? (items : List Item) : Option String := items.findSome? Item.error?

@[simp] theorem soundBytes_nil : soundBytes [] = [] := rfl

@[simp] theorem soundBytes_failure (error : String) (rest : List Item) :
    soundBytes (.failure error :: rest) = [] := rfl

@[simp] theorem soundBytes_chunk (bytes : Bytes) (rest : List Item) :
    soundBytes (.chunk bytes :: rest) = bytes ++ soundBytes rest := rfl

@[simp] theorem firstError?_nil : firstError? [] = none := rfl

@[simp] theorem firstError?_failure (error : String) (rest : List Item) :
    firstError? (.failure error :: rest) = some error := rfl

@[simp] theorem firstError?_chunk (bytes : Bytes) (rest : List Item) :
    firstError? (.chunk bytes :: rest) = firstError? rest := rfl

/-- Without an error all bytes are sound. -/
theorem soundBytes_of_no_error {items : List Item} (sound : firstError? items = none) :
    soundBytes items = items.flatMap Item.bytes := by
  induction items with
  | nil => rfl
  | cons item rest ih =>
    cases item with
    | failure error => cases sound
    | chunk bytes => simp [ih sound, Item.bytes]

/-- The bytes before the first error begin all the bytes. -/
theorem soundBytes_begins (items : List Item) : soundBytes items <+: items.flatMap Item.bytes := by
  induction items with
  | nil => exact List.prefix_rfl
  | cons item rest ih =>
    cases item with
    | failure error => exact List.nil_prefix
    | chunk bytes => exact (List.prefix_append_right_inj bytes).mpr ih

theorem soundBytes_append_begins (part more : List Item) :
    soundBytes part <+: soundBytes (part ++ more) := by
  induction part with
  | nil => exact List.nil_prefix
  | cons item rest ih =>
    cases item with
    | failure error => exact List.nil_prefix
    | chunk bytes => exact (List.prefix_append_right_inj bytes).mpr ih

/-- What a reading gives that does not reach its limit. -/
def untilError (flow : Flow) (items : List Item) : Reading Bytes :=
  match firstError? items with
  | some error => .failed error
  | none => flow.close (soundBytes items)

theorem readUpTo_go_eq (flow : Flow) {room : Nat} (positive : 1 ≤ room) (items : List Item) :
    readUpTo.go flow room items =
      if room ≤ (soundBytes items).length then .done ((soundBytes items).take room)
      else flow.untilError items := by
  induction items generalizing room with
  | nil =>
    have empty : ¬ room ≤ (soundBytes []).length := by simp; omega
    rw [if_neg empty]
    rfl
  | cons item rest ih =>
    cases item with
    | failure error =>
      have empty : ¬ room ≤ (soundBytes (.failure error :: rest)).length := by simp; omega
      rw [if_neg empty]
      rfl
    | chunk bytes =>
      rw [readUpTo.go, soundBytes_chunk, List.length_append]
      by_cases reached : room ≤ bytes.length
      · rw [if_pos reached, if_pos (by omega), List.take_append_of_le_length reached]
      · rw [if_neg reached, ih (by omega)]
        by_cases later : room - bytes.length ≤ (soundBytes rest).length
        · rw [if_pos later, if_pos (by omega), Reading.map_done, List.take_append,
            List.take_of_length_le (by omega : bytes.length ≤ room)]
        · rw [if_neg later, if_neg (by omega)]
          unfold untilError
          rw [firstError?_chunk, soundBytes_chunk]
          cases firstError? rest with
          | some error => rfl
          | none => exact Reading.map_close _ flow _

/-- What is read of a flow up to a limit that is not nothing. -/
theorem readUpTo_eq (flow : Flow) {limit : Nat} (positive : 1 ≤ limit) :
    flow.readUpTo limit =
      if limit ≤ (soundBytes flow.items).length then .done ((soundBytes flow.items).take limit)
      else flow.untilError flow.items := flow.readUpTo_go_eq positive flow.items

/-- Fills a buffer with what the items hold, up to the limit, one item after the other. The room that is left is
asked for anew with each chunk; where the buffer would be over the limit there is no answer. -/
def fill (flow : Flow) (limit : Nat) (buffer : Bytes) : List Item → Option (Reading Bytes)
  | [] => some (flow.close buffer)
  | .failure error :: _ => some (.failed error)
  | .chunk bytes :: rest =>
    if limit < buffer.length then none
    else
      let room := limit - buffer.length
      if room ≤ bytes.length then some (.done (buffer ++ bytes.take room))
      else flow.fill limit (buffer ++ bytes) rest

/-- A buffer is never over the limit, and filling it is the same as reading. -/
theorem fill_eq_some (flow : Flow) {limit : Nat} {buffer : Bytes} (below : buffer.length ≤ limit)
    (items : List Item) :
    flow.fill limit buffer items =
      some ((readUpTo.go flow (limit - buffer.length) items).map (buffer ++ ·)) := by
  induction items generalizing buffer with
  | nil => simp [fill, readUpTo.go]
  | cons item rest ih =>
    cases item with
    | failure error => rfl
    | chunk bytes =>
      rw [fill, readUpTo.go, if_neg (Nat.not_lt.mpr below)]
      dsimp only
      by_cases reached : limit - buffer.length ≤ bytes.length
      · rw [if_pos reached, if_pos reached, Reading.map_done]
      · -- The chunk is shorter than the room, so the buffer is still below the limit.
        have still : (buffer ++ bytes).length ≤ limit := by
          rw [List.length_append]
          omega
        have room : limit - (buffer ++ bytes).length = limit - buffer.length - bytes.length := by
          rw [List.length_append]
          omega
        rw [if_neg reached, if_neg reached, ih still, room]
        cases readUpTo.go flow (limit - buffer.length - bytes.length) rest <;>
          simp [Reading.map]

/-- Where the limit is reached without an error, nothing that comes later shows. -/
theorem readUpTo_of_reached {flow : Flow} {part more : List Item} {limit : Nat} (positive : 1 ≤ limit)
    (split : flow.items = part ++ more) (reached : limit ≤ (soundBytes part).length) :
    flow.readUpTo limit = .done ((soundBytes part).take limit) := by
  have begins : soundBytes part <+: soundBytes flow.items := by
    rw [split]
    exact soundBytes_append_begins part more
  rw [readUpTo_eq flow positive, if_pos (Nat.le_trans reached begins.length_le)]
  obtain ⟨later, whole⟩ := begins
  rw [← whole, List.take_append_of_le_length reached]

/-- Bytes up to a limit that is reached without an error are the first of all bytes. -/
theorem take_soundBytes {part items : List Item} (begins : part <+: items) {limit : Nat}
    (reached : limit ≤ (soundBytes part).length) :
    (soundBytes part).take limit = (items.flatMap Item.bytes).take limit := by
  obtain ⟨more, rfl⟩ := begins
  obtain ⟨later, whole⟩ :=
    (soundBytes_append_begins part more).trans (soundBytes_begins (part ++ more))
  rw [← whole, List.take_append_of_le_length reached]

/-- A flow without errors that closes is read as far as the limit goes. -/
theorem readUpTo_of_sound {flow : Flow} {limit : Nat} (positive : 1 ≤ limit)
    (sound : firstError? flow.items = none) (closes : flow.stalls = false) :
    flow.readUpTo limit = .done (flow.content.take limit) := by
  rw [readUpTo_eq flow positive, soundBytes_of_no_error sound]
  split
  · rfl
  · next short =>
    have all : flow.content.take limit = flow.content :=
      List.take_of_length_le (Nat.le_of_not_le short)
    rw [untilError, sound, soundBytes_of_no_error sound, all, close, closes]
    rfl

theorem readUpTo_ofBytes (bytes : Bytes) (limit : Nat) :
    (ofBytes bytes).readUpTo limit = .done (bytes.take limit) := by
  rw [readUpTo, ofBytes, readUpTo.go]
  split
  · rfl
  · next long =>
    rw [List.take_of_length_le (by omega)]
    simp [readUpTo.go, close]

end Flow

namespace Payload

variable (p : Payload) (disk : Disk) (life : Life)

/-- All that an opening of the payload gives to read. -/
def opened : Except PayloadError Flow := (p.openStream disk life).value.1.map fun stream => stream.flow disk

/-- A payload whose content is used is opened, and its stream is read. -/
theorem value_consume {α : Type} (use : Flow → Reading α) :
    (p.consume disk life use).value =
      (Reading.ofOpened (p.opened disk life) use, (p.openStream disk life).value.2) := by
  unfold consume opened
  rw [Writer.value_bind]
  dsimp only
  cases (p.openStream disk life).value.1 with
  | error e => rfl
  | ok stream =>
    dsimp only [Except.map, Reading.ofOpened]
    cases use (stream.flow disk) <;> rfl

variable {p} in
/-- Content in memory is opened as one chunk. -/
theorem opened_of_bytes {bytes : Bytes} (held : p.bytes? = some bytes) :
    p.opened disk life = if life.released then .error .released else .ok (.ofBytes bytes) := by
  unfold bytes? at held
  unfold opened openStream
  split at held
  · next content =>
    cases held
    split
    · rfl
    · rw [content]
      rfl
  · cases held

/-- Content is read into memory as if it were opened, even where it is in memory already. -/
theorem value_readUpTo (limit : Nat) :
    (p.readUpTo disk life limit).value.1 =
      Reading.ofOpened (p.opened disk life) fun flow => flow.readUpTo limit := by
  unfold readUpTo
  split
  · next bytes held =>
    rw [opened_of_bytes disk life held]
    split
    · rfl
    · rw [Reading.ofOpened, Flow.readUpTo_ofBytes]
      rfl
  · rw [value_consume]

/-- Reading a payload into memory up to a limit. Whatever the source, if it is opened and its stream is a finite row
of chunks and errors, and the limit is not nothing: the first bytes of all that the chunks hold come of it, as many
as the limit allows, if there is no error or the limit is reached before the first one, and that error if not. The
room left in the buffer never goes below nothing. Once the limit is reached it does not matter what comes later, or
whether anything does. And a stream without errors gives what the same bytes in memory give. -/
theorem bounded_read {flow : Flow} (opens : p.opened disk life = .ok flow)
    (closes : flow.stalls = false) {limit : Nat} (positive : 1 ≤ limit) :
    let start := flow.content.take (min limit flow.content.length)
    let read := (p.readUpTo disk life limit).value.1
    read = some (match Flow.firstError? flow.items with
      | none => .ok start
      | some error =>
        if limit ≤ (Flow.soundBytes flow.items).length then .ok start else .error (.stream error)) ∧
    flow.fill limit [] flow.items = some (flow.readUpTo limit) ∧
    (∀ part, part <+: flow.items → limit ≤ (Flow.soundBytes part).length → ∀ more stalls,
      ((ofStream ⟨part ++ more, stalls⟩).readUpTo disk {} limit).value.1 = some (.ok start)) ∧
    (Flow.firstError? flow.items = none →
      read = ((ofBytes flow.content).readUpTo disk {} limit).value.1) := by
  intro start read
  have same : start = flow.content.take limit := List.take_eq_take_min.symm
  have reads : read = (flow.readUpTo limit).outcome? := by
    simp only [read, value_readUpTo, opens, Reading.ofOpened]
  refine ⟨?_, ?_, ?_, ?_⟩
  · rw [reads, same]
    cases error : Flow.firstError? flow.items with
    | none => rw [Flow.readUpTo_of_sound positive error closes, Reading.outcome?]
    | some text =>
      rw [Flow.readUpTo_eq flow positive]
      dsimp only
      split
      · next reached => rw [Flow.take_soundBytes List.prefix_rfl reached, Reading.outcome?, Flow.content]
      · rw [Flow.untilError, error, Reading.outcome?]
  · have empty : ([] : Bytes).length ≤ limit := Nat.zero_le limit
    have filled := flow.fill_eq_some empty flow.items
    rwa [Reading.map_nil_append] at filled
  · intro part begins reached more stalls
    have fresh : (ofStream ⟨part ++ more, stalls⟩).opened disk {} = .ok ⟨part ++ more, stalls⟩ := rfl
    rw [value_readUpTo, fresh, Reading.ofOpened, Flow.readUpTo_of_reached positive rfl reached,
      Flow.take_soundBytes begins reached, same]
    rfl
  · intro sound
    have fresh : (ofBytes flow.content).opened disk {} = .ok (.ofBytes flow.content) := rfl
    rw [reads, value_readUpTo, fresh, Reading.ofOpened, Flow.readUpTo_ofBytes,
      Flow.readUpTo_of_sound positive sound closes]

/-- A stream with an empty chunk, whose third chunk ends at the limit and is followed by an error. -/
theorem bounded_read_before_error :
    let items : List Item := [.chunk [1, 2], .chunk [], .chunk [3, 4], .failure "reset", .chunk [5]]
    ((ofStream ⟨items, false⟩).readUpTo {} {} 4).value.1 = some (.ok [1, 2, 3, 4]) ∧
      ((ofStream ⟨items, false⟩).readUpTo {} {} 5).value.1 = some (.error (.stream "reset")) := by
  intro items
  have opens : (ofStream ⟨items, false⟩).opened {} {} = .ok ⟨items, false⟩ := rfl
  obtain ⟨four, -⟩ := bounded_read (ofStream ⟨items, false⟩) {} {} opens rfl (by decide : 1 ≤ 4)
  obtain ⟨five, -⟩ := bounded_read (ofStream ⟨items, false⟩) {} {} opens rfl (by decide : 1 ≤ 5)
  exact ⟨four, five⟩

end Payload

end Courier
