import Courier.Proofs.BoundedRead
import Courier.Proofs.CutBody

/-!
Error bodies in memory. Before a response that is no success is judged, its streamed body is read up to a limit, and
comes to be in memory with the description it had, but for the length. A policy sees the status and the bytes that
were read and nothing else (`shouldRetry_congr`), so it does not matter in what pieces they came, nor what length the
body was said to have, nor what comes after the limit (`Response.judged_alike_whatever_pieces`).
-/
namespace Courier

namespace Body

/-- Read up to the limit the body gives these bytes: it opens, and they are the first of all that its stream holds, up
to the limit or the end, and before any error. -/
def Yields (body : Body) (disk : Disk) (limit : Nat) (bytes : Bytes) : Prop :=
  ∃ flow, body.payload.opened disk body.life = .ok flow ∧ flow.content.take limit = bytes ∧
    (limit ≤ (Flow.soundBytes flow.items).length ∨
      Flow.firstError? flow.items = none ∧ flow.stalls = false)

/-- Read up to the limit the body gives an error: it does not open, or an error comes before so many bytes. -/
def Breaks (body : Body) (disk : Disk) (limit : Nat) (error : PayloadError) : Prop :=
  body.payload.opened disk body.life = .error error ∨
  ∃ flow text, body.payload.opened disk body.life = .ok flow ∧ Flow.firstError? flow.items = some text ∧
    (Flow.soundBytes flow.items).length < limit ∧ error = .stream text

/-- What comes of reading the body up to a limit, if reading ends. -/
def read? (body : Body) (disk : Disk) (limit : Nat) : Option (Except PayloadError Bytes) :=
  Reading.ofOpened (body.payload.opened disk body.life) (·.readUpTo limit)

variable {body : Body} {disk : Disk} {limit : Nat}

theorem Yields.read {bytes : Bytes} (yields : body.Yields disk limit bytes) (positive : 1 ≤ limit) :
    body.read? disk limit = some (.ok bytes) := by
  obtain ⟨flow, opens, rfl, arrives⟩ := yields
  rw [read?, opens, Reading.ofOpened]
  rcases arrives with reached | ⟨sound, closes⟩
  · rw [Flow.readUpTo_eq flow positive, if_pos reached, Flow.take_soundBytes List.prefix_rfl reached]
    rfl
  · rw [Flow.readUpTo_of_sound positive sound closes]
    rfl

theorem Breaks.read {error : PayloadError} (breaks : body.Breaks disk limit error)
    (positive : 1 ≤ limit) : body.read? disk limit = some (.error error) := by
  rcases breaks with shut | ⟨flow, text, opens, fails, short, rfl⟩
  · rw [read?, shut]
    rfl
  · rw [read?, opens, Reading.ofOpened, Flow.readUpTo_eq flow positive, if_neg (Nat.not_le.mpr short),
      Flow.untilError, fails]
    rfl

end Body

namespace Response

variable {r : Response} {body : Body}

/-- The response with what was read of its body in the place of the body. -/
def withRead (r : Response) (body : Body) : Except PayloadError Bytes → Response
  | .ok bytes => { r with body := some (bufferedBody body.payload bytes) }
  | .error _ => { r with body := none }

/-- A streamed body is read, and what was read takes its place. -/
theorem value_bufferBody (held : r.body = some body) (streamed : body.payload.bytes? = none)
    (disk : Disk) (limit : Nat) :
    (r.bufferBody disk limit).value = (body.read? disk limit).map (r.withRead body) := by
  unfold bufferBody startBuffering Body.read? Payload.opened
  rw [held]
  dsimp only
  rw [streamed]
  simp only [Option.isSome_none, Bool.false_eq_true, ↓reduceIte, Writer.value_bind]
  cases (body.payload.openStream disk body.life).value.1 with
  | error e => rfl
  | ok stream =>
    dsimp only [Writer.value_pure, Except.map, Reading.ofOpened]
    cases (stream.flow disk).readUpTo limit <;> rfl

/-- A body that is in memory, or none, is left as it is. -/
theorem bufferBody_of_settled (settled : ∀ body ∈ r.body, body.payload.bytes?.isSome)
    (disk : Disk) (limit : Nat) : r.bufferBody disk limit = pure (some r) := by
  unfold bufferBody startBuffering
  cases held : r.body with
  | none => rfl
  | some body =>
    have inMemory := settled body held
    dsimp only
    rw [inMemory]
    rfl

theorem settled_withRead (r : Response) (body : Body) (read : Except PayloadError Bytes) :
    ∀ put ∈ (r.withRead body read).body, put.payload.bytes?.isSome := by
  intro put held
  cases read with
  | error e => cases held
  | ok bytes => exact Option.some.inj held ▸ rfl

end Response

namespace BackoffPolicy

variable (policy : BackoffPolicy) {a b : Response}

/-- A policy reads the error code from the bytes in memory. -/
theorem errorCode_congr (bytes : a.bodyBytes? = b.bodyBytes?) :
    policy.errorCode a = policy.errorCode b := by
  unfold errorCode
  rw [bytes]

/-- It decides by the status and these bytes. -/
theorem shouldRetry_congr (command : Command) (status : a.status = b.status)
    (bytes : a.bodyBytes? = b.bodyBytes?) :
    policy.shouldRetry command a = policy.shouldRetry command b := by
  unfold shouldRetry
  rw [policy.errorCode_congr bytes, status]

/-- A response without body has no error code. -/
theorem errorCode_of_no_body (absent : a.body = none) : policy.errorCode a = pure none := by
  unfold errorCode Response.bodyBytes?
  rw [absent]
  rfl

/-- A 503 without body is not retried. -/
theorem not_retries_of_no_body (command : Command) (absent : a.body = none)
    (unavailable : a.status = serviceUnavailable) : ¬ policy.Retries command a := by
  have apart : serviceUnavailable ≠ gatewayTimeout := by decide
  rw [Retries, policy.shouldRetry_iff, errorCode_of_no_body policy absent, unavailable]
  simp [apart]

/-- A 504 is retried whatever its body, if the command may be sent again. -/
theorem retries_of_gateway_timeout {command : Command} (eligible : command.isRetryEligible = true)
    (late : a.status = gatewayTimeout) : policy.Retries command a :=
  (policy.shouldRetry_iff command a).mpr ⟨eligible, .inl late⟩

end BackoffPolicy

namespace Response

/-- What is judged of a response does not depend on the pieces that its body comes in. Let a response have a streamed
body, and let the limit be at least one byte. Status and headers stay. If the first bytes up to the limit, or all of
them, come without an error, then they are the body in memory, described as before but for the length, which is
their number; and any other response with this status and these headers whose body gives the same bytes, in whatever
pieces and whatever was said of it, has the same error code and the same decision under every policy. If an error
comes first there is no body: no policy finds a code, a 503 is not retried, and a 504 is if the command may be sent
again. Once it is done, doing it again, with whatever limit, changes nothing. -/
theorem judged_alike_whatever_pieces {r : Response} {body : Body} (held : r.body = some body)
    (streamed : body.payload.bytes? = none) (disk : Disk) {limit : Nat} (positive : 1 ≤ limit) :
    (∀ read, (r.bufferBody disk limit).value = some read →
      read.status = r.status ∧ read.headers = r.headers ∧
      ∀ again further, read.bufferBody again further = pure (some read)) ∧
    (∀ bytes, body.Yields disk limit bytes →
      ∃ read length, (r.bufferBody disk limit).value = some read ∧ read.bodyBytes? = some bytes ∧
        read.body.map (·.payload.metadata) = some { body.payload.metadata with length := some length } ∧
        (limit ≤ unlimited → length.toNat = bytes.length) ∧
        ∀ (other : Response) (streaming : Body) (store : Disk), other.status = r.status →
          other.headers = r.headers → other.body = some streaming →
          streaming.payload.bytes? = none → streaming.Yields store limit bytes →
          ∃ same, (other.bufferBody store limit).value = some same ∧ ∀ policy : BackoffPolicy,
            policy.errorCode same = policy.errorCode read ∧
            ∀ command, policy.shouldRetry command same = policy.shouldRetry command read) ∧
    ∀ error, body.Breaks disk limit error →
      ∃ read, (r.bufferBody disk limit).value = some read ∧ read.body = none ∧
        ∀ policy : BackoffPolicy, policy.errorCode read = pure none ∧
          ∀ command, (r.status = BackoffPolicy.serviceUnavailable → ¬ policy.Retries command read) ∧
            (r.status = BackoffPolicy.gatewayTimeout → command.isRetryEligible = true →
              policy.Retries command read) := by
  have buffers := value_bufferBody held streamed disk limit
  refine ⟨fun read done => ?_, fun bytes yields => ?_, fun error breaks => ?_⟩
  · rw [buffers] at done
    obtain ⟨found, -, rfl⟩ := Option.map_eq_some_iff.mp done
    have kept : (r.withRead body found).status = r.status ∧ (r.withRead body found).headers = r.headers := by
      cases found <;> exact ⟨rfl, rfl⟩
    exact ⟨kept.1, kept.2, bufferBody_of_settled (settled_withRead r body found)⟩
  · rw [yields.read positive] at buffers
    refine ⟨_, UInt64.ofNat bytes.length, buffers, rfl, rfl, fun sized => ?_, ?_⟩
    · obtain ⟨flow, -, rfl, -⟩ := yields
      have short : (flow.content.take limit).length ≤ limit := List.length_take_le _ _
      have fits : (flow.content.take limit).length < UInt64.size := by
        unfold unlimited at sized
        omega
      exact UInt64.toNat_ofNat_of_lt fits
    · intro other streaming store status _ holds streams yields
      have others := value_bufferBody holds streams store limit
      rw [yields.read positive] at others
      refine ⟨_, others, fun policy => ⟨policy.errorCode_congr rfl, fun command => ?_⟩⟩
      exact policy.shouldRetry_congr command status rfl
  · rw [breaks.read positive] at buffers
    refine ⟨_, buffers, rfl, fun policy => ⟨policy.errorCode_of_no_body rfl, fun command => ⟨?_, ?_⟩⟩⟩
    · exact fun unavailable => policy.not_retries_of_no_body command rfl unavailable
    · exact fun late eligible => policy.retries_of_gateway_timeout eligible late

/-- A body in three pieces, the limit at its end and an error behind it, and the same with more to it in one piece and a
length that is not its own. One byte more and the error shows: the 503 is not retried any more, and a 504 is. -/
theorem judged_alike_in_three_pieces :
    let text := Text.utf8 "<Code>Busy</Code>"
    let pieces : List Item := [.chunk (text.take 8), .chunk [], .chunk (text.drop 8), .failure "reset"]
    let streamed : Body := { payload := Payload.ofStream ⟨pieces, false⟩ }
    let longer : Body :=
      { payload := (Payload.ofStream (.ofBytes (text ++ [33]))).withMetadata { length := some 99 } }
    let command := Command.ofRequest 0
      { endpoint := ⟨"http", some { host := "h" }, .rooted [""], none, none⟩ } false
    ∃ one two torn late, (({ status := 503, body := some streamed } : Response).bufferBody {} 17).value =
        some one ∧
      (({ status := 503, body := some longer } : Response).bufferBody {} 17).value = some two ∧
      (({ status := 503, body := some streamed } : Response).bufferBody {} 18).value = some torn ∧
      (({ status := 504, body := some streamed } : Response).bufferBody {} 18).value = some late ∧
      one.bodyBytes? = some text ∧ torn.body = none ∧
      ∀ policy : BackoffPolicy,
        policy.errorCode two = policy.errorCode one ∧
        policy.shouldRetry command two = policy.shouldRetry command one ∧
        ¬ policy.Retries command torn ∧ policy.Retries command late := by
  intro text pieces streamed longer command
  have yields : streamed.Yields {} 17 text := ⟨⟨pieces, false⟩, rfl, by decide, .inl (by decide)⟩
  have same : longer.Yields {} 17 text :=
    ⟨.ofBytes (text ++ [33]), rfl, by decide, .inl (by decide)⟩
  have breaks : streamed.Breaks {} 18 (.stream "reset") :=
    .inr ⟨⟨pieces, false⟩, "reset", rfl, rfl, by decide, rfl⟩
  obtain ⟨-, settles, -⟩ := judged_alike_whatever_pieces (r := { status := 503, body := some streamed })
    rfl rfl {} (by decide : 1 ≤ 17)
  obtain ⟨one, -, reads, bytes, -, -, alike⟩ := settles text yields
  obtain ⟨two, others, judged⟩ :=
    alike { status := 503, body := some longer } longer {} rfl rfl rfl rfl same
  obtain ⟨-, -, fails⟩ := judged_alike_whatever_pieces (r := { status := 503, body := some streamed })
    rfl rfl {} (by decide : 1 ≤ 18)
  obtain ⟨torn, drops, absent, given⟩ := fails _ breaks
  obtain ⟨-, -, delays⟩ := judged_alike_whatever_pieces (r := { status := 504, body := some streamed })
    rfl rfl {} (by decide : 1 ≤ 18)
  obtain ⟨late, waits, -, retried⟩ := delays _ breaks
  refine ⟨one, two, torn, late, reads, others, drops, waits, bytes, absent, fun policy =>
    ⟨(judged policy).1, (judged policy).2 command, ?_, ?_⟩⟩
  · exact ((given policy).2 command).1 rfl
  · exact ((retried policy).2 command).2 rfl rfl

end Response

end Courier
