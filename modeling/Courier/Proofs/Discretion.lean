import Courier.Proofs.Execution

/-!
Who speaks of a command. Its states and the release of its payload are noted where the run changes them, and nowhere
else: filters, payloads, responses and redirects note their own affairs only (`Noted.Discreet`), and so does
the policy of a configuration (`Config.discreet_retryPolicy`). A policy of another kind is asked for the same
(`RetryPolicy.Discreet`).
-/
namespace Courier

/-- Does the notice tell of the command: of a state that it comes to, or that it lets go of its payload? -/
def Notice.isOfCommand : Notice → Bool
  | commandState .. | commandPayloadReleased .. => true
  | _ => false

/-- Is the event a notice that tells of the command? -/
def Event.isOfCommand : Event → Bool
  | notice n => n.isOfCommand
  | _ => false

namespace Writer

variable {α β : Type}

/-- What is told of the command on the way to a value. -/
def chronicle (x : Writer Event α) : List Event := x.output.filter Event.isOfCommand

@[simp] theorem chronicle_pure (x : α) : (pure x : Writer Event α).chronicle = [] := rfl

@[simp] theorem chronicle_bind (x : Writer Event α) (f : α → Writer Event β) :
    (x >>= f).chronicle = x.chronicle ++ (f x.value).chronicle := by
  simp [chronicle]

end Writer

/-- The value is made without a word about the command. -/
def Noted.Discreet {α : Type} (x : Noted α) : Prop := ∀ n ∈ x.output, n.isOfCommand = false

namespace Noted

variable {α β : Type}

theorem Discreet.chronicle_eq_nil {x : Noted α} (discreet : x.Discreet) : x.traced.chronicle = [] := by
  rw [Writer.chronicle, List.filter_eq_nil_iff]
  intro event belongs
  obtain ⟨n, noted, rfl⟩ := List.mem_map.mp belongs
  simp [Event.isOfCommand, discreet n noted]

theorem discreet_pure (x : α) : Discreet (pure x) := by simp [Discreet]

theorem discreet_note {n : Notice} (other : n.isOfCommand = false) : Discreet (note n) := by
  simpa [Discreet] using other

theorem Discreet.bind {x : Noted α} {f : α → Noted β} (first : x.Discreet)
    (rest : (f x.value).Discreet) : Noted.Discreet (x >>= f) := by
  intro n noted
  rw [Writer.output_bind, List.mem_append] at noted
  exact noted.elim (first n) (rest n)

end Noted

section

variable (disk : Disk)

theorem FilterChain.discreet_applyAll (chain : FilterChain) (fresh : Nat → PayloadId)
    (request : Request) : (chain.applyAll fresh request).Discreet := by
  induction chain generalizing fresh request with
  | nil => exact Noted.discreet_pure _
  | cons filter rest ih =>
    rw [applyAll_cons]
    split
    · exact (Noted.discreet_note rfl).bind (ih _ _)
    · split
      · exact Noted.discreet_pure _
      · exact ih _ _

theorem FilterChain.discreet_apply (chain : FilterChain) (fresh : Nat → PayloadId)
    (request : Request) : (chain.apply fresh request).Discreet := by
  refine (chain.discreet_applyAll fresh request).bind ?_
  split
  · exact (Noted.discreet_note rfl).bind (Noted.discreet_pure _)
  · exact Noted.discreet_pure _

namespace Payload

theorem discreet_openStream (p : Payload) (life : Life) : (p.openStream disk life).Discreet := by
  unfold openStream
  split
  · exact Noted.discreet_pure _
  · refine (Noted.discreet_note rfl).bind ?_
    dsimp only
    repeat' split
    all_goals exact Noted.discreet_pure _

theorem discreet_release (p : Payload) (life : Life) : (p.release life).Discreet := by
  unfold release
  split
  · exact Noted.discreet_pure _
  · exact (Noted.discreet_note rfl).bind (Noted.discreet_pure _)

end Payload

namespace Response

theorem discreet_releaseBody (r : Response) : r.releaseBody.Discreet := by
  unfold releaseBody
  split
  · exact Noted.discreet_pure _
  · exact (Payload.discreet_release _ _).bind (Noted.discreet_pure _)

theorem discreet_settle (r : Response) (body : Body) (read : Except PayloadError Bytes) :
    (r.settle body read).Discreet := by
  have released := body.payload.discreet_release body.life
  cases read with
  | ok bytes => exact (Noted.discreet_pure _).bind (released.bind (Noted.discreet_pure _))
  | error e => exact (Noted.discreet_note rfl).bind (released.bind (Noted.discreet_pure _))

theorem discreet_startBuffering (r : Response) : (r.startBuffering disk).Discreet := by
  unfold startBuffering
  split
  · exact Noted.discreet_pure _
  · split
    · exact Noted.discreet_pure _
    · refine (Payload.discreet_openStream disk _ _).bind ?_
      dsimp only
      split
      · exact Noted.discreet_pure _
      · exact (discreet_settle _ _ _).bind (Noted.discreet_pure _)

end Response

theorem RedirectPolicy.discreet_nextRequest (policy : RedirectPolicy) (request : Request)
    (response : Response) (hops : Nat) : (policy.nextRequest request response hops).Discreet := by
  unfold nextRequest
  split
  · exact Noted.discreet_pure _
  · split
    · exact Noted.discreet_pure _
    · split
      · exact Noted.discreet_pure _
      · exact (Noted.discreet_note rfl).bind (Noted.discreet_pure _)

end

/-- A policy that decides, and leaves the command and its payload to the run. -/
structure RetryPolicy.Discreet (policy : RetryPolicy) : Prop where
  errorCode : ∀ response, (policy.errorCode response).Discreet
  shouldRetry : ∀ command response, (policy.shouldRetry command response).Discreet

namespace ErrorCode

theorem discreet_inTokens (element : Bytes) (inside : Bool) (tokens : List Xml.Token) :
    (inTokens element inside tokens).Discreet := by
  induction tokens generalizing inside with
  | nil => exact Noted.discreet_pure _
  | cons token rest ih =>
    unfold inTokens
    cases token with
    | opening name => exact ih _
    | closing => exact ih _
    | other => exact ih _
    | broken fault => exact (Noted.discreet_note rfl).bind (Noted.discreet_pure _)
    | text raw =>
      dsimp only
      split
      · split
        · exact Noted.discreet_pure _
        · exact ih _
        · exact Noted.discreet_pure _
      · exact ih _

theorem discreet_detect (body : Bytes) : (detect body).Discreet := by
  unfold detect
  split
  · unfold inJson
    split
    · exact Noted.discreet_pure _
    · exact (Noted.discreet_note rfl).bind (Noted.discreet_pure _)
  · exact discreet_inTokens _ _ _
  · exact Noted.discreet_pure _

end ErrorCode

namespace BackoffPolicy

variable {policy : BackoffPolicy}

theorem discreet_errorCode (parser : ∀ body, (policy.parser body).Discreet) (response : Response) :
    (policy.errorCode response).Discreet := by
  unfold errorCode
  split
  · exact Noted.discreet_pure _
  · exact Noted.discreet_pure _
  · exact parser _

theorem discreet_retry (command : Command) : (policy.retry command).Discreet :=
  (Noted.discreet_note rfl).bind (Noted.discreet_pure _)

/-- A policy whose parser is discreet is discreet. -/
theorem discreet_toPolicy (parser : ∀ body, (policy.parser body).Discreet) :
    policy.toPolicy.Discreet where
  errorCode := policy.discreet_errorCode parser
  shouldRetry := by
    intro command response
    show (policy.shouldRetry command response).Discreet
    unfold shouldRetry
    split
    · exact Noted.discreet_pure _
    · split
      · refine (discreet_errorCode parser response).bind ?_
        split
        · split
          · exact discreet_retry command
          · exact Noted.discreet_pure _
        · exact Noted.discreet_pure _
      · split
        · exact discreet_retry command
        · split
          · exact discreet_retry command
          · exact Noted.discreet_pure _

end BackoffPolicy

/-- The policy of a configuration is discreet. -/
theorem Config.discreet_retryPolicy (config : Config) : config.retryPolicy.toPolicy.Discreet :=
  BackoffPolicy.discreet_toPolicy ErrorCode.discreet_detect

end Courier
