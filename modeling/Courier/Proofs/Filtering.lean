import Courier.Filter.Basic
import Courier.Proofs.Resend

/-!
Filters that make the same of the same request each time. Two requests are alike if they differ at most in where they
go and in the names of their payloads (`Request.Alike`). A filter that sees only what alike requests share, and
leaves alone what a resend relies on, makes alike requests of alike ones (`Filter.Replayable`), and so does a
chain of such filters. A chain puts its filters on record once each, whatever the request has been through.
-/
namespace Courier

namespace Request

/-- The bytes of the payload, if there is one; none of them are in memory if it is no payload of that kind. -/
def contents (r : Request) : Option (Option Bytes) := r.payload.map (·.payload.bytes?)

/-- The request has no payload but one that is held in memory. -/
def InMemory (r : Request) : Prop := r.contents ≠ some none

/-- The body that a request with its payload in memory is sent with: all bytes, from the start. -/
def memoryFlow (r : Request) : Option Flow := r.contents.map fun bytes => .ofBytes (bytes.getD [])

/-- The requests differ at most in their endpoints, and in name and description of their payloads. -/
structure Alike (a b : Request) : Prop where
  method : a.method = b.method
  headers : a.headers = b.headers
  appliedFilters : a.appliedFilters = b.appliedFilters
  contents : a.contents = b.contents

namespace Alike

variable {a b c : Request}

theorem symm (alike : a.Alike b) : b.Alike a :=
  ⟨alike.method.symm, alike.headers.symm, alike.appliedFilters.symm, alike.contents.symm⟩

theorem trans (first : a.Alike b) (second : b.Alike c) : a.Alike c :=
  ⟨first.method.trans second.method, first.headers.trans second.headers,
    first.appliedFilters.trans second.appliedFilters, first.contents.trans second.contents⟩

theorem inMemory (alike : a.Alike b) (memory : a.InMemory) : b.InMemory := by
  unfold InMemory
  rw [← alike.contents]
  exact memory

theorem memoryFlow (alike : a.Alike b) : a.memoryFlow = b.memoryFlow := by
  unfold Request.memoryFlow
  rw [alike.contents]

theorem memoryBytes (alike : a.Alike b) : a.memoryBytes = b.memoryBytes := by
  have read : ∀ r : Request, r.memoryBytes = r.contents.join.getD [] := by
    intro r
    unfold Request.memoryBytes Request.contents
    cases r.payload <;> rfl
  rw [read, read, alike.contents]

theorem withAppliedFilter (alike : a.Alike b) (id : String) :
    (a.withAppliedFilter id).Alike (b.withAppliedFilter id) where
  method := alike.method
  headers := alike.headers
  appliedFilters := congrArg (· ++ [id]) alike.appliedFilters
  contents := alike.contents

end Alike

theorem alike_withEndpoint (r : Request) (endpoint : Url) : (r.withEndpoint endpoint).Alike r :=
  ⟨rfl, rfl, rfl, rfl⟩

end Request

/-- A filter whose work can be done over for a resend. It looks at nothing but method, headers, applied filters and the
bytes of the payload, changes nothing but headers and payload, and what it makes of a body in memory is
again in memory. -/
structure Filter.Replayable (filter : Filter) : Prop where
  determined : ∀ fresh other (a b filtered : Request), a.Alike b → a.InMemory →
    filter.transform fresh a = .ok filtered →
    ∃ again, filter.transform other b = .ok again ∧ filtered.Alike again
  method : ∀ fresh (request filtered : Request), filter.transform fresh request = .ok filtered →
    filtered.method = request.method
  endpoint : ∀ fresh (request filtered : Request), filter.transform fresh request = .ok filtered →
    filtered.endpoint = request.endpoint
  appliedFilters : ∀ fresh (request filtered : Request), filter.transform fresh request = .ok filtered →
    filtered.appliedFilters = request.appliedFilters
  memory : ∀ fresh (request filtered : Request), filter.transform fresh request = .ok filtered →
    request.InMemory → filtered.InMemory

/-- All filters of the chain are replayable. -/
def FilterChain.Replayable (chain : FilterChain) : Prop := ∀ filter ∈ chain, filter.Replayable

namespace FilterChain

variable {chain : FilterChain} {fresh other : Nat → PayloadId} {request filtered a b : Request}

theorem Replayable.cons {filter : Filter} {rest : FilterChain} (later : rest.Replayable)
    (here : filter.Replayable) : FilterChain.Replayable (filter :: rest) :=
  List.forall_mem_cons.mpr ⟨here, later⟩

theorem ids_cons (filter : Filter) (rest : FilterChain) :
    FilterChain.ids (filter :: rest) = filter.id :: rest.ids := rfl

/-- What a chain does to a request that it does not fail on, filter by filter. -/
theorem ok_of_applyAll_cons {filter : Filter} {rest : FilterChain}
    (applied : (applyAll (filter :: rest) fresh request).value = .ok filtered) :
    (request.hasFilter filter.id = true ∧
      (applyAll rest (fun i => fresh (i + 1)) request).value = .ok filtered) ∨
    (request.hasFilter filter.id = false ∧
      ∃ changed, filter.transform (fresh 0) request = .ok changed ∧
        (applyAll rest (fun i => fresh (i + 1)) (changed.withAppliedFilter filter.id)).value =
          .ok filtered) := by
  rw [applyAll_cons] at applied
  split at applied
  · next passed => exact .inl ⟨passed, by simpa using applied⟩
  · next passed =>
    refine .inr ⟨by simpa using passed, ?_⟩
    split at applied
    · cases applied
    · next changed transforms => exact ⟨changed, transforms, applied⟩

/-- What a replayable filter leaves alone, a chain of them does. -/
theorem applyAll_kept (replayable : chain.Replayable)
    (applied : (chain.applyAll fresh request).value = .ok filtered) :
    filtered.method = request.method ∧ filtered.endpoint = request.endpoint ∧
      (request.InMemory → filtered.InMemory) := by
  refine ⟨?_, ?_, fun memory => ?_⟩
  · exact view_of_applyAll Request.method (fun filter belongs => (replayable filter belongs).method)
      (fun _ _ => rfl) applied
  · exact view_of_applyAll Request.endpoint (fun filter belongs => (replayable filter belongs).endpoint)
      (fun _ _ => rfl) applied
  · refine of_applyAll (fun filter belongs position before changed held transforms => ?_) memory applied
    have still : changed.InMemory := (replayable filter belongs).memory _ _ _ transforms held
    exact still

/-- A chain of replayable filters makes alike requests of alike ones, however it names the payloads that it makes. -/
theorem applyAll_alike (replayable : chain.Replayable) (alike : a.Alike b) (memory : a.InMemory)
    (applied : (chain.applyAll fresh a).value = .ok filtered) :
    ∃ again, (chain.applyAll other b).value = .ok again ∧ filtered.Alike again := by
  induction chain generalizing fresh other a b with
  | nil =>
    cases applied
    exact ⟨b, rfl, alike⟩
  | cons filter rest ih =>
    obtain ⟨here, later⟩ := List.forall_mem_cons.mp replayable
    have same : b.hasFilter filter.id = a.hasFilter filter.id :=
      congrArg (·.contains filter.id) alike.appliedFilters.symm
    obtain ⟨passed, rests⟩ | ⟨passed, changed, transforms, rests⟩ := ok_of_applyAll_cons applied
    · obtain ⟨again, rests, alike⟩ := ih later alike memory rests
      refine ⟨again, ?_, alike⟩
      rw [applyAll_cons, same, passed]
      exact rests
    · obtain ⟨retransformed, retransforms, changes⟩ :=
        here.determined _ (other 0) _ _ _ alike memory transforms
      have held := here.memory _ _ _ transforms memory
      obtain ⟨again, rests, alike⟩ := ih later (changes.withAppliedFilter filter.id) held rests
      refine ⟨again, ?_, alike⟩
      rw [applyAll_cons, same, passed, retransforms]
      exact rests

/-- A chain puts each of its filters on record once, unless the request has been through it before. -/
theorem count_of_applyAll (replayable : chain.Replayable)
    (applied : (chain.applyAll fresh request).value = .ok filtered) (id : String) :
    filtered.appliedFilters.count id =
      if id ∈ chain.ids then max 1 (request.appliedFilters.count id)
      else request.appliedFilters.count id := by
  induction chain generalizing fresh request with
  | nil =>
    cases applied
    rfl
  | cons filter rest ih =>
    obtain ⟨here, later⟩ := List.forall_mem_cons.mp replayable
    obtain ⟨passed, rests⟩ | ⟨passed, changed, transforms, rests⟩ := ok_of_applyAll_cons applied
    · have before : 0 < request.appliedFilters.count filter.id :=
        List.count_pos_iff.mpr (by simpa [Request.hasFilter] using passed)
      rw [ih later rests, ids_cons]
      by_cases own : id = filter.id
      · subst own
        rw [if_pos List.mem_cons_self]
        split <;> omega
      · simp only [List.mem_cons, own, false_or]
    · have record : (changed.withAppliedFilter filter.id).appliedFilters =
          request.appliedFilters ++ [filter.id] :=
        congrArg (· ++ [filter.id]) (here.appliedFilters _ _ _ transforms)
      have none : request.appliedFilters.count filter.id = 0 :=
        List.count_eq_zero.mpr (by simpa [Request.hasFilter] using passed)
      rw [ih later rests, ids_cons, record, List.count_append]
      by_cases own : id = filter.id
      · subst own
        rw [if_pos List.mem_cons_self, none, List.count_singleton_self]
        split <;> rfl
      · have other : [filter.id].count id = 0 := List.count_eq_zero.mpr (by simpa using own)
        rw [other, Nat.add_zero]
        simp only [List.mem_cons, own, false_or]

end FilterChain

namespace Filter

variable {filter : Filter}

/-- A filter that only changes headers, by what they are. -/
theorem Replayable.of_headers (change : Headers → Except FilterError Headers)
    (changes : ∀ fresh request, filter.transform fresh request =
      (change request.headers).map fun headers => { request with headers }) : filter.Replayable := by
  have only : ∀ {fresh request filtered}, filter.transform fresh request = .ok filtered →
      ∃ headers, change request.headers = .ok headers ∧ filtered = { request with headers } := by
    intro fresh request filtered transforms
    rw [changes] at transforms
    cases changed : change request.headers with
    | error error => simp [changed, Except.map] at transforms
    | ok headers =>
      rw [changed] at transforms
      cases transforms
      exact ⟨headers, rfl, rfl⟩
  refine ⟨?_, ?_, ?_, ?_, ?_⟩
  · intro fresh other a b filtered alike memory transforms
    obtain ⟨headers, changed, rfl⟩ := only transforms
    refine ⟨{ b with headers }, ?_, alike.method, rfl, alike.appliedFilters, alike.contents⟩
    rw [changes, ← alike.headers, changed]
    rfl
  · intro fresh request filtered transforms
    obtain ⟨headers, -, rfl⟩ := only transforms
    rfl
  · intro fresh request filtered transforms
    obtain ⟨headers, -, rfl⟩ := only transforms
    rfl
  · intro fresh request filtered transforms
    obtain ⟨headers, -, rfl⟩ := only transforms
    rfl
  · intro fresh request filtered transforms memory
    obtain ⟨headers, -, rfl⟩ := only transforms
    exact memory

theorem replayable_basicAuth (user password : String) : (basicAuth user password).Replayable := by
  refine .of_headers (fun headers =>
    if user.isEmpty || password.isEmpty then .error (.missingCredentials basicAuthId)
    else .ok (headers.replace "Authorization" (basicCredentials user password))) ?_
  intro fresh request
  unfold basicAuth
  dsimp only
  split <;> rfl

theorem replayable_setHeaders (id : String) (lines : Headers) : (setHeaders id lines).Replayable := by
  refine .of_headers (fun headers =>
    .ok (lines.foldl (fun headers line => headers.replace line.name line.value) headers)) ?_
  intro fresh request
  show Except.ok _ = Except.ok _
  congr 1
  induction lines generalizing request with
  | nil => rfl
  | cons line rest ih => exact ih _

theorem replayable_envelope (id : String) (before after : Bytes) :
    (envelope id before after).Replayable := by
  refine ⟨?_, ?_, ?_, ?_, ?_⟩
  · intro fresh other a b filtered alike memory transforms
    cases transforms
    refine ⟨_, rfl, alike.method, alike.headers, alike.appliedFilters, ?_⟩
    rw [alike.memoryBytes]
    rfl
  · intro fresh request filtered transforms
    cases transforms
    rfl
  · intro fresh request filtered transforms
    cases transforms
    rfl
  · intro fresh request filtered transforms
    cases transforms
    rfl
  · intro fresh request filtered transforms memory
    cases transforms
    exact nofun

end Filter

end Courier
