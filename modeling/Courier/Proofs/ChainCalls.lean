import Courier.Proofs.Filtering

/-!
What a chain does with its filters. The filters that a request has been through are passed over, and so is one whose
id came before in the chain; each of the others is called once (`CalledOnce`), on what the one before it made
(`Relayed`), as long as none fails. So the ids that a request is missing are put on its record in order, the chain
applied again finds nothing to do, and a chain works like its first part followed by the rest
(`chain_calls_each_once`).
-/
namespace Courier

namespace FilterChain

namespace Call

/-- What the filter makes of the request. -/
def made (call : Call) : Except FilterError Request := call.filter.transform call.fresh call.request

/-- Which filter it was, and the name it was handed. -/
def callee (call : Call) : Filter × PayloadId := (call.filter, call.fresh)

end Call

/-- The calls hand a request on: each gets what the one before it made, put on record as filtered. Nothing is called
after a failure, which is the outcome; without one the outcome is what the last call made. -/
def Relayed (request : Request) : List Call → Except FilterError Request → Prop
  | [], outcome => outcome = .ok request
  | call :: later, outcome => call.request = request ∧
    match call.made with
    | .error error => later = [] ∧ outcome = .error error
    | .ok changed => Relayed (changed.withAppliedFilter call.filter.id) later outcome

/-- The filters that a request which has been through `passed` is to go through, with the names they are handed: of
each id that it has not been through the first filter. -/
def due (chain : FilterChain) (fresh : Nat → PayloadId) (passed : List String) :
    List (Filter × PayloadId) :=
  let named := chain.mapIdx fun i filter => (filter, fresh i)
  (named.filter fun entry => !passed.contains entry.1.id).eraseDupsBy fun a b => a.1.id == b.1.id

/-- Each filter of the chain leaves the record of filters alone. -/
def KeepsRecord (chain : FilterChain) : Prop :=
  ∀ filter ∈ chain, ∀ fresh request changed, filter.transform fresh request = .ok changed →
    changed.appliedFilters = request.appliedFilters

section

variable (chain rest : FilterChain) (filter : Filter) (fresh : Nat → PayloadId) (request : Request)
  (passed : List String)

theorem value_calling : (chain.calling fresh request).value = (chain.applyAll fresh request).value := rfl

/-- Whatever the filters do, the calls of a chain hand the request on to its outcome. -/
theorem relayed_calling :
    Relayed request (chain.calling fresh request).output (chain.calling fresh request).value := by
  induction chain generalizing fresh request with
  | nil => rfl
  | cons filter rest ih =>
    rw [calling_cons]
    by_cases passed : request.hasFilter filter.id
    · rw [if_pos passed]
      exact ih _ _
    · rw [if_neg passed, Writer.output_bind, Writer.value_bind]
      refine ⟨rfl, ?_⟩
      dsimp only [Call.made]
      cases filter.transform (fresh 0) request with
      | error error => exact ⟨rfl, rfl⟩
      | ok changed => exact ih _ _

theorem due_cons : due (filter :: rest) fresh passed =
    if passed.contains filter.id then rest.due (fun i => fresh (i + 1)) passed
    else (filter, fresh 0) :: rest.due (fun i => fresh (i + 1)) (passed ++ [filter.id]) := by
  unfold due
  dsimp only
  rw [List.mapIdx_cons, List.filter_cons]
  by_cases before : passed.contains filter.id
  · simp only [before, Bool.not_true, Bool.false_eq_true, ↓reduceIte]
  · simp only [before, Bool.not_false, Bool.false_eq_true, ↓reduceIte]
    rw [List.eraseDupsBy_cons, List.filter_filter]
    congr 2
    refine List.filter_congr fun entry _ => ?_
    simp [Bool.and_comm]

/-- The ids of the filters that are due are those of the chain that are not on record, in order and each once. -/
theorem ids_due : (chain.due fresh passed).map (·.1.id) =
    (chain.ids.filter fun id => !passed.contains id).eraseDups := by
  induction chain generalizing fresh passed with
  | nil => rfl
  | cons filter rest ih =>
    rw [due_cons, ids_cons, List.filter_cons]
    by_cases before : passed.contains filter.id
    · rw [if_pos before, ih]
      simp only [before, Bool.not_true, Bool.false_eq_true, ↓reduceIte]
    · rw [if_neg before, List.map_cons, ih]
      simp only [before, Bool.not_false, ↓reduceIte]
      rw [List.eraseDups_cons, List.filter_filter]
      congr 2
      refine List.filter_congr fun id _ => ?_
      rw [Bool.eq_iff_iff]
      simp [and_comm]

/-- If no id is there twice and none is on record, all filters of the chain are due. -/
theorem due_of_nodup {passed : List String} (distinct : chain.ids.Nodup)
    (new : ∀ id ∈ chain.ids, passed.contains id = false) :
    (chain.due fresh passed).map (·.1) = chain := by
  induction chain generalizing fresh passed with
  | nil => rfl
  | cons filter rest ih =>
    rw [ids_cons] at distinct new
    obtain ⟨other, distinct⟩ := List.nodup_cons.mp distinct
    obtain ⟨here, later⟩ := List.forall_mem_cons.mp new
    have still : ∀ id ∈ ids rest, (passed ++ [filter.id]).contains id = false := by
      intro id belongs
      have apart : id ≠ filter.id := fun same => other (same ▸ belongs)
      simpa [apart] using later id belongs
    rw [due_cons, here, if_neg Bool.false_ne_true, List.map_cons, ih _ distinct still]

/-- A chain whose filters a request has been through calls none of them. -/
theorem calling_of_passed (all : ∀ id ∈ chain.ids, request.hasFilter id = true) :
    chain.calling fresh request = pure (.ok request) := by
  induction chain generalizing fresh with
  | nil => rfl
  | cons filter rest ih =>
    rw [ids_cons, List.forall_mem_cons] at all
    rw [calling_cons, if_pos all.1, ih _ all.2]

/-- A chain does what its first part does, and the rest with what that made, notices included. -/
theorem applyAll_append (first second : FilterChain) :
    applyAll (first ++ second) fresh request = (do
      match ← first.applyAll fresh request with
      | .error error => pure (.error error)
      | .ok between => second.applyAll (fun i => fresh (first.length + i)) between) := by
  induction first generalizing fresh request with
  | nil =>
    simp only [List.length_nil, Nat.zero_add]
    rfl
  | cons filter rest ih =>
    have shift : ∀ i, (filter :: rest).length + i = rest.length + i + 1 := fun i => by
      rw [List.length_cons]
      omega
    simp only [shift]
    rw [List.cons_append, applyAll_cons, applyAll_cons]
    split
    · rw [ih, bind_assoc]
    · split
      · rfl
      · exact ih _ _

end

variable {chain : FilterChain}

/-- The calls are those of the filters that are due, all of them unless one fails, and the ids of these filters are
what the record gains. -/
theorem callees_calling (keeps : chain.KeepsRecord) (fresh : Nat → PayloadId) (request : Request) :
    let due := chain.due fresh request.appliedFilters
    let callees := (chain.calling fresh request).output.map Call.callee
    match (chain.calling fresh request).value with
    | .ok filtered => callees = due ∧
      filtered.appliedFilters = request.appliedFilters ++ due.map (·.1.id)
    | .error _ => callees <+: due := by
  dsimp only
  induction chain generalizing fresh request with
  | nil => exact ⟨rfl, (List.append_nil _).symm⟩
  | cons filter rest ih =>
    obtain ⟨here, later⟩ := List.forall_mem_cons.mp keeps
    have passes : request.hasFilter filter.id = request.appliedFilters.contains filter.id := rfl
    rw [due_cons, calling_cons, passes]
    by_cases passed : request.appliedFilters.contains filter.id
    · rw [if_pos passed, if_pos passed]
      exact ih later _ _
    · rw [if_neg passed, if_neg passed, Writer.output_bind, Writer.value_bind, List.map_append]
      cases transforms : filter.transform (fresh 0) request with
      | error error => exact (List.prefix_cons_inj _).mpr List.nil_prefix
      | ok changed =>
        have record : (changed.withAppliedFilter filter.id).appliedFilters =
            request.appliedFilters ++ [filter.id] :=
          congrArg (· ++ [filter.id]) (here _ _ _ transforms)
        have onward := ih later (fun i => fresh (i + 1)) (changed.withAppliedFilter filter.id)
        rw [record] at onward
        dsimp only at onward ⊢
        split at onward
        · next filtered _ =>
          obtain ⟨calls, gains⟩ := onward
          refine ⟨congrArg ((filter, fresh 0) :: ·) calls, ?_⟩
          rw [gains, List.append_assoc]
          rfl
        · exact (List.prefix_cons_inj _).mpr onward

/-- The calls are those that a request has still to go through. Of the filters with one id it is the first that is
called, once and in its place, unless the request has been through one with the id; if no id is there twice and
none is on record, each filter of the chain is called once. -/
structure CalledOnce (chain : FilterChain) (fresh : Nat → PayloadId) (request : Request)
    (calls : List Call) : Prop where
  due : calls.map Call.callee = chain.due fresh request.appliedFilters
  ids : calls.map (·.filter.id) = (chain.ids.filter fun id => !request.hasFilter id).eraseDups
  all : chain.ids.Nodup → (∀ id ∈ chain.ids, request.hasFilter id = false) →
    calls.map (·.filter) = chain

theorem calledOnce_calling (keeps : chain.KeepsRecord) {fresh : Nat → PayloadId}
    {request filtered : Request} (applied : (chain.calling fresh request).value = .ok filtered) :
    chain.CalledOnce fresh request (chain.calling fresh request).output := by
  have callees := callees_calling keeps fresh request
  dsimp only at callees
  rw [applied] at callees
  obtain ⟨due, -⟩ := callees
  refine ⟨due, ?_, fun distinct new => ?_⟩
  · have ids := congrArg (List.map (·.1.id)) due
    rwa [List.map_map, ids_due] at ids
  · have filters := congrArg (List.map (·.1)) due
    rwa [List.map_map, due_of_nodup chain fresh distinct new] at filters

/-- A request whose record gained what was missing has been through the whole chain: an id of the chain was on the
record before, or it was missing there. -/
theorem hasFilter_of_gained {request filtered : Request}
    (gained : filtered.appliedFilters = request.appliedFilters ++
      (chain.ids.filter fun id => !request.hasFilter id).eraseDups) :
    ∀ id ∈ chain.ids, filtered.hasFilter id = true := by
  intro id belongs
  unfold Request.hasFilter
  rw [gained, List.contains_iff_mem, List.mem_append, List.mem_eraseDups, List.mem_filter]
  by_cases before : request.hasFilter id
  · exact .inl (List.contains_iff_mem.mp before)
  · exact .inr ⟨belongs, by simpa using before⟩

/-- What a chain does with its filters. Let each of them leave the record of filters alone. Then, whatever else they do
and whatever request they are applied to: the calls hand the request on from filter to filter to the outcome, which is
the error of the first that fails, if one does. The filters called are those that are due, in order and no other, or
the first of them up to a failure. Without a failure the record gains the ids of the chain that were not on it, in
order and each once, and applying the chain again calls nothing and changes nothing. And cut in two anywhere, the chain
does what its first part does and then the second part with what came of that. -/
theorem chain_calls_each_once (keeps : chain.KeepsRecord) (fresh : Nat → PayloadId)
    (request : Request) :
    let calls := (chain.calling fresh request).output
    let due := chain.due fresh request.appliedFilters
    let missing := (chain.ids.filter fun id => !request.hasFilter id).eraseDups
    let outcome := (chain.apply fresh request).value
    Relayed request calls outcome ∧ calls.map Call.callee <+: due ∧ due.map (·.1.id) = missing ∧
    (∀ filtered, outcome = .ok filtered →
      calls.map Call.callee = due ∧ filtered.appliedFilters = request.appliedFilters ++ missing ∧
      ∀ again, (chain.apply again filtered).value = .ok filtered ∧
        (chain.calling again filtered).output = []) ∧
    ∀ start rest, chain = start ++ rest →
      outcome = match (start.apply fresh request).value with
        | .error error => .error error
        | .ok between => (rest.apply (fun i => fresh (start.length + i)) between).value := by
  intro calls due missing outcome
  have ids : due.map (·.1.id) = missing := ids_due chain fresh request.appliedFilters
  have same : outcome = (chain.calling fresh request).value := by
    rw [value_calling, ← apply_value]
  have callees := callees_calling keeps fresh request
  dsimp only at callees
  refine ⟨?_, ?_, ids, ?_, ?_⟩
  · rw [same]
    exact relayed_calling chain fresh request
  · split at callees
    · exact callees.1 ▸ List.prefix_rfl
    · exact callees
  · intro filtered applied
    rw [← same, applied] at callees
    obtain ⟨all, record⟩ := callees
    have gained : filtered.appliedFilters = request.appliedFilters ++ missing := by
      rw [record, ← ids]
    refine ⟨all, gained, fun again => ?_⟩
    rw [apply_value, ← value_calling, calling_of_passed chain again filtered (hasFilter_of_gained gained)]
    exact ⟨rfl, rfl⟩
  · intro start rest split
    subst split
    simp only [outcome, apply_value, applyAll_append, Writer.value_bind]
    cases (start.applyAll fresh request).value <;> rfl

/-- A chain that has two filters with one id and one that the request has been through. -/
theorem chain_calls_each_once_of_repeated_id :
    let start : FilterChain := [.addHeader "a" "X" "1", .addHeader "b" "X" "2"]
    let rest : FilterChain := [.addHeader "b" "X" "3", .setHeaders "c" [⟨"Y", "4"⟩]]
    let chain : FilterChain := start ++ rest
    let fresh := PayloadId.made 0 0
    let request : Request :=
      { endpoint := ⟨"http", some { host := "h" }, .rooted [""], none, none⟩, appliedFilters := ["a"] }
    ∃ filtered, (chain.apply fresh request).value = .ok filtered ∧
      filtered.appliedFilters = ["a", "b", "c"] ∧
      filtered.headers = [⟨"X", "2"⟩, ⟨"Y", "4"⟩] ∧
      (chain.calling fresh request).output.map (·.filter.id) = ["b", "c"] ∧
      (chain.apply fresh filtered).value = .ok filtered ∧
      ∃ between, (start.apply fresh request).value = .ok between ∧
        (rest.apply (fun i => fresh (2 + i)) between).value = .ok filtered := by
  intro start rest chain fresh request
  have keeps : chain.KeepsRecord := by
    intro filter belongs fresh request changed transforms
    simp only [chain, start, rest, List.cons_append, List.nil_append, List.mem_cons, List.not_mem_nil,
      or_false] at belongs
    rcases belongs with rfl | rfl | rfl | rfl <;> cases transforms <;> rfl
  obtain ⟨-, -, ids, applied, splits⟩ := chain_calls_each_once keeps fresh request
  obtain ⟨filtered, outcome, headers⟩ : ∃ filtered, (chain.apply fresh request).value = .ok filtered ∧
      filtered.headers = [⟨"X", "2"⟩, ⟨"Y", "4"⟩] := ⟨_, rfl, rfl⟩
  obtain ⟨all, record, again⟩ := applied filtered outcome
  have halves := splits start rest rfl
  obtain ⟨between, first⟩ : ∃ between, (start.apply fresh request).value = .ok between := ⟨_, rfl⟩
  rw [outcome, first] at halves
  refine ⟨filtered, outcome, ?_, headers, ?_, (again fresh).1, between, first, halves.symm⟩
  · rw [record]
    decide
  · have called := congrArg (List.map (·.1.id)) all
    rw [ids, List.map_map] at called
    exact called

end FilterChain

end Courier
