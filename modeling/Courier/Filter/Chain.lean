import Courier.Http.Request

/-!
Request filters. A filter makes a new request from a request; a chain applies its filters in order, passes
over those the request has been through, and stops at the first that fails. What it does about each filter is
kept on record (`FilterChain.turns`); the notices of a chain and the calls of its filters are read off that.
-/
namespace Courier

inductive FilterError where
  | missingCredentials (filter : String)
  | rejected (filter endpoint reason : String)
  | failed (filter error : String)
  deriving DecidableEq, Repr

namespace FilterError

def message : FilterError → String
  | missingCredentials filter => s!"filter {filter} is missing credentials"
  | rejected filter endpoint reason => s!"filter {filter} rejected request to {endpoint}: {reason}"
  | failed filter error => s!"filter {filter} failed: {error}"

/-- The texts of the errors behind this one, nearest first. -/
def causes : FilterError → List String
  | failed _ error => [error]
  | _ => []

/-- The error's description; an error behind it is described as `foreign` says. -/
def describe (foreign : String → String) : FilterError → String
  | missingCredentials filter =>
    Text.record "MissingCredentials" [("filter", Text.quoted filter)]
  | rejected filter endpoint reason =>
    Text.record "Rejected"
      [("filter", Text.quoted filter), ("endpoint", Text.quoted endpoint),
       ("reason", Text.quoted reason)]
  | failed filter error =>
    Text.record "Failed" [("filter", Text.quoted filter), ("source", foreign error)]

end FilterError

/-- A filter: its id, and what it makes of a request. A filter that puts a new payload into the request
names it by the id it is handed. -/
structure Filter where
  id : String
  transform : PayloadId → Request → Except FilterError Request

abbrev FilterChain := List Filter

namespace FilterChain

def ids (chain : FilterChain) : List String := chain.map (·.id)

/-- A call of a filter, with what it is handed: the name of a payload that it may make, and a request. -/
structure Call where
  filter : Filter
  fresh : PayloadId
  request : Request

inductive Turn where
  | skipped (filter : String)
  | called (call : Call)

def Turn.notice? : Turn → Option Notice
  | skipped filter => some (.filterSkipped filter)
  | called _ => none

def Turn.call? : Turn → Option Call
  | called call => some call
  | skipped _ => none

/-- Applies the filters that the request has not been through; the filter at position `i` is handed the
name `fresh i`. -/
def turns (chain : FilterChain) (fresh : Nat → PayloadId) (request : Request) :
    Writer Turn (Except FilterError Request) :=
  match chain with
  | [] => pure (.ok request)
  | filter :: rest =>
    if request.hasFilter filter.id then do
      .tell (.skipped filter.id)
      turns rest (fun i => fresh (i + 1)) request
    else do
      .tell (.called ⟨filter, fresh 0, request⟩)
      match filter.transform (fresh 0) request with
      | .error e => pure (.error e)
      | .ok filtered => turns rest (fun i => fresh (i + 1)) (filtered.withAppliedFilter filter.id)

/-- Applies the chain with notices of the filters passed over. -/
def applyAll (chain : FilterChain) (fresh : Nat → PayloadId) (request : Request) :
    Noted (Except FilterError Request) :=
  (chain.turns fresh request).filterMapOutput Turn.notice?

/-- Applies the chain with a record of the calls of its filters. -/
def calling (chain : FilterChain) (fresh : Nat → PayloadId) (request : Request) :
    Writer Call (Except FilterError Request) :=
  (chain.turns fresh request).filterMapOutput Turn.call?

theorem applyAll_cons (filter : Filter) (rest : FilterChain) (fresh : Nat → PayloadId)
    (request : Request) :
    applyAll (filter :: rest) fresh request =
      if request.hasFilter filter.id then do
        note (.filterSkipped filter.id)
        applyAll rest (fun i => fresh (i + 1)) request
      else
        match filter.transform (fresh 0) request with
        | .error e => pure (.error e)
        | .ok filtered =>
          applyAll rest (fun i => fresh (i + 1)) (filtered.withAppliedFilter filter.id) := by
  unfold applyAll
  rw [turns]
  split
  · exact Writer.filterMapOutput_bind ..
  · cases filter.transform (fresh 0) request <;> rfl

theorem calling_cons (filter : Filter) (rest : FilterChain) (fresh : Nat → PayloadId)
    (request : Request) :
    calling (filter :: rest) fresh request =
      if request.hasFilter filter.id then calling rest (fun i => fresh (i + 1)) request
      else (do
        .tell ⟨filter, fresh 0, request⟩
        match filter.transform (fresh 0) request with
        | .error e => pure (.error e)
        | .ok filtered =>
          calling rest (fun i => fresh (i + 1)) (filtered.withAppliedFilter filter.id)) := by
  unfold calling
  rw [turns]
  split
  · rfl
  · rw [Writer.filterMapOutput_bind]
    cases filter.transform (fresh 0) request <;> rfl

def apply (chain : FilterChain) (fresh : Nat → PayloadId) (request : Request) :
    Noted (Except FilterError Request) := do
  let outcome ← chain.applyAll fresh request
  if let .ok filtered := outcome then
    note (.requestFiltered filtered.endpoint.text filtered.appliedFilters)
  pure outcome

def describe (chain : FilterChain) : String :=
  Text.record "FilterChain" [("filters", Text.quotedList chain.ids)]

end FilterChain

end Courier
