import Courier.Filter.Basic
import Mathlib.Data.List.Basic

/-!
Header lists by name. A look-up depends on a name up to letter case and goes through a concatenation part by part.
Replacing headers one after the other leaves the lines of other names as they were, and behind them the last line of
each name that was set (`Headers.replaceAll_eq`); so setting headers twice is setting them once
(`Filter.header_lines_set_once`).
-/
namespace Courier

/-- Names that differ in letter case are names of the same lines. -/
theorem Header.isNamed_congr {name other : String} (same : Text.sameName name other = true) (h : Header) :
    h.isNamed name = h.isNamed other := by
  unfold isNamed Text.sameName
  rw [Text.sameName_iff.mp same]

theorem Header.isNamed_comm (h other : Header) : h.isNamed other.name = other.isNamed h.name :=
  Text.sameName_comm _ _

namespace Headers

section

variable (headers more : Headers) {name other : String}

theorem first?_congr (same : Text.sameName name other = true) : headers.first? name = headers.first? other := by
  simp only [first?, Header.isNamed_congr same]

theorem first?_append : (headers ++ more : Headers).first? name =
    (headers.first? name).or (more.first? name) := by
  simp only [first?, List.find?_append, Option.map_or]

theorem first?_cons (h : Header) : Headers.first? (h :: headers) name =
    if h.isNamed name then some h.value else headers.first? name := by
  rw [first?, List.find?_cons]
  cases h.isNamed name <;> rfl

theorem first?_eq_none_iff : headers.first? name = none ↔ ∀ h ∈ headers, h.isNamed name = false := by
  simp [first?, List.find?_eq_none]

/-- To add lines whose names have none yet is to answer where there was no answer. -/
theorem first?_unless : Headers.first? (more.filter fun h => (headers.first? h.name).isNone) name =
    if (headers.first? name).isSome then none else more.first? name := by
  induction more with
  | nil => simp [first?]
  | cons h rest ih =>
    rw [List.filter_cons, first?_cons]
    by_cases named : h.isNamed name
    · rw [first?_congr headers named, if_pos named]
      cases found : headers.first? name with
      | none => simp [first?_cons, named]
      | some value => simpa [found] using ih
    · rw [if_neg named]
      split
      · rw [first?_cons, if_neg named, ih]
      · exact ih

theorem values_append : (headers ++ more : Headers).values name = headers.values name ++ more.values name := by
  simp only [values, List.filter_append, List.map_append]

end

/-- Sets one header after the other, each in place of the values it had. -/
def replaceAll (headers lines : Headers) : Headers :=
  lines.foldl (fun headers h => headers.replace h.name h.value) headers

/-- Does one of the lines have the name of this one? -/
def names (lines : Headers) (h : Header) : Bool := lines.any fun line => h.isNamed line.name

/-- The lines that no later line has the name of. -/
def latest : Headers → Headers
  | [] => []
  | h :: rest => if names rest h then latest rest else h :: latest rest

theorem latest_sublist (lines : Headers) : (latest lines).Sublist lines := by
  induction lines with
  | nil => exact .slnil
  | cons h rest ih =>
    rw [latest]
    split
    · exact ih.cons h
    · exact ih.cons_cons h

theorem names_of_mem {lines : Headers} {h : Header} (among : h ∈ lines) : names lines h = true :=
  List.any_eq_true.mpr ⟨h, among, Text.sameName_refl h.name⟩

/-- What headers set one after the other come to. -/
theorem replaceAll_eq (headers lines : Headers) :
    headers.replaceAll lines = (headers.filter fun h => !names lines h) ++ latest lines := by
  induction lines generalizing headers with
  | nil => simp [replaceAll, names, latest]
  | cons line rest ih =>
    have onward : headers.replaceAll (line :: rest) = replaceAll (headers.replace line.name line.value) rest := rfl
    have kept : ((headers.without line.name).filter fun h => !names rest h) =
        headers.filter fun h => !names (line :: rest) h := by
      rw [without, List.filter_filter]
      refine List.filter_congr fun h _ => ?_
      simp [names, Bool.and_comm]
    rw [onward, ih, replace, add, List.filter_append, kept, List.append_assoc]
    congr 1
    rw [latest, List.filter_singleton]
    cases names rest line <;> rfl

/-- Nothing is left of the names that were set but their last lines. -/
theorem replaceAll_replaceAll (headers lines : Headers) :
    (headers.replaceAll lines).replaceAll lines = headers.replaceAll lines := by
  have gone : ((latest lines).filter fun h => !names lines h) = [] := by
    rw [List.filter_eq_nil_iff]
    intro h among
    simp [names_of_mem ((latest_sublist lines).subset among)]
  rw [replaceAll_eq, replaceAll_eq, List.filter_append, List.filter_filter, gone, List.append_nil]
  simp only [Bool.and_self]

section

variable (headers lines : Headers) {name : String}

/-- A line's name is set if its header has a value. -/
theorem names_of_isNamed {h : Header} (named : h.isNamed name = true) :
    names lines h = !(lines.values name).isEmpty := by
  have alike : ∀ line : Header, h.isNamed line.name = line.isNamed name := fun line => by
    rw [Header.isNamed_comm, Header.isNamed_congr named]
  rw [names, values]
  simp only [alike, List.isEmpty_map]
  rw [Bool.eq_iff_iff]
  simp

theorem values_cons (h : Header) : Headers.values (h :: lines) name =
    if h.isNamed name then h.value :: lines.values name else lines.values name := by
  rw [values, List.filter_cons]
  split <;> rfl

/-- The last lines have one value for each name. -/
theorem values_latest : (latest lines).values name = (lines.values name).getLast?.toList := by
  induction lines with
  | nil => rfl
  | cons h rest ih =>
    rw [latest, values_cons]
    by_cases named : h.isNamed name
    · rw [if_pos named, names_of_isNamed rest named]
      cases later : Headers.values rest name with
      | nil =>
        rw [later] at ih
        simp [values_cons, named, ih]
      | cons value others =>
        rw [later] at ih
        simp [ih, List.getLast?_cons]
    · rw [if_neg named]
      split
      · exact ih
      · rw [values_cons, if_neg named, ih]

/-- A header that is set has its last value only, and another has the values it had. -/
theorem values_replaceAll : (headers.replaceAll lines).values name =
    match (lines.values name).getLast? with
    | some value => [value]
    | none => headers.values name := by
  have kept : Headers.values (headers.filter fun h => !names lines h) name =
      if (lines.values name).isEmpty then headers.values name else [] := by
    rw [values, List.filter_filter]
    have alike : ∀ h ∈ headers, (h.isNamed name && !names lines h) =
        (h.isNamed name && (lines.values name).isEmpty) := by
      intro h _
      by_cases named : h.isNamed name
      · rw [names_of_isNamed lines named, Bool.not_not]
      · simp [named]
    rw [List.filter_congr alike]
    cases (lines.values name).isEmpty <;> simp [values]
  rw [replaceAll_eq, values_append, kept, values_latest]
  cases lines.values name with
  | nil => simp
  | cons value others => simp [List.getLast?_cons]

end

end Headers

namespace Filter

/-- A filter of fixed headers changes the header list and nothing else. -/
theorem setHeaders_eq (id : String) (lines : Headers) (fresh : PayloadId) (request : Request) :
    (setHeaders id lines).transform fresh request =
      .ok { request with headers := request.headers.replaceAll lines } := by
  show Except.ok _ = Except.ok _
  congr 1
  induction lines generalizing request with
  | nil => rfl
  | cons h rest ih => exact ih (request.withReplacedHeader h.name h.value)

/-- What a filter of fixed headers does, whatever its lines, in which names may come again and in any letter case, and
whatever the request. It does not fail. By any name, a header that a line sets has one value, which is that of the last
such line, and any other header has the values it had. The lines of other names stay, in their order and before those
that were set. Method, endpoint, payload and the record of filters are as they were; and a second time changes nothing. -/
theorem header_lines_set_once (id : String) (lines : Headers) (fresh : PayloadId) (request : Request) :
    ∃ filtered, (setHeaders id lines).transform fresh request = .ok filtered ∧
      (∀ name, filtered.headerValues name =
        match (lines.values name).getLast? with
        | some value => [value]
        | none => request.headerValues name) ∧
      (∃ added : Headers, added.Sublist lines ∧
        filtered.headers = (request.headers.filter fun h => lines.all fun line => !h.isNamed line.name) ++ added) ∧
      filtered = { request with headers := filtered.headers } ∧
      ∀ again, (setHeaders id lines).transform again filtered = .ok filtered := by
  refine ⟨_, setHeaders_eq id lines fresh request, ?_, ?_, rfl, ?_⟩
  · intro name
    exact Headers.values_replaceAll request.headers lines
  · refine ⟨lines.latest, lines.latest_sublist, ?_⟩
    show request.headers.replaceAll lines = _
    rw [Headers.replaceAll_eq]
    simp only [Headers.names, List.not_any_eq_all_not]
  · intro again
    rw [setHeaders_eq, Headers.replaceAll_replaceAll]

/-- Two lines of one name among three that are set; the request has that header twice. -/
example :
    let lines : Headers := [⟨"X-Tag", "1"⟩, ⟨"Accept", "2"⟩, ⟨"x-tag", "3"⟩]
    Headers.replaceAll [⟨"X-TAG", "a"⟩, ⟨"Host", "b"⟩, ⟨"x-tag", "c"⟩] lines =
      [⟨"Host", "b"⟩, ⟨"Accept", "2"⟩, ⟨"x-tag", "3"⟩] := by
  decide

end Filter

end Courier
