import Courier.Proofs.Veil
import Courier.Transport.Wire
import Mathlib

/-!
The wire under the veil. What is written of a request has the headers of the request, those of its body's description and
the credentials of its URL, with names in small letters and lines of one name together; under the veil it has those of
the veiled request. So two sends of requests that differ at most in credentials, to networks whose answers do,
give the same notices and the same response under the veil (`Wire.send_alike`).
-/
namespace Courier

theorem Headers.veiled_append (headers more : Headers) :
    Headers.veiled (headers ++ more) = headers.veiled ++ more.veiled :=
  List.map_append

/-- What the body's description adds to the headers is decided by the names that are there. -/
theorem Request.wireHeaders_veiled (r : Request) : r.veiled.wireHeaders.veiled = r.wireHeaders.veiled := by
  have there : ∀ name, (r.veiled.header name).isNone = (r.header name).isNone := by
    intro name
    simp [header, Headers.first?, veiled, Headers.veiled, List.find?_map, Function.comp_def]
  have payload : r.veiled.payload = r.payload := rfl
  have headers : r.veiled.headers = r.headers.veiled := rfl
  simp only [wireHeaders, there, payload, headers]
  cases r.payload with
  | none => exact r.headers.veiled_veiled
  | some p =>
    dsimp only
    rw [Headers.veiled_append, Headers.veiled_append, r.headers.veiled_veiled]

/-- None of the headers that describe a body carries credentials. -/
theorem ContentMetadata.ofHeaders_veiled (headers : Headers) : ofHeaders headers.veiled = ofHeaders headers := by
  have open_ : ∀ name ∈ ["Content-Length", "Content-Type", "Content-Encoding", "Content-Disposition",
      "Content-Language", "Content-MD5"], Header.isSensitive name = false := by decide
  have seen : ∀ name ∈ ["Content-Length", "Content-Type", "Content-Encoding", "Content-Disposition",
      "Content-Language", "Content-MD5"], headers.veiled.first? name = headers.first? name :=
    fun name listed => headers.first?_veiled (open_ name listed)
  simp [ofHeaders, seen]

namespace Wire

/-- Lines of one name stay together under the veil, whatever the letter case of their names was. -/
theorem grouped_veiled (headers : Headers) : (grouped headers).veiled = grouped headers.veiled := by
  have lowered : ∀ h : Header, Header.veiled ⟨Text.lowerAscii h.name, h.value⟩ =
      ⟨Text.lowerAscii h.name, h.veiled.value⟩ := by
    intro h
    have same : Header.isNamed ⟨Text.lowerAscii h.name, h.value⟩ h.name = true := by
      simp [Header.isNamed, Text.sameName_iff, Text.lowerAscii, Function.comp_def]
    simp [Header.veiled, Header.shownValue, Header.isSensitive_of_isNamed same]
  simp [grouped, Headers.veiled, List.map_flatMap, List.filter_map, Function.comp_def, lowered]

/-- The line with the credentials of a URL, if it carries any. -/
def authorization (url : Url) : Headers := ((credentials? url).map (Header.mk "Authorization")).toList

theorem headers_of_write? {request : Request} {written : Written} (writes : write? request = some written) :
    written.headers = grouped (authorization request.endpoint ++ request.wireHeaders) := by
  unfold write? at writes
  split at writes
  · unfold authorization
    cases found : credentials? request.endpoint with
    | none =>
      rw [found] at writes
      cases writes
      rfl
    | some value =>
      rw [found] at writes
      cases writes
      rfl
  · cases writes

theorem veiled_headers_of_write? {request other : Request} (same : request.veiled = other.veiled)
    {written written' : Written} (writes : write? request = some written)
    (writes' : write? other = some written') : written.headers.veiled = written'.headers.veiled := by
  have endpoint : request.endpoint = other.endpoint := (congrArg Request.endpoint same :)
  have lines : request.wireHeaders.veiled = other.wireHeaders.veiled := by
    rw [← request.wireHeaders_veiled, same, other.wireHeaders_veiled]
  rw [headers_of_write? writes, headers_of_write? writes', grouped_veiled, grouped_veiled,
    Headers.veiled_append, Headers.veiled_append, endpoint, lines]

/-- The answer with its headers under the veil. -/
def Answer.veiled (a : Answer) : Answer := { a with headers := a.headers.veiled }

theorem Answer.toResponse_veiled (a : Answer) (method : Method) :
    (a.toResponse method).veiled = a.veiled.toResponse method := by
  unfold toResponse Answer.veiled
  rw [ContentMetadata.ofHeaders_veiled]
  rfl

/-- Two sends of requests that differ at most in credentials and can both be written, over networks whose answers differ at
most in credentials: the same notices are given, and what the executor gets is the same under the veil. -/
theorem send_alike {network network' : Network} {request other : Request}
    (same : request.veiled = other.veiled) {written written' : Written}
    (writes : write? request = some written) (writes' : write? other = some written')
    (answers : (network written).map Answer.veiled = (network' written').map Answer.veiled) :
    (send network request).output = (send network' other).output ∧
      (send network request).value.map Response.veiled =
        (send network' other).value.map Response.veiled := by
  have endpoint : request.endpoint = other.endpoint := (congrArg Request.endpoint same :)
  have method : request.method = other.method := (congrArg Request.method same :)
  have shown : written.headers.shown = written'.headers.shown :=
    Headers.shown_eq_of_veiled (veiled_headers_of_write? same writes writes')
  simp only [send, writes, writes', shown, endpoint, method]
  generalize network written = answer at answers ⊢
  generalize network' written' = answer' at answers ⊢
  cases answer with
  | error failure =>
    cases answer' with
    | error failure' =>
      cases answers
      exact ⟨rfl, rfl⟩
    | ok a' => cases answers
  | ok a =>
    cases answer' with
    | error failure' => cases answers
    | ok a' =>
      have veiled : a.veiled = a'.veiled := Except.ok.inj answers
      have status : a.status = a'.status := (congrArg Answer.status veiled :)
      have rows : a.headers.shown = a'.headers.shown :=
        Headers.shown_eq_of_veiled (congrArg Answer.headers veiled :)
      constructor
      · simp [status, rows]
      · show Except.ok (a.toResponse other.method).veiled = Except.ok (a'.toResponse other.method).veiled
        rw [a.toResponse_veiled, a'.toResponse_veiled, veiled]

end Wire

end Courier
