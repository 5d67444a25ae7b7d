import Courier.Proofs.CutJson
import Courier.Proofs.CutXml
import Courier.Proofs.RetryDecision

/-!
Error codes in bodies cut short. A body is read up to a limit only, and what is read of it may be a part. The code
found in a part is that of the whole body with two exceptions (`code_of_cut_body`): the cut may go through the very
text that gives the code, which is then taken for the whole of it (`Torn`), and a JSON document may be followed by
something else, with which it is no document (`Overrun`). What is read of a body up to a limit is a part of what is
read of it up to a higher one, so the same holds of responses that are read up to limits (`retries_of_lower_limit`).
-/
namespace Courier

theorem Reading.map_eq_done {α β : Type} {f : α → β} {reading : Reading α} {value : β} :
    reading.map f = .done value ↔ ∃ read, reading = .done read ∧ f read = value := by
  cases reading <;> simp [map]

/-- What is read of a flow up to a limit begins what is read of it up to a higher one. -/
theorem Flow.readUpTo_prefix {flow : Flow} {limit further : Nat} (lower : limit ≤ further)
    {cut whole : Bytes} (partly : flow.readUpTo limit = .done cut)
    (wholly : flow.readUpTo further = .done whole) : cut <+: whole := by
  unfold readUpTo at partly wholly
  generalize flow.items = items at partly wholly
  induction items generalizing limit further cut whole with
  | nil =>
    rw [readUpTo.go] at partly wholly
    rw [partly, Reading.done.injEq] at wholly
    rw [wholly]
  | cons item rest ih =>
    cases item with
    | failure error => cases partly
    | chunk bytes =>
      rw [readUpTo.go] at partly wholly
      by_cases ends : limit ≤ bytes.length
      · rw [if_pos ends] at partly
        cases partly
        by_cases ends' : further ≤ bytes.length
        · rw [if_pos ends'] at wholly
          cases wholly
          exact List.take_prefix_take_left lower
        · rw [if_neg ends'] at wholly
          obtain ⟨later, -, rfl⟩ := Reading.map_eq_done.mp wholly
          exact (List.take_prefix limit bytes).trans (List.prefix_append bytes later)
      · rw [if_neg ends] at partly
        rw [if_neg (fun ends' => ends (lower.trans ends'))] at wholly
        obtain ⟨early, before, rfl⟩ := Reading.map_eq_done.mp partly
        obtain ⟨later, all, rfl⟩ := Reading.map_eq_done.mp wholly
        exact (List.prefix_append_right_inj bytes).mpr
          (ih (Nat.sub_le_sub_right lower bytes.length) before all)

namespace Response

/-- The body of a response is as it was found whatever the limit, or it is read from one flow. -/
theorem bufferBody_cases (response : Response) (disk : Disk) :
    (∃ found : Response, found.status = response.status ∧
      ∀ limit, (response.bufferBody disk limit).value = some found) ∨
    ∃ (body : Body) (flow : Flow), ∀ limit, (response.bufferBody disk limit).value =
      match flow.readUpTo limit with
      | .done bytes => some { response with body := some (bufferedBody body.payload bytes) }
      | .failed _ => some { response with body := none }
      | .waiting => none := by
  unfold bufferBody
  simp only [Writer.value_bind]
  cases starts : (response.startBuffering disk).value with
  | settled found =>
    refine .inl ⟨found, ?_, fun _ => rfl⟩
    unfold startBuffering at starts
    split at starts
    · cases starts
      rfl
    · next body held =>
      split at starts
      · cases starts
        rfl
      · simp only [Writer.value_bind] at starts
        split at starts
        · cases starts
        · cases starts
          rfl
  | waiting body flow =>
    refine .inr ⟨body, flow, fun limit => ?_⟩
    dsimp only
    cases flow.readUpTo limit <;> rfl

variable {response : Response} {disk : Disk} {limit : Nat}

/-- Reading the body of a response changes nothing about its status. -/
theorem bufferBody_status {read : Response} (reads : (response.bufferBody disk limit).value = some read) :
    read.status = response.status := by
  rcases response.bufferBody_cases disk with ⟨found, status, always⟩ | ⟨body, flow, as⟩
  · rw [always, Option.some.injEq] at reads
    rw [← reads, status]
  · rw [as] at reads
    split at reads <;> cases reads <;> rfl

/-- What is read of the body of a response up to a limit begins what is read of it up to a higher one. -/
theorem bufferBody_prefix {further : Nat} (lower : limit ≤ further) {part whole : Response}
    (partly : (response.bufferBody disk limit).value = some part)
    (wholly : (response.bufferBody disk further).value = some whole) {cut entire : Bytes}
    (before : part.bodyBytes? = some cut) (all : whole.bodyBytes? = some entire) :
    cut <+: entire := by
  rcases response.bufferBody_cases disk with ⟨found, -, always⟩ | ⟨body, flow, as⟩
  · rw [always, Option.some.injEq] at partly wholly
    rw [← partly] at before
    rw [← wholly, before, Option.some.injEq] at all
    rw [all]
  · rw [as] at partly wholly
    split at partly <;> cases partly
    · next early =>
      split at wholly <;> cases wholly
      · next later =>
        cases before
        cases all
        exact Flow.readUpTo_prefix lower early later
      · cases all
    · cases before

end Response

namespace ErrorCode

/-- The cut before `more` goes through the text that gives the code. -/
def Torn (cut more : Bytes) (code : String) : Prop :=
  (∃ raw, (Xml.tokens cut).getLast? = some (.text raw) ∧ elementText? raw = some code.toList) ∧
    ∃ b ∈ more.head?, b ≠ 0x3c

/-- The bytes before the cut are a JSON document, and not only blanks follow. -/
def Overrun (cut more : Bytes) : Prop :=
  (∃ v, Json.ofBytes cut = .ok v) ∧ ∃ b ∈ more, Text.isMarkupBlank b = false

section

variable {element : Bytes} {inside : Bool} {tokens : List Xml.Token} {code : String}

/-- Tokens after the code do not change it. -/
theorem inTokens_append (found : (inTokens element inside tokens).value = some code)
    (more : List Xml.Token) : (inTokens element inside (tokens ++ more)).value = some code := by
  fun_induction inTokens element inside tokens with
  | case1 => cases found
  | case2 inside name rest ih => exact ih found
  | case3 inside rest ih => exact ih found
  | case4 raw rest unread => cases found
  | case5 raw rest blank ih =>
    simp only [List.cons_append, inTokens, ↓reduceIte, blank]
    exact ih found
  | case6 raw rest text filled read =>
    simp only [List.cons_append, inTokens, ↓reduceIte, read]
    exact found
  | case7 inside raw rest outside ih =>
    simp only [List.cons_append, inTokens, outside]
    exact ih found
  | case8 inside rest ih => exact ih found
  | case9 => cases found

/-- A single token has a code only as its text. -/
theorem inTokens_single {token : Xml.Token}
    (found : (inTokens element inside [token]).value = some code) :
    ∃ raw, token = .text raw ∧ elementText? raw = some code.toList := by
  cases token with
  | text raw =>
    simp only [inTokens] at found
    split at found
    · split at found
      · cases found
      · cases found
      · next text filled read =>
        cases found
        exact ⟨raw, rfl, by rw [read, String.toList_ofList]⟩
    · cases found
  | _ => cases found

/-- The code is found before the last token, or the last token is its text. -/
theorem inTokens_concat {last : Xml.Token}
    (found : (inTokens element inside (tokens ++ [last])).value = some code) :
    (inTokens element inside tokens).value = some code ∨
      ∃ raw, last = .text raw ∧ elementText? raw = some code.toList := by
  fun_induction inTokens element inside tokens with
  | case1 => exact .inr (inTokens_single found)
  | case2 inside name rest ih => exact ih found
  | case3 inside rest ih => exact ih found
  | case4 raw rest unread =>
    simp only [List.cons_append, inTokens, ↓reduceIte, unread] at found
    cases found
  | case5 raw rest blank ih =>
    simp only [List.cons_append, inTokens, ↓reduceIte, blank] at found
    exact ih found
  | case6 raw rest text filled read =>
    simp only [List.cons_append, inTokens, ↓reduceIte, read] at found
    exact .inl found
  | case7 inside raw rest outside ih =>
    simp only [List.cons_append, inTokens, outside] at found
    exact ih found
  | case8 inside rest ih => exact ih found
  | case9 => cases found

end

/-- The code in a part of a body of XML is that of the whole, unless the cut goes through its text. -/
theorem inXml_cut {element : String} {cut : Bytes} {code : String}
    (found : (inXml element cut).value = some code) (more : Bytes) :
    (inXml element (cut ++ more)).value = some code ∨ Torn cut more code := by
  unfold inXml at found ⊢
  obtain ⟨settled, ended⟩ := Xml.resumed_tokens cut more
  rcases List.eq_nil_or_concat' (Xml.tokens cut) with none | ⟨early, last, split⟩
  · rw [none] at found
    cases found
  · rw [split] at found settled ended
    rw [List.dropLast_concat] at settled
    rcases inTokens_concat found with before | ⟨raw, rfl, text⟩
    · obtain ⟨late, whole⟩ := settled
      rw [← whole]
      exact .inl (inTokens_append before late)
    · have final : (Xml.tokens cut).getLast? = some (.text raw) := by
        rw [split, List.getLast?_concat]
      cases more with
      | nil =>
        rw [List.append_nil, split]
        exact .inl found
      | cons b rest =>
        by_cases markup : b = 0x3c
        · obtain ⟨late, whole⟩ := ended (by rw [markup]; rfl) raw List.getLast?_concat
          rw [← whole]
          exact .inl (inTokens_append found late)
        · exact .inr ⟨⟨raw, final, text⟩, b, rfl, markup⟩

/-- The code in a part of a body of JSON is that of the whole, unless the part is a document by itself. -/
theorem inJson_cut {cut : Bytes} {code : String} (found : (inJson cut).value = some code)
    (more : Bytes) :
    (inJson (cut ++ more)).value = some code ∨
      Overrun cut more ∧ (inJson (cut ++ more)).value = none := by
  unfold inJson at found
  split at found
  · next v read =>
    have bounded : v.isBounded = true := by
      cases v <;> first | rfl | cases found
    obtain ⟨blank, other⟩ := Json.ofBytes_append read bounded more
    by_cases blanks : ∀ b ∈ more, Text.isMarkupBlank b = true
    · left
      unfold inJson
      rw [blank blanks]
      exact found
    · right
      obtain ⟨trouble, fails⟩ := other blanks
      refine ⟨⟨⟨v, read⟩, by simpa using blanks⟩, ?_⟩
      unfold inJson
      rw [fails]
      rfl
  · cases found

/-- The code in a part of a body is that of the whole body, or the cut goes through its text, or the part is a JSON
document and the whole is none. -/
theorem detect_cut {cut : Bytes} {code : String} (found : (detect cut).value = some code)
    (more : Bytes) :
    (detect (cut ++ more)).value = some code ∨ Torn cut more code ∨
      Overrun cut more ∧ (detect (cut ++ more)).value = none := by
  have same : ∀ b, cut.find? (fun b => !Text.isAsciiBlank b) = some b →
      (cut ++ more).find? (fun b => !Text.isAsciiBlank b) = some b := by
    intro b first
    rw [List.find?_append, first]
    rfl
  unfold detect at found ⊢
  split at found
  · next first =>
    rw [same _ first]
    exact (inJson_cut found more).imp_right .inr
  · next first =>
    rw [same _ first]
    exact (inXml_cut found more).imp_right .inl
  · cases found

end ErrorCode

namespace BackoffPolicy

/-- Does the policy repeat a command after a response? -/
def Retries (policy : BackoffPolicy) (command : Command) (response : Response) : Prop :=
  ∃ delay attempt, (policy.shouldRetry command response).value = .retry delay attempt

/-- After a 503 it does if the command may be sent again and the code in the body is a known one. -/
theorem retries_unavailable_iff {policy : BackoffPolicy} (detects : policy.parser = ErrorCode.detect)
    {command : Command} {response : Response} (unavailable : response.status = serviceUnavailable) :
    policy.Retries command response ↔ command.isRetryEligible = true ∧
      ∃ body, response.bodyBytes? = some body ∧
        ∃ code ∈ policy.codes, (ErrorCode.detect body).value = some code := by
  have bare : (policy.parser []).value = none := by
    rw [detects]
    rfl
  have coded : ∀ code, (policy.errorCode response).value = some code ↔
      ∃ body, response.bodyBytes? = some body ∧ (ErrorCode.detect body).value = some code := by
    intro code
    rw [policy.errorCode_eq_some_iff response code bare, detects]
  have apart : serviceUnavailable ≠ gatewayTimeout := by decide
  simp only [Retries, policy.shouldRetry_iff command response, unavailable, coded, apart, ne_eq,
    not_true_eq_false, false_and, or_false, true_and, false_or]
  refine and_congr_right fun _ => ⟨?_, ?_⟩
  · rintro ⟨code, known, body, held, found⟩
    exact ⟨body, held, code, known, found⟩
  · rintro ⟨body, held, code, known, found⟩
    exact ⟨code, known, body, held, found⟩

/-- A 503 that is retried for a part of its body is retried for more of it, unless the cut goes through the text of
a known code, or the part is a JSON document and more of the body is none. -/
theorem Retries.extend {policy : BackoffPolicy} (detects : policy.parser = ErrorCode.detect)
    {command : Command} {part whole : Response} {cut more : Bytes}
    (partly : part.status = serviceUnavailable) (before : part.bodyBytes? = some cut)
    (wholly : whole.status = serviceUnavailable) (all : whole.bodyBytes? = some (cut ++ more))
    (retries : policy.Retries command part) :
    policy.Retries command whole ∨
      (∃ code ∈ policy.codes, ErrorCode.Torn cut more code) ∨ ErrorCode.Overrun cut more := by
  obtain ⟨eligible, body, held, code, known, found⟩ :=
    (retries_unavailable_iff detects partly).mp retries
  rw [before, Option.some.injEq] at held
  subst held
  rcases ErrorCode.detect_cut found more with same | torn | ⟨overrun, -⟩
  · exact .inl ((retries_unavailable_iff detects wholly).mpr ⟨eligible, _, all, code, known, same⟩)
  · exact .inr (.inl ⟨code, known, torn⟩)
  · exact .inr (.inr overrun)

/-- A higher limit for the bodies of errors loses no retry of a 503 but by these exceptions and by a body that fails
to read between the limits. -/
theorem retries_of_lower_limit {policy : BackoffPolicy} (detects : policy.parser = ErrorCode.detect)
    {command : Command} {response : Response} {disk : Disk} {limit further : Nat}
    (lower : limit ≤ further) {part whole : Response}
    (partly : (response.bufferBody disk limit).value = some part)
    (wholly : (response.bufferBody disk further).value = some whole)
    (unavailable : response.status = serviceUnavailable) (retries : policy.Retries command part) :
    policy.Retries command whole ∨ whole.bodyBytes? = none ∨
      ∃ cut more, part.bodyBytes? = some cut ∧ whole.bodyBytes? = some (cut ++ more) ∧
        ((∃ code ∈ policy.codes, ErrorCode.Torn cut more code) ∨ ErrorCode.Overrun cut more) := by
  have partStatus := (Response.bufferBody_status partly).trans unavailable
  have wholeStatus := (Response.bufferBody_status wholly).trans unavailable
  obtain ⟨-, cut, before, -⟩ := (retries_unavailable_iff detects partStatus).mp retries
  cases all : whole.bodyBytes? with
  | none => exact .inr (.inl rfl)
  | some entire =>
    obtain ⟨more, rfl⟩ := Response.bufferBody_prefix lower partly wholly before all
    refine (retries.extend detects partStatus before wholeStatus all).imp_right fun exception => ?_
    exact .inr ⟨cut, more, before, rfl, exception⟩

/-- What a body cut short is taken for. Wherever the cut: a code found before it is the code of the whole body, unless
the cut goes through its text, or what comes before the cut is a JSON document and the whole body is none. With
these exceptions a 503 that is retried for a body cut short is retried for the whole body, whatever the policy's
codes. -/
theorem code_of_cut_body (cut more : Bytes) :
    (∀ code, (ErrorCode.detect cut).value = some code →
      (ErrorCode.detect (cut ++ more)).value = some code ∨ ErrorCode.Torn cut more code ∨
        ErrorCode.Overrun cut more ∧ (ErrorCode.detect (cut ++ more)).value = none) ∧
    ∀ (policy : BackoffPolicy) (command : Command) (part whole : Response),
      policy.parser = ErrorCode.detect →
      part.status = serviceUnavailable → part.bodyBytes? = some cut →
      whole.status = serviceUnavailable → whole.bodyBytes? = some (cut ++ more) →
      policy.Retries command part →
      policy.Retries command whole ∨
        (∃ code ∈ policy.codes, ErrorCode.Torn cut more code) ∨ ErrorCode.Overrun cut more := by
  refine ⟨fun code found => ErrorCode.detect_cut found more, ?_⟩
  intro policy command part whole detects partly before wholly all retries
  exact retries.extend detects partly before wholly all

/-- A body that is cut after the code gives the code, and is retried for it. -/
theorem code_of_cut_body_after_code :
    let home : Request := { endpoint := ⟨"http", some { host := "h" }, .rooted [""], none, none⟩ }
    let command := Command.built 0 home false false
    let policy := ({ retryableServerCodes := ["Busy"] } : Config).retryPolicy
    let cut := Text.utf8 "<Error><Code>Busy</Code>"
    let more := Text.utf8 "</Error>"
    let answer (body : Bytes) : Response := { status := 503, body := some ⟨.ofBytes body, {}⟩ }
    (ErrorCode.detect (cut ++ more)).value = some "Busy" ∧
      policy.Retries command (answer cut) ∧ policy.Retries command (answer (cut ++ more)) := by
  intro home command policy cut more answer
  have found : (ErrorCode.detect cut).value = some "Busy" := by decide +kernel
  have retries : policy.Retries command (answer cut) :=
    (retries_unavailable_iff rfl rfl).mpr ⟨rfl, cut, rfl, "Busy", List.mem_singleton_self _, found⟩
  have whole : ∀ code, ¬ErrorCode.Torn cut more code := by
    rintro code ⟨⟨raw, last, -⟩, -⟩
    have closed : (Xml.tokens cut).getLast? = some .closing := by decide +kernel
    rw [closed] at last
    cases last
  have markup : ¬ErrorCode.Overrun cut more := by
    rintro ⟨⟨v, read⟩, -⟩
    have fault : (Json.ofBytes cut).isOk = false := by decide +kernel
    rw [read] at fault
    cases fault
  obtain ⟨coded, retried⟩ := code_of_cut_body cut more
  refine ⟨?_, retries, ?_⟩
  · rcases coded "Busy" found with same | torn | ⟨overrun, -⟩
    · exact same
    · exact absurd torn (whole "Busy")
    · exact absurd overrun markup
  · rcases retried policy command (answer cut) (answer (cut ++ more)) rfl rfl rfl rfl rfl retries with
      again | ⟨code, -, torn⟩ | overrun
    · exact again
    · exact absurd torn (whole code)
    · exact absurd overrun markup

/-- A limit that goes through the code of a body leaves another code: a 503 that is not retried for its body is
retried for what is read of it. -/
theorem code_of_torn_body :
    let home : Request := { endpoint := ⟨"http", some { host := "h" }, .rooted [""], none, none⟩ }
    let cut := Text.utf8 "<Error><Code>RequestLimit"
    let more := Text.utf8 "Exceeded</Code></Error>"
    let busy : Response := { status := 503, body := some ⟨.ofStream (.ofBytes (cut ++ more)), {}⟩ }
    let config : Config := { retryableServerCodes := ["RequestLimit"] }
    let limited : Config := { config with maxErrorBodyBytes := cut.length }
    let run (config : Config) := config.described.execution {} (.built 0 home false false) .fresh
      [.answered (.ok busy) 0 false, .bodyRead false]
    config.validate = .ok () ∧ limited.validate = .ok () ∧
      (ErrorCode.detect cut).value = some "RequestLimit" ∧
      (ErrorCode.detect (cut ++ more)).value = some "RequestLimitExceeded" ∧
      (run config).output.countP Event.isPausing = 0 ∧
      (run limited).output.countP Event.isPausing = 1 := by
  decide +kernel

end BackoffPolicy

end Courier
