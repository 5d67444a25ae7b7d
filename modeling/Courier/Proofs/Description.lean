import Courier.Proofs.DigestText
import Courier.Proofs.HeaderLines
import Courier.Proofs.Writing

/-!
The description of a body on its way. What it says is written as headers and read from headers; a request's own headers
take precedence over it. So what is read from the headers that a request is sent with is what its own headers say, and
the description where they say nothing (`ContentMetadata.description_survives_wire`).
-/
namespace Courier

theorem not_isBlank_of_isDigit {c : Char} (digit : c.isDigit = true) : Text.isBlank c = false := by
  unfold Char.isDigit at digit
  rw [Bool.and_eq_true, decide_eq_true_eq, decide_eq_true_eq] at digit
  have range : 48 ≤ c.toNat ∧ c.toNat ≤ 57 := digit
  exact Text.not_isBlank_of_visible (by omega) (by omega)

/-- Digits without a sign are read as the number that they stand for, if it is not too large. -/
theorem readLength?_of_digits {digits : List Char} (some_ : digits ≠ []) (all : ∀ c ∈ digits, c.isDigit = true)
    (fits : Nat.ofDigitChars 10 digits 0 < UInt64.size) :
    readLength? (String.ofList digits) = some (UInt64.ofNat (Nat.ofDigitChars 10 digits 0)) := by
  cases digits with
  | nil => exact absurd rfl some_
  | cons c rest =>
    have unsigned : c ≠ '+' := by
      rintro rfl
      exact absurd (all '+' List.mem_cons_self) (by decide)
    have valid : (c :: rest).all Char.isDigit = true := List.all_eq_true.mpr all
    rw [Nat.ofDigitChars_eq_foldl] at fits ⊢
    unfold readLength?
    rw [String.toList_ofList]
    split
    · next clash => exact absurd (List.cons.inj clash).1 unsigned
    · dsimp only
      rw [valid]
      exact if_pos fits

/-- A length is read from the digits that it is written with. -/
theorem readLength?_toString (n : UInt64) : readLength? (Text.trim (toString n.toNat)) = some n := by
  have digits : ∀ c ∈ Nat.toDigits 10 n.toNat, c.isDigit = true := fun c among =>
    Nat.isDigit_of_mem_toDigits (by decide) (by decide) among
  have trimmed : Text.trim (toString n.toNat) = String.ofList (Nat.toDigits 10 n.toNat) := by
    rw [Nat.toString_eq_ofList_toDigits, Text.trim_of_solid]
    intro c among
    rw [String.toList_ofList] at among
    exact not_isBlank_of_isDigit (digits c among)
  have read := readLength?_of_digits Nat.toDigits_ne_nil digits
  rw [Nat.ofDigitChars_ten_toDigits, UInt64.ofNat_toNat] at read
  rw [trimmed]
  exact read n.toNat_lt

namespace ContentMetadata

/-- The names and values that a description is written with. -/
def lines (m : ContentMetadata) : List (String × Option String) :=
  [("Content-Type", m.contentType),
   ("Content-Length", m.length.map fun n => toString n.toNat),
   ("Content-Encoding", m.contentEncoding),
   ("Content-Disposition", m.contentDisposition),
   ("Content-Language", m.contentLanguage),
   ("Content-MD5", m.digest.bind fun d => if d.algorithm = .md5 then some d.toBase64 else none)]

theorem toHeaders_eq (m : ContentMetadata) :
    m.toHeaders = m.lines.flatMap fun line => (line.2.map (Header.mk line.1)).toList := by
  simp [toHeaders, lines]

end ContentMetadata

namespace Headers

variable {name : String}

theorem first?_line (written : String) (value : Option String) :
    Headers.first? (value.map (Header.mk written)).toList name =
      if Text.sameName written name then value else none := by
  cases value with
  | none => split <;> rfl
  | some value =>
    rw [Option.map_some, Option.toList_some, first?_cons]
    rfl

/-- In lines of different names, each name has its value. -/
theorem first?_lines {lines : List (String × Option String)} {value : Option String}
    (distinct : lines.Pairwise fun line other => Text.sameName line.1 other.1 = false)
    (among : (name, value) ∈ lines) :
    Headers.first? (lines.flatMap fun line => (line.2.map (Header.mk line.1)).toList) name = value := by
  have elsewhere : ∀ others : List (String × Option String), (∀ line ∈ others, Text.sameName line.1 name = false) →
      Headers.first? (others.flatMap fun line => (line.2.map (Header.mk line.1)).toList) name = none := by
    intro others apart
    induction others with
    | nil => rfl
    | cons line rest ih =>
      rw [List.forall_mem_cons] at apart
      rw [List.flatMap_cons, first?_append, first?_line, apart.1, ih apart.2]
      rfl
  induction lines with
  | nil => cases among
  | cons line rest ih =>
    rw [List.pairwise_cons] at distinct
    rw [List.flatMap_cons, first?_append, first?_line]
    rcases List.mem_cons.mp among with here | later
    · subst here
      rw [Text.sameName_refl, if_pos rfl, elsewhere rest, Option.or_none]
      intro line among
      rw [Text.sameName_comm]
      exact distinct.1 line among
    · rw [distinct.1 _ later, ih distinct.2 later]
      rfl

end Headers

namespace ContentMetadata

section

variable (m : ContentMetadata)

/-- The lines of a description have different names. -/
theorem distinct_lines : m.lines.Pairwise fun line other => Text.sameName line.1 other.1 = false := by
  simp only [lines, List.pairwise_cons, List.forall_mem_cons]
  decide

theorem first?_toHeaders {name : String} {value : Option String} (among : (name, value) ∈ m.lines) :
    m.toHeaders.first? name = value := by
  rw [toHeaders_eq]
  exact Headers.first?_lines m.distinct_lines among

/-- What is said of a body by headers, and by a description where they say nothing. Of digests, only MD5 can be said. -/
def under (own : Headers) : ContentMetadata where
  length := match own.first? "Content-Length" with
    | some value => readLength? (Text.trim value)
    | none => m.length
  contentType := (own.first? "Content-Type").or m.contentType
  contentEncoding := (own.first? "Content-Encoding").or m.contentEncoding
  contentDisposition := (own.first? "Content-Disposition").or m.contentDisposition
  contentLanguage := (own.first? "Content-Language").or m.contentLanguage
  digest := match own.first? "Content-MD5" with
    | some value => (ContentDigest.ofBase64 .md5 (Text.trim value)).toOption
    | none => m.digest.filter (·.algorithm = .md5)

end

variable {m : ContentMetadata}

/-- The length that is written is read. -/
theorem length_read :
    ((m.toHeaders.first? "Content-Length").bind fun value => readLength? (Text.trim value)) = m.length := by
  have line : ("Content-Length", m.length.map fun n => toString n.toNat) ∈ m.lines := by simp [lines]
  rw [m.first?_toHeaders line]
  cases m.length with
  | none => rfl
  | some n => rw [Option.map_some, Option.bind_some, readLength?_toString]

/-- The digest that is written is read, if it is MD5. -/
theorem digest_read (made : ∀ d, m.digest = some d → d.Made) :
    ((m.toHeaders.first? "Content-MD5").bind fun value =>
      (ContentDigest.ofBase64 .md5 (Text.trim value)).toOption) = m.digest.filter (·.algorithm = .md5) := by
  have line : ("Content-MD5", m.digest.bind fun d => if d.algorithm = .md5 then some d.toBase64 else none) ∈
      m.lines := by simp [lines]
  rw [m.first?_toHeaders line]
  cases found : m.digest with
  | none => rfl
  | some d =>
    have right := (made d found).length
    by_cases md5 : d.algorithm = .md5
    · have read := ContentDigest.ofBase64_toBase64 right
      rw [md5] at read
      have trimmed : Text.trim d.toBase64 = d.toBase64 := Base64.trim_encode d.bytes
      rw [Option.bind_some, if_pos md5, Option.bind_some, trimmed, read, Option.filter_some, md5]
      rfl
    · rw [Option.bind_some, if_neg md5, Option.filter_some, if_neg (by simpa using md5)]
      rfl

/-- Headers that answer as `own` do, and as a description does where these have no answer, are read like that. -/
theorem ofHeaders_eq_under (made : ∀ d, m.digest = some d → d.Made) {own all : Headers}
    (answers : ∀ name, all.first? name = (own.first? name).or (m.toHeaders.first? name)) :
    ofHeaders all = m.under own := by
  have contentType : m.toHeaders.first? "Content-Type" = m.contentType :=
    m.first?_toHeaders (by simp [lines])
  have contentEncoding : m.toHeaders.first? "Content-Encoding" = m.contentEncoding :=
    m.first?_toHeaders (by simp [lines])
  have contentDisposition : m.toHeaders.first? "Content-Disposition" = m.contentDisposition :=
    m.first?_toHeaders (by simp [lines])
  have contentLanguage : m.toHeaders.first? "Content-Language" = m.contentLanguage :=
    m.first?_toHeaders (by simp [lines])
  unfold ofHeaders under
  simp only [answers, contentType, contentEncoding, contentDisposition, contentLanguage, mk.injEq, true_and]
  constructor
  · cases own.first? "Content-Length" with
    | none => rw [Option.none_or, length_read]
    | some value => rw [Option.some_or, Option.bind_some]
  · cases own.first? "Content-MD5" with
    | none => rw [Option.none_or, digest_read made]
    | some value => rw [Option.some_or, Option.bind_some]

/-- What is read from headers is a description that can be written and read again. -/
theorem made_ofHeaders {headers : Headers} {d : ContentDigest} (read : (ofHeaders headers).digest = some d) :
    d.Made ∧ d.algorithm = .md5 := by
  obtain ⟨value, -, outcome⟩ := Option.bind_eq_some_iff.mp read
  cases found : ContentDigest.ofBase64 .md5 (Text.trim value) with
  | error fault =>
    rw [found] at outcome
    cases outcome
  | ok other =>
    rw [found] at outcome
    cases outcome
    exact ⟨.ofBase64 found, (((ContentDigest.readsAs_ofBase64 _ _).digest d).mp found).1⟩

/-- A description without another digest than MD5 is read from its headers as it is. -/
theorem ofHeaders_toHeaders (made : ∀ d, m.digest = some d → d.Made ∧ d.algorithm = .md5) :
    ofHeaders m.toHeaders = m := by
  have read : ofHeaders m.toHeaders = m.under [] :=
    ofHeaders_eq_under (fun d found => (made d found).1) fun name => rfl
  have digest : m.digest.filter (·.algorithm = .md5) = m.digest := by
    cases found : m.digest with
    | none => rfl
    | some d => rw [Option.filter_some, if_pos (by simpa using (made d found).2)]
  calc ofHeaders m.toHeaders
      = { m with digest := m.digest.filter (·.algorithm = .md5) } := read
    _ = m := by rw [digest]

end ContentMetadata

namespace Request

variable {r : Request} {p : SharedPayload}

/-- The lines of the description that a request is sent with: those under names that its own headers do not have. -/
def describing (r : Request) (m : ContentMetadata) : Headers :=
  m.toHeaders.filter fun line => (r.headers.first? line.name).isNone

theorem wireHeaders_eq (carried : r.payload = some p) :
    r.wireHeaders = r.headers ++ r.describing p.payload.metadata := by
  unfold wireHeaders
  rw [carried]
  rfl

/-- A request's own headers answer first, and then the description of its body. -/
theorem first?_wireHeaders (carried : r.payload = some p) (name : String) :
    r.wireHeaders.first? name = (r.headers.first? name).or (p.payload.metadata.toHeaders.first? name) := by
  rw [wireHeaders_eq carried, Headers.first?_append, describing, Headers.first?_unless]
  cases r.headers.first? name <;> rfl

end Request

namespace Wire

/-- The line with its name in small letters. -/
def lowered (h : Header) : Header := ⟨Text.lowerAscii h.name, h.value⟩

theorem isNamed_lowered (h : Header) (name : String) : (lowered h).isNamed name = h.isNamed name := by
  have again : Text.lowerAscii (Text.lowerAscii h.name) = Text.lowerAscii h.name := by
    simp [Text.lowerAscii, Function.comp_def]
  rw [Header.isNamed, Header.isNamed, Text.sameName, Text.sameName, lowered, again]

/-- To bring lines of one name together changes nothing for a look-up of one name. -/
theorem find?_groups {lines : List Header} {p : Header → Bool} {name : String}
    (named : ∀ h ∈ lines, (p h = true ↔ h.name = name)) :
    ((lines.map (·.name)).eraseDups.flatMap fun group => lines.filter (·.name == group)).find? p =
      lines.find? p := by
  -- Only the group of the name itself has lines that answer, and it has all of them.
  have own : (lines.filter (·.name == name)).find? p = lines.find? p := by
    rw [List.find?_filter]
    refine List.find?_congr fun h among => ?_
    rw [Bool.eq_iff_iff]
    simp [named h among]
  have other : ∀ group ≠ name, (lines.filter (·.name == group)).find? p = none := by
    intro group apart
    rw [List.find?_eq_none]
    intro h among
    obtain ⟨among, same⟩ := List.mem_filter.mp among
    rw [named h among, beq_iff_eq.mp same]
    exact apart
  rw [List.find?_flatMap]
  cases found : lines.find? p with
  | none =>
    rw [List.findSome?_eq_none_iff]
    intro group _
    by_cases same : group = name
    · rw [same, own, found]
    · exact other group same
  | some h =>
    have here : h.name = name := (named h (List.mem_of_find?_eq_some found)).mp (List.find?_some found)
    have listed : name ∈ (lines.map (·.name)).eraseDups := by
      rw [List.mem_eraseDups, ← here]
      exact List.mem_map_of_mem (List.mem_of_find?_eq_some found)
    generalize (lines.map (·.name)).eraseDups = groups at listed
    induction groups with
    | nil => cases listed
    | cons group rest ih =>
      rw [List.findSome?_cons]
      by_cases same : group = name
      · rw [same, own, found]
      · rw [other group same]
        exact ih ((List.mem_cons.mp listed).resolve_left (Ne.symm same))

/-- What is looked up in the lines as they are written is what is looked up in the lines. -/
theorem first?_grouped (headers : Headers) (name : String) :
    (grouped headers).first? name = headers.first? name := by
  have named : ∀ h ∈ headers.map lowered, (h.isNamed name = true ↔ h.name = Text.lowerAscii name) := by
    intro h among
    obtain ⟨line, -, rfl⟩ := List.mem_map.mp among
    rw [isNamed_lowered]
    exact Text.sameName_iff
  have answer : (grouped headers).find? (·.isNamed name) = (headers.map lowered).find? (·.isNamed name) :=
    find?_groups named
  rw [Headers.first?, answer, List.find?_map, Option.map_map, Headers.first?]
  simp only [Function.comp_def, isNamed_lowered]
  rfl

/-- What is written of a request describes its body as its headers do. -/
theorem ofHeaders_written {r : Request} {written : Written} (writes : write? r = some written) :
    ContentMetadata.ofHeaders written.headers = ContentMetadata.ofHeaders r.wireHeaders := by
  have apart : ∀ name ∈ ["Content-Length", "Content-Type", "Content-Encoding", "Content-Disposition",
      "Content-Language", "Content-MD5"], Text.sameName "Authorization" name = false := by decide
  have seen : ∀ name ∈ ["Content-Length", "Content-Type", "Content-Encoding", "Content-Disposition",
      "Content-Language", "Content-MD5"], written.headers.first? name = r.wireHeaders.first? name := by
    intro name listed
    rw [headers_of_write? writes, first?_grouped, Headers.first?_append, authorization, Headers.first?_line,
      apart name listed]
    rfl
  simp [ContentMetadata.ofHeaders, seen]

end Wire

namespace ContentMetadata

/-- How the description of a body survives the wire. Take any description, with any digest that can be come by, and any
request that carries it. The request is sent with its own headers and behind them the lines of the description under
names that these do not have, so that no name stands in both. What is read from all of them is, value by value, what
the first line of that name in the request's own headers says, even if that cannot be read, and the value of the
description where there is no such line; of digests, only MD5 is left. The same is read from what is written on the
wire. Without another digest than MD5 a description is read from its own headers as it was; and what was read from
headers, however odd they were, is read the same when it is written as headers again. -/
theorem description_survives_wire {m : ContentMetadata} (made : ∀ d, m.digest = some d → d.Made) :
    (∀ (id : PayloadId) (content : Content) (request : Request),
      let r := request.withPayload (some ⟨id, content, m⟩)
      (r.wireHeaders = r.headers ++ r.describing m ∧ (r.describing m).Sublist m.toHeaders ∧
        ∀ line ∈ m.toHeaders, line ∈ r.describing m ↔ ∀ h ∈ r.headers, h.isNamed line.name = false) ∧
      ofHeaders r.wireHeaders = m.under r.headers ∧
      ∀ written, Wire.write? r = some written → ofHeaders written.headers = m.under r.headers) ∧
    ((∀ d, m.digest = some d → d.algorithm = .md5) → ofHeaders m.toHeaders = m) ∧
    ∀ headers, ofHeaders (ofHeaders headers).toHeaders = ofHeaders headers := by
  refine ⟨?_, ?_, ?_⟩
  · intro id content request r
    let p : SharedPayload := ⟨id, content, m⟩
    have carried : r.payload = some p := rfl
    have lines : r.wireHeaders = r.headers ++ r.describing m := Request.wireHeaders_eq (p := p) carried
    have read : ofHeaders r.wireHeaders = m.under r.headers :=
      ofHeaders_eq_under made (Request.first?_wireHeaders (p := p) carried)
    refine ⟨⟨lines, List.filter_sublist, ?_⟩, read, ?_⟩
    · intro line among
      rw [Request.describing, List.mem_filter, Option.isNone_iff_eq_none, Headers.first?_eq_none_iff]
      exact and_iff_right among
    · intro written writes
      rw [Wire.ofHeaders_written writes, read]
  · intro md5
    exact ofHeaders_toHeaders fun d found => ⟨made d found, md5 d found⟩
  · intro headers
    exact ofHeaders_toHeaders fun d => made_ofHeaders

/-- A request that has two lines of a content type, and a length that cannot be read, for a body whose description has
both and a digest. -/
theorem description_under_odd_headers :
    let m : ContentMetadata :=
      { length := some 5, contentType := some "text/plain", contentLanguage := some " en"
        digest := some (ContentDigest.compute .md5 [97]) }
    let request : Request :=
      { endpoint := ⟨"http", some { host := "h" }, .rooted [""], none, none⟩
        headers := [⟨"content-type", "a/b"⟩, ⟨"CONTENT-LENGTH", "lots"⟩, ⟨"Content-Type", "c/d"⟩] }
    let r := request.withPayload (some ⟨.given 0, .memory [97], m⟩)
    ofHeaders r.wireHeaders = { m with length := none, contentType := some "a/b" } ∧
      ofHeaders m.toHeaders = m := by
  intro m request r
  have made : ∀ d, m.digest = some d → d.Made := by
    rintro d ⟨⟩
    exact .compute .md5 [97]
  obtain ⟨carried, whole, -⟩ := description_survives_wire made
  have read : m.under request.headers = { m with length := none, contentType := some "a/b" } := by
    decide +kernel
  refine ⟨?_, whole ?_⟩
  · rw [(carried (.given 0) (.memory [97]) request).2.1, ← read]
    rfl
  · rintro d ⟨⟩
    rfl

end ContentMetadata

end Courier
