import Courier.Proofs.Codecs
import Courier.Proofs.HeaderLines

/-!
Basic credentials as a server reads them. What stands in base64 behind the scheme is divided at its first colon
(`Filter.readBasic?`), so a server always reads two parts that make up the text that was written, and there is no colon
in the first (`Filter.readBasic?_basicCredentials`). They are the given user and password just when there is no colon
in the user (`Filter.credentials_recovered_iff`). A user with a colon is not refused, and what is written for it is
written for another user with another password too (`Filter.user_with_colon_read_as_other`).
-/
namespace Courier.Filter

open Text

/-- Bytes divided at the first colon among them. -/
def cutAtColon? (bytes : Bytes) : Option (Bytes × Bytes) :=
  match bytes.dropWhile (· != 0x3a) with
  | [] => none
  | _ :: after => some (bytes.takeWhile (· != 0x3a), after)

theorem cutAtColon?_append {before : Bytes} (absent : 0x3a ∉ before) (after : Bytes) :
    cutAtColon? (before ++ 0x3a :: after) = some (before, after) := by
  have passed : ∀ b ∈ before, (b != 0x3a) = true := fun b among =>
    bne_iff_ne.mpr fun colon => absent (colon ▸ among)
  rw [cutAtColon?, List.dropWhile_append_of_pos passed, List.takeWhile_append_of_pos passed]
  show some (before ++ [], after) = _
  rw [List.append_nil]

/-- User and password as a server reads them out of the value of an `Authorization` header: the scheme is taken off, the
rest is base64, and the first colon divides what it stands for. -/
def readBasic? (value : String) : Option (String × String) := do
  let letters ← value.toList.dropPrefix? "Basic ".toList
  let bytes ← Base64.decode? (String.ofList letters)
  let (user, password) ← cutAtColon? bytes
  return (← ofUtf8? user, ← ofUtf8? password)

section

variable {user password other secret : String}

/-- Of credentials the two parts are read that the first colon divides, wherever it comes from. -/
theorem readBasic?_basicCredentials {known rest : String} (written : user ++ ":" ++ password = known ++ ":" ++ rest)
    (plain : ':' ∉ known.toList) : readBasic? (basicCredentials user password) = some (known, rest) := by
  have bytes : utf8 (user ++ ":" ++ password) = encoded known.toList ++ 0x3a :: encoded rest.toList := by
    rw [written, utf8_eq, String.toList_append, String.toList_append, encoded_append, encoded_append,
      List.append_assoc]
    rfl
  have letters : (basicCredentials user password).toList.dropPrefix? "Basic ".toList =
      some (Base64.encode (encoded known.toList ++ 0x3a :: encoded rest.toList)).toList := by
    rw [basicCredentials, bytes, String.toList_append]
    exact List.dropPrefix?_append_of_beq _ (beq_self_eq_true _)
  have reads : Base64.decode? (Base64.encode (encoded known.toList ++ 0x3a :: encoded rest.toList)) =
      some (encoded known.toList ++ 0x3a :: encoded rest.toList) := Base64.decode?_eq_some_iff.mpr rfl
  -- Beyond ASCII no byte of a character is a colon, so the first colon is that of the text.
  have absent : 0x3a ∉ encoded known.toList := not_mem_encoded (c := ':') (by decide) plain
  simp only [readBasic?, letters, Option.bind_eq_bind, Option.bind_some, String.ofList_toList, reads,
    cutAtColon?_append absent, ofUtf8?_encoded]
  rfl

/-- There is a first colon in what is written, at the latest the one between the parts. -/
theorem exists_first_colon (user password : String) :
    ∃ known rest : String, user ++ ":" ++ password = known ++ ":" ++ rest ∧ ':' ∉ known.toList := by
  have among : ':' ∈ (user ++ ":" ++ password).toList := by simp
  obtain ⟨before, after, divided, absent⟩ := List.eq_append_cons_of_mem among
  refine ⟨String.ofList before, String.ofList after, ?_, ?_⟩
  · rw [← String.toList_inj, divided]
    simp
  · rwa [String.toList_ofList]

/-- The given parts are read just when the first colon is the one between them. -/
theorem readBasic?_eq_given_iff :
    readBasic? (basicCredentials user password) = some (user, password) ↔ ':' ∉ user.toList := by
  constructor
  · intro reads
    obtain ⟨known, rest, written, plain⟩ := exists_first_colon user password
    rw [readBasic?_basicCredentials written plain] at reads
    cases reads
    exact plain
  · exact readBasic?_basicCredentials rfl

/-- The name and the password of a user, as they come over the wire. -/
example : readBasic? "Basic YWxpY2U6czNjcmV0" = some ("alice", "s3cret") := by
  decide +kernel

/-- Credentials are alike just when user, colon and password are the same text. -/
theorem basicCredentials_inj : basicCredentials other secret = basicCredentials user password ↔
    other ++ ":" ++ secret = user ++ ":" ++ password := by
  constructor
  · intro same
    obtain ⟨known, rest, written, plain⟩ := exists_first_colon user password
    obtain ⟨known', rest', written', plain'⟩ := exists_first_colon other secret
    have reads := readBasic?_basicCredentials written' plain'
    rw [same, readBasic?_basicCredentials written plain] at reads
    cases reads
    exact written'.trans written.symm
  · intro same
    rw [basicCredentials, basicCredentials, same]

/-- Users without a colon are told apart, and so are their passwords. -/
theorem eq_of_basicCredentials_eq (plainUser : ':' ∉ user.toList) (plainOther : ':' ∉ other.toList)
    (same : basicCredentials other secret = basicCredentials user password) : other = user ∧ secret = password := by
  have reads : readBasic? (basicCredentials other secret) = some (other, secret) :=
    readBasic?_eq_given_iff.mpr plainOther
  rw [same, readBasic?_eq_given_iff.mpr plainUser] at reads
  cases reads
  exact ⟨rfl, rfl⟩

/-- The filter accepts whatever is not empty, and puts the credentials in the place of those that were there. -/
theorem basicAuth_eq_ok_iff {fresh : PayloadId} {request filtered : Request} :
    (basicAuth user password).transform fresh request = .ok filtered ↔ user ≠ "" ∧ password ≠ "" ∧
      filtered = request.withReplacedHeader "Authorization" (basicCredentials user password) := by
  unfold basicAuth
  dsimp only
  split
  · next empty =>
    rw [Bool.or_eq_true, String.isEmpty_iff, String.isEmpty_iff] at empty
    simp only [reduceCtorEq, false_iff]
    rintro ⟨named, secret, -⟩
    exact empty.elim named secret
  · next given =>
    rw [Bool.or_eq_true, String.isEmpty_iff, String.isEmpty_iff, not_or] at given
    simp only [Except.ok.injEq, given.1, given.2, ne_eq, not_false_eq_true, true_and]
    exact eq_comm

/-- A header that was replaced has one value, by any spelling of its name. -/
theorem headerValues_withReplacedHeader (request : Request) {name header : String} (value : String)
    (same : sameName name header = true) : (request.withReplacedHeader header value).headerValues name = [value] := by
  have line : Headers.values [⟨header, value⟩] name = [value] := by
    rw [Headers.values_cons, Header.isNamed, sameName_comm, same]
    rfl
  show (request.headers.replaceAll [⟨header, value⟩]).values name = [value]
  rw [Headers.values_replaceAll, line]
  rfl

/-- What comes of credentials that the filter accepts. The request may have had the header any number of times and in
any letter case: by any spelling of its name it has one value now. A server reads two parts out of that value, which
make up the text of user, colon and password, with no colon in the first; they are the given user and password just
when the user has no colon. Another accepted pair, put on any request, has the same value just when it makes up the same
text; so different pairs have different values, if neither user has a colon. -/
theorem credentials_recovered_iff {fresh : PayloadId} {request filtered : Request}
    (accepted : (basicAuth user password).transform fresh request = .ok filtered) :
    ∃ value,
      (∀ name, sameName name "Authorization" = true → filtered.headerValues name = [value]) ∧
      (∃ known rest, readBasic? value = some (known, rest) ∧ ':' ∉ known.toList ∧
        known ++ ":" ++ rest = user ++ ":" ++ password) ∧
      (readBasic? value = some (user, password) ↔ ':' ∉ user.toList) ∧
      ∀ {other secret : String} {again : PayloadId} {request' filtered' : Request},
        (basicAuth other secret).transform again request' = .ok filtered' →
          (filtered'.headerValues "Authorization" = [value] ↔
            other ++ ":" ++ secret = user ++ ":" ++ password) ∧
          (':' ∉ user.toList → ':' ∉ other.toList → filtered'.headerValues "Authorization" = [value] →
            other = user ∧ secret = password) := by
  obtain ⟨-, -, rfl⟩ := basicAuth_eq_ok_iff.mp accepted
  obtain ⟨known, rest, written, plain⟩ := exists_first_colon user password
  refine ⟨basicCredentials user password, fun name same => headerValues_withReplacedHeader request _ same,
    ⟨known, rest, readBasic?_basicCredentials written plain, plain, written.symm⟩, readBasic?_eq_given_iff, ?_⟩
  intro other secret again request' filtered' accepted'
  obtain ⟨-, -, rfl⟩ := basicAuth_eq_ok_iff.mp accepted'
  rw [headerValues_withReplacedHeader request' _ (sameName_refl _), List.singleton_inj]
  exact ⟨basicCredentials_inj, eq_of_basicCredentials_eq⟩

end

/-- A colon in the password does no harm. The request had the header twice, and with a shorter password it gets another
value. -/
theorem password_with_colon_recovered :
    let request : Request :=
      { endpoint := ⟨"https", some { host := "h" }, .rooted [""], none, none⟩
        headers := [⟨"AUTHORIZATION", "Bearer t"⟩, ⟨"Accept", "*/*"⟩, ⟨"authorization", "Basic Og=="⟩] }
    ∃ filtered shorter value,
      (basicAuth "alice" "s3:cret").transform (.made 0 0 0) request = .ok filtered ∧
      filtered.headerValues "Authorization" = [value] ∧ readBasic? value = some ("alice", "s3:cret") ∧
      (basicAuth "alice" "s3").transform (.made 0 0 0) request = .ok shorter ∧
      shorter.headerValues "Authorization" ≠ [value] := by
  intro request
  have accepted : (basicAuth "alice" "s3:cret").transform (.made 0 0 0) request = .ok _ :=
    basicAuth_eq_ok_iff.mpr ⟨by decide, by decide, rfl⟩
  have accepted' : (basicAuth "alice" "s3").transform (.made 0 0 0) request = .ok _ :=
    basicAuth_eq_ok_iff.mpr ⟨by decide, by decide, rfl⟩
  obtain ⟨value, values, -, read, alike⟩ := credentials_recovered_iff accepted
  refine ⟨_, _, value, accepted, values _ (sameName_refl _), read.mpr (by decide), accepted', ?_⟩
  intro same
  obtain ⟨-, passwords⟩ := (alike accepted').2 (by decide) (by decide) same
  exact absurd passwords (by decide)

/-- A colon in the user moves what follows it into the password: the request is the one of another user with another
password. -/
theorem user_with_colon_read_as_other :
    let request : Request := { endpoint := ⟨"https", some { host := "h" }, .rooted [""], none, none⟩ }
    ∃ filtered value,
      (basicAuth "alice:s3" "cret").transform (.made 0 0 0) request = .ok filtered ∧
      filtered.headerValues "Authorization" = [value] ∧ readBasic? value = some ("alice", "s3:cret") ∧
      (basicAuth "alice" "s3:cret").transform (.made 0 0 0) request = .ok filtered := by
  intro request
  have alike : basicCredentials "alice:s3" "cret" = basicCredentials "alice" "s3:cret" :=
    basicCredentials_inj.mpr (by decide)
  refine ⟨_, basicCredentials "alice:s3" "cret", basicAuth_eq_ok_iff.mpr ⟨by decide, by decide, rfl⟩,
    headerValues_withReplacedHeader request _ (sameName_refl _), ?_,
    basicAuth_eq_ok_iff.mpr ⟨by decide, by decide, congrArg _ alike⟩⟩
  rw [alike]
  exact readBasic?_eq_given_iff.mpr (by decide)

end Courier.Filter
