import Courier.Proofs.Codecs
import Courier.Proofs.Hashing

/-!
Digests as texts. However a digest is come by, it has as many bytes as its algorithm's digests have, and any such bytes
are a digest that can be come by (`ContentDigest.made_iff`). What is read from a text is decided by the bytes that the
text is written for, in hexadecimal or in base64, and by their number (`ContentDigest.ReadsAs`); so reading and writing
undo each other (`ContentDigest.digest_texts_exact`).
-/
namespace Courier

namespace Digest.Compression

variable {h : Compression}

theorem length_compressAll (keeps : ∀ chain block, (h.compress chain block).length = chain.length) (fuel : Nat)
    (chain : List UInt32) (bytes : Bytes) : (h.compressAll fuel chain bytes).length = chain.length := by
  induction fuel generalizing chain bytes with
  | zero => rfl
  | succ fuel ih =>
    rw [compressAll]
    split
    · rfl
    · rw [ih, keeps]

/-- A hash has the bytes of as many words as the chaining value. -/
theorem length_hash (keeps : ∀ chain block, (h.compress chain block).length = chain.length)
    (four : ∀ word, (h.wordBytes word).length = 4) (message : Bytes) :
    (h.hash message).length = 4 * h.initial.length := by
  rw [hash, List.length_flatMap]
  simp only [four, List.map_const', List.sum_replicate_nat, length_compressAll keeps]
  exact Nat.mul_comm _ _

end Digest.Compression

theorem DigestAlgorithm.length_compress (algorithm : DigestAlgorithm) (chain : List UInt32) (block : Bytes) :
    (algorithm.compression.compress chain block).length = chain.length := by
  cases algorithm with
  | md5 =>
    show (Digest.Md5.compress chain block).length = _
    unfold Digest.Md5.compress
    split
    · simp only [List.length_cons]
    · rfl
  | sha256 =>
    show (Digest.Sha256.compress chain block).length = _
    unfold Digest.Sha256.compress
    split
    · simp only [List.length_cons]
    · rfl

theorem DigestAlgorithm.length_wordBytes (algorithm : DigestAlgorithm) (word : UInt32) :
    (algorithm.compression.wordBytes word).length = 4 := by
  cases algorithm <;> rfl

/-- Pieces that are taken in one after the other are taken in as a whole. -/
theorem Digester.foldl_takeIn (d : Digester) (pieces : List Bytes) :
    pieces.foldl takeIn d = d.takeIn pieces.flatten := by
  induction pieces generalizing d with
  | nil => rfl
  | cons piece rest ih => rw [List.foldl_cons, ih, List.flatten_cons, takeIn_append]

namespace ContentDigest

theorem length_compute (algorithm : DigestAlgorithm) (body : Bytes) :
    (compute algorithm body).bytes.length = algorithm.length := by
  show (algorithm.compression.hash body).length = _
  rw [Digest.Compression.length_hash algorithm.length_compress algorithm.length_wordBytes]
  cases algorithm <;> rfl

/-- The ways to come by a digest: from a body at once or in pieces, or from a text. -/
inductive Made : ContentDigest → Prop
  | compute (algorithm : DigestAlgorithm) (body : Bytes) : Made (compute algorithm body)
  | digester (algorithm : DigestAlgorithm) (pieces : List Bytes) :
    Made (pieces.foldl Digester.takeIn (.start algorithm)).finish
  | ofHex {algorithm : DigestAlgorithm} {text : String} {d : ContentDigest} (read : ofHex algorithm text = .ok d) :
    Made d
  | ofBase64 {algorithm : DigestAlgorithm} {text : String} {d : ContentDigest}
    (read : ofBase64 algorithm text = .ok d) : Made d

/-- What is read from a text in some code: `encode` writes bytes, and `canonical` is the text as it would be written. A
digest is read exactly if the text is written for bytes of the right number; with another number, this is the error;
and `fault` is the error exactly if no bytes are written like that. -/
structure ReadsAs (encode : Bytes → String) (canonical : String) (algorithm : DigestAlgorithm) (fault : DigestError)
    (outcome : Except DigestError ContentDigest) : Prop where
  digest : ∀ d, outcome = .ok d ↔
    d.algorithm = algorithm ∧ d.bytes.length = algorithm.length ∧ encode d.bytes = canonical
  wrongLength : ∀ actual, outcome = .error (.wrongLength algorithm actual) ↔
    actual ≠ algorithm.length ∧ ∃ bytes, encode bytes = canonical ∧ bytes.length = actual
  fault : outcome = .error fault ↔ ∀ bytes, encode bytes ≠ canonical

/-- What comes of a text that stands for some bytes or for none. -/
def ofDecoded (algorithm : DigestAlgorithm) (fault : DigestError) (decoded : Option Bytes) :
    Except DigestError ContentDigest :=
  match decoded with
  | some bytes => ofBytes algorithm bytes
  | none => .error fault

/-- If a text stands for bytes exactly where these are written like that, what comes of it is decided by that. -/
theorem readsAs_ofDecoded {encode : Bytes → String} {canonical : String} {decoded : Option Bytes}
    (exact : ∀ bytes, decoded = some bytes ↔ encode bytes = canonical) (algorithm : DigestAlgorithm)
    {fault : DigestError} (other : ∀ actual, fault ≠ .wrongLength algorithm actual) :
    ReadsAs encode canonical algorithm fault (ofDecoded algorithm fault decoded) := by
  cases decoded with
  | none =>
    have never : ∀ bytes, encode bytes ≠ canonical := fun bytes same => nomatch (exact bytes).mpr same
    refine ⟨fun d => ?_, fun actual => ?_, ?_⟩
    · simp [ofDecoded, never]
    · simp [ofDecoded, never, other]
    · simp [ofDecoded, never]
  | some bytes =>
    have only : ∀ {others}, encode others = canonical ↔ bytes = others := fun {others} =>
      (exact others).symm.trans (by rw [Option.some.injEq])
    show ReadsAs encode canonical algorithm fault (ofBytes algorithm bytes)
    unfold ofBytes
    by_cases right : bytes.length = algorithm.length
    · rw [if_pos right]
      refine ⟨fun d => ⟨?_, ?_⟩, fun actual => ⟨nofun, ?_⟩, ⟨nofun, ?_⟩⟩
      · rintro ⟨⟩
        exact ⟨rfl, right, only.mpr rfl⟩
      · obtain ⟨named, others⟩ := d
        rintro ⟨rfl, -, same⟩
        rw [only.mp same]
      · rintro ⟨wrong, others, same, rfl⟩
        exact absurd (only.mp same ▸ right) wrong
      · intro never
        exact absurd (only.mpr rfl) (never bytes)
    · rw [if_neg right]
      refine ⟨fun d => ⟨nofun, ?_⟩, fun actual => ⟨?_, ?_⟩, ⟨?_, ?_⟩⟩
      · rintro ⟨-, fits, same⟩
        exact absurd (only.mp same ▸ fits) right
      · rintro ⟨⟩
        exact ⟨right, bytes, only.mpr rfl, rfl⟩
      · rintro ⟨-, others, same, rfl⟩
        rw [only.mp same]
      · intro same
        exact absurd (Except.error.inj same).symm (other _)
      · intro never
        exact absurd (only.mpr rfl) (never bytes)

section

variable (algorithm : DigestAlgorithm) (text : String)

theorem ofHex_eq : ofHex algorithm text = ofDecoded algorithm .invalidHex (Hex.decode? (Text.trim text)) := by
  unfold ofHex
  cases Hex.decode? (Text.trim text) <;> rfl

theorem ofBase64_eq :
    ofBase64 algorithm text = ofDecoded algorithm .invalidBase64 (Base64.decode? (Text.trim text)) := by
  unfold ofBase64
  cases Base64.decode? (Text.trim text) <;> rfl

theorem readsAs_ofHex :
    ReadsAs Hex.encode (Text.lowerAscii (Text.trim text)) algorithm .invalidHex (ofHex algorithm text) := by
  rw [ofHex_eq]
  exact readsAs_ofDecoded (fun _ => Hex.decode?_eq_some_iff.trans eq_comm) algorithm nofun

theorem readsAs_ofBase64 :
    ReadsAs Base64.encode (Text.trim text) algorithm .invalidBase64 (ofBase64 algorithm text) := by
  rw [ofBase64_eq]
  exact readsAs_ofDecoded (fun _ => Base64.decode?_eq_some_iff.trans eq_comm) algorithm nofun

end

variable {d : ContentDigest}

theorem Made.length (made : d.Made) : d.bytes.length = d.algorithm.length := by
  cases made with
  | compute algorithm body => exact length_compute algorithm body
  | digester algorithm pieces =>
    rw [Digester.foldl_takeIn, Digester.finish_takeIn]
    exact length_compute algorithm pieces.flatten
  | ofHex read =>
    obtain ⟨rfl, right, -⟩ := ((readsAs_ofHex _ _).digest d).mp read
    exact right
  | ofBase64 read =>
    obtain ⟨rfl, right, -⟩ := ((readsAs_ofBase64 _ _).digest d).mp read
    exact right

variable {before after : String}

/-- A digest is read back from its hexadecimal form, in any letter case and with blanks around it. -/
theorem ofHex_written (right : d.bytes.length = d.algorithm.length) (leading : Text.isAllBlank before = true)
    (trailing : Text.isAllBlank after = true) {written : String} (writes : Text.lowerAscii written = d.toHex) :
    ofHex d.algorithm (before ++ written ++ after) = .ok d := by
  have trimmed : Text.trim (before ++ written ++ after) = written := by
    rw [Text.trim_between leading trailing]
    exact Text.trim_of_solid fun c among => Hex.not_isBlank_of_written writes among
  rw [(readsAs_ofHex _ _).digest, trimmed]
  exact ⟨rfl, right, writes.symm⟩

/-- A digest is read back from its base64 form, with blanks around it. -/
theorem ofBase64_written (right : d.bytes.length = d.algorithm.length) (leading : Text.isAllBlank before = true)
    (trailing : Text.isAllBlank after = true) :
    ofBase64 d.algorithm (before ++ d.toBase64 ++ after) = .ok d := by
  rw [(readsAs_ofBase64 _ _).digest, Text.trim_between leading trailing, toBase64, Base64.trim_encode]
  exact ⟨rfl, right, rfl⟩

theorem ofBase64_toBase64 (right : d.bytes.length = d.algorithm.length) :
    ofBase64 d.algorithm d.toBase64 = .ok d := by
  have bare : Text.isAllBlank "" = true := rfl
  simpa using ofBase64_written right bare bare

/-- The digests that there are: those with as many bytes as their algorithm's have. -/
theorem made_iff : d.Made ↔ d.bytes.length = d.algorithm.length :=
  ⟨Made.length, fun right => .ofBase64 (ofBase64_toBase64 right)⟩

/-- How digests stand in texts. A digest, by whichever algorithm and however it was come by, is read back from its
hexadecimal form, in any letter case, and from its base64 form, each with or without blanks around it. Conversely, take
any text, its blanks at the ends aside. A digest that is read from it as hexadecimal has it for its hexadecimal form,
letter case aside, and one that is read from it as base64 has it for its base64 form. It is no digest exactly if it is
the form of no bytes, and then this is the error; or if it is the form of bytes that are too few or too many, and then
their number is in the error. -/
theorem digest_texts_exact (made : d.Made) (leading : Text.isAllBlank before = true)
    (trailing : Text.isAllBlank after = true) :
    ((∀ written, Text.lowerAscii written = d.toHex → ofHex d.algorithm (before ++ written ++ after) = .ok d) ∧
      ofBase64 d.algorithm (before ++ d.toBase64 ++ after) = .ok d) ∧
    ∀ algorithm text,
      ReadsAs Hex.encode (Text.lowerAscii (Text.trim text)) algorithm .invalidHex (ofHex algorithm text) ∧
      ReadsAs Base64.encode (Text.trim text) algorithm .invalidBase64 (ofBase64 algorithm text) := by
  have right := made.length
  refine ⟨⟨fun written writes => ?_, ?_⟩, fun algorithm text => ⟨?_, ?_⟩⟩
  · exact ofHex_written right leading trailing writes
  · exact ofBase64_written right leading trailing
  · exact readsAs_ofHex algorithm text
  · exact readsAs_ofBase64 algorithm text

/-- The digest of an empty body, in digits of both letter cases and with blanks of several kinds around it; and texts of
two bytes and of none, the last of them with a bit set that no byte uses. -/
theorem digest_of_empty_body_read :
    let d := compute .md5 []
    let before := " \t"
    let after := "\u2003\n"
    ofHex .md5 (before ++ "D41D8cd98f00b204E9800998ecf8427e" ++ after) = .ok d ∧
      ofBase64 .md5 (before ++ "1B2M2Y8AsgTpgAmY7PhCfg==" ++ after) = .ok d ∧
      ofHex .md5 "d41D" = .error (.wrongLength .md5 2) ∧
      ofHex .md5 "d41d8" = .error .invalidHex ∧
      ∀ bytes, Base64.encode bytes ≠ "1B2M2Y8AsgTpgAmY7PhCfh==" := by
  intro d before after
  obtain ⟨⟨hex, base64⟩, texts⟩ :=
    @digest_texts_exact d before after (.compute .md5 []) (by decide) (by decide)
  have digits : Text.lowerAscii "D41D8cd98f00b204E9800998ecf8427e" = d.toHex := by decide +kernel
  have letters : d.toBase64 = "1B2M2Y8AsgTpgAmY7PhCfg==" := by decide +kernel
  have two : Hex.encode [0xd4, 0x1d] = "d41d" := by decide
  have refused : ofBase64 .md5 "1B2M2Y8AsgTpgAmY7PhCfh==" = .error .invalidBase64 := by decide +kernel
  refine ⟨hex _ digits, letters ▸ base64, ?_, by decide, ?_⟩
  · exact ((texts .md5 "d41D").1.wrongLength 2).mpr ⟨by decide, _, two, rfl⟩
  · exact (texts .md5 "1B2M2Y8AsgTpgAmY7PhCfh==").2.fault.mp refused

end ContentDigest

end Courier
