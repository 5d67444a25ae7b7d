import Courier.Codec.Base64
import Courier.Codec.Hex
import Courier.Digest.Md5
import Courier.Digest.Sha256
import Courier.Text.Blank

/-!
Content digests: the algorithms, a digest with its two written forms, and the digester that takes a body
in piece by piece. Main statement: the pieces a body arrives in do not show in its digest
(`Digester.takeIn_append`).
-/
namespace Courier

inductive DigestAlgorithm where
  | md5 | sha256
  deriving DecidableEq, Repr

namespace DigestAlgorithm

def name : DigestAlgorithm → String
  | md5 => "md5"
  | sha256 => "sha256"

def label : DigestAlgorithm → String
  | md5 => "Md5"
  | sha256 => "Sha256"

def ofName? (text : String) : Option DigestAlgorithm :=
  [md5, sha256].find? (·.name == text)

def length : DigestAlgorithm → Nat
  | md5 => 16
  | sha256 => 32

def compression : DigestAlgorithm → Digest.Compression
  | md5 => Digest.Md5.compression
  | sha256 => Digest.Sha256.compression

end DigestAlgorithm

structure ContentDigest where
  algorithm : DigestAlgorithm
  bytes : Bytes
  deriving DecidableEq, Repr

inductive DigestError where
  | invalidHex
  | invalidBase64
  | wrongLength (algorithm : DigestAlgorithm) (actual : Nat)
  deriving DecidableEq, Repr

def DigestError.message : DigestError → String
  | invalidHex => "invalid hex digest"
  | invalidBase64 => "invalid base64 digest"
  | wrongLength algorithm actual =>
    s!"invalid {algorithm.name} digest length: expected {algorithm.length} bytes, got {actual}"

namespace ContentDigest

/-- The digest with these bytes, if they are as many as the algorithm's digests have. -/
def ofBytes (algorithm : DigestAlgorithm) (bytes : Bytes) : Except DigestError ContentDigest :=
  if bytes.length = algorithm.length then .ok ⟨algorithm, bytes⟩
  else .error (.wrongLength algorithm bytes.length)

/-- Reads a digest from hexadecimal; blanks around it do not matter. -/
def ofHex (algorithm : DigestAlgorithm) (text : String) : Except DigestError ContentDigest :=
  match Hex.decode? (Text.trim text) with
  | some bytes => ofBytes algorithm bytes
  | none => .error .invalidHex

/-- Reads a digest from base64; blanks around it do not matter. -/
def ofBase64 (algorithm : DigestAlgorithm) (text : String) : Except DigestError ContentDigest :=
  match Base64.decode? (Text.trim text) with
  | some bytes => ofBytes algorithm bytes
  | none => .error .invalidBase64

def toHex (d : ContentDigest) : String := Hex.encode d.bytes

def toBase64 (d : ContentDigest) : String := Base64.encode d.bytes

/-- The algorithm's name, a colon, and the hexadecimal form. -/
def text (d : ContentDigest) : String := d.algorithm.name ++ ":" ++ d.toHex

def compute (algorithm : DigestAlgorithm) (body : Bytes) : ContentDigest :=
  ⟨algorithm, algorithm.compression.hash body⟩

end ContentDigest

/-- A digest in the making. -/
structure Digester where
  algorithm : DigestAlgorithm
  absorber : Digest.Absorber

namespace Digester

/-- A digester that has taken in nothing. -/
def start (algorithm : DigestAlgorithm) : Digester :=
  ⟨algorithm, .start algorithm.compression⟩

def takeIn (d : Digester) (piece : Bytes) : Digester :=
  { d with absorber := d.absorber.takeIn d.algorithm.compression piece }

def finish (d : Digester) : ContentDigest :=
  ⟨d.algorithm, d.absorber.finish d.algorithm.compression⟩

theorem takeIn_append (d : Digester) (left right : Bytes) :
    d.takeIn (left ++ right) = (d.takeIn left).takeIn right := by
  simp [takeIn, Digest.Absorber.takeIn_append]

/-- A digester's description names its algorithm only. -/
def describe (d : Digester) : String := s!"Digester({d.algorithm.label})"

end Digester

end Courier
