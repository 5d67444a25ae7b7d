import Courier.Digest.Basic
import Courier.Http.Header
import Courier.Text.Quoted

/-!
What is known about a body without reading it: its length, type, encoding, disposition, language and
digest. The six values are written as headers (`toHeaders`) and read from headers (`ofHeaders`).
-/
namespace Courier

structure ContentMetadata where
  length : Option UInt64 := none
  contentType : Option String := none
  contentEncoding : Option String := none
  contentDisposition : Option String := none
  contentLanguage : Option String := none
  digest : Option ContentDigest := none
  deriving DecidableEq, Repr

/-- The number below `2 ^ 64` that a text of decimal digits stands for; a plus sign may precede them. -/
def readLength? (text : String) : Option UInt64 :=
  let digits := match text.toList with
    | '+' :: rest => rest
    | chars => chars
  if digits.isEmpty || !digits.all Char.isDigit then none
  else
    let n := digits.foldl (fun n c => 10 * n + (c.toNat - 48)) 0
    if n < UInt64.size then some (UInt64.ofNat n) else none

namespace ContentMetadata

/-- The headers that say what is known, in a fixed order. Only an MD5 digest has a header. -/
def toHeaders (m : ContentMetadata) : Headers :=
  let line (name : String) (value : Option String) : Headers := (value.map (Header.mk name)).toList
  line "Content-Type" m.contentType
    ++ line "Content-Length" (m.length.map fun n => toString n.toNat)
    ++ line "Content-Encoding" m.contentEncoding
    ++ line "Content-Disposition" m.contentDisposition
    ++ line "Content-Language" m.contentLanguage
    ++ line "Content-MD5" (m.digest.bind fun d =>
        if d.algorithm = .md5 then some d.toBase64 else none)

/-- What headers say of a body. The first line of each header counts; a length or digest that cannot be
read counts as absent. -/
def ofHeaders (headers : Headers) : ContentMetadata where
  length := (headers.first? "Content-Length").bind fun value => readLength? (Text.trim value)
  contentType := headers.first? "Content-Type"
  contentEncoding := headers.first? "Content-Encoding"
  contentDisposition := headers.first? "Content-Disposition"
  contentLanguage := headers.first? "Content-Language"
  digest := (headers.first? "Content-MD5").bind fun value =>
    (ContentDigest.ofBase64 .md5 (Text.trim value)).toOption

/-- `m`, with the length known before unless `m` has one of its own. -/
def keepingLength (m : ContentMetadata) (known : Option UInt64) : ContentMetadata :=
  { m with length := m.length <|> known }

def describeDigest (d : ContentDigest) : String :=
  Text.record "ContentDigest" [("algorithm", d.algorithm.label),
    ("bytes", Text.bracketed (d.bytes.map fun b => toString b.toNat))]

/-- The description that stands in descriptions of payloads. -/
def describe (m : ContentMetadata) : String :=
  let text (value : Option String) := Text.optional (value.map Text.quoted)
  Text.record "ContentMetadata"
    [("length", Text.optional (m.length.map fun n => toString n.toNat)),
     ("content_type", text m.contentType),
     ("content_encoding", text m.contentEncoding),
     ("content_disposition", text m.contentDisposition),
     ("content_language", text m.contentLanguage),
     ("digest", Text.optional (m.digest.map describeDigest))]

end ContentMetadata

end Courier
