import Courier.Json.Value
import Courier.Notice
import Courier.Text.Blank
import Courier.Xml.Escape
import Courier.Xml.Scanner

/-!
Error codes in the bodies of error responses. A provider names the reason of an error in a body of XML,
as the text of an element, or of JSON, as a member of an object. A body that is malformed has no code,
and neither has one without the element or member.
-/
namespace Courier

abbrev ErrorCodeParser := Bytes → Noted (Option String)

namespace ErrorCode

/-- The text that begins the content of an element: decoded, without blanks at its ends. -/
def elementText? (raw : Bytes) : Option (List Char) := do
  let written ← Text.ofUtf8? raw
  let text ← Xml.unescape? written.toList
  some (Text.trimBlanks text)

/-- The first text that is not blank and stands directly after the start tag of an element with the local
name `element`; `inside` says whether such a tag came last. -/
def inTokens (element : Bytes) : (inside : Bool) → List Xml.Token → Noted (Option String)
  | _, [] => pure none
  | _, .opening name :: rest => inTokens element (Xml.localName name == element) rest
  | _, .closing :: rest => inTokens element false rest
  | inside, .text raw :: rest =>
    if inside then
      match elementText? raw with
      | none => pure none
      | some [] => inTokens element true rest
      | some text => pure (some (String.ofList text))
    else inTokens element false rest
  | inside, .other :: rest => inTokens element inside rest
  | _, .broken fault :: _ => do
    note (.malformedXml fault.message)
    pure none

/-- The name of the element that holds the code unless another is given. -/
def defaultElement : String := "Code"

def inXml (element : String) : ErrorCodeParser := fun body =>
  inTokens (Text.utf8 element) false (Xml.tokens body)

/-- A code as text: a string that is not empty, or a number. -/
def valueText? : Json.Value → Option String
  | .text s => if s.isEmpty then none else some s
  | .number n => some n.text
  | _ => none

/-- The member that holds the code: `code`, else `Code`, else `code` of `error`. -/
def codeMember? (v : Json.Value) : Option Json.Value :=
  v.member? "code" <|> v.member? "Code" <|> (v.member? "error").bind (·.member? "code")

def inJson : ErrorCodeParser := fun body =>
  match Json.ofBytes body with
  | .ok v => pure ((codeMember? v).bind valueText?)
  | .error trouble => do
    note (.malformedJson (trouble.message body))
    pure none

/-- The code in a body whose first byte that is no blank tells whether it is JSON or XML. -/
def detect : ErrorCodeParser := fun body =>
  match body.find? fun b => !Text.isAsciiBlank b with
  | some 0x7b => inJson body
  | some 0x3c => inXml defaultElement body
  | _ => pure none

end ErrorCode

end Courier
