import Courier.Text.Ascii

/-!
Request methods. Main statement: a method is read back from its name in any letter case
(`ofName?_name`).
-/
namespace Courier

inductive Method where
  | get | head | put | post | delete | patch | options
  deriving DecidableEq, Repr

namespace Method

def name : Method → String
  | get => "GET"
  | head => "HEAD"
  | put => "PUT"
  | post => "POST"
  | delete => "DELETE"
  | patch => "PATCH"
  | options => "OPTIONS"

/-- The name in words, as a request's description shows it. -/
def label : Method → String
  | get => "Get"
  | head => "Head"
  | put => "Put"
  | post => "Post"
  | delete => "Delete"
  | patch => "Patch"
  | options => "Options"

def all : List Method := [get, head, put, post, delete, patch, options]

/-- The method with this name, in whatever letter case. -/
def ofName? (text : String) : Option Method :=
  all.find? fun method => method.name == Text.upperAscii text

/-- May the request be repeated without changing what the first one left behind? All methods but
`POST` and `PATCH` promise that. -/
def isIdempotent : Method → Bool
  | post | patch => false
  | _ => true

def unsupportedMessage (text : String) : String :=
  s!"unsupported HTTP method: {text}"

theorem ofName?_name (method : Method) : ofName? method.name = some method := by
  cases method <;> decide

end Method

end Courier
