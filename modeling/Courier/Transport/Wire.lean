import Courier.Filter.Basic
import Courier.Http.Response
import Courier.Transport.Error

/-!
Sending a request over the network. What goes on the wire is fixed here: the headers, those of the body's
description included, and the target. The network itself is a parameter (`Network`): what it makes of a
written request is either an answer or a failure, and both are turned into what the executor understands.
-/
namespace Courier

/-- The headers that a request is sent with: its own, and those of the body's description that it does
not have. -/
def Request.wireHeaders (r : Request) : Headers :=
  match r.payload with
  | none => r.headers
  | some p =>
    r.headers ++ p.payload.metadata.toHeaders.filter fun h => (r.header h.name).isNone

namespace Wire

def nameMarks : List Char :=
  ['!', '#', '$', '%', '&', '\'', '*', '+', '-', '.', '^', '_', '\x60', '|', '~']

def isName (name : String) : Bool :=
  !name.isEmpty && name.toList.all fun c => c.isAlphanum || nameMarks.contains c

def isValue (value : String) : Bool :=
  value.toList.all fun c => c == '\t' || !Url.isControl c

def isWritable (h : Header) : Bool := isName h.name && isValue h.value

/-- The lines with names in small letters, lines of one name together where its first one stands. -/
def grouped (headers : Headers) : Headers :=
  let lower := headers.map fun h => Header.mk (Text.lowerAscii h.name) h.value
  (lower.map (·.name)).eraseDups.flatMap fun name => lower.filter (·.name == name)

/-- A text that was percent encoded, if it is one. -/
def decoded? (text : String) : Option String := Text.ofUtf8? (Url.percentDecode (Text.utf8 text))

/-- The credentials that a URL carries, as a header value; without a name nor password there are none. -/
def credentials? (url : Url) : Option String := do
  let authority ← url.authority
  let user ← decoded? authority.user
  let password := authority.password.bind decoded?
  if user.isEmpty && password.isNone then none
  else some (Filter.basicCredentials user (password.getD ""))

def withoutCredentials (url : Url) : Url :=
  { url with authority := url.authority.map fun a => { a with user := "", password := none } }

/-- What goes on the wire before the body. -/
structure Written where
  method : Method
  target : Url
  headers : Headers
  deriving DecidableEq, Repr

/-- What a request looks like on the wire, if all its headers can be written. Credentials in the URL go
into a header. -/
def write? (r : Request) : Option Written :=
  if r.wireHeaders.all isWritable then
    let (target, first) := match credentials? r.endpoint with
      | some value => (withoutCredentials r.endpoint, [Header.mk "Authorization" value])
      | none => (r.endpoint, [])
    some ⟨r.method, target, grouped (first ++ r.wireHeaders)⟩
  else none

def unwritableReason : String := "builder error"

structure Answer where
  status : Nat
  headers : Headers
  body : Flow

/-- Why the network gave no answer: the time was up, or something with its causes. -/
inductive Failure where
  | timeout
  | other (cause : Cause)
  deriving DecidableEq, Repr

/-- Words by which a failure of the secure channel is told from other failures. -/
def securityWords : List String := ["certificate", "tls", "ssl", "handshake"]

/-- Does a text speak of the secure channel? -/
def speaksOfSecurity (text : String) : Bool :=
  securityWords.any fun word => Text.holds word.toList (Text.lowerAscii text).toList

/-- The failure as the executor sees it. -/
def Failure.toError (endpoint : String) : Failure → TransportError
  | timeout => .timeout endpoint
  | other cause =>
    if cause.texts.any speaksOfSecurity then .tls endpoint cause else .connection endpoint cause

/-- Statuses that no body comes with. -/
def bodilessStatuses : List Nat := [204, 304]

/-- The answer as the executor sees it. The body can be read once; its description is in the headers. -/
def Answer.toResponse (method : Method) (a : Answer) : Response where
  status := a.status
  headers := a.headers
  body :=
    if method = .head ∨ a.status ∈ bodilessStatuses then none
    else some ⟨(Payload.ofStream a.body).withMetadata (.ofHeaders a.headers), {}⟩

abbrev Network := Written → Except Failure Answer

def send (network : Network) (r : Request) : Noted (Except TransportError Response) :=
  let endpoint := r.endpoint.text
  match write? r with
  | none => pure (.error (.invalidRequest endpoint unwritableReason))
  | some written => do
    note (.wireRequest written.headers.shown)
    match network written with
    | .error failure => pure (.error (failure.toError endpoint))
    | .ok answer =>
      note (.wireResponse answer.status answer.headers.shown)
      note (.wireResponseReceived answer.status)
      pure (.ok (answer.toResponse r.method))

/-- The network of a host that is cut off: no connection is ever made. A secure connection would have
begun with a tunnel. -/
def unreachable : Network := fun written =>
  let tunnel := if written.target.scheme == "https" then
      ["tunnel error: failed to create underlying connection"]
    else []
  .error (.other
    ⟨s!"error sending request for url ({written.target.text})",
      ["client error (Connect)"] ++ tunnel ++
        ["tcp connect error", "Network is unreachable (os error 101)"]⟩)

end Wire

end Courier
