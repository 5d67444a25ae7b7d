import Courier.Http.Method
import Courier.Payload.Basic
import Courier.Url.Reader

/-!
Requests. A request is a value: every change gives a new one. The payload is shared between a request and
those derived from it, so a request holds it under a name; what has happened to it is looked up by that
name. A request also remembers the filters it has been through.
-/
namespace Courier

/-- The name of a payload object: one that a request was given, or one that the filter at some position
made in some round of filtering for a command. -/
inductive PayloadId where
  | given (n : Nat)
  | made (command round position : Nat)
  deriving DecidableEq, Repr

/-- A payload that requests share. -/
structure SharedPayload where
  id : PayloadId
  payload : Payload

/-- What has happened to each payload object. -/
abbrev Lives := PayloadId → Life

namespace Lives

def fresh : Lives := fun _ => {}

def set (lives : Lives) (id : PayloadId) (life : Life) : Lives :=
  fun other => if other = id then life else lives other

@[simp] theorem set_same (lives : Lives) (id : PayloadId) (life : Life) :
    lives.set id life id = life := by
  simp [set]

theorem set_other (lives : Lives) {id other : PayloadId} (life : Life) (h : other ≠ id) :
    lives.set id life other = lives other := by
  simp [set, h]

end Lives

structure Request where
  method : Method := .get
  endpoint : Url
  headers : Headers := []
  payload : Option SharedPayload := none
  appliedFilters : List String := []

def invalidEndpointMessage (endpoint : String) : String :=
  s!"invalid endpoint URL: {endpoint}"

namespace Request

/-- Checks that a request can be sent to its endpoint; the error names the endpoint. -/
def checkEndpoint (r : Request) : Except String Request :=
  if r.endpoint.isHttp then .ok r else .error r.endpoint.text

/-- The endpoint that a text stands for; the error repeats the text. -/
def readEndpoint (text : String) : Except String Url :=
  match Url.ofText? text with
  | some url => .ok url
  | none => .error text

/-- A request from its parts; the endpoint must be an absolute URL with scheme `http` or `https`. -/
def build (method : Method) (endpoint : String) (headers : Headers)
    (payload : Option SharedPayload) : Except String Request := do
  checkEndpoint { method, endpoint := ← readEndpoint endpoint, headers, payload }

def header (r : Request) (name : String) : Option String := r.headers.first? name

def headerValues (r : Request) (name : String) : List String := r.headers.values name

def hasFilter (r : Request) (id : String) : Bool := r.appliedFilters.contains id

def withEndpoint (r : Request) (endpoint : Url) : Request := { r with endpoint }

def withMethod (r : Request) (method : Method) : Request := { r with method }

def withHeader (r : Request) (name value : String) : Request :=
  { r with headers := r.headers.add name value }

def withReplacedHeader (r : Request) (name value : String) : Request :=
  { r with headers := r.headers.replace name value }

def withoutHeader (r : Request) (name : String) : Request :=
  { r with headers := r.headers.without name }

def withPayload (r : Request) (payload : Option SharedPayload) : Request := { r with payload }

def withAppliedFilter (r : Request) (id : String) : Request :=
  { r with appliedFilters := r.appliedFilters ++ [id] }

/-- The payload's content, if it is held in memory. -/
def memoryBytes (r : Request) : Bytes := (r.payload.bind (·.payload.bytes?)).getD []

/-- The request's description. Values of headers that carry credentials are not in it. -/
def describe (r : Request) (lives : Lives) : String :=
  Text.record "HttpRequest"
    [("method", r.method.label), ("endpoint", Text.quoted r.endpoint.text),
     ("headers", r.headers.shown),
     ("payload", Text.optional (r.payload.map fun p => p.payload.describe (lives p.id))),
     ("applied_filters", Text.quotedList r.appliedFilters)]

end Request

end Courier
