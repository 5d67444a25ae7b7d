import Courier.Text.Quoted

/-!
Failures of a send before a response came. A timeout or a lost connection may be gone at the next try; a
failure of the secure channel or a request that cannot be written will not.
-/
namespace Courier

/-- An error behind an error: its text, and the texts of the errors behind it, nearest first. -/
structure Cause where
  text : String
  deeper : List String := []
  deriving DecidableEq, Repr

def Cause.texts (c : Cause) : List String := c.text :: c.deeper

/-- Why a send brought no response. Each failure names the endpoint. -/
inductive TransportError where
  | timeout (endpoint : String)
  | connection (endpoint : String) (cause : Cause)
  | tls (endpoint : String) (cause : Cause)
  | invalidRequest (endpoint reason : String)
  deriving DecidableEq, Repr

namespace TransportError

def endpoint : TransportError → String
  | timeout endpoint | connection endpoint _ | tls endpoint _ | invalidRequest endpoint _ => endpoint

def message : TransportError → String
  | timeout endpoint => s!"timeout sending request to {endpoint}"
  | connection endpoint cause => s!"connection error sending request to {endpoint}: {cause.text}"
  | tls endpoint cause => s!"TLS error sending request to {endpoint}: {cause.text}"
  | invalidRequest endpoint reason => s!"invalid request to {endpoint}: {reason}"

/-- The texts of the errors behind this one, nearest first. -/
def causes : TransportError → List String
  | connection _ cause | tls _ cause => cause.texts
  | timeout _ | invalidRequest _ _ => []

def describe (foreign : Cause → String) : TransportError → String
  | timeout endpoint => Text.record "Timeout" [("endpoint", Text.quoted endpoint)]
  | connection endpoint cause =>
    Text.record "Connection" [("endpoint", Text.quoted endpoint), ("source", foreign cause)]
  | tls endpoint cause =>
    Text.record "Tls" [("endpoint", Text.quoted endpoint), ("source", foreign cause)]
  | invalidRequest endpoint reason =>
    Text.record "InvalidRequest"
      [("endpoint", Text.quoted endpoint), ("reason", Text.quoted reason)]

/-- May another send succeed? -/
def isTransient : TransportError → Bool
  | timeout _ | connection _ _ => true
  | tls _ _ | invalidRequest _ _ => false

end TransportError

end Courier
