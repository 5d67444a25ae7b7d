import Courier.Text.Ascii

/-!
Header lists. Names compare without regard to ASCII letter case, names may repeat, and the order is kept.
Values of headers that carry credentials are never shown: `Header.shown` puts a placeholder in their
place.
-/
namespace Courier

structure Header where
  name : String
  value : String
  deriving DecidableEq, Repr

abbrev Headers := List Header

namespace Header

def isNamed (h : Header) (name : String) : Bool := Text.sameName h.name name

def redacted : String := "[REDACTED]"

def sensitiveNames : List String :=
  ["authorization", "proxy-authorization", "cookie", "set-cookie", "x-auth-token"]

/-- Parts of names that speak of credentials. -/
def sensitiveParts : List String :=
  ["token", "secret", "signature", "password", "credential"]

def isSensitive (name : String) : Bool :=
  let lower := Text.lowerAscii name
  sensitiveNames.contains lower ||
    sensitiveParts.any fun part => Text.holds part.toList lower.toList

/-- The value as it may be shown. -/
def shownValue (h : Header) : String :=
  if isSensitive h.name then redacted else h.value

def shown (h : Header) : String := h.name ++ ": " ++ h.shownValue

end Header

namespace Headers

def first? (headers : Headers) (name : String) : Option String :=
  (headers.find? (·.isNamed name)).map (·.value)

def values (headers : Headers) (name : String) : List String :=
  (headers.filter (·.isNamed name)).map (·.value)

/-- The lines of all other headers. -/
def without (headers : Headers) (name : String) : Headers :=
  headers.filter fun h => !h.isNamed name

def add (headers : Headers) (name value : String) : Headers :=
  headers ++ [⟨name, value⟩]

/-- `headers` with this line at the end as the only one of its name. -/
def replace (headers : Headers) (name value : String) : Headers :=
  (headers.without name).add name value

def shown (headers : Headers) : String :=
  "\x7b" ++ ", ".intercalate (headers.map Header.shown) ++ "\x7d"

end Headers

end Courier
