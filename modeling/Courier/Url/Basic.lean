/-!
URLs in their parts, and the text they are written as. A URL whose scheme belongs to the web always has a
host and a rooted path. The target of a request is a URL with scheme `http` or `https`.
-/
namespace Courier

/-- Who is asked and where: user and password, host, and a port that is not the scheme's own. -/
structure Authority where
  user : String := ""
  /-- A password that is not empty. -/
  password : Option String := none
  host : String
  port : Option Nat := none
  deriving DecidableEq, Repr

/-- A path: segments below a root, or for schemes without hierarchy any text. -/
inductive UrlPath where
  | rooted (segments : List String)
  | rootless (text : String)
  deriving DecidableEq, Repr

/-- A URL in its parts, each already encoded as it is written. -/
structure Url where
  scheme : String
  authority : Option Authority
  path : UrlPath
  query : Option String := none
  fragment : Option String := none
  deriving DecidableEq, Repr

namespace Authority

/-- User and password with their separators, or nothing. -/
def credentials (a : Authority) : String :=
  if a.user.isEmpty && a.password.isNone then ""
  else a.user ++ (a.password.map (":" ++ ·)).getD "" ++ "@"

def text (a : Authority) : String :=
  a.credentials ++ a.host ++ (a.port.map fun port => s!":{port}").getD ""

end Authority

namespace UrlPath

def segments : UrlPath → List String
  | rooted segments => segments
  | rootless _ => []

def text : UrlPath → String
  | rooted segments => String.join (segments.map ("/" ++ ·))
  | rootless text => text

/-- Would the path without a host before it be taken for a host? -/
def looksLikeHost : UrlPath → Bool
  | rooted ("" :: _ :: _) => true
  | _ => false

end UrlPath

namespace Url

/-- The schemes of the web with their ports; `file` has none. -/
def specialPorts : List (String × Option Nat) :=
  [("http", some 80), ("https", some 443), ("ws", some 80), ("wss", some 443), ("ftp", some 21),
   ("file", none)]

def isSpecialScheme (scheme : String) : Bool := specialPorts.any (·.1 == scheme)

/-- The port that a scheme has when none is given. -/
def defaultPort? (scheme : String) : Option Nat :=
  (specialPorts.find? (·.1 == scheme)).bind (·.2)

/-- Can a request be sent to the URL? -/
def isHttp (u : Url) : Bool := u.scheme == "http" || u.scheme == "https"

def textBeforeFragment (u : Url) : String :=
  u.scheme ++ ":"
    ++ (match u.authority with
        | some a => "//" ++ a.text
        | none => if u.path.looksLikeHost then "/." else "")
    ++ u.path.text
    ++ (u.query.map ("?" ++ ·)).getD ""

def text (u : Url) : String :=
  u.textBeforeFragment ++ (u.fragment.map ("#" ++ ·)).getD ""

end Url

end Courier
