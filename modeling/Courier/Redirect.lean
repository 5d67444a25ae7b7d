import Courier.Command.Error
import Courier.Http.Request

/-!
Following redirects. A response that redirects and says where leads to the next request: the same method,
headers and body at the new endpoint, except that "see other" asks for the other place without a body.
The number of hops is limited, and a redirect never leaves `http` and `https`.
-/
namespace Courier

/-- Whether redirects are followed, and how many in one attempt. -/
structure RedirectPolicy where
  maxRedirects : Nat
  follow : Bool := true
  deriving DecidableEq, Repr

namespace RedirectPolicy

/-- The hops that are followed unless told otherwise. -/
def defaultMax : Nat := 5

/-- Follows up to `maxRedirects` hops in one attempt. -/
def upTo (maxRedirects : Nat) : RedirectPolicy := ⟨maxRedirects, true⟩

/-- Follows none: a redirecting response is the result. -/
def none : RedirectPolicy := ⟨0, false⟩

def statuses : List Nat := [301, 302, 303, 307, 308]

/-- The status that asks for another place with `GET`. -/
def seeOther : Nat := 303

/-- Is the response a redirect that is followed? -/
def isRedirect (policy : RedirectPolicy) (response : Response) : Bool :=
  policy.follow && statuses.contains response.status && (response.header "Location").isSome

def resolve (base : Url) (location : String) : Except CommandError Url :=
  match Url.resolve? base location with
  | some target =>
    if target.isHttp then .ok target else .error (.invalidRedirect base.text location)
  | Option.none => .error (.invalidRedirect base.text location)

/-- The request at the place a response points to. -/
def hop (request : Request) (status : Nat) (target : Url) : Request :=
  let next := request.withEndpoint target
  if status = seeOther ∧ request.method ≠ .get ∧ request.method ≠ .head then
    (next.withMethod .get).withPayload Option.none
  else next

/-- The next request after `hops` redirects, if the response is one more. -/
def nextRequest (policy : RedirectPolicy) (request : Request) (response : Response) (hops : Nat) :
    Noted (Except CommandError (Option Request)) :=
  if !policy.isRedirect response then pure (.ok Option.none)
  else if policy.maxRedirects ≤ hops then
    pure (.error (.tooManyRedirects request.endpoint.text policy.maxRedirects))
  else
    match resolve request.endpoint ((response.header "Location").getD "") with
    | .error e => pure (.error e)
    | .ok target => do
      note (.followingRedirect response.status request.endpoint.text target.text)
      pure (.ok (some (hop request response.status target)))

end RedirectPolicy

end Courier
