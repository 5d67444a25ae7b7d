import Courier.Filter.Chain

/-!
Filters ready for use: basic credentials, fixed headers, and small ones that change one part of a
request.
-/
namespace Courier.Filter

/-- The credentials of HTTP basic authentication: user and password with a colon between them, in
base64. -/
def basicCredentials (user password : String) : String :=
  "Basic " ++ Base64.encode (Text.utf8 (user ++ ":" ++ password))

def basicAuthId : String := "basic-auth"

/-- Puts basic credentials on the request; both parts must be there. -/
def basicAuth (user password : String) : Filter where
  id := basicAuthId
  transform := fun _ request =>
    if user.isEmpty || password.isEmpty then .error (.missingCredentials basicAuthId)
    else .ok (request.withReplacedHeader "Authorization" (basicCredentials user password))

/-- The description of the filter with these credentials. The password is not in it. -/
def describeBasicAuth (user : String) : String :=
  Text.record "BasicAuthFilter"
    [("username", Text.quoted user), ("password", Text.quoted Header.redacted)]

/-- Sets headers, each in place of the values it had. -/
def setHeaders (id : String) (headers : Headers) : Filter where
  id := id
  transform := fun _ request =>
    .ok (headers.foldl (fun request h => request.withReplacedHeader h.name h.value) request)

def addHeader (id name value : String) : Filter where
  id := id
  transform := fun _ request => .ok (request.withHeader name value)

/-- Adds a header line with the first value of another header, or `absent`. -/
def copyHeader (id name target : String) : Filter where
  id := id
  transform := fun _ request =>
    .ok (request.withHeader target ((request.header name).getD "absent"))

/-- Puts the body between two texts, as a new payload in memory. -/
def envelope (id : String) (before after : Bytes) : Filter where
  id := id
  transform := fun fresh request =>
    .ok (request.withPayload
      (some ⟨fresh, Payload.ofBytes (before ++ request.memoryBytes ++ after)⟩))

/-- Gives the request a new body that can be read once. -/
def oneShot (id : String) (data : Bytes) : Filter where
  id := id
  transform := fun fresh request =>
    .ok (request.withPayload (some ⟨fresh, Payload.ofStream (.ofBytes data)⟩))

def dropPayload (id : String) : Filter where
  id := id
  transform := fun _ request => .ok (request.withPayload none)

def setMethod (id : String) (method : Method) : Filter where
  id := id
  transform := fun _ request => .ok (request.withMethod method)

/-- Sets the endpoint; fails if the text is no URL. -/
def setEndpoint (id endpoint : String) : Filter where
  id := id
  transform := fun _ request =>
    match Url.ofText? endpoint with
    | some url => .ok (request.withEndpoint url)
    | none => .error (.failed id "bad url")

def reject (id reason : String) : Filter where
  id := id
  transform := fun _ request => .error (.rejected id request.endpoint.text reason)

def fail (id error : String) : Filter where
  id := id
  transform := fun _ _ => .error (.failed id error)

end Courier.Filter
