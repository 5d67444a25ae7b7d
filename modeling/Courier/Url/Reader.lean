import Courier.Url.Address
import Courier.Url.Basic
import Courier.Url.Domain
import Courier.Url.Percent

/-!
Reading URLs by the rules that browsers follow, absolute (`Url.ofText?`) or relative to another URL
(`Url.resolve?`). Blanks and controls at the ends are dropped, tabs and line
breaks everywhere. For the schemes of the web a backslash counts as a slash.
-/
namespace Courier.Url

def isSlash (special : Bool) (c : Char) : Bool := c == '/' || (special && c == '\\')

def endsPath (c : Char) : Bool := c == '?' || c == '#'

/-- Drops what a reader of URLs does not look at. -/
def clean (text : List Char) : List Char :=
  let blank (c : Char) : Bool := c.toNat ≤ 0x20
  let trimmed := ((text.dropWhile blank).reverse.dropWhile blank).reverse
  trimmed.filter fun c => c != '\t' && c != '\n' && c != '\r'

/-- Cuts off the scheme, in small letters, with its colon. -/
def splitScheme : List Char → Option (List Char × List Char)
  | [] => none
  | first :: rest =>
    if first.isAlpha then
      let more := rest.takeWhile fun c => c.isAlphanum || c == '+' || c == '-' || c == '.'
      match rest.drop more.length with
      | ':' :: after => some ((first :: more).map Char.toLower, after)
      | _ => none
    else none

/-- Cuts off query and fragment, both after what comes before them. -/
def splitTail (text : List Char) : List Char × Option (List Char) × Option (List Char) :=
  let before := text.takeWhile fun c => !endsPath c
  match text.drop before.length with
  | '?' :: rest =>
    let query := rest.takeWhile (· ≠ '#')
    match rest.drop query.length with
    | _ :: fragment => (before, some query, some fragment)
    | [] => (before, some query, none)
  | _ :: fragment => (before, none, some fragment)
  | [] => (before, none, none)

def withTail (url : Url) (query fragment : Option (List Char)) : Url :=
  { url with
    query := query.map fun q =>
      String.ofList (percentEncode (inQuery (isSpecialScheme url.scheme)) q)
    fragment := fragment.map fun f => String.ofList (percentEncode inFragment f) }

/-! ### Paths -/

def splitSlashes (special : Bool) (path : List Char) : List (List Char) :=
  path.foldr (fun c pieces =>
    if isSlash special c then [] :: pieces
    else
      match pieces with
      | piece :: pieces => (c :: piece) :: pieces
      | [] => [[c]]) [[]]

/-- `segment` with encoded dots as dots. -/
def plainDots (segment : List Char) : List Char :=
  match segment with
  | '%' :: '2' :: 'e' :: rest | '%' :: '2' :: 'E' :: rest => '.' :: plainDots rest
  | c :: rest => c :: plainDots rest
  | [] => []

/-- A letter and a colon or bar: the name of a drive. -/
def isDrive : List Char → Bool
  | [letter, mark] => letter.isAlpha && (mark == ':' || mark == '|')
  | _ => false

/-- The segments above the last one. The name of a drive at the root of a file path stays. -/
def parent (isFile : Bool) : List String → List String
  | [drive] => if isFile && isDrive drive.toList then [drive] else []
  | above => above.drop 1

/-- Walks down the segments of a path from `above`, the segments so far with the last one first: one dot
stays, two dots go up, and a path that ends in dots ends in an empty segment. -/
def walk (isFile : Bool) (above : List String) : List (List Char) → List String
  | [] => above
  | segment :: rest =>
    match plainDots segment with
    | ['.', '.'] =>
      let above := parent isFile above
      walk isFile (if rest.isEmpty then "" :: above else above) rest
    | ['.'] => walk isFile (if rest.isEmpty then "" :: above else above) rest
    | _ =>
      let written :=
        if isFile && above.isEmpty && isDrive segment then segment.take 1 ++ [':']
        else percentEncode inPath segment
      walk isFile (String.ofList written :: above) rest

/-- A file path has no empty segments at its root. -/
def dropEmptyRoots : List String → List String
  | "" :: segment :: rest => dropEmptyRoots (segment :: rest)
  | segments => segments

/-- The path that is reached from the segments `base` by `path`, the text after a slash. -/
def pathFrom (scheme : String) (base : List String) (path : List Char) : UrlPath :=
  let isFile := scheme == "file"
  let segments := (walk isFile base.reverse (splitSlashes (isSpecialScheme scheme) path)).reverse
  .rooted (if isFile then dropEmptyRoots segments else segments)

/-! ### Authorities -/

def userInfo (text : List Char) : String × Option String :=
  let user := text.takeWhile (· ≠ ':')
  let password := (text.drop user.length).drop 1
  let encode (part : List Char) := String.ofList (percentEncode inUserInfo part)
  (encode user, if password.isEmpty then none else some (encode password))

def splitLastAt (text : List Char) : Option (List Char × List Char) :=
  if text.contains '@' then
    let after := (text.reverse.takeWhile (· ≠ '@')).reverse
    some (text.take (text.length - after.length - 1), after)
  else none

/-- Cuts a host from its port: at the first colon outside brackets. -/
def splitPort (inBrackets : Bool) : List Char → List Char × Option (List Char)
  | [] => ([], none)
  | c :: rest =>
    if c == ':' && !inBrackets then ([], some rest)
    else
      let (host, port) := splitPort (if c == '[' then true else if c == ']' then false else inBrackets) rest
      (c :: host, port)

/-- Characters that the host of another scheme never has. -/
def isForbiddenInHost (c : Char) : Bool :=
  ['\x00', ' ', '#', '/', ':', '<', '>', '?', '@', '[', '\\', ']', '^', '|'].contains c

def host? (special : Bool) (text : List Char) : Option String :=
  match text with
  | '[' :: rest =>
    match rest.reverse with
    | ']' :: inner => (ipv6? inner.reverse).map fun pieces => "[" ++ ipv6Text pieces ++ "]"
    | _ => none
  | _ =>
    if special then do
      let name ← domain? text
      if name.isEmpty then none
      if endsInNumber name then (ipv4? name).map ipv4Text else some (String.ofList name)
    else if text.any isForbiddenInHost then none
    else some (String.ofList (percentEncode isControl text))

/-- Reads a port: nothing, or a number below `2 ^ 16`. The scheme's own port is not kept. -/
def port? (scheme : String) (text : List Char) : Option (Option Nat) :=
  if text.isEmpty then some none
  else if text.all Char.isDigit then do
    let n ← ofDigits? 10 text
    if n ≤ 65535 then some (if defaultPort? scheme == some n then none else some n) else none
  else none

def authority? (scheme : String) (text : List Char) : Option Authority := do
  let special := isSpecialScheme scheme
  let (user, password, rest) ←
    match splitLastAt text with
    | none => some ("", none, text)
    | some ([], rest) => if rest.isEmpty then none else some ("", none, rest)
    | some (before, rest) =>
      let (user, password) := userInfo before
      some (user, password, rest)
  let (hostText, portText) := splitPort false rest
  if hostText.isEmpty && (special || portText.isSome) then none
  let host ← host? special hostText
  if host.isEmpty && !(user.isEmpty && password.isNone) then none
  let port ← port? scheme (portText.getD [])
  some ⟨user, password, host, port⟩

def afterSlashes? (scheme : String) (text : List Char) : Option Url := do
  let special := isSpecialScheme scheme
  let (before, query, fragment) := splitTail text
  let authorityText := before.takeWhile fun c => !isSlash special c
  let authority ← authority? scheme authorityText
  let path :=
    match before.drop authorityText.length with
    | _ :: rest => pathFrom scheme [] rest
    | [] => if special then .rooted [""] else .rooted []
  some (withTail ⟨scheme, some authority, path, none, none⟩ query fragment)

/-- Reads what follows `file:`. A host may stand between two slashes and the path; `localhost` and a
drive are no hosts. -/
def file? (text : List Char) : Option Url := do
  let (before, query, fragment) := splitTail text
  let make (host : String) (path : List Char) : Url :=
    withTail ⟨"file", some { host := host }, pathFrom "file" [] path, none, none⟩ query fragment
  match before with
  | a :: b :: rest =>
    if isSlash true a && isSlash true b then
      let hostText := rest.takeWhile fun c => !isSlash true c
      if isDrive hostText then some (make "" rest)
      else
        let path := (rest.drop hostText.length).drop 1
        if hostText.isEmpty then some (make "" path)
        else do
          let host ← host? true hostText
          some (make (if host == "localhost" then "" else host) path)
    else if isSlash true a then some (make "" (b :: rest))
    else some (make "" before)
  | _ => some (make "" (if before.all (isSlash true) then [] else before))

/-- Reads what follows the colon of a scheme without a base. -/
def afterScheme? (scheme : String) (text : List Char) : Option Url :=
  if scheme == "file" then file? text
  else if isSpecialScheme scheme then afterSlashes? scheme (text.dropWhile (isSlash true))
  else
    match text with
    | '/' :: '/' :: rest => afterSlashes? scheme rest
    | '/' :: rest =>
      let (before, query, fragment) := splitTail rest
      some (withTail ⟨scheme, none, pathFrom scheme [] before, none, none⟩ query fragment)
    | _ =>
      let (before, query, fragment) := splitTail text
      some (withTail ⟨scheme, none, .rootless (String.ofList (percentEncode isControl before)),
        none, none⟩ query fragment)

/-- Reads a reference without a scheme of its own: what it leaves out is taken from `base`. -/
def relative? (base : Url) (text : List Char) : Option Url :=
  match text with
  | [] => some { base with fragment := none }
  | '#' :: fragment => some (withTail base none (some fragment) |> fun u => { u with query := base.query })
  | '?' :: _ =>
    let (_, query, fragment) := splitTail text
    some (withTail base query fragment)
  | c :: rest =>
    if isSlash true c then
      match rest with
      | d :: after =>
        if isSlash true d then
          afterSlashes? base.scheme
            (if c == '/' && d == '/' then after else after.dropWhile (isSlash true))
        else
          let (before, query, fragment) := splitTail rest
          some (withTail { base with path := pathFrom base.scheme [] before } query fragment)
      | [] => some (withTail { base with path := pathFrom base.scheme [] [] } none none)
    else
      let (before, query, fragment) := splitTail text
      some (withTail { base with path := pathFrom base.scheme base.path.segments.dropLast before }
        query fragment)

/-- The URL that an absolute text stands for. A host name outside ASCII is neither composed (NFC) nor mapped as UTS 46
asks, but for letter case and full-width ASCII (`domain?`): a name that only these rules bring into its usual form
gives another host here. -/
def ofText? (text : String) : Option Url := do
  let (scheme, rest) ← splitScheme (clean text.toList)
  afterScheme? (String.ofList scheme) rest

/-- The URL that a reference found at `base` stands for. -/
def resolve? (base : Url) (reference : String) : Option Url :=
  let text := clean reference.toList
  match splitScheme text with
  | some (scheme, rest) =>
    let scheme := String.ofList scheme
    let slashes := (rest.takeWhile (isSlash true)).length
    if isSpecialScheme scheme && scheme != "file" && slashes < 2 && base.scheme == scheme then
      relative? base rest
    else afterScheme? scheme rest
  | none =>
    match base.path, text with
    | .rootless _, '#' :: _ => relative? base text
    | .rootless _, _ => none
    | _, _ => relative? base text

end Courier.Url
