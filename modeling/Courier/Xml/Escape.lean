import Courier.Codec.Hex

/-!
Escapes in XML texts: the five predefined entities, and characters by their code points in decimal or
hexadecimal. A text with any other entity, or with an `&` that no `;` ends, cannot be read.
-/
namespace Courier.Xml

def entities : List (String × Char) :=
  [("lt", '<'), ("gt", '>'), ("amp", '&'), ("apos", '\''), ("quot", '"')]

/-- The number that digits of a base stand for; there is at least one digit. -/
def codePoint? (base : Nat) (digits : List Char) : Option Nat :=
  if digits.isEmpty then none
  else digits.foldl (fun n? c => do
    let n ← n?
    let v ← Hex.value? c
    if v < base then some (base * n + v) else none) (some 0)

/-- The character that stands for what is between `&` and `;`. -/
def entity? (name : List Char) : Option Char :=
  match name with
  | '#' :: digits => do
    let n ← match digits with
      | 'x' :: digits => codePoint? 16 digits
      | _ => codePoint? 10 digits
    if h : n ≠ 0 ∧ n.isValidChar then some (Char.ofNatAux n h.2) else none
  | _ => (entities.find? fun (entity, _) => entity.toList = name).map (·.2)

/-- Reads a text that may hold escapes; `read` holds the characters so far, newest first, and `open?`
those since an `&`, newest first. -/
def readEscaped (read : List Char) : (open? : Option (List Char)) → List Char → Option (List Char)
  | none, [] => some read.reverse
  | some _, [] => none
  | none, '&' :: rest => readEscaped read (some []) rest
  | none, c :: rest => readEscaped (c :: read) none rest
  | some _, '&' :: _ => none
  | some name, ';' :: rest =>
    match entity? name.reverse with
    | some c => readEscaped (c :: read) none rest
    | none => none
  | some name, c :: rest => readEscaped read (some (c :: name)) rest

def unescape? (written : List Char) : Option (List Char) := readEscaped [] none written

end Courier.Xml
