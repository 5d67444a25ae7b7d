import Courier.Text.Utf8

/-!
What can be wrong with a JSON text, and where. A fault is found after some number of bytes; in messages
the place is given by line and column.
-/
namespace Courier.Json

/-- What is wrong. -/
inductive Fault where
  | endInList | endInObject | endInString | endInValue
  | expectedColon | expectedListCommaOrEnd | expectedObjectCommaOrEnd
  | expectedIdent | expectedValue
  | invalidEscape | invalidNumber | numberOutOfRange | invalidUnicode
  | controlCharacter | keyMustBeString | loneSurrogate
  | trailingComma | trailingCharacters | endOfHexEscape | recursionLimit
  /-- The text is well formed up to here but not what the reader wants. -/
  | unwanted
  deriving DecidableEq, Repr

/-- The kinds of faults: not JSON, JSON of the wrong shape, or JSON cut short. -/
inductive Category where
  | malformed | unwanted | cutShort
  deriving DecidableEq, Repr

def Category.name : Category → String
  | malformed => "Syntax"
  | unwanted => "Data"
  | cutShort => "Eof"

namespace Fault

def category : Fault → Category
  | endInList | endInObject | endInString | endInValue => .cutShort
  | unwanted => .unwanted
  | _ => .malformed

def message : Fault → String
  | endInList => "EOF while parsing a list"
  | endInObject => "EOF while parsing an object"
  | endInString => "EOF while parsing a string"
  | endInValue => "EOF while parsing a value"
  | expectedColon => "expected `:`"
  | expectedListCommaOrEnd => "expected `,` or `]`"
  | expectedObjectCommaOrEnd => "expected `,` or `\x7d`"
  | expectedIdent => "expected ident"
  | expectedValue => "expected value"
  | invalidEscape => "invalid escape"
  | invalidNumber => "invalid number"
  | numberOutOfRange => "number out of range"
  | invalidUnicode => "invalid unicode code point"
  | controlCharacter => "control character (\\u0000-\\u001F) found while parsing a string"
  | keyMustBeString => "key must be a string"
  | loneSurrogate => "lone leading surrogate in hex escape"
  | trailingComma => "trailing comma"
  | trailingCharacters => "trailing characters"
  | endOfHexEscape => "unexpected end of hex escape"
  | recursionLimit => "recursion limit exceeded"
  | unwanted => "unexpected value"

end Fault

/-- A fault with the number of bytes read when it was found. -/
structure Trouble where
  fault : Fault
  index : Nat
  deriving DecidableEq, Repr

/-- The line of a place, counted from 1, and the bytes before the place in that line. -/
def position (text : Bytes) (index : Nat) : Nat × Nat :=
  (text.take index).foldl (fun (place : Nat × Nat) b =>
    if b == 0x0a then (place.1 + 1, 0) else (place.1, place.2 + 1)) (1, 0)

def Trouble.message (t : Trouble) (text : Bytes) : String :=
  let (line, column) := position text t.index
  s!"{t.fault.message} at line {line} column {column}"

/-- A place in a text: the bytes still to come, and how many came before. -/
structure Cursor where
  rest : Bytes
  index : Nat := 0
  deriving DecidableEq, Repr

namespace Cursor

def skip (c : Cursor) : Cursor := ⟨c.rest.drop 1, if c.rest.isEmpty then c.index else c.index + 1⟩

def skipMany (c : Cursor) (n : Nat) : Cursor := ⟨c.rest.drop n, c.index + (c.rest.take n).length⟩

def skipBlanks (c : Cursor) : Cursor :=
  c.skipMany (c.rest.takeWhile fun b => b == 0x20 || b == 0x0a || b == 0x09 || b == 0x0d).length

def peek (c : Cursor) : Option UInt8 := c.rest.head?

def fail {α : Type} (c : Cursor) (fault : Fault) : Except Trouble α := .error ⟨fault, c.index⟩

def failNext {α : Type} (c : Cursor) (fault : Fault) : Except Trouble α :=
  .error ⟨fault, c.skip.index⟩

end Cursor

end Courier.Json
