import Courier.Json.Scalar

/-!
JSON values and their reader. Nesting is bounded; an object keeps its members in the order of the text,
and of two members with one name the later counts.
-/
namespace Courier.Json

inductive Value where
  | null
  | boolean (b : Bool)
  | number (n : Number)
  | text (s : String)
  | list (items : List Value)
  | object (members : List (String × Value))

def Value.member? (v : Value) (name : String) : Option Value :=
  match v with
  | .object members => (members.reverse.find? (·.1 == name)).map (·.2)
  | _ => none

/-- What may follow an item of a list: `true` if one more item does. -/
def moreItems (first : Bool) (c : Cursor) : Except Trouble (Bool × Cursor) :=
  let c := c.skipBlanks
  match c.peek with
  | none => c.failNext .endInList
  | some 0x5d => .ok (false, c)
  | some b =>
    if first then .ok (true, c)
    else if b == 0x2c then
      let c := c.skip.skipBlanks
      match c.peek with
      | none => c.failNext .endInValue
      | some 0x5d => c.failNext .trailingComma
      | some _ => .ok (true, c)
    else c.failNext .expectedListCommaOrEnd

/-- What may follow a member of an object: `true` if one more name does. -/
def moreMembers (first : Bool) (c : Cursor) : Except Trouble (Bool × Cursor) :=
  let c := c.skipBlanks
  match c.peek with
  | none => c.failNext .endInObject
  | some 0x7d => .ok (false, c)
  | some b =>
    if first then if b == 0x22 then .ok (true, c) else c.failNext .keyMustBeString
    else if b == 0x2c then
      let c := c.skip.skipBlanks
      match c.peek with
      | none => c.failNext .endInValue
      | some 0x22 => .ok (true, c)
      | some 0x7d => c.failNext .trailingComma
      | some _ => c.failNext .keyMustBeString
    else c.failNext .expectedObjectCommaOrEnd

def readColon (c : Cursor) : Except Trouble Cursor :=
  let c := c.skipBlanks
  match c.peek with
  | some 0x3a => .ok c.skip
  | some _ => c.failNext .expectedColon
  | none => c.failNext .endInObject

/-- Reads the items of a list with `item`, up to the closing bracket; `read` holds the items so far,
newest first, and `fuel` is more than the bytes left. -/
def readItems {α : Type} (item : Cursor → Except Trouble (α × Cursor)) :
    Nat → List α → Cursor → Except Trouble (List α × Cursor)
  | 0, read, c => .ok (read.reverse, c)
  | fuel + 1, read, c => do
    match ← moreItems read.isEmpty c with
    | (false, c) => pure (read.reverse, c.skip)
    | (true, c) =>
      let (x, c) ← item c
      readItems item fuel (x :: read) c

/-- Reads the members of an object, up to the closing brace. -/
def readMembers (value : Cursor → Except Trouble (Value × Cursor)) :
    Nat → List (String × Value) → Cursor → Except Trouble (List (String × Value) × Cursor)
  | 0, read, c => .ok (read.reverse, c)
  | fuel + 1, read, c => do
    match ← moreMembers read.isEmpty c with
    | (false, c) => pure (read.reverse, c.skip)
    | (true, c) =>
      let (name, c) ← readQuoted c
      let c ← readColon c
      let (v, c) ← value c
      readMembers value fuel ((name, v) :: read) c

/-- How deep lists and objects may lie in one another. -/
def maxDepth : Nat := 127

/-- Reads a value in which lists and objects nest at most `depth` deep; `limit` is more than the bytes
left. -/
def readValue (limit : Nat) : Nat → Cursor → Except Trouble (Value × Cursor)
  | depth, c =>
    let c := c.skipBlanks
    match c.peek with
    | none => c.failNext .endInValue
    | some 0x6e => do pure (.null, ← readWord [0x75, 0x6c, 0x6c] c.skip)
    | some 0x74 => do pure (.boolean true, ← readWord [0x72, 0x75, 0x65] c.skip)
    | some 0x66 => do pure (.boolean false, ← readWord [0x61, 0x6c, 0x73, 0x65] c.skip)
    | some 0x22 => do
      let (s, c) ← readQuoted c
      pure (.text s, c)
    | some 0x2d => do
      let (n, c) ← readNumber true c.skip
      pure (.number n, c)
    | some 0x5b =>
      match depth with
      | 0 => c.failNext .recursionLimit
      | depth + 1 => do
        let (items, c) ← readItems (readValue limit depth) limit [] c.skip
        pure (.list items, c)
    | some 0x7b =>
      match depth with
      | 0 => c.failNext .recursionLimit
      | depth + 1 => do
        let (members, c) ← readMembers (readValue limit depth) limit [] c.skip
        pure (.object members, c)
    | some b =>
      if 0x30 ≤ b && b ≤ 0x39 then do
        let (n, c) ← readNumber false c
        pure (.number n, c)
      else c.failNext .expectedValue

def expectEnd (c : Cursor) : Except Trouble Unit :=
  let c := c.skipBlanks
  if c.peek.isSome then c.failNext .trailingCharacters else .ok ()

def ofBytes (text : Bytes) : Except Trouble Value := do
  let (v, c) ← readValue (text.length + 1) maxDepth ⟨text, 0⟩
  expectEnd c
  pure v

end Courier.Json
