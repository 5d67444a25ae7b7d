import Courier.Codec.Hex
import Courier.Decimal.Shortest
import Courier.Json.Fault

/-!
Reading the JSON values that hold no others: words, strings and numbers. An integer that fits is kept as
it is; any other number becomes a floating-point number, from at most as many digits as a 64-bit word
holds, multiplied or divided by a power of ten.
-/
namespace Courier.Json

/-- A number: a natural number below `2 ^ 64`, a negative integer by its amount, at most `2 ^ 63`, or a
floating-point number with its sign. -/
inductive Number where
  | natural (n : Nat)
  | negative (amount : Nat)
  | float (isNegative : Bool) (x : Binary64)
  deriving DecidableEq, Repr

def Number.text : Number → String
  | natural n => toString n
  | negative amount => "-" ++ toString amount
  | float isNegative x => (if isNegative then "-" else "") ++ (Decimal.shortest x).text

def readWord (word : List UInt8) (c : Cursor) : Except Trouble Cursor :=
  match word with
  | [] => .ok c
  | w :: word =>
    match c.peek with
    | none => c.fail .endInValue
    | some b => if b == w then readWord word c.skip else c.skip.fail .expectedIdent

/-! ### Strings -/

def hexWord? (digits : Bytes) : Option Nat :=
  digits.foldl (fun n? b => do
    let n ← n?
    let v ← Hex.value? (Char.ofNat b.toNat)
    some (16 * n + v)) (some 0)

/-- Reads four hexadecimal digits `offset` bytes after `index`. -/
def readHexWord (index offset : Nat) (rest : Bytes) : Except Trouble Nat :=
  let digits := (rest.drop offset).take 4
  if digits.length < 4 then .error ⟨.endInString, index + rest.length⟩
  else
    match hexWord? digits with
    | some n => .ok n
    | none => .error ⟨.invalidEscape, index + offset + 4⟩

/-- Reads what follows a backslash at `index`: the bytes it stands for, and how many bytes were read. A
surrogate is half a character and needs its other half. -/
def readEscape (index : Nat) (rest : Bytes) : Except Trouble (Bytes × Nat) :=
  match rest with
  | [] => .error ⟨.endInString, index⟩
  | 0x22 :: _ => .ok ([0x22], 1)
  | 0x5c :: _ => .ok ([0x5c], 1)
  | 0x2f :: _ => .ok ([0x2f], 1)
  | 0x62 :: _ => .ok ([0x08], 1)
  | 0x66 :: _ => .ok ([0x0c], 1)
  | 0x6e :: _ => .ok ([0x0a], 1)
  | 0x72 :: _ => .ok ([0x0d], 1)
  | 0x74 :: _ => .ok ([0x09], 1)
  | 0x75 :: _ => do
    let first ← readHexWord index 1 rest
    if 0xdc00 ≤ first && first ≤ 0xdfff then throw ⟨.loneSurrogate, index + 5⟩
    if first < 0xd800 || 0xdbff < first then
      return (String.utf8EncodeChar (Char.ofNat first), 5)
    match rest.drop 5 with
    | [] => throw ⟨.endInString, index + 5⟩
    | 0x5c :: [] => throw ⟨.endInString, index + 6⟩
    | 0x5c :: 0x75 :: _ =>
      let second ← readHexWord index 7 rest
      if second < 0xdc00 || 0xdfff < second then throw ⟨.loneSurrogate, index + 11⟩
      let point := (first - 0xd800) * 1024 + (second - 0xdc00) + 0x10000
      return (String.utf8EncodeChar (Char.ofNat point), 11)
    | 0x5c :: _ => throw ⟨.endOfHexEscape, index + 7⟩
    | _ => throw ⟨.endOfHexEscape, index + 6⟩
  | _ => .error ⟨.invalidEscape, index + 1⟩

/-- Reads a string up to its closing quote; `read` holds its bytes so far, newest first. -/
def readString (index : Nat) (read : Bytes) : Bytes → Except Trouble (String × Cursor)
  | [] => .error ⟨.endInString, index⟩
  | b :: rest =>
    if b == 0x22 then
      match Text.ofUtf8? read.reverse with
      | some text => .ok (text, ⟨rest, index + 1⟩)
      | none => .error ⟨.invalidUnicode, index + 1⟩
    else if b == 0x5c then
      match readEscape (index + 1) rest with
      | .ok (bytes, n) => readString (index + 1 + n) (bytes.reverse ++ read) (rest.drop n)
      | .error t => .error t
    else if b < 0x20 then .error ⟨.controlCharacter, index + 1⟩
    else readString (index + 1) (b :: read) rest
termination_by bytes => bytes.length
decreasing_by all_goals (simp only [List.length_cons, List.length_drop]; omega)

/-- Reads a string whose opening quote is the next byte. -/
def readQuoted (c : Cursor) : Except Trouble (String × Cursor) :=
  let c := c.skip
  readString c.index [] c.rest

/-! ### Numbers -/

def maxWord : Nat := UInt64.size - 1

def digitValue? (b : UInt8) : Option Nat :=
  if 0x30 ≤ b && b ≤ 0x39 then some (b.toNat - 48) else none

def digit? (c : Cursor) : Option Nat := c.peek.bind digitValue?

def skipDigits (c : Cursor) : Cursor :=
  c.skipMany (c.rest.takeWhile fun b => 0x30 ≤ b && b ≤ 0x39).length

/-- Reads digits onto `significand` as long as it fits in a word. -/
def readDigits (significand : Nat) (c : Cursor) : Nat × Cursor :=
  go significand c.index c.rest
where
  go (s index : Nat) : Bytes → Nat × Cursor
    | [] => (s, ⟨[], index⟩)
    | b :: rest =>
      match digitValue? b with
      | some d =>
        if maxWord < 10 * s + d then (s, ⟨b :: rest, index⟩) else go (10 * s + d) (index + 1) rest
      | none => (s, ⟨b :: rest, index⟩)

/-- `significand * 10 ^ exponent`. The significand and the power of ten are rounded first; a power above
the greatest one is divided by in steps. -/
def scaleByTen (c : Cursor) (negative : Bool) (significand : Nat) (exponent : Int) :
    Except Trouble Number :=
  let start := (Binary64.ofQuotient? significand 1).getD .zero
  go (exponent.natAbs / 308 + 1) start exponent
where
  /-- One step by at most `10 ^ 308`; `fuel` is the number of steps. -/
  go : Nat → Binary64 → Int → Except Trouble Number
    | 0, x, _ => .ok (.float negative x)
    | fuel + 1, x, e =>
      if x.isZero then .ok (.float negative x)
      else if e.natAbs ≤ 308 then
        let power := (Binary64.ofQuotient? (Nat.pow 10 e.natAbs) 1).getD .zero
        match if 0 ≤ e then x.mul? power else x.div? power with
        | some y => .ok (.float negative y)
        | none => c.fail .numberOutOfRange
      else if 0 ≤ e then c.fail .numberOutOfRange
      else
        let power := (Binary64.ofQuotient? (Nat.pow 10 308) 1).getD .zero
        go fuel ((x.div? power).getD .zero) (e + 308)

/-- Greatest exponent that is read digit by digit. -/
def maxExponent : Nat := 0x7fffffff

/-- Reads the digits of an exponent; `none` stands for one that is too large. -/
def readExponentDigits (c : Cursor) (first : Nat) : Option Nat × Cursor :=
  go first c.index c.rest
where
  go (e index : Nat) : Bytes → Option Nat × Cursor
    | [] => (some e, ⟨[], index⟩)
    | b :: rest =>
      match digitValue? b with
      | some d =>
        if maxExponent < 10 * e + d then (none, ⟨rest, index + 1⟩)
        else go (10 * e + d) (index + 1) rest
      | none => (some e, ⟨b :: rest, index⟩)

/-- Reads an exponent whose letter is the next byte; `start` is the exponent the digits before it
have. -/
def readExponent (negative : Bool) (significand : Nat) (start : Int) (c : Cursor) :
    Except Trouble (Number × Cursor) := do
  let c := c.skip
  let (down, c) :=
    match c.peek with
    | some 0x2b => (false, c.skip)
    | some 0x2d => (true, c.skip)
    | _ => (false, c)
  if c.peek.isNone then c.fail .endInValue
  match digit? c with
  | none => c.skip.fail .invalidNumber
  | some first =>
    match readExponentDigits c.skip first with
    | (some e, c) =>
      let number ← scaleByTen c negative significand (if down then start - e else start + e)
      pure (number, c)
    | (none, c) =>
      if significand ≠ 0 && !down then c.fail .numberOutOfRange
      else pure (.float negative .zero, skipDigits c)

def atExponent (c : Cursor) : Bool := c.peek == some 0x65 || c.peek == some 0x45

/-- Ends a number whose digits are read. -/
def finishFloat (negative : Bool) (significand : Nat) (exponent : Int) (c : Cursor) :
    Except Trouble (Number × Cursor) :=
  if atExponent c then readExponent negative significand exponent c
  else do
    let number ← scaleByTen c negative significand exponent
    pure (number, c)

/-- Reads the digits after a point, which is the next byte; `exponent` is the exponent of the digits
before it. Digits that do not fit are left out. -/
def readFraction (negative : Bool) (significand : Nat) (exponent : Int) (c : Cursor) :
    Except Trouble (Number × Cursor) :=
  let c := c.skip
  let (s, after) := readDigits significand c
  let count := after.index - c.index
  if (digit? after).isSome then
    finishFloat negative s (exponent - count) (skipDigits after)
  else if count = 0 then
    if c.peek.isNone then c.failNext .endInValue else c.failNext .invalidNumber
  else finishFloat negative s (exponent - count) after

def readNumber (negative : Bool) (c : Cursor) : Except Trouble (Number × Cursor) :=
  match digit? c with
  | none => if c.peek.isNone then c.fail .endInValue else c.skip.fail .invalidNumber
  | some first =>
    let leadingZero := first = 0
    if leadingZero && (digit? c.skip).isSome then c.skip.failNext .invalidNumber
    else
      let (s, after) := if leadingZero then (0, c.skip) else readDigits first c.skip
      if (digit? after).isSome then
        let more := skipDigits after
        let exponent : Int := more.index - after.index
        if more.peek == some 0x2e then readFraction negative s exponent more
        else finishFloat negative s exponent more
      else if after.peek == some 0x2e then readFraction negative s 0 after
      else if atExponent after then readExponent negative s 0 after
      else if !negative then .ok (.natural s, after)
      else if s = 0 || 0x8000000000000000 < s then
        .ok (.float true ((Binary64.ofQuotient? s 1).getD .zero), after)
      else .ok (.negative s, after)

end Courier.Json
