import Courier.Text.Utf8

/-!
Base64 with the standard alphabet: three bytes are four letters, and `=` fills the last group. A reader
takes only what the writer can produce: padding is demanded, and the bits of the last letter that no byte
uses must be zero.
-/
namespace Courier.Base64

def letter (n : Nat) : Char :=
  if n < 26 then Char.ofNat (65 + n)
  else if n < 52 then Char.ofNat (71 + n)
  else if n < 62 then Char.ofNat (n - 4)
  else if n = 62 then '+' else '/'

def value? (c : Char) : Option Nat :=
  if 'A' ≤ c ∧ c ≤ 'Z' then some (c.toNat - 65)
  else if 'a' ≤ c ∧ c ≤ 'z' then some (c.toNat - 71)
  else if '0' ≤ c ∧ c ≤ '9' then some (c.toNat + 4)
  else if c = '+' then some 62
  else if c = '/' then some 63
  else none

/-- Writes three bytes as four letters; `written` holds the letters before them, newest first. -/
def write (written : List Char) : Bytes → List Char
  | [] => written.reverse
  | [a] =>
    (['=', '=', letter (a.toNat % 4 * 16), letter (a.toNat / 4)] ++ written).reverse
  | [a, b] =>
    (['=', letter (b.toNat % 16 * 4), letter (a.toNat % 4 * 16 + b.toNat / 16),
      letter (a.toNat / 4)] ++ written).reverse
  | a :: b :: c :: rest =>
    write ([letter (c.toNat % 64), letter (b.toNat % 16 * 4 + c.toNat / 64),
      letter (a.toNat % 4 * 16 + b.toNat / 16), letter (a.toNat / 4)] ++ written) rest

def encode (bytes : Bytes) : String :=
  String.ofList (write [] bytes)

/-- Reads groups of four letters; `read` holds the bytes before them, newest first. -/
def readGroups (read : Bytes) : List Char → Option Bytes
  | [] => some read.reverse
  | [c1, c2, '=', '='] =>
    match value? c1, value? c2 with
    | some v1, some v2 =>
      if v2 % 16 = 0 then some (UInt8.ofNat (v1 * 4 + v2 / 16) :: read).reverse else none
    | _, _ => none
  | [c1, c2, c3, '='] =>
    match value? c1, value? c2, value? c3 with
    | some v1, some v2, some v3 =>
      if v3 % 4 = 0 then
        some ([UInt8.ofNat (v2 % 16 * 16 + v3 / 4), UInt8.ofNat (v1 * 4 + v2 / 16)] ++ read).reverse
      else none
    | _, _, _ => none
  | c1 :: c2 :: c3 :: c4 :: rest =>
    match value? c1, value? c2, value? c3, value? c4 with
    | some v1, some v2, some v3, some v4 =>
      readGroups ([UInt8.ofNat (v3 % 4 * 64 + v4), UInt8.ofNat (v2 % 16 * 16 + v3 / 4),
        UInt8.ofNat (v1 * 4 + v2 / 16)] ++ read) rest
    | _, _, _, _ => none
  | _ => none

def decode? (text : String) : Option Bytes :=
  readGroups [] text.toList

end Courier.Base64
