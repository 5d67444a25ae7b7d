import Courier.Text.Utf8

/-!
Hexadecimal texts: two digits a byte, small letters when written, either case when read.
-/
namespace Courier.Hex

def digit (n : Nat) : Char :=
  if n < 10 then Char.ofNat (48 + n) else Char.ofNat (87 + n)

def value? (c : Char) : Option Nat :=
  if '0' ≤ c ∧ c ≤ '9' then some (c.toNat - 48)
  else if 'a' ≤ c ∧ c ≤ 'f' then some (c.toNat - 87)
  else if 'A' ≤ c ∧ c ≤ 'F' then some (c.toNat - 55)
  else none

def encodeByte (b : UInt8) : List Char :=
  [digit (b.toNat / 16), digit (b.toNat % 16)]

def encode (bytes : Bytes) : String :=
  String.ofList (bytes.flatMap encodeByte)

/-- Reads pairs of digits; `read` holds the bytes before them, newest first. -/
def readPairs (read : Bytes) : List Char → Option Bytes
  | [] => some read.reverse
  | [_] => none
  | high :: low :: rest =>
    match value? high, value? low with
    | some h, some l => readPairs (UInt8.ofNat (16 * h + l) :: read) rest
    | _, _ => none

def decode? (text : String) : Option Bytes :=
  readPairs [] text.toList

end Courier.Hex
