import Courier.Codec.Hex

/-!
Internet addresses as hosts. A name whose last label is a number is an IPv4 address and must be readable
as one: up to four numbers, decimal, octal (`0`) or hexadecimal (`0x`), the last of which fills all bytes
that remain. An IPv6 address stands in brackets and is written with its longest run of zeros left out.
-/
namespace Courier.Url

def splitAt (separator : Char) : List Char → List (List Char)
  | [] => [[]]
  | c :: rest =>
    if c = separator then [] :: splitAt separator rest
    else
      match splitAt separator rest with
      | piece :: pieces => (c :: piece) :: pieces
      | [] => [[c]]

/-- The number that digits of a base stand for. -/
def ofDigits? (base : Nat) (digits : List Char) : Option Nat :=
  digits.foldl (fun n? c => do
    let n ← n?
    let v ← Hex.value? c
    if v < base then some (base * n + v) else none) (some 0)

/-- The number a label stands for, in the base its beginning tells. -/
def labelNumber? : List Char → Option Nat
  | [] => none
  | '0' :: 'x' :: digits | '0' :: 'X' :: digits => ofDigits? 16 digits
  | ['0'] => some 0
  | '0' :: digits => ofDigits? 8 digits
  | digits => ofDigits? 10 digits

/-- The labels of a name; one dot at its end does not count. -/
def labels (name : List Char) : List (List Char) :=
  match (splitAt '.' name).reverse with
  | [] :: rest => if rest.isEmpty then [[]] else rest.reverse
  | all => all.reverse

def endsInNumber (name : List Char) : Bool :=
  match (splitAt '.' name).reverse with
  | [[]] => false
  | [] :: last :: _ | last :: _ =>
    (!last.isEmpty && last.all Char.isDigit) || (labelNumber? last).isSome
  | [] => false

def ipv4? (name : List Char) : Option Nat := do
  let numbers ← (labels name).mapM labelNumber?
  if 4 < numbers.length then none
  let last ← numbers.getLast?
  let first := numbers.dropLast
  if Nat.pow 256 (4 - first.length) ≤ last || first.any (255 < ·) then none
  let value := (first.zip [3, 2, 1]).foldl (fun sum (n, place) => sum + n * Nat.pow 256 place) last
  some value

def ipv4Text (address : Nat) : String :=
  ".".intercalate ([3, 2, 1, 0].map fun place => toString (address / Nat.pow 256 place % 256))

/-- The four numbers of an IPv4 address in plain decimal, no leading zeros. -/
def plainIpv4? (text : List Char) : Option Nat := do
  let parts := splitAt '.' text
  if parts.length ≠ 4 then none
  let numbers ← parts.mapM fun part => do
    if part.isEmpty || (1 < part.length && part.head? == some '0') then none
    let n ← ofDigits? 10 part
    if n ≤ 255 then some n else none
  some (numbers.foldl (fun sum n => 256 * sum + n) 0)

/-- The sixteen-bit pieces that groups of hexadecimal digits stand for; the last group of the whole
address may be an IPv4 address. -/
def pieces? (last : Bool) : List (List Char) → Option (List Nat)
  | [] => some []
  | [group] =>
    if last && group.contains '.' then do
      let address ← plainIpv4? group
      some [address / 65536, address % 65536]
    else if group.isEmpty || 4 < group.length then none
    else (ofDigits? 16 group).map ([·])
  | group :: rest =>
    if group.isEmpty || 4 < group.length then none
    else do
      let piece ← ofDigits? 16 group
      let more ← pieces? last rest
      some (piece :: more)

/-- Cuts `text` at the first double colon. -/
def splitDoubleColon : List Char → Option (List Char × List Char)
  | ':' :: ':' :: rest => some ([], rest)
  | c :: rest => (splitDoubleColon rest).map fun (left, right) => (c :: left, right)
  | [] => none

/-- The groups of a part of an address; an empty part has none. -/
def groups (part : List Char) : List (List Char) :=
  if part.isEmpty then [] else splitAt ':' part

def ipv6? (text : List Char) : Option (List Nat) :=
  match splitDoubleColon text with
  | none => do
    let pieces ← pieces? true (groups text)
    if pieces.length = 8 then some pieces else none
  | some (left, right) => do
    let before ← pieces? false (groups left)
    let after ← pieces? true (groups right)
    let missing := 8 - (before.length + after.length)
    if missing = 0 then none
    else some (before ++ List.replicate missing 0 ++ after)

/-- The place and length of the longest run of at least two zeros, the first of those equally long. -/
def longestZeros (pieces : List Nat) : Option (Nat × Nat) :=
  let runs := (List.range pieces.length).map fun i =>
    (i, ((pieces.drop i).takeWhile (· == 0)).length)
  runs.foldl (fun best (i, length) =>
    if 2 ≤ length && (best.map (·.2)).getD 1 < length then some (i, length) else best) none

/-- Hexadecimal pieces with colons between them, the longest run of zeros left out. -/
def ipv6Text (pieces : List Nat) : String :=
  let text (ps : List Nat) : String :=
    ":".intercalate (ps.map fun p => String.ofList (Nat.toDigits 16 p))
  match longestZeros pieces with
  | none => text pieces
  | some (start, length) => text (pieces.take start) ++ "::" ++ text (pieces.drop (start + length))

end Courier.Url
