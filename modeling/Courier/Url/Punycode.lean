/-!
Punycode: a label with characters outside ASCII as letters and digits. The ASCII characters
come first, then, after a hyphen, the places and values of the others as numbers in a mixed base that
adapts as it goes.
-/
namespace Courier.Url.Punycode

def base : Nat := 36

def digit (n : Nat) : Char :=
  if n < 26 then Char.ofNat (97 + n) else Char.ofNat (22 + n)

/-- The value of a digit; the labels read here have no capitals. -/
def value? (c : Char) : Option Nat :=
  if 'a' ≤ c ∧ c ≤ 'z' then some (c.toNat - 97)
  else if '0' ≤ c ∧ c ≤ '9' then some (c.toNat - 22)
  else none

/-- The bias for the next number: `delta` is the last one, `count` the number of characters so far. -/
def adapt (delta count : Nat) (first : Bool) : Nat :=
  let scaled := if first then delta / 700 else delta / 2
  go 32 0 (scaled + scaled / count)
where
  /-- Divides until the number is small; `fuel` is more than the divisions any number here needs. -/
  go : Nat → Nat → Nat → Nat
    | 0, k, _ => k
    | fuel + 1, k, delta =>
      if (base - 1) * 26 / 2 < delta then go fuel (k + base) (delta / (base - 1))
      else k + base * delta / (delta + 38)

/-- The greatest digit value that ends a number, at position `k`. -/
def threshold (k bias : Nat) : Nat :=
  if k ≤ bias then 1 else if bias + 26 ≤ k then 26 else k - bias

def encodeNumber (bias q : Nat) : List Char :=
  go 32 base q
where
  /-- The digits from position `k` on; `fuel` is more than any number here has. -/
  go : Nat → Nat → Nat → List Char
    | 0, _, _ => []
    | fuel + 1, k, q =>
      let t := threshold k bias
      if q < t then [digit q]
      else digit (t + (q - t) % (base - t)) :: go fuel (k + base) ((q - t) / (base - t))

structure Progress where
  delta : Nat
  bias : Nat
  handled : Nat
  written : List Char

/-- Writes the occurrences of the code point `n` in `label`. -/
def encodePoint (basic : Nat) (n : Nat) (label : List Nat) (p : Progress) : Progress :=
  label.foldl (fun p c =>
    if c < n then { p with delta := p.delta + 1 }
    else if c = n then
      { delta := 0, bias := adapt p.delta (p.handled + 1) (p.handled == basic),
        handled := p.handled + 1, written := p.written ++ encodeNumber p.bias p.delta }
    else p) p

/-- The code points of `label` from 128 on, ascending, each once. -/
def extended (label : List Nat) : List Nat :=
  ((label.filter (128 ≤ ·)).mergeSort (· ≤ ·)).eraseDups

def encode (label : List Char) : List Char :=
  let points := label.map Char.toNat
  let ascii := label.filter fun c => c.toNat < 128
  let start : Progress :=
    ⟨0, 72, ascii.length, if ascii.isEmpty then [] else ascii ++ ['-']⟩
  let (p, _) := (extended points).foldl (fun (p, last) n =>
    let p := { p with delta := p.delta + (n - last) * (p.handled + 1) }
    let p := encodePoint ascii.length n points p
    ({ p with delta := p.delta + 1 }, n + 1)) (start, 128)
  p.written

/-- Reads a number: its value and the digits after it. -/
def decodeNumber? (bias : Nat) (digits : List Char) : Option (Nat × List Char) :=
  go base 1 0 digits
where
  /-- Reads on from position `k`, where a digit counts `weight` times. -/
  go (k weight sum : Nat) : List Char → Option (Nat × List Char)
    | [] => none
    | c :: rest => do
      let v ← value? c
      let sum := sum + v * weight
      let t := threshold k bias
      if v < t then some (sum, rest) else go (k + base) (weight * (base - t)) sum rest

/-- Puts in the characters that the numbers stand for; `fuel` is at least the count of numbers. -/
def insertAll : Nat → (first : Bool) → (n i bias : Nat) → List Nat → List Char → Option (List Nat)
  | _, _, _, _, _, read, [] => some read
  | 0, _, _, _, _, _, _ => none
  | fuel + 1, first, n, i, bias, read, digits => do
    let (delta, rest) ← decodeNumber? bias digits
    let count := read.length + 1
    let position := i + delta
    let n := n + position / count
    let place := position % count
    if 0x110000 ≤ n || (0xd800 ≤ n && n < 0xe000) then none
    insertAll fuel false n (place + 1) (adapt delta count first)
      (read.take place ++ [n] ++ read.drop place) rest

def decode? (text : List Char) : Option (List Char) :=
  let (ascii, digits) :=
    match text.reverse.span (· ≠ '-') with
    | (tail, _ :: head) => (head.reverse, tail.reverse)
    | (_, []) => ([], text)
  (insertAll digits.length true 128 0 72 (ascii.map Char.toNat) digits).map (·.map Char.ofNat)

end Courier.Url.Punycode
