import Courier.Text.Capital
import Courier.Text.Printable
import Courier.Url.Percent
import Courier.Url.Punycode

/-!
Domain names as hosts of the web's schemes. The name is percent-decoded, letters are made small, and
labels with characters outside ASCII are written in punycode after `xn--`. A name with a character that
no host may have is refused.

This is less than the mapping of UTS 46. Characters are taken one by one and never composed (no NFC): a letter
with a mark that follows it and the same letter in one character are two names. Of the compatibility forms
only full-width ASCII and the other full stops are read as what they stand for.
-/
namespace Courier.Url

/-- ASCII characters that no domain name has: controls, the space, and those with a meaning in URLs. -/
def isForbiddenInDomain (c : Char) : Bool :=
  c.toNat ≤ 0x20 || c.toNat == 0x7f ||
    ['%', '#', '/', ':', '<', '>', '?', '@', '[', '\\', ']', '^', '|'].contains c

/-- Characters that a name is read without: they only mark where a word may break or how a glyph looks. -/
def isIgnored (c : Char) : Bool :=
  [0xad, 0x34f, 0x200b, 0x2060, 0x2064, 0xfeff].contains c.toNat ||
    (0x180b ≤ c.toNat && c.toNat ≤ 0x180f) || (0xfe00 ≤ c.toNat && c.toNat ≤ 0xfe0f)

def foldChar (c : Char) : List Char :=
  if c.toNat < 0x80 then [c.toLower]
  else if isIgnored c then []
  else if [0x3002, 0xff0e, 0xff61].contains c.toNat then ['.']
  else if 0xff01 ≤ c.toNat && c.toNat ≤ 0xff5e then [(Char.ofNat (c.toNat - 0xfee0)).toLower]
  else [Text.smallLetter c]

/-- May a character outside ASCII stand in a label? -/
def isLabelChar (c : Char) : Bool := !Text.inRanges c.toNat Text.hiddenRanges

/-- A label outside ASCII must not begin with a character that only alters the one before it. -/
def isLabel (label : List Char) : Bool :=
  label.all (fun c => c.toNat < 0x80 || isLabelChar c) &&
    (label.head?.map fun c => !Text.inRanges c.toNat Text.extenderRanges).getD true

/-- A label as it stands in a host. A label already in punycode is kept if it is one that reading a name
would give. -/
def labelText (label : List Char) : Option (List Char) :=
  match label with
  | 'x' :: 'n' :: '-' :: '-' :: code => do
    if !label.all fun c => c.toNat < 0x80 then none
    let decoded ← Punycode.decode? code
    if decoded.all (fun c => c.toNat < 0x80) || decoded.flatMap foldChar != decoded
      || !isLabel decoded || Punycode.encode decoded != code then none
    some label
  | _ =>
    if label.all fun c => c.toNat < 0x80 then some label
    else if isLabel label then some (['x', 'n', '-', '-'] ++ Punycode.encode label)
    else none

def splitLabels (name : List Char) : List (List Char) :=
  name.foldr (fun c pieces =>
    match c, pieces with
    | '.', pieces => [] :: pieces
    | c, piece :: pieces => (c :: piece) :: pieces
    | c, [] => [[c]]) [[]]

/-- The domain name that a host is read as. -/
def domain? (host : List Char) : Option (List Char) := do
  let decoded ← Text.ofUtf8? (percentDecode (host.flatMap String.utf8EncodeChar))
  let folded := decoded.toList.flatMap foldChar
  if folded.any isForbiddenInDomain then none
  let labels ← (splitLabels folded).mapM labelText
  some (List.intercalate ['.'] labels)

end Courier.Url
