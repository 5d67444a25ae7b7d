import Courier.Text.Blank
import Courier.Xml.Escape
import Mathlib.Data.Nat.Digits.Defs

/-!
XML documents as trees. An element has a tag with attributes, a text before its first child, and children with texts
after them. In a text each character stands for itself or is escaped, by name or by number. A tree is written with a
start and an end tag for each element; where XML leaves a choice (blanks in tags, quotes, the form of an escape, a
declaration before the root) the tree holds what was chosen. So every document without comments, sections, other
instructions, a document type and tags that end themselves is that of some tree.
-/
namespace Courier.Xml

/-- Is the character a blank of markup? -/
def isGapChar (c : Char) : Bool := c == ' ' || c == '\t' || c == '\n' || c == '\r'

/-- Blanks, or nothing. -/
structure Gap where
  chars : List Char := []
  blank : chars.all isGapChar = true := by decide

/-- Can the character stand in a name? Of what XML demands of names only this matters: nothing in them is a blank, a
colon, or a sign that tags, attributes and escapes are made of. -/
def isNameChar (c : Char) : Bool :=
  !(isGapChar c || ['<', '>', '/', '=', '!', '?', '&', ':', '\'', '"'].contains c)

/-- A name without a colon. -/
structure Name where
  chars : List Char
  present : chars ≠ [] := by decide
  plain : chars.all isNameChar = true := by decide

/-- A name, in a namespace or in none. -/
structure QualifiedName where
  space : Option Name := none
  label : Name

/-- The name as it is written. -/
def QualifiedName.written (name : QualifiedName) : List Char :=
  match name.space with
  | none => name.label.chars
  | some space => space.chars ++ ':' :: name.label.chars

/-- An attribute with the blanks before it and around its `=`. -/
structure Attribute where
  gap : Gap
  apart : gap.chars ≠ []
  name : QualifiedName
  before : Gap := {}
  after : Gap := {}
  quote : Char
  value : List Char
  quotes : quote = '\'' ∨ quote = '"'
  closed : quote ∉ value

/-- The attribute as it is written. -/
def Attribute.written (a : Attribute) : List Char :=
  a.gap.chars ++ a.name.written ++ a.before.chars ++ '=' :: a.after.chars ++
    a.quote :: a.value ++ [a.quote]

/-- The start and the end tag of an element, with the blanks before each `>`. -/
structure Tag where
  name : QualifiedName
  attributes : List Attribute := []
  startGap : Gap := {}
  endGap : Gap := {}

namespace Tag

/-- What stands between `<` and `>` in the start tag. -/
def inner (tag : Tag) : List Char :=
  tag.name.written ++ tag.attributes.flatMap Attribute.written ++ tag.startGap.chars

/-- The start tag. -/
def opening (tag : Tag) : List Char := '<' :: tag.inner ++ ['>']

/-- The end tag. -/
def closing (tag : Tag) : List Char := '<' :: '/' :: tag.name.written ++ tag.endGap.chars ++ ['>']

end Tag

/-- A character of a text and the way it is written: by itself, by the name of an entity, or by the digits of its
number, letters among which may be small or capital. -/
inductive Glyph where
  | plain (c : Char) (free : c ≠ '<' ∧ c ≠ '&')
  | named (entity : String) (c : Char) (known : (entity, c) ∈ entities)
  | decimal (digits : List (Fin 10)) (c : Char)
    (stands : Nat.ofDigits 10 (digits.map Fin.val).reverse = c.toNat) (valid : c.toNat ≠ 0)
  | hexadecimal (digits : List (Fin 16 × Bool)) (c : Char)
    (stands : Nat.ofDigits 16 (digits.map (·.1.val)).reverse = c.toNat) (valid : c.toNat ≠ 0)

namespace Glyph

/-- The character. -/
def char : Glyph → Char
  | plain c _ | named _ c _ | decimal _ c _ _ | hexadecimal _ c _ _ => c

/-- A hexadecimal digit. -/
def hexDigit (digit : Fin 16 × Bool) : Char :=
  if digit.2 then (Nat.digitChar digit.1).toUpper else Nat.digitChar digit.1

/-- What stands between `&` and `;`, if the character is escaped. -/
def escape? : Glyph → Option (List Char)
  | plain .. => none
  | named entity .. => some entity.toList
  | decimal digits .. => some ('#' :: digits.map fun digit : Fin 10 => Nat.digitChar digit)
  | hexadecimal digits .. => some ('#' :: 'x' :: digits.map hexDigit)

/-- The character as it is written. -/
def written (g : Glyph) : List Char :=
  match g.escape? with
  | none => [g.char]
  | some name => '&' :: name ++ [';']

/-- Is it a blank that is not escaped? -/
def isGap (g : Glyph) : Bool := g.escape?.isNone && isGapChar g.char

end Glyph

/-- A text as it is written. -/
def writtenText (text : List Glyph) : List Char := text.flatMap Glyph.written

mutual

/-- An element: its tags, the text before its first child, and its children. -/
inductive Element where
  | node (tag : Tag) (lead : List Glyph) (children : Children)

/-- The children of an element, each with the text between it and the next tag. -/
inductive Children where
  | none
  | next (child : Element) (tail : List Glyph) (rest : Children)

end

namespace Element

/-- The element's tags. -/
def tag : Element → Tag
  | node tag _ _ => tag

/-- The text before the first child, as it is meant, without blanks at its ends. -/
def leadingText : Element → List Char
  | node _ lead _ => Text.trimBlanks (lead.map Glyph.char)

end Element

mutual

/-- The element as it is written. -/
def Element.written : Element → List Char
  | .node tag lead children => tag.opening ++ writtenText lead ++ children.written ++ tag.closing

/-- The children as they are written. -/
def Children.written : Children → List Char
  | .none => []
  | .next child tail rest => child.written ++ writtenText tail ++ rest.written

end

mutual

/-- The element and all below it, in the order of the document. -/
def Element.inOrder : Element → List Element
  | .node tag lead children => .node tag lead children :: children.inOrder

/-- The children and all below them, in the order of the document. -/
def Children.inOrder : Children → List Element
  | .none => []
  | .next child _ rest => child.inOrder ++ rest.inOrder

end

/-- The text before the first child of the first of these elements that has the local name and for which that text is
not blank. -/
def firstText? (label : String) (elements : List Element) : Option String :=
  (elements.find? fun element =>
    element.tag.name.label.chars = label.toList ∧ element.leadingText ≠ []).map
      fun element => String.ofList element.leadingText

/-- What stands between `<?xml` and `?>` in an XML declaration. -/
structure Declaration where
  chars : List Char
  closed : '?' ∉ chars := by decide

/-- A document: perhaps a byte order mark and an XML declaration, then the root between blanks. -/
structure Document where
  mark : Bool := false
  declaration : Option Declaration := none
  before : Gap := {}
  root : Element
  after : Gap := {}

namespace Document

/-- The declaration as it is written. -/
def prologue (d : Document) : List Char :=
  match d.declaration with
  | none => []
  | some declaration => '<' :: '?' :: 'x' :: 'm' :: 'l' :: declaration.chars ++ ['?', '>']

/-- The document in UTF-8. -/
def bytes (d : Document) : Bytes :=
  (if d.mark then [0xef, 0xbb, 0xbf] else []) ++
    Text.utf8 (String.ofList (d.prologue ++ d.before.chars ++ d.root.written ++ d.after.chars))

end Document

example :
    ({ root := .node { name := { space := some { chars := ['a'] }, label := { chars := ['C'] } } }
        [.plain ' ' (by decide), .named "amp" '&' (by decide)] .none } : Document).bytes =
      Text.utf8 "<a:C> &amp;</a:C>" := by decide +kernel

end Courier.Xml
