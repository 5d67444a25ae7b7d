/-!
White space and trimming. Two sets are in use: the ASCII blanks of markup and of byte formats, and the
characters with the Unicode property `White_Space`, which texts such as header values and digests are
trimmed by.
-/
namespace Courier.Text

/-- The first and last code points of the ranges with the property `White_Space`. -/
def blankRanges : List (Nat × Nat) :=
  [(0x09, 0x0d), (0x20, 0x20), (0x85, 0x85), (0xa0, 0xa0), (0x1680, 0x1680), (0x2000, 0x200a),
   (0x2028, 0x2029), (0x202f, 0x202f), (0x205f, 0x205f), (0x3000, 0x3000)]

/-- Has the character the Unicode property `White_Space`? -/
def isBlank (c : Char) : Bool :=
  blankRanges.any fun (first, last) => first ≤ c.toNat && c.toNat ≤ last

theorem isBlank_of_isWhitespace {c : Char} (h : c.isWhitespace = true) : isBlank c = true := by
  simp only [Char.isWhitespace, Bool.or_eq_true, decide_eq_true_eq] at h
  rcases h with ((h | h) | h) | h <;> subst h <;> decide

def trimBlanks (text : List Char) : List Char :=
  ((text.dropWhile isBlank).reverse.dropWhile isBlank).reverse

def trim (text : String) : String :=
  String.ofList (trimBlanks text.toList)

/-- Tab, line feed, carriage return and space: the blanks of markup and of data formats. -/
def isMarkupBlank (b : UInt8) : Bool :=
  b == 0x20 || b == 0x09 || b == 0x0a || b == 0x0d

/-- The markup blanks and the form feed. -/
def isAsciiBlank (b : UInt8) : Bool :=
  isMarkupBlank b || b == 0x0c

end Courier.Text
