/-!
ASCII letter case. Names of headers, methods and schemes compare without regard to the case of the
letters `A` to `Z`; every other character, accented letters included, compares as itself.
-/
namespace Courier.Text

def lowerAscii (text : String) : String :=
  String.ofList (text.toList.map Char.toLower)

def upperAscii (text : String) : String :=
  String.ofList (text.toList.map Char.toUpper)

/-- Two names are one if they differ in the case of ASCII letters only. -/
def sameName (a b : String) : Bool :=
  lowerAscii a == lowerAscii b

theorem sameName_iff {a b : String} : sameName a b = true ↔ lowerAscii a = lowerAscii b := by
  simp [sameName]

theorem sameName_refl (a : String) : sameName a a = true := by
  simp [sameName]

theorem sameName_comm (a b : String) : sameName a b = sameName b a := by
  rw [Bool.eq_iff_iff, sameName_iff, sameName_iff, eq_comm]

theorem sameName_trans {a b c : String} (hab : sameName a b = true) (hbc : sameName b c = true) :
    sameName a c = true := by
  rw [sameName_iff] at *
  exact hab.trans hbc

/-- `pattern` stands somewhere in `text`. -/
def holds (pattern : List Char) : List Char → Bool
  | [] => pattern.isEmpty
  | c :: rest => pattern.isPrefixOf (c :: rest) || holds pattern rest

end Courier.Text
