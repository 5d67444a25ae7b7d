import Courier.Json.Scalar
import Mathlib.Data.List.Infix

/-!
Words, strings and numbers of JSON in a text that goes on. A reader that has come to the end of a word or a string would
have come there with more bytes to follow as well. A number ends where the next byte is none of it, so for numbers the
same holds if a byte is left.
-/
namespace Courier.Json

/-- The same place in a text that goes on. -/
def Cursor.onto (c : Cursor) (more : Bytes) : Cursor := ⟨c.rest ++ more, c.index⟩

namespace Cursor

variable {c : Cursor}

theorem peek_onto (left : 0 < c.rest.length) (more : Bytes) : (c.onto more).peek = c.peek := by
  unfold peek onto
  cases split : c.rest with
  | nil => simp [split] at left
  | cons b rest => rfl

theorem skip_onto (left : 0 < c.rest.length) (more : Bytes) : (c.onto more).skip = c.skip.onto more := by
  unfold skip onto
  cases split : c.rest with
  | nil => simp [split] at left
  | cons b rest => rfl

theorem skip_length (c : Cursor) : c.skip.rest.length = c.rest.length - 1 := List.length_drop

theorem length_pos_of_peek {b : UInt8} (next : c.peek = some b) : 0 < c.rest.length := by
  unfold peek at next
  cases split : c.rest with
  | nil => simp [split] at next
  | cons b rest => exact Nat.succ_pos rest.length

/-- Past the bytes with a property. -/
theorem skipMany_takeWhile_length (p : UInt8 → Bool) (c : Cursor) :
    (c.skipMany (c.rest.takeWhile p).length).rest.length ≤ c.rest.length := by
  unfold skipMany
  rw [List.length_drop]
  exact Nat.sub_le _ _

theorem skipMany_takeWhile_onto (p : UInt8 → Bool) (more : Bytes)
    (left : 0 < (c.skipMany (c.rest.takeWhile p).length).rest.length) :
    (c.onto more).skipMany ((c.onto more).rest.takeWhile p).length =
      (c.skipMany (c.rest.takeWhile p).length).onto more := by
  unfold skipMany at left
  rw [List.length_drop] at left
  have same : (c.rest ++ more).takeWhile p = c.rest.takeWhile p := by
    rw [List.takeWhile_append, if_neg (by omega)]
  unfold skipMany onto
  dsimp only
  rw [same, List.drop_append_of_le_length (by omega), List.take_append_of_le_length (by omega)]

theorem skipBlanks_length (c : Cursor) : c.skipBlanks.rest.length ≤ c.rest.length :=
  skipMany_takeWhile_length _ c

theorem skipBlanks_onto (more : Bytes) (left : 0 < c.skipBlanks.rest.length) :
    (c.onto more).skipBlanks = c.skipBlanks.onto more :=
  skipMany_takeWhile_onto _ more left

end Cursor

theorem skipDigits_length (c : Cursor) : (skipDigits c).rest.length ≤ c.rest.length :=
  Cursor.skipMany_takeWhile_length _ c

theorem skipDigits_onto {c : Cursor} (more : Bytes) (left : 0 < (skipDigits c).rest.length) :
    skipDigits (c.onto more) = (skipDigits c).onto more :=
  Cursor.skipMany_takeWhile_onto _ more left

theorem digit?_onto {c : Cursor} (left : 0 < c.rest.length) (more : Bytes) :
    digit? (c.onto more) = digit? c := by
  rw [digit?, Cursor.peek_onto left, digit?]

theorem atExponent_onto {c : Cursor} (left : 0 < c.rest.length) (more : Bytes) :
    atExponent (c.onto more) = atExponent c := by
  rw [atExponent, Cursor.peek_onto left, atExponent]

/-! ### Words and strings -/

theorem readWord_onto {word : List UInt8} {c after : Cursor} (more : Bytes)
    (reads : readWord word c = .ok after) :
    after.rest.length ≤ c.rest.length ∧ readWord word (c.onto more) = .ok (after.onto more) := by
  induction word generalizing c with
  | nil =>
    cases reads
    exact ⟨Nat.le_refl _, rfl⟩
  | cons w word ih =>
    unfold readWord at reads
    split at reads
    · cases reads
    · next b next =>
      have left := Cursor.length_pos_of_peek next
      split at reads
      · next same =>
        obtain ⟨shorter, onward⟩ := ih reads
        rw [Cursor.skip_length] at shorter
        refine ⟨by omega, ?_⟩
        rw [readWord, Cursor.peek_onto left, next, Cursor.skip_onto left]
        simp only [same, ↓reduceIte]
        exact onward
      · cases reads

theorem readHexWord_append {index offset n : Nat} {rest : Bytes} (more : Bytes)
    (reads : readHexWord index offset rest = .ok n) :
    offset + 4 ≤ rest.length ∧ readHexWord index offset (rest ++ more) = .ok n := by
  unfold readHexWord at reads
  dsimp only at reads
  split at reads
  · cases reads
  · next enough =>
    rw [List.length_take, List.length_drop] at enough
    have same : ((rest ++ more).drop offset).take 4 = (rest.drop offset).take 4 := by
      rw [List.drop_append_of_le_length (by omega),
        List.take_append_of_le_length (by rw [List.length_drop]; omega)]
    refine ⟨by omega, ?_⟩
    unfold readHexWord
    dsimp only
    rw [same, if_neg (by rw [List.length_take, List.length_drop]; exact enough)]
    exact reads

/-- What a `u` after a backslash is read as. -/
theorem readEscape_unicode_append {index n : Nat} {tail bytes : Bytes} (more : Bytes)
    (reads : readEscape index (0x75 :: tail) = .ok (bytes, n)) :
    n ≤ tail.length + 1 ∧ readEscape index (0x75 :: (tail ++ more)) = .ok (bytes, n) := by
  cases hex : readHexWord index 1 (0x75 :: tail) with
  | error trouble =>
    simp only [readEscape, hex, bind, Except.bind] at reads
    cases reads
  | ok first =>
    obtain ⟨long, later⟩ := readHexWord_append more hex
    rw [List.length_cons] at long
    rw [List.cons_append] at later
    simp only [readEscape, hex, later, bind, Except.bind] at reads ⊢
    split at reads
    · cases reads
    · next half =>
      rw [if_neg half]
      split at reads
      · next plain =>
        cases reads
        rw [if_pos plain]
        exact ⟨by omega, rfl⟩
      · next pair =>
        rw [if_neg pair]
        have dropped : (0x75 :: (tail ++ more)).drop 5 = (0x75 :: tail).drop 5 ++ more := by
          rw [← List.cons_append, List.drop_append_of_le_length (by rw [List.length_cons]; omega)]
        rw [dropped]
        split at reads
        · cases reads
        · cases reads
        · next six =>
          rw [six]
          cases other : readHexWord index 7 (0x75 :: tail) with
          | error trouble =>
            rw [other] at reads
            cases reads
          | ok second =>
            obtain ⟨longer, latest⟩ := readHexWord_append more other
            rw [List.length_cons] at longer
            rw [List.cons_append] at latest
            rw [other] at reads
            dsimp only [List.cons_append] at reads ⊢
            rw [latest]
            dsimp only
            split at reads
            · cases reads
            · next whole =>
              have count : 11 = n := congrArg Prod.snd (Except.ok.inj reads)
              rw [if_neg whole]
              exact ⟨by omega, reads⟩
        · cases reads
        · cases reads

/-- An escape is read as it was, however the text goes on. -/
theorem readEscape_append {index n : Nat} {rest bytes : Bytes} (more : Bytes)
    (reads : readEscape index rest = .ok (bytes, n)) :
    n ≤ rest.length ∧ readEscape index (rest ++ more) = .ok (bytes, n) := by
  have read := reads
  unfold readEscape at reads
  split at reads
  case h_10 tail =>
    rw [List.length_cons, List.cons_append]
    exact readEscape_unicode_append more read
  case h_1 => cases reads
  case h_11 => cases reads
  all_goals
    cases reads
    exact ⟨by simp, rfl⟩

theorem readString_onto {index : Nat} {read bytes : Bytes} {s : String} {after : Cursor} (more : Bytes)
    (reads : readString index read bytes = .ok (s, after)) :
    after.rest.length < bytes.length ∧
      readString index read (bytes ++ more) = .ok (s, after.onto more) := by
  fun_induction readString index read bytes with
  | case1 => cases reads
  | case2 index read b rest quote | case3 index read b rest quote =>
    rw [List.cons_append, readString, if_pos quote]
    split at reads
    · cases reads
      exact ⟨Nat.lt_succ_self rest.length, rfl⟩
    · cases reads
  | case4 index read b rest char slash bytes n escape ih =>
    obtain ⟨short, later⟩ := readEscape_append more escape
    obtain ⟨shorter, onward⟩ := ih reads
    rw [List.length_drop] at shorter
    rw [List.length_cons, List.cons_append, readString, if_neg char, if_pos slash, later]
    refine ⟨by omega, ?_⟩
    dsimp only
    rw [List.drop_append_of_le_length short]
    exact onward
  | case5 => cases reads
  | case6 => cases reads
  | case7 index read b rest char slash control ih =>
    obtain ⟨shorter, onward⟩ := ih reads
    rw [List.length_cons, List.cons_append, readString, if_neg char, if_neg slash, if_neg control]
    exact ⟨by omega, onward⟩

theorem readQuoted_onto {c after : Cursor} {s : String} (left : 0 < c.rest.length) (more : Bytes)
    (reads : readQuoted c = .ok (s, after)) :
    after.rest.length < c.rest.length ∧ readQuoted (c.onto more) = .ok (s, after.onto more) := by
  obtain ⟨shorter, onward⟩ := readString_onto more reads
  rw [Cursor.skip_length] at shorter
  refine ⟨by omega, ?_⟩
  unfold readQuoted
  rw [Cursor.skip_onto left]
  exact onward

/-! ### Numbers -/

section

variable {more : Bytes}

theorem readDigits_go_length (s index : Nat) (bytes : Bytes) :
    (readDigits.go s index bytes).2.rest.length ≤ bytes.length := by
  fun_induction readDigits.go s index bytes with
  | case1 => exact Nat.le_refl _
  | case2 => exact Nat.le_refl _
  | case3 s index b rest d value fits ih => exact ih.trans (Nat.le_succ rest.length)
  | case4 => exact Nat.le_refl _

theorem readDigits_length (s : Nat) (c : Cursor) : (readDigits s c).2.rest.length ≤ c.rest.length :=
  readDigits_go_length s c.index c.rest

theorem readDigits_go_onto {s index : Nat} {bytes : Bytes}
    (left : 0 < (readDigits.go s index bytes).2.rest.length) :
    readDigits.go s index (bytes ++ more) =
      ((readDigits.go s index bytes).1, (readDigits.go s index bytes).2.onto more) := by
  fun_induction readDigits.go s index bytes with
  | case1 => cases left
  | case2 s index b rest d value large => 
    rw [List.cons_append, readDigits.go, value]
    simp only [large, ↓reduceIte]
    rfl
  | case3 s index b rest d value fits ih => 
    rw [List.cons_append, readDigits.go, value]
    simp only [fits, ↓reduceIte]
    exact ih left
  | case4 s index b rest other => 
    rw [List.cons_append, readDigits.go, other]
    rfl

theorem readDigits_onto {s : Nat} {c : Cursor} (left : 0 < (readDigits s c).2.rest.length) :
    readDigits s (c.onto more) = ((readDigits s c).1, (readDigits s c).2.onto more) :=
  readDigits_go_onto left

theorem readExponentDigits_go_length (e index : Nat) (bytes : Bytes) :
    (readExponentDigits.go e index bytes).2.rest.length ≤ bytes.length := by
  fun_induction readExponentDigits.go e index bytes with
  | case1 => exact Nat.le_refl _
  | case2 e index b rest d value large => exact Nat.le_succ rest.length
  | case3 e index b rest d value fits ih => exact ih.trans (Nat.le_succ rest.length)
  | case4 => exact Nat.le_refl _

theorem readExponentDigits_length (c : Cursor) (first : Nat) :
    (readExponentDigits c first).2.rest.length ≤ c.rest.length :=
  readExponentDigits_go_length first c.index c.rest

theorem readExponentDigits_go_onto {e index : Nat} {bytes : Bytes}
    (left : 0 < (readExponentDigits.go e index bytes).2.rest.length) :
    readExponentDigits.go e index (bytes ++ more) =
      ((readExponentDigits.go e index bytes).1, (readExponentDigits.go e index bytes).2.onto more) := by
  fun_induction readExponentDigits.go e index bytes with
  | case1 => cases left
  | case2 e index b rest d value large => 
    rw [List.cons_append, readExponentDigits.go, value]
    simp only [large, ↓reduceIte]
    rfl
  | case3 e index b rest d value fits ih => 
    rw [List.cons_append, readExponentDigits.go, value]
    simp only [fits, ↓reduceIte]
    exact ih left
  | case4 e index b rest other => 
    rw [List.cons_append, readExponentDigits.go, other]
    rfl

theorem readExponentDigits_onto {c : Cursor} {first : Nat}
    (left : 0 < (readExponentDigits c first).2.rest.length) :
    readExponentDigits (c.onto more) first =
      ((readExponentDigits c first).1, (readExponentDigits c first).2.onto more) :=
  readExponentDigits_go_onto left

/-- A number is scaled alike wherever it stands; the place is told only in faults. -/
theorem scaleByTen_onto (c : Cursor) (negative : Bool) (significand : Nat) (exponent : Int) :
    scaleByTen (c.onto more) negative significand exponent =
      scaleByTen c negative significand exponent := by
  have steps : ∀ fuel x e,
      scaleByTen.go (c.onto more) negative fuel x e = scaleByTen.go c negative fuel x e := by
    intro fuel
    induction fuel with
    | zero => exact fun _ _ => rfl
    | succ fuel ih =>
      intro x e
      rw [scaleByTen.go, scaleByTen.go]
      simp only [ih]
      rfl
  exact steps _ _ _

/-- Past the sign of an exponent; the answer says whether it is a minus. -/
def skipSign (c : Cursor) : Bool × Cursor :=
  match c.peek with
  | some 0x2b => (false, c.skip)
  | some 0x2d => (true, c.skip)
  | _ => (false, c)

theorem skipSign_length (c : Cursor) : (skipSign c).2.rest.length ≤ c.rest.length := by
  have shorter := Cursor.skip_length c
  unfold skipSign
  split
  · exact shorter ▸ Nat.sub_le _ _
  · exact shorter ▸ Nat.sub_le _ _
  · exact Nat.le_refl _

theorem skipSign_onto {c : Cursor} (left : 0 < (skipSign c).2.rest.length) :
    skipSign (c.onto more) = ((skipSign c).1, (skipSign c).2.onto more) := by
  have here : 0 < c.rest.length := Nat.lt_of_lt_of_le left (skipSign_length c)
  unfold skipSign
  rw [Cursor.peek_onto here, Cursor.skip_onto here]
  split <;> rfl

/-- Reads an exponent after its sign. -/
def readPower (negative : Bool) (significand : Nat) (start : Int) (down : Bool) (c : Cursor) :
    Except Trouble (Number × Cursor) := do
  if c.peek.isNone then c.fail .endInValue
  match digit? c with
  | none => c.skip.fail .invalidNumber
  | some first =>
    match readExponentDigits c.skip first with
    | (some e, c) =>
      let number ← scaleByTen c negative significand (if down then start - e else start + e)
      pure (number, c)
    | (none, c) =>
      if significand ≠ 0 && !down then c.fail .numberOutOfRange
      else pure (.float negative .zero, skipDigits c)

theorem readExponent_eq (negative : Bool) (significand : Nat) (start : Int) (c : Cursor) :
    readExponent negative significand start c =
      readPower negative significand start (skipSign c.skip).1 (skipSign c.skip).2 := rfl

theorem readPower_onto {negative down : Bool} {significand : Nat} {start : Int} {c after : Cursor}
    {x : Number} (reads : readPower negative significand start down c = .ok (x, after)) :
    after.rest.length ≤ c.rest.length ∧
      (0 < after.rest.length →
        readPower negative significand start down (c.onto more) = .ok (x, after.onto more)) := by
  have shorter := Cursor.skip_length c
  unfold readPower at reads ⊢
  by_cases ended : c.peek.isNone = true
  · rw [if_pos ended] at reads
    cases reads
  rw [if_neg ended] at reads
  dsimp only at reads
  split at reads
  · cases reads
  next first value =>
  have digits := readExponentDigits_length c.skip first
  -- What is left after the number is left after its digits and before them.
  have onward : ∀ {e there}, readExponentDigits c.skip first = (e, there) → 0 < there.rest.length →
      0 < c.rest.length ∧ readExponentDigits (c.onto more).skip first = (e, there.onto more) := by
    intro e there read left
    rw [read] at digits
    dsimp only at digits
    have here : 0 < c.rest.length := by omega
    refine ⟨here, ?_⟩
    rw [Cursor.skip_onto here, readExponentDigits_onto (by rw [read]; exact left), read]
  split at reads
  · next e there read =>
    rw [read] at digits
    dsimp only at digits
    cases scaled : scaleByTen there negative significand (if down then start - e else start + e) with
    | error trouble =>
      rw [scaled] at reads
      cases reads
    | ok number =>
      rw [scaled] at reads
      cases reads
      refine ⟨by omega, fun left => ?_⟩
      obtain ⟨here, later⟩ := onward read left
      rw [Cursor.peek_onto here, if_neg ended, digit?_onto here, value]
      dsimp only
      rw [later]
      dsimp only
      rw [scaleByTen_onto, scaled]
      rfl
  · next there read =>
    rw [read] at digits
    dsimp only at digits
    split at reads
    · cases reads
    · next vanishes =>
      cases reads
      have past := skipDigits_length there
      refine ⟨by omega, fun left => ?_⟩
      obtain ⟨here, later⟩ := onward read (by omega)
      rw [Cursor.peek_onto here, if_neg ended, digit?_onto here, value]
      dsimp only
      rw [later]
      dsimp only
      rw [if_neg vanishes, skipDigits_onto more left]
      rfl

theorem readExponent_onto {negative : Bool} {significand : Nat} {start : Int} {c after : Cursor}
    {x : Number} (reads : readExponent negative significand start c = .ok (x, after)) :
    after.rest.length ≤ c.rest.length ∧
      (0 < after.rest.length →
        readExponent negative significand start (c.onto more) = .ok (x, after.onto more)) := by
  rw [readExponent_eq] at reads ⊢
  obtain ⟨short, onward⟩ := readPower_onto reads
  have sign := skipSign_length c.skip
  have shorter := Cursor.skip_length c
  refine ⟨by omega, fun left => ?_⟩
  rw [Cursor.skip_onto (by omega), skipSign_onto (by omega)]
  exact onward left

theorem finishFloat_onto {negative : Bool} {significand : Nat} {exponent : Int} {c after : Cursor}
    {x : Number} (reads : finishFloat negative significand exponent c = .ok (x, after)) :
    after.rest.length ≤ c.rest.length ∧
      (0 < after.rest.length →
        finishFloat negative significand exponent (c.onto more) = .ok (x, after.onto more)) := by
  unfold finishFloat at reads ⊢
  split at reads
  · next letter =>
    obtain ⟨short, onward⟩ := readExponent_onto reads
    refine ⟨short, fun left => ?_⟩
    rw [atExponent_onto (by omega), if_pos letter]
    exact onward left
  · next plain =>
    cases scaled : scaleByTen c negative significand exponent with
    | error trouble =>
      rw [scaled] at reads
      cases reads
    | ok number =>
      rw [scaled] at reads
      cases reads
      refine ⟨Nat.le_refl _, fun left => ?_⟩
      rw [atExponent_onto left, if_neg plain, scaleByTen_onto, scaled]
      rfl

theorem readFraction_onto {negative : Bool} {significand : Nat} {exponent : Int} {c after : Cursor}
    {x : Number} (reads : readFraction negative significand exponent c = .ok (x, after)) :
    after.rest.length ≤ c.rest.length ∧
      (0 < after.rest.length →
        readFraction negative significand exponent (c.onto more) = .ok (x, after.onto more)) := by
  have shorter := Cursor.skip_length c
  have digits := readDigits_length significand c.skip
  have past := skipDigits_length (readDigits significand c.skip).2
  unfold readFraction at reads
  dsimp only at reads
  split at reads
  · next many =>
    obtain ⟨short, onward⟩ := finishFloat_onto reads
    refine ⟨by omega, fun left => ?_⟩
    unfold readFraction
    rw [Cursor.skip_onto (by omega)]
    dsimp only
    rw [readDigits_onto (by omega)]
    dsimp only
    rw [digit?_onto (by omega), if_pos many, skipDigits_onto more (by omega)]
    exact onward left
  · next few =>
    split at reads
    · split at reads <;> cases reads
    · next some =>
      obtain ⟨short, onward⟩ := finishFloat_onto reads
      refine ⟨by omega, fun left => ?_⟩
      unfold readFraction
      rw [Cursor.skip_onto (by omega)]
      dsimp only
      rw [readDigits_onto (by omega)]
      dsimp only
      rw [digit?_onto (by omega), if_neg few]
      exact (if_neg some).trans (onward left)

/-- The digits of a number up to its first point or letter: after a zero there are none. -/
def leadingDigits (first : Nat) (c : Cursor) : Nat × Cursor :=
  if first = 0 then (0, c.skip) else readDigits first c.skip

theorem leadingDigits_length (first : Nat) (c : Cursor) :
    (leadingDigits first c).2.rest.length ≤ c.rest.length - 1 := by
  rw [← Cursor.skip_length]
  unfold leadingDigits
  split
  · exact Nat.le_refl _
  · exact readDigits_length first c.skip

theorem leadingDigits_onto {first : Nat} {c : Cursor} (here : 0 < c.rest.length)
    (left : 0 < (leadingDigits first c).2.rest.length) :
    leadingDigits first (c.onto more) = ((leadingDigits first c).1, (leadingDigits first c).2.onto more) := by
  unfold leadingDigits at left ⊢
  rw [Cursor.skip_onto here]
  split at left
  · next zero => rw [if_pos zero, if_pos zero]
  · next other =>
    rw [if_neg other, if_neg other]
    exact readDigits_onto left

/-- Ends a number of which these digits are read. -/
def finishDigits (negative : Bool) (s : Nat) (after : Cursor) : Except Trouble (Number × Cursor) :=
  if (digit? after).isSome then
    let more := skipDigits after
    let exponent : Int := more.index - after.index
    if more.peek == some 0x2e then readFraction negative s exponent more
    else finishFloat negative s exponent more
  else if after.peek == some 0x2e then readFraction negative s 0 after
  else if atExponent after then readExponent negative s 0 after
  else if !negative then .ok (.natural s, after)
  else if s = 0 || 0x8000000000000000 < s then
    .ok (.float true ((Binary64.ofQuotient? s 1).getD .zero), after)
  else .ok (.negative s, after)

theorem readNumber_of_digit {negative : Bool} {c : Cursor} {first : Nat} (value : digit? c = some first) :
    readNumber negative c =
      if first = 0 && (digit? c.skip).isSome then c.skip.failNext .invalidNumber
      else finishDigits negative (leadingDigits first c).1 (leadingDigits first c).2 := by
  unfold readNumber
  rw [value]
  rfl

theorem finishDigits_onto {negative : Bool} {s : Nat} {c after : Cursor} {x : Number}
    (reads : finishDigits negative s c = .ok (x, after)) :
    after.rest.length ≤ c.rest.length ∧
      (0 < after.rest.length →
        finishDigits negative s (c.onto more) = .ok (x, after.onto more)) := by
  have past := skipDigits_length c
  unfold finishDigits at reads ⊢
  dsimp only at reads ⊢
  split at reads
  · next many =>
    split at reads
    · next point =>
      obtain ⟨short, onward⟩ := readFraction_onto reads
      refine ⟨by omega, fun left => ?_⟩
      rw [digit?_onto (by omega), if_pos many, skipDigits_onto more (by omega),
        Cursor.peek_onto (by omega), if_pos point]
      exact onward left
    · next whole =>
      obtain ⟨short, onward⟩ := finishFloat_onto reads
      refine ⟨by omega, fun left => ?_⟩
      rw [digit?_onto (by omega), if_pos many, skipDigits_onto more (by omega),
        Cursor.peek_onto (by omega), if_neg whole]
      exact onward left
  next few =>
  split at reads
  · next point =>
    obtain ⟨short, onward⟩ := readFraction_onto reads
    refine ⟨short, fun left => ?_⟩
    rw [digit?_onto (by omega), if_neg few, Cursor.peek_onto (by omega), if_pos point]
    exact onward left
  next whole =>
  split at reads
  · next letter =>
    obtain ⟨short, onward⟩ := readExponent_onto reads
    refine ⟨short, fun left => ?_⟩
    rw [digit?_onto (by omega), if_neg few, Cursor.peek_onto (by omega), if_neg whole,
      atExponent_onto (by omega), if_pos letter]
    exact onward left
  next plain =>
  -- Such a number is no longer than its digits, and its value is theirs.
  have ends : after = c := by
    split at reads
    · cases reads
      rfl
    · split at reads <;> (cases reads; rfl)
  subst ends
  refine ⟨Nat.le_refl _, fun left => ?_⟩
  rw [digit?_onto left, if_neg few, Cursor.peek_onto left, if_neg whole, atExponent_onto left,
    if_neg plain]
  split at reads
  · next natural =>
    cases reads
    rw [if_pos natural]
  · next signed =>
    rw [if_neg signed]
    split at reads
    · next large =>
      cases reads
      rw [if_pos large]
    · next small =>
      cases reads
      rw [if_neg small]

theorem readNumber_onto {negative : Bool} {c after : Cursor} {x : Number}
    (reads : readNumber negative c = .ok (x, after)) :
    after.rest.length < c.rest.length ∧
      (0 < after.rest.length → readNumber negative (c.onto more) = .ok (x, after.onto more)) := by
  cases value : digit? c with
  | none =>
    unfold readNumber at reads
    rw [value] at reads
    dsimp only at reads
    split at reads <;> cases reads
  | some first =>
    have here : 0 < c.rest.length := by
      unfold digit? at value
      obtain ⟨b, next, -⟩ := Option.bind_eq_some_iff.mp value
      exact Cursor.length_pos_of_peek next
    have digits := leadingDigits_length first c
    have shorter := Cursor.skip_length c
    rw [readNumber_of_digit value] at reads
    split at reads
    · cases reads
    · next alone =>
      obtain ⟨short, onward⟩ := finishDigits_onto reads
      refine ⟨by omega, fun left => ?_⟩
      rw [readNumber_of_digit ((digit?_onto here more).trans value), Cursor.skip_onto here,
        digit?_onto (by omega), if_neg alone, leadingDigits_onto here (by omega)]
      exact onward left

end

end Courier.Json
