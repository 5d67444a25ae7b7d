import Courier.Proofs.Trimming
import Courier.Proofs.Utf8
import Courier.Proofs.XmlTree
import Courier.Retry.ErrorCode

/-!
Texts of elements, written and read. Each character of a text is read from the way it is written (`unescape?_written`).
The blanks that scanning takes off the ends of a text are characters that stand for themselves, and they are blanks of
the text it is meant to be too; so the text that is read, without blanks at its ends, is the text that was meant
(`elementText?_trimmed`).
-/
namespace Courier.Xml

open Text

namespace Glyph

theorem value?_digitChar (digit : Fin 10) : Hex.value? (Nat.digitChar digit) = some digit.val := by
  revert digit
  decide

theorem value?_hexDigit (digit : Fin 16 × Bool) : Hex.value? (hexDigit digit) = some digit.1.val := by
  obtain ⟨value, capital⟩ := digit
  revert value capital
  decide

/-- Can the character stand inside an escape, where none of these signs may? -/
def isInner (c : Char) : Bool := !(['<', '&', ';'].contains c)

theorem isInner_digitChar (digit : Fin 10) : isInner (Nat.digitChar digit) = true := by
  revert digit
  decide

theorem digitChar_ne_x (digit : Fin 10) : Nat.digitChar digit ≠ 'x' := by
  revert digit
  decide

theorem isInner_hexDigit (digit : Fin 16 × Bool) : isInner (hexDigit digit) = true := by
  obtain ⟨value, capital⟩ := digit
  revert value capital
  decide

theorem isInner_of_escape {g : Glyph} {name : List Char} (escapes : g.escape? = some name) :
    name.all isInner = true := by
  cases g with
  | plain c free => cases escapes
  | named entity c known =>
    cases escapes
    simp only [entities, List.mem_cons, Prod.mk.injEq, List.not_mem_nil, or_false] at known
    rcases known with ⟨rfl, rfl⟩ | ⟨rfl, rfl⟩ | ⟨rfl, rfl⟩ | ⟨rfl, rfl⟩ | ⟨rfl, rfl⟩ <;> decide
  | decimal digits c stands valid =>
    cases escapes
    rw [List.all_cons, List.all_map]
    exact Bool.and_eq_true_iff.mpr
      ⟨rfl, List.all_eq_true.mpr fun digit _ => isInner_digitChar digit⟩
  | hexadecimal digits c stands valid =>
    cases escapes
    rw [List.all_cons, List.all_cons, ← Bool.and_assoc, List.all_map]
    exact Bool.and_eq_true_iff.mpr
      ⟨rfl, List.all_eq_true.mpr fun digit _ => isInner_hexDigit digit⟩

/-- What is not escaped begins neither markup nor an escape. -/
theorem char_ne_of_plain {g : Glyph} (plain : g.escape? = none) : g.char ≠ '<' ∧ g.char ≠ '&' := by
  cases g with
  | plain c free => exact free
  | named => cases plain
  | decimal => cases plain
  | hexadecimal => cases plain

/-- No markup begins in a written character. -/
theorem markup_not_mem_written (g : Glyph) : '<' ∉ g.written := by
  unfold written
  cases escapes : g.escape? with
  | none => exact fun among => (char_ne_of_plain escapes).1 (List.mem_singleton.mp among).symm
  | some name =>
    intro among
    rcases List.mem_cons.mp among with clash | among
    · cases clash
    · rcases List.mem_append.mp among with inner | last
      · exact absurd (List.all_eq_true.mp (isInner_of_escape escapes) '<' inner) (by decide)
      · exact absurd (List.mem_singleton.mp last) (by decide)

end Glyph

/-- Digits of a base are read as the number they stand for. -/
theorem codePoint?_eq {α : Type} {base : Nat} {write : α → Char} {value : α → Nat} (digits : List α)
    (reads : ∀ digit, Hex.value? (write digit) = some (value digit)) (below : ∀ digit, value digit < base)
    (present : digits ≠ []) :
    codePoint? base (digits.map write) = some (Nat.ofDigits base (digits.map value).reverse) := by
  have folds : ∀ n : Nat, (digits.map write).foldl (fun n? c => do
      let n ← n?
      let v ← Hex.value? c
      if v < base then some (base * n + v) else none) (some n) =
        some ((digits.map value).foldl (fun m v => v + base * m) n) := by
    clear present
    induction digits with
    | nil => intro n; rfl
    | cons digit rest ih =>
      intro n
      simp only [List.map_cons, List.foldl_cons, Option.bind_eq_bind, Option.bind_some, reads, below,
        ↓reduceIte]
      rw [Nat.add_comm (value digit)]
      exact ih _
  have full : (digits.map write).isEmpty = false := by
    cases digits with
    | nil => exact absurd rfl present
    | cons => rfl
  rw [codePoint?, full, if_neg Bool.false_ne_true, folds, Nat.ofDigits_eq_foldr, List.foldr_reverse]
  rfl

/-- The number of a character is valid and not zero, so it is a character again. -/
theorem ofNatAux_toNat {c : Char} (valid : c.toNat ≠ 0) :
    (if h : c.toNat ≠ 0 ∧ c.toNat.isValidChar then some (Char.ofNatAux c.toNat h.2) else none) =
      some c :=
  dif_pos ⟨valid, c.valid⟩

section

variable {digits : List Char} {c : Char}

theorem entity?_hexadecimal (reads : codePoint? 16 digits = some c.toNat) (valid : c.toNat ≠ 0) :
    entity? ('#' :: 'x' :: digits) = some c := by
  change (codePoint? 16 digits).bind _ = _
  rw [reads]
  exact ofNatAux_toNat valid

/-- A decimal number does not begin with the sign of the hexadecimal ones. -/
theorem entity?_decimal (decimal : ∀ rest, digits ≠ 'x' :: rest)
    (reads : codePoint? 10 digits = some c.toNat) (valid : c.toNat ≠ 0) :
    entity? ('#' :: digits) = some c := by
  unfold entity?
  split
  · next same =>
    cases same
    -- What is made of the number is the same for both forms, so it is named before they are told apart.
    extract_lets character
    have known : character c.toNat = some c := ofNatAux_toNat valid
    clear_value character
    split
    · exact absurd rfl (decimal _)
    · rw [reads]
      exact known
  · next other => exact absurd rfl (other digits)

end

/-- What is between `&` and `;` for a character is read as that character. -/
theorem entity?_escape {g : Glyph} {name : List Char} (escapes : g.escape? = some name) :
    entity? name = some g.char := by
  cases g with
  | plain c free => cases escapes
  | named entity c known =>
    cases escapes
    simp only [Glyph.char]
    simp only [entities, List.mem_cons, Prod.mk.injEq, List.not_mem_nil, or_false] at known
    rcases known with ⟨rfl, rfl⟩ | ⟨rfl, rfl⟩ | ⟨rfl, rfl⟩ | ⟨rfl, rfl⟩ | ⟨rfl, rfl⟩ <;> decide
  | decimal digits c stands valid =>
    cases escapes
    have present : digits ≠ [] := by
      rintro rfl
      exact valid stands.symm
    have decimal : ∀ rest, (digits.map fun digit : Fin 10 => Nat.digitChar digit) ≠ 'x' :: rest := by
      intro rest same
      obtain ⟨digit, _, _, writes, _⟩ := List.map_eq_cons_iff.mp same
      exact Glyph.digitChar_ne_x digit writes
    have reads := codePoint?_eq digits Glyph.value?_digitChar Fin.isLt present
    rw [stands] at reads
    exact entity?_decimal decimal reads valid
  | hexadecimal digits c stands valid =>
    cases escapes
    have present : digits ≠ [] := by
      rintro rfl
      exact valid stands.symm
    have reads := codePoint?_eq digits Glyph.value?_hexDigit (fun digit => digit.1.isLt) present
    rw [stands] at reads
    exact entity?_hexadecimal reads valid

section

variable {read : List Char} {rest : List Char}

theorem readEscaped_plain {c : Char} (plain : c ≠ '&') :
    readEscaped read none (c :: rest) = readEscaped (c :: read) none rest := by
  rw [readEscaped]
  exact plain

theorem readEscaped_inner {held name : List Char} (inner : name.all Glyph.isInner = true) :
    readEscaped read (some held) (name ++ rest) =
      readEscaped read (some (name.reverse ++ held)) rest := by
  induction name generalizing held with
  | nil => rfl
  | cons c name ih =>
    rw [List.all_cons, Bool.and_eq_true] at inner
    have opens : c ≠ '&' := by
      rintro rfl
      cases inner.1
    have closes : c ≠ ';' := by
      rintro rfl
      cases inner.1
    rw [List.cons_append, readEscaped, ih inner.2, List.reverse_cons, List.append_assoc]
    · rfl
    · exact opens
    · exact closes

theorem readEscaped_written (g : Glyph) :
    readEscaped read none (g.written ++ rest) = readEscaped (g.char :: read) none rest := by
  unfold Glyph.written
  cases escapes : g.escape? with
  | none => exact readEscaped_plain (Glyph.char_ne_of_plain escapes).2
  | some name =>
    have known := entity?_escape escapes
    simp only [List.cons_append, List.append_assoc]
    rw [readEscaped, readEscaped_inner (Glyph.isInner_of_escape escapes), List.append_nil, readEscaped,
      List.reverse_reverse, known]
    rfl

end

/-- A text is read as the characters it is written for. -/
theorem unescape?_written (text : List Glyph) :
    unescape? (writtenText text) = some (text.map Glyph.char) := by
  have reads : ∀ read, readEscaped read none (writtenText text) =
      some (read.reverse ++ text.map Glyph.char) := by
    induction text with
    | nil =>
      intro read
      rw [List.map_nil, List.append_nil]
      rfl
    | cons g rest ih =>
      intro read
      rw [writtenText, List.flatMap_cons, readEscaped_written, ← writtenText, ih, List.reverse_cons,
        List.append_assoc]
      rfl
  exact reads []

/-- A byte of a character is a blank just where the character is one. -/
theorem isMarkupBlank_of_mem {b : UInt8} {c : Char} (among : b ∈ String.utf8EncodeChar c) :
    isMarkupBlank b = isGapChar c := by
  have char_of_byte : ∀ d : Char, d.toNat < 0x80 → b = UInt8.ofNat d.toNat → c = d := by
    intro d ascii same
    subst same
    have value := toNat_ofNat_of_lt (by omega : d.toNat < 256)
    have number := (mem_encode_iff (by rw [value]; exact ascii) c).mp among
    rw [value] at number
    exact Char.toNat_inj.mp number
  rw [Bool.eq_iff_iff]
  constructor
  · intro blank
    simp only [isMarkupBlank, Bool.or_eq_true, beq_iff_eq] at blank
    rcases blank with ((space | tab) | line) | return_
    · rw [char_of_byte ' ' (by decide) space]; rfl
    · rw [char_of_byte '\t' (by decide) tab]; rfl
    · rw [char_of_byte '\n' (by decide) line]; rfl
    · rw [char_of_byte '\r' (by decide) return_]; rfl
  · intro gap
    simp only [isGapChar, Bool.or_eq_true, beq_iff_eq] at gap
    rcases gap with ((rfl | rfl) | rfl) | rfl <;> rw [List.mem_singleton.mp among] <;> decide

/-- A blank that markup passes over is a blank of texts. -/
theorem isBlank_of_isGapChar {c : Char} (gap : isGapChar c = true) : isBlank c = true := by
  simp only [isGapChar, Bool.or_eq_true, beq_iff_eq] at gap
  rcases gap with ((rfl | rfl) | rfl) | rfl <;> decide

section

variable {α β : Type} {p : β → Bool} {q : α → Bool} {f : α → List β}

/-- Pieces that are blank throughout are dropped as a whole, up to the first that begins with what is not blank. -/
theorem dropWhile_flatMap (blank : ∀ a, q a = true → (f a).all p = true)
    (solid : ∀ a, q a = false → ∃ b rest, f a = b :: rest ∧ p b = false) (pieces : List α) :
    (pieces.flatMap f).dropWhile p = (pieces.dropWhile q).flatMap f := by
  induction pieces with
  | nil => rfl
  | cons a rest ih =>
    rw [List.flatMap_cons]
    cases kind : q a with
    | true =>
      rw [List.dropWhile_append_of_pos (List.all_eq_true.mp (blank a kind)), ih,
        List.dropWhile_cons_of_pos kind]
    | false =>
      obtain ⟨b, more, begins, stays⟩ := solid a kind
      rw [List.dropWhile_cons_of_neg (by simp [kind]), List.flatMap_cons, begins, List.cons_append,
        List.dropWhile_cons_of_neg (by simp [stays])]

end

/-- The text without the blanks at its ends that stand for themselves. -/
def kept (text : List Glyph) : List Glyph := (text.dropWhile Glyph.isGap).rdropWhile Glyph.isGap

/-- They are blanks of the text that is meant. -/
theorem trimBlanks_kept (text : List Glyph) :
    trimBlanks ((kept text).map Glyph.char) = trimBlanks (text.map Glyph.char) := by
  have blank : ∀ gaps : List Glyph, (∀ g ∈ gaps, g.isGap = true) →
      (gaps.map Glyph.char).all isBlank = true := by
    intro gaps all
    rw [List.all_map, List.all_eq_true]
    intro g among
    exact isBlank_of_isGapChar (Bool.and_eq_true_iff.mp (all g among)).2
  have whole : text = text.takeWhile Glyph.isGap ++ kept text ++
      (text.dropWhile Glyph.isGap).rtakeWhile Glyph.isGap := by
    rw [List.append_assoc, kept, List.rdropWhile_append_rtakeWhile, List.takeWhile_append_dropWhile]
  conv_rhs => rw [whole, List.map_append, List.map_append]
  rw [trimBlanks_between]
  · exact blank _ fun g among => List.mem_takeWhile_imp among
  · exact blank _ fun g among => List.mem_rtakeWhile_imp among

namespace Glyph

/-- The bytes of a character as it is written. -/
def bytes (g : Glyph) : Bytes := encoded g.written

theorem bytes_of_gap {g : Glyph} (gap : g.isGap = true) : g.bytes.all isMarkupBlank = true := by
  obtain ⟨plain, blank⟩ := Bool.and_eq_true_iff.mp gap
  rw [bytes, written, Option.isNone_iff_eq_none.mp plain, List.all_eq_true]
  intro b among
  rw [encoded_singleton] at among
  rw [isMarkupBlank_of_mem among, blank]

/-- A character that is not passed over begins and ends with bytes that are not. -/
theorem bytes_of_solid {g : Glyph} (solid : g.isGap = false) :
    (∃ b rest, g.bytes = b :: rest ∧ isMarkupBlank b = false) ∧
      ∃ b rest, g.bytes.reverse = b :: rest ∧ isMarkupBlank b = false := by
  rw [bytes, written]
  cases escapes : g.escape? with
  | none =>
    have ink : isGapChar g.char = false := by
      simpa only [isGap, escapes, Option.isNone_none, Bool.true_and] using solid
    dsimp only
    rw [encoded_singleton]
    obtain ⟨first, rest, begins⟩ := exists_cons_encode g.char
    refine ⟨⟨first, rest, begins, ?_⟩, ?_⟩
    · rw [isMarkupBlank_of_mem (begins ▸ List.mem_cons_self ..), ink]
    · cases ends : (String.utf8EncodeChar g.char).reverse with
      | nil =>
        rw [List.reverse_eq_nil_iff, begins] at ends
        cases ends
      | cons last before =>
        refine ⟨last, before, rfl, ?_⟩
        rw [isMarkupBlank_of_mem (List.mem_reverse.mp (ends ▸ List.mem_cons_self ..)), ink]
  | some name =>
    dsimp only
    refine ⟨⟨0x26, _, rfl, rfl⟩, ?_⟩
    rw [encoded_append, List.reverse_append]
    exact ⟨0x3b, _, rfl, rfl⟩

end Glyph

/-- A text without the blanks that scanning takes off its ends. -/
def trimmed (raw : Bytes) : Bytes := trimEnd (raw.dropWhile isMarkupBlank)

theorem trimmed_written (text : List Glyph) :
    trimmed (encoded (writtenText text)) = encoded (writtenText (kept text)) := by
  have pieces : ∀ text, encoded (writtenText text) = text.flatMap Glyph.bytes := fun text =>
    List.flatMap_assoc
  have start := dropWhile_flatMap (p := isMarkupBlank) (q := Glyph.isGap) (f := Glyph.bytes)
    (fun _ => Glyph.bytes_of_gap) (fun _ solid => (Glyph.bytes_of_solid solid).1) text
  have final := dropWhile_flatMap (p := isMarkupBlank) (q := Glyph.isGap)
    (f := List.reverse ∘ Glyph.bytes) (fun _ gap => List.all_reverse.trans (Glyph.bytes_of_gap gap))
    (fun _ solid => (Glyph.bytes_of_solid solid).2) (text.dropWhile Glyph.isGap).reverse
  rw [pieces, pieces, trimmed, start, trimEnd, List.reverse_flatMap, final, List.reverse_flatMap]
  simp only [Function.comp_def, List.reverse_reverse]
  rfl

/-- What is read of a text, without blanks at its ends, is what was meant. -/
theorem elementText?_trimmed (text : List Glyph) :
    ErrorCode.elementText? (trimmed (encoded (writtenText text))) =
      some (trimBlanks (text.map Glyph.char)) := by
  rw [trimmed_written, ErrorCode.elementText?, ofUtf8?_encoded]
  simp only [Option.bind_eq_bind, Option.bind_some, String.toList_ofList, unescape?_written,
    trimBlanks_kept]

end Courier.Xml
