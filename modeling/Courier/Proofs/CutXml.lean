import Courier.Xml.Scanner
import Mathlib.Data.List.Infix

/-!
Documents cut short. What is scanned before the cut is scanned so from the whole document too, piece by piece, with the
rest of the document left (`scanBang_append` and its like). So all tokens of the cut but the last are the first
ones of the document (`resumed_tokens`). The last is where the cut may lie: a text that runs to the end of the bytes
is a token like any other, and only if markup follows is it one of the document.
-/
namespace Courier.Xml

section

variable {bytes before after : Bytes}

theorem splitTag_append {quote : Quote} (more : Bytes)
    (splits : splitTag quote bytes = some (before, after)) :
    splitTag quote (bytes ++ more) = some (before, after ++ more) := by
  induction bytes generalizing quote before with
  | nil => cases splits
  | cons b rest ih =>
    rw [List.cons_append]
    unfold splitTag at splits ⊢
    split at splits
    · next ends =>
      cases splits
      rw [if_pos ends]
    · next inside =>
      obtain ⟨⟨tag, left⟩, later, same⟩ := Option.map_eq_some_iff.mp splits
      cases same
      rw [if_neg inside]
      dsimp only
      rw [ih later]
      rfl

theorem splitDoctype_append {depth : Nat} (more : Bytes)
    (splits : splitDoctype depth bytes = some (before, after)) :
    splitDoctype depth (bytes ++ more) = some (before, after ++ more) := by
  induction bytes generalizing depth before with
  | nil => cases splits
  | cons b rest ih =>
    rw [List.cons_append]
    unfold splitDoctype at splits ⊢
    split at splits
    · next ends =>
      cases splits
      rw [if_pos ends]
    · next inside =>
      obtain ⟨⟨content, left⟩, later, same⟩ := Option.map_eq_some_iff.mp splits
      cases same
      rw [if_neg inside]
      dsimp only
      rw [ih later]
      rfl

theorem splitBefore_length {stop : Bytes} (splits : splitBefore stop bytes = some (before, after)) :
    stop.length ≤ bytes.length := by
  induction bytes generalizing before with
  | nil => cases splits
  | cons b rest ih =>
    unfold splitBefore at splits
    split at splits
    · next stops => exact (List.isPrefixOf_iff_prefix.mp stops).length_le
    · obtain ⟨⟨earlier, left⟩, later, same⟩ := Option.map_eq_some_iff.mp splits
      cases same
      exact (ih later).trans (Nat.le_succ rest.length)

theorem splitBefore_append {stop : Bytes} (more : Bytes)
    (splits : splitBefore stop bytes = some (before, after)) :
    splitBefore stop (bytes ++ more) = some (before, after ++ more) := by
  have long := splitBefore_length splits
  induction bytes generalizing before with
  | nil => cases splits
  | cons b rest ih =>
    -- There is room for all of `stop`, so what comes later cannot make it begin here.
    have same : stop.isPrefixOf (b :: (rest ++ more)) = stop.isPrefixOf (b :: rest) := by
      rw [Bool.eq_iff_iff, List.isPrefixOf_iff_prefix, List.isPrefixOf_iff_prefix]
      refine ⟨fun found => ?_, fun found => ?_⟩
      · exact List.prefix_of_prefix_length_le found (List.prefix_append (b :: rest) more) long
      · exact found.trans (List.prefix_append (b :: rest) more)
    rw [List.cons_append]
    unfold splitBefore at splits ⊢
    rw [same]
    split at splits
    · next stops =>
      cases splits
      rw [if_pos stops, ← List.cons_append, List.drop_append_of_le_length long]
    · next goes =>
      obtain ⟨⟨earlier, left⟩, later, eq⟩ := Option.map_eq_some_iff.mp splits
      cases eq
      rw [if_neg goes, ih later (splitBefore_length later)]
      rfl

end

section

variable {rest after : Bytes}

theorem isPrefixOf_append {start : Bytes} (more : Bytes) (begins : start.isPrefixOf rest = true) :
    start.isPrefixOf (rest ++ more) = true := by
  rw [List.isPrefixOf_iff_prefix] at begins ⊢
  exact begins.trans (List.prefix_append rest more)

theorem scanBang_append (more : Bytes) (scans : scanBang rest = .ok after) :
    scanBang (rest ++ more) = .ok (after ++ more) := by
  unfold scanBang at scans
  split at scans
  · next tail =>
    split at scans
    · next section_ left splits =>
      split at scans
      · next begins =>
        cases scans
        have splits := splitBefore_append more splits
        have begins := isPrefixOf_append more begins
        rw [List.cons_append] at splits begins ⊢
        simp only [scanBang, splits, begins, ↓reduceIte]
      · cases scans
    · cases scans
  · next tail =>
    split at scans
    · next comment left splits =>
      split at scans
      · next begins =>
        cases scans
        -- The dashes that begin the comment are before the cut, since those that end it are.
        have long := splitBefore_length splits
        rw [show (ascii "-->").length = 3 from rfl, List.length_drop] at long
        have splits := splitBefore_append more splits
        have begins := isPrefixOf_append more begins
        rw [← List.drop_append_of_le_length (by omega)] at splits
        rw [List.cons_append] at splits begins ⊢
        simp only [scanBang, splits, begins, ↓reduceIte]
      · cases scans
    · cases scans
  · next b tail other dash =>
    split at scans
    · next named =>
      split at scans
      · next content left splits =>
        dsimp only at scans
        split at scans
        · cases scans
        · next word =>
          split at scans
          · cases scans
          · next name =>
            cases scans
            have splits := splitDoctype_append more splits
            rw [List.cons_append] at splits ⊢
            unfold scanBang
            split
            · next clash =>
              cases clash
              exact (other rfl).elim
            · next clash =>
              cases clash
              exact (dash rfl).elim
            · next same =>
              cases same
              rw [if_pos named, splits]
              dsimp only
              rw [if_neg word, if_neg name]
            · next clash => cases clash
      · cases scans
    · cases scans
  · cases scans

theorem scanInstruction_append (more : Bytes) (scans : scanInstruction rest = .ok after) :
    scanInstruction (rest ++ more) = .ok (after ++ more) := by
  unfold scanInstruction at scans
  split at scans
  · cases scans
  · next other =>
    split at scans
    · next instruction left splits =>
      cases scans
      cases rest with
      | nil => cases splits
      | cons b tail =>
        have splits := splitBefore_append more splits
        rw [List.cons_append] at splits ⊢
        unfold scanInstruction
        split
        · next clash => 
          cases clash
          exact absurd rfl (other _)
        · rw [splits]
    · cases scans

theorem scanEnd_append {opened left : List Bytes} (more : Bytes)
    (scans : scanEnd opened rest = .ok (left, after)) :
    scanEnd opened (rest ++ more) = .ok (left, after ++ more) := by
  unfold scanEnd at scans ⊢
  split at scans
  · cases scans
  · next tag tail splits =>
    rw [splitTag_append more splits]
    dsimp only at scans ⊢
    generalize (if tag.all Text.isMarkupBlank then tag else trimEnd tag) = name at scans ⊢
    split at scans
    · next expected outer =>
      split at scans
      · next same =>
        cases scans
        rw [if_pos same]
      · cases scans
    · cases scans

theorem scanStart_append {full : Bool} {name : Bytes} (more : Bytes)
    (scans : scanStart rest = .ok (full, name, after)) :
    scanStart (rest ++ more) = .ok (full, name, after ++ more) := by
  unfold scanStart at scans ⊢
  split at scans
  · cases scans
  · next tag left splits =>
    cases scans
    rw [splitTag_append more splits]

end

/-- What the tokens before a cut are to those of the whole document: all but the last are its first ones, and a last
text is one as well if markup follows the cut. -/
structure Resumed (more : Bytes) (early late : List Token) : Prop where
  settled : early.dropLast <+: late
  ended : more.head? = some 0x3c → ∀ raw, early.getLast? = some (.text raw) → early <+: late

namespace Resumed

variable {more : Bytes} {early late : List Token}

theorem nil : Resumed more [] late :=
  ⟨List.nil_prefix, fun _ _ last => by cases last⟩

theorem broken {fault : Fault} : Resumed more [.broken fault] late :=
  ⟨List.nil_prefix, fun _ _ last => by cases last⟩

theorem cons (token : Token) (later : Resumed more early late) :
    Resumed more (token :: early) (token :: late) := by
  cases early with
  | nil => exact ⟨List.nil_prefix, fun _ _ _ => (List.prefix_cons_inj token).mpr List.nil_prefix⟩
  | cons next rest =>
    refine ⟨(List.prefix_cons_inj token).mpr later.settled, fun markup raw last => ?_⟩
    rw [List.getLast?_cons_cons] at last
    exact (List.prefix_cons_inj token).mpr (later.ended markup raw last)

end Resumed

/-- A text that something follows before the cut ends before the cut. -/
theorem takeWhile_append_of_ends {p : UInt8 → Bool} {text : Bytes} (more : Bytes)
    (ends : text.drop (text.takeWhile p).length ≠ []) :
    (text ++ more).takeWhile p = text.takeWhile p := by
  rw [List.takeWhile_append, if_neg]
  intro whole
  exact ends (by rw [whole, List.drop_length])

/-- So does one that markup follows after the cut. -/
theorem takeWhile_append_of_markup {more : Bytes} (text : Bytes) (markup : more.head? = some 0x3c) :
    (text ++ more).takeWhile (· != 0x3c) = text.takeWhile (· != 0x3c) := by
  cases more with
  | nil => cases markup
  | cons b rest =>
    cases markup
    induction text with
    | nil => rfl
    | cons d text ih => cases other : d != 0x3c <;> simp [other, ih]

section

variable {fuel : Nat} {opened : List Bytes} {bytes rest : Bytes}

theorem scan_bang (start : bytes.dropWhile Text.isMarkupBlank = 0x3c :: 0x21 :: rest) :
    scan (fuel + 1) opened bytes = match scanBang rest with
      | .ok after => .other :: scan fuel opened after
      | .error fault => [.broken fault] := by
  cases scans : scanBang rest <;> simp only [scan, start, scans]

theorem scan_end (start : bytes.dropWhile Text.isMarkupBlank = 0x3c :: 0x2f :: rest) :
    scan (fuel + 1) opened bytes = match scanEnd opened rest with
      | .ok (opened, after) => .closing :: scan fuel opened after
      | .error fault => [.broken fault] := by
  cases scans : scanEnd opened rest <;> simp only [scan, start, scans]

theorem scan_instruction (start : bytes.dropWhile Text.isMarkupBlank = 0x3c :: 0x3f :: rest) :
    scan (fuel + 1) opened bytes = match scanInstruction rest with
      | .ok after => .other :: scan fuel opened after
      | .error fault => [.broken fault] := by
  cases scans : scanInstruction rest <;> simp only [scan, start, scans]

theorem scan_start {b : UInt8} (start : bytes.dropWhile Text.isMarkupBlank = 0x3c :: b :: rest)
    (bang : b ≠ 0x21) (slash : b ≠ 0x2f) (query : b ≠ 0x3f) :
    scan (fuel + 1) opened bytes = match scanStart (b :: rest) with
      | .ok (true, name, after) => .opening name :: scan fuel (name :: opened) after
      | .ok (false, _, after) => .other :: scan fuel opened after
      | .error fault => [.broken fault] := by
  simp only [scan, start]
  split
  · next clash => cases clash
  · next clash =>
    cases clash
    exact absurd rfl bang
  · next clash =>
    cases clash
    exact absurd rfl slash
  · next clash =>
    cases clash
    exact absurd rfl query
  · rfl

theorem scan_text {b : UInt8} (start : bytes.dropWhile Text.isMarkupBlank = b :: rest)
    (text : b ≠ 0x3c) :
    scan (fuel + 1) opened bytes =
      .text (trimEnd ((b :: rest).takeWhile (· != 0x3c))) ::
        scan fuel opened ((b :: rest).drop ((b :: rest).takeWhile (· != 0x3c)).length) := by
  simp only [scan, start]
  split
  · next clash => cases clash
  · next clash =>
    cases clash
    exact absurd rfl text
  · rfl

end

/-- No token comes of blanks. -/
theorem scan_of_blank {fuel : Nat} {opened : List Bytes} {bytes : Bytes}
    (blank : bytes.dropWhile Text.isMarkupBlank = []) : scan fuel opened bytes = [] := by
  cases fuel with
  | zero => rfl
  | succ fuel => simp only [scan, blank]

section

variable {fuel further : Nat} {more : Bytes}
  (ih : ∀ opened bytes, Resumed more (scan fuel opened bytes) (scan further opened (bytes ++ more)))

include ih

/-- Markup that ends before the cut is one token, and scanning goes on after it; other markup is the last token. -/
theorem resumed_scan_of_markup {bytes rest : Bytes} (opened : List Bytes)
    (start : bytes.dropWhile Text.isMarkupBlank = 0x3c :: rest)
    (later : (bytes ++ more).dropWhile Text.isMarkupBlank = 0x3c :: (rest ++ more)) :
    Resumed more (scan (fuel + 1) opened bytes) (scan (further + 1) opened (bytes ++ more)) := by
  cases rest with
  | nil =>
    have broken : scan (fuel + 1) opened bytes = [.broken .unclosedTag] := by
      simp only [scan, start]
    rw [broken]
    exact .broken
  | cons d rest =>
    rw [List.cons_append] at later
    by_cases bang : d = 0x21
    · subst bang
      rw [scan_bang start, scan_bang later]
      cases scans : scanBang rest with
      | error fault => exact .broken
      | ok after =>
        rw [scanBang_append more scans]
        exact (ih opened after).cons _
    by_cases slash : d = 0x2f
    · subst slash
      rw [scan_end start, scan_end later]
      rcases scans : scanEnd opened rest with fault | ⟨outer, after⟩
      · exact .broken
      · rw [scanEnd_append more scans]
        exact (ih outer after).cons _
    by_cases query : d = 0x3f
    · subst query
      rw [scan_instruction start, scan_instruction later]
      cases scans : scanInstruction rest with
      | error fault => exact .broken
      | ok after =>
        rw [scanInstruction_append more scans]
        exact (ih opened after).cons _
    rw [scan_start start bang slash query, scan_start later bang slash query]
    rcases scans : scanStart (d :: rest) with fault | ⟨full, name, after⟩
    · exact .broken
    · rw [← List.cons_append, scanStart_append more scans]
      cases full with
      | true => exact (ih (name :: opened) after).cons _
      | false => exact (ih opened after).cons _

/-- A text that something follows is one token, and scanning goes on after it; other texts are the last token. -/
theorem resumed_scan_of_text {bytes rest : Bytes} {b : UInt8} (opened : List Bytes)
    (start : bytes.dropWhile Text.isMarkupBlank = b :: rest) (text : b ≠ 0x3c)
    (later : (bytes ++ more).dropWhile Text.isMarkupBlank = b :: (rest ++ more)) :
    Resumed more (scan (fuel + 1) opened bytes) (scan (further + 1) opened (bytes ++ more)) := by
  rw [scan_text start text, scan_text later text, ← List.cons_append]
  by_cases ends : (b :: rest).drop ((b :: rest).takeWhile (· != 0x3c)).length = []
  · rw [ends, scan_of_blank rfl]
    refine ⟨List.nil_prefix, fun markup raw _ => ?_⟩
    rw [takeWhile_append_of_markup _ markup]
    exact (List.prefix_cons_inj _).mpr List.nil_prefix
  · rw [takeWhile_append_of_ends more ends,
      List.drop_append_of_le_length (List.takeWhile_prefix _).length_le]
    exact (ih opened _).cons _

end

/-- What is scanned before the cut goes on with more bytes. -/
theorem resumed_scan {fuel further : Nat} (enough : fuel ≤ further) (opened : List Bytes)
    (bytes more : Bytes) :
    Resumed more (scan fuel opened bytes) (scan further opened (bytes ++ more)) := by
  induction fuel generalizing further opened bytes with
  | zero => exact .nil
  | succ fuel ih =>
    obtain ⟨further, rfl⟩ := Nat.exists_eq_add_one_of_ne_zero (Nat.ne_zero_of_lt enough)
    have onward := fun opened bytes => ih (Nat.le_of_succ_le_succ enough) opened bytes
    cases start : bytes.dropWhile Text.isMarkupBlank with
    | nil =>
      rw [scan_of_blank start]
      exact .nil
    | cons b rest =>
      have later : (bytes ++ more).dropWhile Text.isMarkupBlank = b :: (rest ++ more) := by
        rw [List.dropWhile_append, start]
        rfl
      by_cases markup : b = 0x3c
      · subst markup
        exact resumed_scan_of_markup onward opened start later
      · exact resumed_scan_of_text onward opened start markup later

theorem tokens_of_no_mark {document : Bytes} (bare : ∀ rest, document ≠ 0xef :: 0xbb :: 0xbf :: rest) :
    tokens document = scan (document.length + 1) [] document := by
  unfold tokens
  split
  · exact absurd rfl (bare _)
  · rfl

/-- The tokens before a cut go on in the whole document. -/
theorem resumed_tokens (cut more : Bytes) : Resumed more (tokens cut) (tokens (cut ++ more)) := by
  by_cases marked : ∃ rest, cut = 0xef :: 0xbb :: 0xbf :: rest
  · obtain ⟨rest, rfl⟩ := marked
    exact resumed_scan (by simp) [] rest more
  have bare : ∀ rest, cut ≠ 0xef :: 0xbb :: 0xbf :: rest := fun rest same => marked ⟨rest, same⟩
  by_cases later : ∃ rest, cut ++ more = 0xef :: 0xbb :: 0xbf :: rest
  · -- The cut goes through the byte order mark, and what comes before it is a text.
    obtain ⟨rest, same⟩ := later
    match cut with
    | [] => exact .nil
    | [a] =>
      cases same
      exact ⟨List.nil_prefix, fun markup => by cases markup⟩
    | [a, b] =>
      cases same
      exact ⟨List.nil_prefix, fun markup => by cases markup⟩
    | a :: b :: c :: left =>
      cases same
      exact absurd rfl (bare left)
  · rw [tokens_of_no_mark bare, tokens_of_no_mark fun rest same => later ⟨rest, same⟩]
    exact resumed_scan (by simp) [] cut more

end Courier.Xml
