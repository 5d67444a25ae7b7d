import Courier.Proofs.CutXml
import Courier.Proofs.XmlTags

/-!
The tokens of a document that is written from a tree. Where a piece of a document is scanned into its tokens wherever
it stands (`Scans`), so are pieces put after one another (`Scans.trans`). There is such a statement for each kind of
piece, and by induction on the tree the tokens of an element are those of its start tag, its text, its children and its
end tag (`scans_element`).
-/
namespace Courier.Xml

open Text

/-- The token of a text, which has none if it is blank. -/
def textTokens (text : List Glyph) : List Token :=
  if (encoded (writtenText text)).all isMarkupBlank then []
  else [.text (trimmed (encoded (writtenText text)))]

mutual

/-- The tokens of an element. -/
def Element.tokens : Element → List Token
  | .node tag lead children =>
    .opening tag.name.bytes :: (textTokens lead ++ children.tokens ++ [.closing])

/-- The tokens of children and the texts after them. -/
def Children.tokens : Children → List Token
  | .none => []
  | .next child tail rest => child.tokens ++ (textTokens tail ++ rest.tokens)

end

/-- Inside the elements `opened`, scanning `bytes` gives the tokens `row` and goes on inside `inner` with `more`. -/
def Scans (opened : List Bytes) (bytes : Bytes) (row : List Token) (inner : List Bytes) (more : Bytes) :
    Prop :=
  ∀ fuel, bytes.length < fuel →
    ∃ left, more.length < left ∧ scan fuel opened bytes = row ++ scan left inner more

section

variable {opened inner : List Bytes} {bytes more : Bytes} {row : List Token}

theorem Scans.trans {innermost : List Bytes} {later : List Token} {rest : Bytes}
    (first : Scans opened bytes row inner more) (second : Scans inner more later innermost rest) :
    Scans opened bytes (row ++ later) innermost rest := by
  intro fuel enough
  obtain ⟨left, enough, scans⟩ := first fuel enough
  obtain ⟨leftover, enough, goes⟩ := second left enough
  exact ⟨leftover, enough, by rw [scans, goes, List.append_assoc]⟩

/-- A piece is one token if one step of scanning takes it and gives that token. -/
theorem Scans.of_step {token : Token} (shorter : more.length < bytes.length)
    (step : ∀ fuel, scan (fuel + 1) opened bytes = token :: scan fuel inner more) :
    Scans opened bytes [token] inner more := by
  intro fuel enough
  obtain ⟨left, rfl⟩ := Nat.exists_eq_add_one_of_ne_zero (Nat.ne_zero_of_lt enough)
  exact ⟨left, by omega, step left⟩

end

/-- Blanks before what is scanned do not count. -/
theorem scan_dropWhile (fuel : Nat) (opened : List Bytes) (bytes : Bytes) :
    scan fuel opened (bytes.dropWhile isMarkupBlank) = scan fuel opened bytes := by
  cases fuel with
  | zero => rfl
  | succ fuel =>
    have again : (bytes.dropWhile isMarkupBlank).dropWhile isMarkupBlank =
        bytes.dropWhile isMarkupBlank := List.dropWhile_idempotent ..
    rw [scan, scan, again]

theorem scans_blank {raw : Bytes} (blank : raw.all isMarkupBlank = true) (opened : List Bytes)
    (more : Bytes) : Scans opened (raw ++ more) [] opened more := by
  intro fuel enough
  rw [List.length_append] at enough
  refine ⟨fuel, by omega, ?_⟩
  rw [← scan_dropWhile, List.dropWhile_append_of_pos (List.all_eq_true.mp blank), scan_dropWhile,
    List.nil_append]

theorem scans_opening (tag : Tag) (opened : List Bytes) (more : Bytes) :
    Scans opened (encoded tag.opening ++ more) [.opening tag.name.bytes] (tag.name.bytes :: opened)
      more := by
  obtain ⟨after, whole, _⟩ := tag.inner_eq
  obtain ⟨first, tail, begins⟩ := exists_cons_encoded tag.name.written_ne_nil
  have inner : encoded tag.inner = first :: (tail ++ encoded after) := by
    rw [whole, encoded_append, begins, List.cons_append]
  have form : encoded tag.opening ++ more = 0x3c :: (encoded tag.inner ++ 0x3e :: more) := by
    rw [Tag.opening, List.cons_append, encoded_cons, encoded_append, List.append_assoc, List.append_assoc]
    rfl
  have among : first ∈ tag.name.bytes := by
    rw [QualifiedName.bytes, begins]
    exact List.mem_cons_self ..
  have bang : first ≠ 0x21 :=
    QualifiedName.ne_of_mem (c := '!') among (by decide) (by decide) (by decide)
  have slash : first ≠ 0x2f :=
    QualifiedName.ne_of_mem (c := '/') among (by decide) (by decide) (by decide)
  have query : first ≠ 0x3f :=
    QualifiedName.ne_of_mem (c := '?') among (by decide) (by decide) (by decide)
  have reads := tag.scanStart_inner more
  rw [inner, List.cons_append] at reads
  rw [form, inner, List.cons_append]
  refine .of_step (by simp; omega) fun fuel => ?_
  rw [scan_start rfl bang slash query, reads]

theorem scans_closing (tag : Tag) (opened : List Bytes) (more : Bytes) :
    Scans (tag.name.bytes :: opened) (encoded tag.closing ++ more) [.closing] opened more := by
  have form : encoded tag.closing ++ more =
      0x3c :: 0x2f :: (tag.name.bytes ++ encoded tag.endGap.chars ++ 0x3e :: more) := by
    rw [Tag.closing, List.cons_append, List.cons_append, List.cons_append, List.cons_append, encoded_cons,
      encoded_cons, encoded_append, encoded_append]
    simp only [List.append_assoc]
    rfl
  rw [form]
  refine .of_step (by simp; omega) fun fuel => ?_
  rw [scan_end rfl, tag.scanEnd_name]

/-- A text before markup is one token, or none if it is blank. -/
theorem scans_text (text : List Glyph) (opened : List Bytes) (more : Bytes) :
    Scans opened (encoded (writtenText text) ++ 0x3c :: more) (textTokens text) opened (0x3c :: more) := by
  have absent : 0x3c ∉ encoded (writtenText text) := by
    apply not_mem_encoded (c := '<') (by decide)
    intro among
    obtain ⟨g, _, inside⟩ := List.mem_flatMap.mp among
    exact g.markup_not_mem_written inside
  unfold textTokens
  generalize encoded (writtenText text) = raw at absent ⊢
  split
  · next blank => exact scans_blank blank opened _
  · next ink =>
    have solid : raw.dropWhile isMarkupBlank ≠ [] := fun blank =>
      ink (List.all_eq_true.mpr (List.dropWhile_eq_nil_iff.mp blank))
    have after : (raw ++ 0x3c :: more).dropWhile isMarkupBlank =
        raw.dropWhile isMarkupBlank ++ 0x3c :: more := by
      rw [List.dropWhile_append, if_neg (by rwa [List.isEmpty_iff])]
    obtain ⟨b, rest, begins⟩ := List.exists_cons_of_ne_nil solid
    have free : ∀ d ∈ b :: rest, (d != 0x3c) = true := by
      intro d among
      rw [← begins] at among
      rw [bne_iff_ne]
      rintro rfl
      exact absent ((List.dropWhile_sublist _).mem among)
    -- Past its blanks the text begins with `b`, which is not that of markup, and it is taken up to the markup.
    have start : (raw ++ 0x3c :: more).dropWhile isMarkupBlank = b :: (rest ++ 0x3c :: more) := by
      rw [after, begins, List.cons_append]
    have taken : (b :: (rest ++ 0x3c :: more)).takeWhile (· != 0x3c) = b :: rest := by
      rw [← List.cons_append, List.takeWhile_append_of_pos free, List.takeWhile_cons_of_neg (by decide),
        List.append_nil]
    have long : raw ≠ [] := by
      rintro rfl
      exact solid rfl
    refine .of_step ?_ fun fuel => ?_
    · rw [List.length_append]
      have := List.length_pos_iff.mpr long
      omega
    · rw [scan_text start (bne_iff_ne.mp (free b (List.mem_cons_self ..))), taken, ← List.cons_append,
        List.drop_left, trimmed, begins]

/-- Children end where markup goes on, and so does the text before them. -/
theorem encoded_children (children : Children) (more : Bytes) :
    ∃ later, encoded children.written ++ 0x3c :: more = 0x3c :: later := by
  cases children with
  | none => exact ⟨more, rfl⟩
  | next child tail rest =>
    obtain ⟨tag, lead, children⟩ := child
    exact ⟨_, rfl⟩

/-- A text and the children after it, if the children are scanned into their tokens. -/
theorem scans_content {children : Children} {opened : List Bytes} {more : Bytes} (text : List Glyph)
    (below : Scans opened (encoded children.written ++ 0x3c :: more) children.tokens opened (0x3c :: more)) :
    Scans opened (encoded (writtenText text) ++ (encoded children.written ++ 0x3c :: more))
      (textTokens text ++ children.tokens) opened (0x3c :: more) := by
  obtain ⟨later, markup⟩ := encoded_children children more
  have first := scans_text text opened later
  rw [← markup] at first
  exact first.trans below

mutual

/-- An element is scanned into its tokens. -/
theorem scans_element (opened : List Bytes) (more : Bytes) :
    (element : Element) → Scans opened (encoded element.written ++ more) element.tokens opened more
  | .node tag lead children => by
    -- The text and the children need only know that markup follows them: here it is the end tag.
    obtain ⟨later, markup⟩ : ∃ later, encoded tag.closing ++ more = 0x3c :: later := ⟨_, rfl⟩
    have content := scans_content lead (scans_children (tag.name.bytes :: opened) later children)
    have whole := ((scans_opening tag opened _).trans content).trans
      (markup ▸ scans_closing tag opened more)
    rw [Element.written, Element.tokens, encoded_append, encoded_append, encoded_append]
    rw [← markup] at whole
    simpa only [List.append_assoc, List.cons_append, List.nil_append] using whole

/-- So are its children, with the texts after them. -/
theorem scans_children (opened : List Bytes) (more : Bytes) :
    (children : Children) →
      Scans opened (encoded children.written ++ 0x3c :: more) children.tokens opened (0x3c :: more)
  | .none => fun fuel enough => ⟨fuel, enough, rfl⟩
  | .next child tail rest => by
    have content := scans_content tail (scans_children opened more rest)
    have whole := (scans_element opened _ child).trans content
    rw [Children.written, Children.tokens, encoded_append, encoded_append]
    simpa only [List.append_assoc] using whole

end

/-- A piece that ends before a sign comes first is cut off there. -/
theorem splitBefore_of_not_mem {first : UInt8} {before : Bytes} (stop after : Bytes)
    (absent : first ∉ before) :
    splitBefore (first :: stop) (before ++ first :: (stop ++ after)) = some (before, after) := by
  induction before with
  | nil =>
    have found : (first :: stop).isPrefixOf (first :: (stop ++ after)) = true :=
      List.isPrefixOf_iff_prefix.mpr (List.prefix_append (first :: stop) after)
    rw [List.nil_append, splitBefore, if_pos found, ← List.cons_append, List.drop_left]
  | cons b rest ih =>
    rw [List.mem_cons, not_or] at absent
    have other : ¬ (first :: stop).isPrefixOf (b :: (rest ++ first :: (stop ++ after))) = true := by
      simp [absent.1]
    rw [List.cons_append, splitBefore, if_neg other, ih absent.2]
    rfl

namespace Document

/-- The token of the declaration, if there is one. -/
def prologueTokens (d : Document) : List Token := if d.declaration.isSome then [.other] else []

theorem scans_prologue (d : Document) (more : Bytes) :
    Scans [] (encoded d.prologue ++ more) d.prologueTokens [] more := by
  unfold prologue prologueTokens
  cases d.declaration with
  | none => exact fun fuel enough => ⟨fuel, enough, rfl⟩
  | some declaration =>
    have absent : 0x3f ∉ encoded ('x' :: 'm' :: 'l' :: declaration.chars) := by
      apply not_mem_encoded (c := '?') (by decide)
      simp only [List.mem_cons, not_or]
      exact ⟨by decide, by decide, by decide, declaration.closed⟩
    have cut := splitBefore_of_not_mem [0x3e] more absent
    have form : encoded ('<' :: '?' :: 'x' :: 'm' :: 'l' :: declaration.chars ++ ['?', '>']) ++ more =
        0x3c :: 0x3f :: (encoded ('x' :: 'm' :: 'l' :: declaration.chars) ++ 0x3f :: ([0x3e] ++ more)) := by
      rw [encoded_append, List.append_assoc]
      rfl
    have reads : scanInstruction (encoded ('x' :: 'm' :: 'l' :: declaration.chars) ++
        0x3f :: ([0x3e] ++ more)) = .ok more := by
      unfold scanInstruction
      split
      · next clash => cases clash
      · rw [show ascii "?>" = [0x3f, 0x3e] from by decide, cut]
    dsimp only
    rw [form]
    refine .of_step (by simp; omega) fun fuel => ?_
    rw [scan_instruction rfl, reads]

/-- The characters of a document. -/
def chars (d : Document) : List Char :=
  d.prologue ++ d.before.chars ++ d.root.written ++ d.after.chars

/-- A document begins with a blank or a tag. -/
theorem exists_chars_eq (d : Document) :
    ∃ c rest, d.chars = c :: rest ∧ (c = '<' ∨ isGapChar c = true) := by
  unfold chars prologue
  cases d.declaration with
  | some declaration => exact ⟨'<', _, rfl, .inl rfl⟩
  | none =>
    cases gap : d.before.chars with
    | nil =>
      obtain ⟨tag, lead, children⟩ := d.root
      exact ⟨'<', _, rfl, .inl rfl⟩
    | cons c more => exact ⟨c, _, rfl, .inr (Gap.isGapChar_of_mem (gap ▸ List.mem_cons_self ..))⟩

theorem not_marked (d : Document) (rest : Bytes) : encoded d.chars ≠ 0xef :: 0xbb :: 0xbf :: rest := by
  obtain ⟨c, more, begins, kind⟩ := d.exists_chars_eq
  obtain ⟨first, tail, bytes⟩ := exists_cons_encode c
  have among : first ∈ String.utf8EncodeChar c := bytes ▸ List.mem_cons_self ..
  rw [begins, encoded_cons, bytes, List.cons_append]
  intro same
  obtain ⟨rfl, _⟩ := List.cons_eq_cons.mp same
  rcases kind with rfl | gap
  · exact absurd among (by decide)
  · rw [← isMarkupBlank_of_mem among] at gap
    cases gap

/-- The tokens of a document are those of its root, after that of the declaration. -/
theorem tokens_bytes (d : Document) : tokens d.bytes = d.prologueTokens ++ d.root.tokens := by
  have scans : scan ((encoded d.chars).length + 1) [] (encoded d.chars) =
      d.prologueTokens ++ d.root.tokens := by
    have before : (encoded d.before.chars).all isMarkupBlank = true :=
      List.all_eq_true.mpr fun _ => Gap.isMarkupBlank_of_mem_encoded
    have pieces : encoded d.chars = encoded d.prologue ++
        (encoded d.before.chars ++ (encoded d.root.written ++ encoded d.after.chars)) := by
      simp only [chars, encoded_append, List.append_assoc]
    have whole := ((d.scans_prologue _).trans (scans_blank before [] _)).trans
      (scans_element [] (encoded d.after.chars) d.root)
    obtain ⟨left, _, goes⟩ := whole _ (Nat.lt_succ_self _)
    have ends : (encoded d.after.chars).dropWhile isMarkupBlank = [] :=
      List.dropWhile_eq_nil_iff.mpr fun _ => Gap.isMarkupBlank_of_mem_encoded
    rw [pieces, goes, scan_of_blank ends, List.append_nil, List.append_nil]
  rw [bytes, utf8_eq, String.toList_ofList, ← chars]
  cases d.mark with
  | true => exact scans
  | false => exact (tokens_of_no_mark d.not_marked).trans scans

end Document

end Courier.Xml
