import Courier.Proofs.XmlTokens

/-!
The code in an XML document is that of its tree. The search for a code in a row of tokens knows only whether a start
tag with the right name came last. Over the tokens of an element that is enough: the search ends with the text of the
first element in it that has one, and else goes on after the element, outside (`inTokens_element`).
-/
namespace Courier.ErrorCode

open Text Xml

/-- The bytes of a name after the colon are those of its last part. -/
theorem localName_bytes (name : QualifiedName) : localName name.bytes = encoded name.label.chars := by
  have absent : ∀ part : Name, ∀ b ∈ encoded part.chars, (b != 0x3a) = true := by
    intro part b among
    rw [bne_iff_ne]
    rintro rfl
    refine not_mem_encoded (c := ':') (by decide) (fun colon => ?_) among
    exact absurd (List.all_eq_true.mp part.plain ':' colon) (by decide)
  unfold localName QualifiedName.bytes QualifiedName.written
  cases name.space with
  | none =>
    dsimp only
    rw [List.dropWhile_eq_nil_iff.mpr (absent name.label)]
  | some space =>
    dsimp only
    rw [encoded_append, List.dropWhile_append_of_pos (absent space)]
    rfl

/-- The name of a tag is compared byte by byte, which is to compare the characters. -/
theorem localName_beq (tag : Tag) (label : String) :
    (localName tag.name.bytes == utf8 label) = decide (tag.name.label.chars = label.toList) := by
  rw [localName_bytes, utf8_eq, Bool.eq_iff_iff, beq_iff_eq, decide_eq_true_iff]
  exact encoded_injective.eq_iff

section

variable {label : String} {more : List Token}

/-- Outside, a text is passed over. -/
theorem inTokens_text_outside (text : List Glyph) :
    inTokens (utf8 label) false (textTokens text ++ more) = inTokens (utf8 label) false more := by
  unfold textTokens
  split
  · rfl
  · rw [List.singleton_append, inTokens, if_neg Bool.false_ne_true]

/-- After the right start tag, a text that is not blank ends the search. -/
theorem inTokens_text_inside (text : List Glyph) :
    inTokens (utf8 label) true (textTokens text ++ more) =
      if trimBlanks (text.map Glyph.char) = [] then inTokens (utf8 label) true more
      else pure (some (String.ofList (trimBlanks (text.map Glyph.char)))) := by
  have reads := elementText?_trimmed text
  unfold textTokens
  split
  · next blank =>
    have nothing : trimmed (encoded (writtenText text)) = [] := by
      rw [trimmed, List.dropWhile_eq_nil_iff.mpr (List.all_eq_true.mp blank)]
      rfl
    have empty : trimBlanks (text.map Glyph.char) = [] := by
      rw [nothing] at reads
      exact (Option.some.inj ((elementText?_trimmed []).symm.trans reads)).symm
    rw [if_pos empty, List.nil_append]
  · rw [List.singleton_append, inTokens, if_pos rfl, reads]
    split
    · next clash => cases clash
    · next same => rw [if_pos (Option.some.inj same)]
    · next ink same =>
      rw [Option.some.inj same, if_neg ink]

end

section

variable {label : String} {left right : List Element}

theorem firstText?_cons (element : Element) (rest : List Element) :
    firstText? label (element :: rest) =
      if element.tag.name.label.chars = label.toList ∧ element.leadingText ≠ [] then
        some (String.ofList element.leadingText)
      else firstText? label rest := by
  unfold firstText?
  rw [List.find?_cons]
  split
  · next found => rw [if_pos (of_decide_eq_true found)]; rfl
  · next not => rw [if_neg (of_decide_eq_false not)]

theorem firstText?_append :
    firstText? label (left ++ right) = (firstText? label left).or (firstText? label right) := by
  unfold firstText?
  rw [List.find?_append, Option.map_or]

end

mutual

/-- Over the tokens of an element the search ends with the code in it, or goes on after it, outside. -/
theorem inTokens_element (label : String) (inside : Bool) (more : List Token) :
    (element : Element) → inTokens (utf8 label) inside (element.tokens ++ more) =
      match firstText? label element.inOrder with
      | some code => pure (some code)
      | none => inTokens (utf8 label) false more
  | .node tag lead children => by
    have below := fun inside => inTokens_children label inside more children
    have starts : inTokens (utf8 label) inside ((Element.node tag lead children).tokens ++ more) =
        inTokens (utf8 label) (decide (tag.name.label.chars = label.toList))
          (textTokens lead ++ (children.tokens ++ .closing :: more)) := by
      rw [Element.tokens, List.cons_append, inTokens, localName_beq]
      simp only [List.append_assoc, List.singleton_append]
    rw [starts, Element.inOrder, firstText?_cons]
    by_cases named : tag.name.label.chars = label.toList
    · rw [decide_eq_true named, inTokens_text_inside]
      by_cases blank : trimBlanks (lead.map Glyph.char) = []
      · rw [if_pos blank, if_neg fun found => found.2 blank, below]
      · rw [if_neg blank, if_pos ⟨named, blank⟩]
        rfl
    · rw [decide_eq_false named, inTokens_text_outside, if_neg fun found => named found.1, below]

/-- Likewise over the tokens of children, up to the end tag of the element they are in. -/
theorem inTokens_children (label : String) (inside : Bool) (more : List Token) :
    (children : Children) → inTokens (utf8 label) inside (children.tokens ++ .closing :: more) =
      match firstText? label children.inOrder with
      | some code => pure (some code)
      | none => inTokens (utf8 label) false more
  | .none => rfl
  | .next child tail rest => by
    rw [Children.tokens, Children.inOrder, firstText?_append, List.append_assoc,
      inTokens_element label inside _ child]
    cases firstText? label child.inOrder with
    | some code => rfl
    | none =>
      rw [Option.none_or]
      dsimp only
      rw [List.append_assoc, inTokens_text_outside]
      exact inTokens_children label false more rest

end

/-- In every document that is written from a tree, and for every name, the code is the text, without blanks at its
ends, that stands before the first child of the first element with this local name for which that text is not blank;
there is none if there is no such element, and no document written so is found to be malformed. -/
theorem xml_code_of_tree (element : String) (document : Document) :
    inXml element document.bytes = pure (firstText? element document.root.inOrder) := by
  have prologue : inTokens (utf8 element) false (document.prologueTokens ++ document.root.tokens) =
      inTokens (utf8 element) false document.root.tokens := by
    unfold Document.prologueTokens
    split <;> rfl
  have search := inTokens_element element false [] document.root
  rw [List.append_nil] at search
  rw [inXml, Document.tokens_bytes, prologue, search]
  cases firstText? element document.root.inOrder <;> rfl

/-- The blank element before it and the one within it have the same name. -/
example :
    (inXml "Code" (utf8 "<e:Error><Code> </Code><e:Code at='>'> A&amp;B <Code>C</Code></e:Code></e:Error>")).value =
      some "A&B" := by decide +kernel

end Courier.ErrorCode
