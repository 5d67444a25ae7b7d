import Courier.Proofs.XmlText

/-!
Tags as they are written and read. Names, blanks and quoted values are each passed as a whole where a tag is cut at its
`>` (`Passes`), so what stands in a tag is cut off whole (`Passes.splitTag_eq`). A start tag is read by the name
it begins with, and an end tag is read as that of the element it was written for.
-/
namespace Courier.Xml

open Text

namespace Gap

theorem isGapChar_of_mem {gap : Gap} {c : Char} (among : c ∈ gap.chars) : isGapChar c = true :=
  List.all_eq_true.mp gap.blank c among

theorem not_mem {gap : Gap} {c : Char} (ink : isGapChar c = false) : c ∉ gap.chars := by
  intro among
  rw [isGapChar_of_mem among] at ink
  cases ink

theorem isMarkupBlank_of_mem_encoded {gap : Gap} {b : UInt8} (among : b ∈ encoded gap.chars) :
    isMarkupBlank b = true := by
  obtain ⟨c, held, inside⟩ := List.mem_flatMap.mp among
  rw [isMarkupBlank_of_mem inside, isGapChar_of_mem held]

end Gap

namespace QualifiedName

/-- A sign that no name may have, and that does not part a name from its namespace. -/
theorem not_mem_written {name : QualifiedName} {c : Char} (sign : isNameChar c = false)
    (colon : c ≠ ':') : c ∉ name.written := by
  have absent : ∀ part : Name, c ∉ part.chars := by
    intro part among
    have plain := List.all_eq_true.mp part.plain c among
    rw [sign] at plain
    cases plain
  intro among
  unfold written at among
  split at among
  · exact absent _ among
  · rcases List.mem_append.mp among with space | label
    · exact absent _ space
    · rcases List.mem_cons.mp label with clash | label
      · exact colon clash
      · exact absent _ label

theorem written_ne_nil (name : QualifiedName) : name.written ≠ [] := by
  unfold written
  split
  · exact name.label.present
  · exact List.append_ne_nil_of_right_ne_nil _ (List.cons_ne_nil _ _)

/-- The name in the bytes of a document. -/
def bytes (name : QualifiedName) : Bytes := encoded name.written

theorem ne_of_mem {name : QualifiedName} {b : UInt8} {c : Char} (among : b ∈ name.bytes)
    (ascii : c.toNat < 0x80) (sign : isNameChar c = false) (colon : c ≠ ':') :
    b ≠ UInt8.ofNat c.toNat := by
  rintro rfl
  exact not_mem_encoded ascii (not_mem_written sign colon) among

theorem not_isMarkupBlank {name : QualifiedName} {b : UInt8} (among : b ∈ name.bytes) :
    isMarkupBlank b = false := by
  obtain ⟨c, held, inside⟩ := List.mem_flatMap.mp among
  rw [isMarkupBlank_of_mem inside]
  by_contra gap
  have blank := Bool.not_eq_false _ ▸ gap
  have sign : isNameChar c = false := by simp [isNameChar, blank]
  have colon : c ≠ ':' := by
    rintro rfl
    cases blank
  exact not_mem_written sign colon held

end QualifiedName

/-- Where cutting a tag comes to the piece outside quotes, it passes the whole of it and is outside quotes again. -/
def Passes (piece : Bytes) : Prop :=
  ∀ more, splitTag .outside (piece ++ more) =
    (splitTag .outside more).map fun (tag, rest) => (piece ++ tag, rest)

namespace Passes

theorem nil : Passes [] := by
  intro more
  simp only [List.nil_append, Option.map_id']

theorem append {left right : Bytes} (first : Passes left) (second : Passes right) :
    Passes (left ++ right) := by
  intro more
  rw [List.append_assoc, first, second, Option.map_map]
  simp only [Function.comp_def, List.append_assoc]

/-- Bytes that neither end a tag nor open quotes. -/
theorem plain {piece : Bytes} (free : 0x3e ∉ piece ∧ 0x27 ∉ piece ∧ 0x22 ∉ piece) : Passes piece := by
  induction piece with
  | nil => exact nil
  | cons b rest ih =>
    simp only [List.mem_cons, not_or] at free
    obtain ⟨⟨ends, outside⟩, ⟨single, unquoted⟩, double, undoubled⟩ := free
    have one : Passes [b] := by
      intro more
      simp [splitTag, Ne.symm ends, Ne.symm single, Ne.symm double]
    exact one.append (ih ⟨outside, unquoted, undoubled⟩)

/-- A quoted value, whatever it holds but the quote it stands in. -/
theorem quoted {sign : UInt8} {value : Bytes} (known : sign = 0x27 ∨ sign = 0x22) (free : sign ∉ value) :
    Passes (sign :: value ++ [sign]) := by
  obtain ⟨inside, opens, goes⟩ : ∃ inside : Quote,
      (∀ rest, splitTag .outside (sign :: rest) =
        (splitTag inside rest).map fun (tag, rest) => (sign :: tag, rest)) ∧
      ∀ b rest, splitTag inside (b :: rest) =
        (splitTag (if b = sign then .outside else inside) rest).map
          fun (tag, rest) => (b :: tag, rest) := by
    rcases known with rfl | rfl
    · exact ⟨.single, by simp [splitTag], by simp [splitTag]⟩
    · exact ⟨.double, by simp [splitTag], by simp [splitTag]⟩
  intro more
  have within : splitTag inside (value ++ sign :: more) =
      (splitTag .outside more).map fun (tag, rest) => (value ++ sign :: tag, rest) := by
    clear opens
    induction value with
    | nil => rw [List.nil_append, goes, if_pos rfl]; rfl
    | cons b rest ih =>
      rw [List.mem_cons, not_or] at free
      rw [List.cons_append, goes, if_neg (Ne.symm free.1), ih free.2, Option.map_map]
      rfl
  rw [List.append_assoc, List.cons_append, opens, List.singleton_append, within, Option.map_map]
  simp only [Function.comp_def, List.cons_append, List.append_assoc, List.nil_append]

theorem encoded_plain {chars : List Char} (ends : '>' ∉ chars) (single : '\'' ∉ chars)
    (double : '"' ∉ chars) : Passes (encoded chars) :=
  plain ⟨not_mem_encoded (c := '>') (by decide) ends,
    not_mem_encoded (c := '\'') (by decide) single, not_mem_encoded (c := '"') (by decide) double⟩

theorem of_gap (gap : Gap) : Passes (encoded gap.chars) := by
  apply encoded_plain <;> exact Gap.not_mem (by decide)

theorem of_name (name : QualifiedName) : Passes name.bytes := by
  apply encoded_plain <;> exact QualifiedName.not_mem_written (by decide) (by decide)

theorem of_attribute (a : Attribute) : Passes (encoded a.written) := by
  obtain ⟨sign, form, known, free⟩ : ∃ sign : UInt8, String.utf8EncodeChar a.quote = [sign] ∧
      (sign = 0x27 ∨ sign = 0x22) ∧ sign ∉ encoded a.value := by
    have closed := a.closed
    rcases a.quotes with single | double
    · rw [single] at closed ⊢
      exact ⟨0x27, rfl, .inl rfl, not_mem_encoded (c := '\'') (by decide) closed⟩
    · rw [double] at closed ⊢
      exact ⟨0x22, rfl, .inr rfl, not_mem_encoded (c := '"') (by decide) closed⟩
  have equals : Passes (encoded ['=']) := by apply encoded_plain <;> decide
  have pieces : encoded a.written = encoded a.gap.chars ++ a.name.bytes ++ encoded a.before.chars ++
      encoded ['='] ++ encoded a.after.chars ++ (sign :: encoded a.value ++ [sign]) := by
    simp only [Attribute.written, QualifiedName.bytes, encoded_append, encoded_cons, encoded_nil, form,
      List.append_assoc, List.cons_append, List.append_nil, List.nil_append]
  rw [pieces]
  exact (((((of_gap a.gap).append (of_name a.name)).append (of_gap a.before)).append equals).append
    (of_gap a.after)).append (quoted known free)

/-- What stands in a start tag. -/
theorem of_inner (tag : Tag) : Passes (encoded tag.inner) := by
  have attributes : ∀ row : List Attribute, Passes (encoded (row.flatMap Attribute.written)) := by
    intro row
    induction row with
    | nil => exact nil
    | cons a rest ih =>
      rw [List.flatMap_cons, encoded_append]
      exact (of_attribute a).append ih
  rw [Tag.inner, encoded_append, encoded_append]
  exact ((of_name tag.name).append (attributes _)).append (of_gap tag.startGap)

/-- The `>` after it ends the tag. -/
theorem splitTag_eq {piece : Bytes} (passes : Passes piece) (more : Bytes) :
    splitTag .outside (piece ++ 0x3e :: more) = some (piece, more) := by
  rw [passes, splitTag]
  simp

end Passes

namespace Tag

/-- After the name comes a blank, if anything. -/
theorem inner_eq (tag : Tag) :
    ∃ more, tag.inner = tag.name.written ++ more ∧ ∀ c, more.head? = some c → isGapChar c = true := by
  refine ⟨tag.attributes.flatMap Attribute.written ++ tag.startGap.chars, List.append_assoc .., ?_⟩
  intro c first
  cases row : tag.attributes with
  | nil =>
    rw [row] at first
    exact Gap.isGapChar_of_mem (List.mem_of_head? first)
  | cons a rest =>
    obtain ⟨d, gap, begins⟩ := List.exists_cons_of_ne_nil a.apart
    rw [row, List.flatMap_cons, Attribute.written, begins] at first
    cases first
    exact Gap.isGapChar_of_mem (begins ▸ List.mem_cons_self ..)

/-- A start tag is not one of an element that ends at once. -/
theorem inner_getLast? (tag : Tag) : tag.inner.getLast? ≠ some '/' := by
  intro last
  rw [inner, List.getLast?_append, List.getLast?_append] at last
  rcases Option.or_eq_some_iff.mp last with gap | ⟨_, last⟩
  · exact Gap.not_mem (by decide) (List.mem_of_getLast? gap)
  rcases Option.or_eq_some_iff.mp last with row | ⟨_, name⟩
  · rcases List.eq_nil_or_concat tag.attributes with none | ⟨before, a, ends⟩
    · rw [none] at row
      cases row
    · rw [ends, List.concat_eq_append, List.flatMap_append, List.flatMap_singleton, Attribute.written,
        List.getLast?_append, List.getLast?_append, List.getLast?_singleton, Option.some_or,
        Option.some_or, Option.some.injEq] at row
      rcases a.quotes with single | double
      · rw [single] at row
        cases row
      · rw [double] at row
        cases row
  · exact QualifiedName.not_mem_written (by decide) (by decide) (List.mem_of_getLast? name)

theorem tagName_inner (tag : Tag) : tagName (encoded tag.inner) = tag.name.bytes := by
  obtain ⟨more, whole, gap⟩ := tag.inner_eq
  have solid : ∀ b ∈ tag.name.bytes, (!isMarkupBlank b) = true := fun b among => by
    rw [QualifiedName.not_isMarkupBlank among]
    rfl
  rw [whole, encoded_append, tagName, ← QualifiedName.bytes, List.takeWhile_append_of_pos solid]
  cases more with
  | nil => rw [encoded_nil, List.takeWhile_nil, List.append_nil]
  | cons c rest =>
    obtain ⟨first, tail, begins⟩ := exists_cons_encode c
    have blank : isMarkupBlank first = true := by
      rw [isMarkupBlank_of_mem (begins ▸ List.mem_cons_self ..), gap c rfl]
    rw [encoded_cons, begins, List.cons_append, List.takeWhile_cons_of_neg (by simp [blank]),
      List.append_nil]

/-- What a start tag is read as. -/
theorem scanStart_inner (tag : Tag) (more : Bytes) :
    scanStart (encoded tag.inner ++ 0x3e :: more) = .ok (true, tag.name.bytes, more) := by
  have full : ((encoded tag.inner).getLast? != some 0x2f) = true := by
    rw [bne_iff_ne]
    intro last
    obtain ⟨c, ends, among⟩ := getLast?_encoded last
    have slash : c = '/' := Char.toNat_inj.mp ((mem_encode_iff (by decide) c).mp among)
    exact tag.inner_getLast? (slash ▸ ends)
  rw [scanStart, (Passes.of_inner tag).splitTag_eq]
  dsimp only
  rw [full, tagName_inner]

/-- What an end tag is read as, in the element it ends. -/
theorem scanEnd_name (tag : Tag) (opened : List Bytes) (more : Bytes) :
    scanEnd (tag.name.bytes :: opened) (tag.name.bytes ++ encoded tag.endGap.chars ++ 0x3e :: more) =
      .ok (opened, more) := by
  obtain ⟨first, rest, begins⟩ := exists_cons_encoded tag.name.written_ne_nil
  have name : (tag.name.bytes ++ encoded tag.endGap.chars).all isMarkupBlank = false := by
    have among : first ∈ tag.name.bytes := by
      rw [QualifiedName.bytes, begins]
      exact List.mem_cons_self ..
    rw [QualifiedName.bytes, begins, List.cons_append, List.all_cons,
      QualifiedName.not_isMarkupBlank among, Bool.false_and]
  have trims : trimEnd (tag.name.bytes ++ encoded tag.endGap.chars) = tag.name.bytes := by
    have gap : ∀ b ∈ (encoded tag.endGap.chars).reverse, isMarkupBlank b = true := fun b among =>
      Gap.isMarkupBlank_of_mem_encoded (List.mem_reverse.mp among)
    have solid : ∀ b ∈ tag.name.bytes.reverse, ¬ isMarkupBlank b = true := fun b among => by
      simp [QualifiedName.not_isMarkupBlank (List.mem_reverse.mp among)]
    rw [trimEnd, List.reverse_append, List.dropWhile_append_of_pos gap,
      List.dropWhile_eq_self_iff.mpr fun long => solid _ (List.getElem_mem long), List.reverse_reverse]
  rw [scanEnd, ((Passes.of_name tag.name).append (Passes.of_gap tag.endGap)).splitTag_eq]
  simp only [name, trims, Bool.false_eq_true, ↓reduceIte]

end Tag

end Courier.Xml
