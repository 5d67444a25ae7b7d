import Courier.Text.Utf8
import Mathlib.Data.List.Basic
import Mathlib.Data.List.Induction

/-!
Reading back what was written as UTF-8. The bytes of a character, whatever follows them, are read as that character
(`takeChar_encode`), so a text is what its bytes are read as (`ofUtf8?_encoded`), and texts with the same bytes are the
same. A character beyond ASCII has no ASCII byte (`mem_encode_iff`), so a sign that is not in a text is not found in it
byte by byte either (`not_mem_encoded`).
-/
namespace Courier.Text

theorem isContinuation_iff (b : UInt8) : isContinuation b = true ↔ 0x80 ≤ b.toNat ∧ b.toNat ≤ 0xbf := by
  simp [isContinuation, UInt8.le_iff_toNat_le]

section

variable {first second third fourth : UInt8} (more : Bytes)

theorem secondOfThree_iff : secondOfThree first second = true ↔
    0x80 ≤ second.toNat ∧ second.toNat ≤ 0xbf ∧ (first.toNat = 0xe0 → 0xa0 ≤ second.toNat) ∧
      (first.toNat = 0xed → second.toNat ≤ 0x9f) := by
  unfold secondOfThree
  simp only [beq_iff_eq, ← UInt8.toNat_inj, UInt8.reduceToNat]
  split
  · simp only [Bool.and_eq_true, decide_eq_true_eq, UInt8.le_iff_toNat_le, UInt8.reduceToNat]
    omega
  · split
    · simp only [Bool.and_eq_true, decide_eq_true_eq, UInt8.le_iff_toNat_le, UInt8.reduceToNat]
      omega
    · rw [isContinuation_iff]
      omega

theorem secondOfFour_iff : secondOfFour first second = true ↔
    0x80 ≤ second.toNat ∧ second.toNat ≤ 0xbf ∧ (first.toNat = 0xf0 → 0x90 ≤ second.toNat) ∧
      (first.toNat = 0xf4 → second.toNat ≤ 0x8f) := by
  unfold secondOfFour
  simp only [beq_iff_eq, ← UInt8.toNat_inj, UInt8.reduceToNat]
  split
  · simp only [Bool.and_eq_true, decide_eq_true_eq, UInt8.le_iff_toNat_le, UInt8.reduceToNat]
    omega
  · split
    · simp only [Bool.and_eq_true, decide_eq_true_eq, UInt8.le_iff_toNat_le, UInt8.reduceToNat]
      omega
    · rw [isContinuation_iff]
      omega

theorem takeChar_one (ascii : first.toNat < 0x80) :
    takeChar first more = (some (Char.ofNat first.toNat), more) := by
  have small : first < 0x80 := UInt8.lt_iff_toNat_lt.mpr ascii
  unfold takeChar
  rw [if_pos small]

/-- A byte from `0xc2` to `0xf4` begins a character of more than one byte. -/
theorem leads (low : 0xc2 ≤ first.toNat) (high : first.toNat ≤ 0xf4) :
    ¬ first < 0x80 ∧ (first < 0xc2 || 0xf4 < first) = false := by
  simp only [Bool.or_eq_false_iff, decide_eq_false_iff_not, UInt8.lt_iff_toNat_lt, UInt8.reduceToNat]
  omega

theorem takeChar_two (low : 0xc2 ≤ first.toNat) (high : first.toNat < 0xe0)
    (goesOn : isContinuation second = true) :
    takeChar first (second :: more) =
      (some (Char.ofNat (first.toNat % 32 * 64 + second.toNat % 64)), more) := by
  obtain ⟨large, lead⟩ := leads low (by omega)
  have two : first < 0xe0 := UInt8.lt_iff_toNat_lt.mpr high
  simp only [takeChar, large, lead, two, goesOn, Bool.false_eq_true, ↓reduceIte]
  rfl

theorem takeChar_three (low : 0xe0 ≤ first.toNat) (high : first.toNat < 0xf0)
    (fits : secondOfThree first second = true) (goesOn : isContinuation third = true) :
    takeChar first (second :: third :: more) =
      (some (Char.ofNat ((first.toNat % 16 * 64 + second.toNat % 64) * 64 + third.toNat % 64)),
        more) := by
  obtain ⟨large, lead⟩ := leads (by omega) (by omega : first.toNat ≤ 0xf4)
  have two : ¬ first < 0xe0 := fun less => Nat.not_lt.mpr low (UInt8.lt_iff_toNat_lt.mp less)
  have three : first < 0xf0 := UInt8.lt_iff_toNat_lt.mpr high
  simp only [takeChar, large, lead, two, three, fits, goesOn, Bool.false_eq_true, ↓reduceIte]
  rfl

theorem takeChar_four (low : 0xf0 ≤ first.toNat) (high : first.toNat ≤ 0xf4)
    (fits : secondOfFour first second = true) (goesOn : isContinuation third = true)
    (still : isContinuation fourth = true) :
    takeChar first (second :: third :: fourth :: more) =
      (some (Char.ofNat (((first.toNat % 8 * 64 + second.toNat % 64) * 64 + third.toNat % 64) * 64
        + fourth.toNat % 64)), more) := by
  obtain ⟨large, lead⟩ := leads (by omega) high
  have two : ¬ first < 0xe0 := fun less =>
    Nat.not_lt.mpr (Nat.le_trans (by decide) low) (UInt8.lt_iff_toNat_lt.mp less)
  have three : ¬ first < 0xf0 := fun less => Nat.not_lt.mpr low (UInt8.lt_iff_toNat_lt.mp less)
  simp only [takeChar, large, lead, two, three, fits, goesOn, still, Bool.false_eq_true, ↓reduceIte]
  rfl

end

/-- A byte in the form of a character, by its value. -/
theorem toNat_ofNat_of_lt {n : Nat} (byte : n < 256) : (UInt8.ofNat n).toNat = n := by
  rw [UInt8.toNat_ofNat', Nat.mod_eq_of_lt byte]

/-- The bytes of a character are read as that character, whatever follows them. -/
theorem takeChar_encode (c : Char) (more : Bytes) :
    ∃ first rest, String.utf8EncodeChar c = first :: rest ∧
      takeChar first (rest ++ more) = (some c, more) := by
  have valid : c.toNat < 0xd800 ∨ 0xdfff < c.toNat ∧ c.toNat < 0x110000 := c.valid
  have again := Char.ofNat_toNat c
  have value : c.val.toNat = c.toNat := rfl
  unfold String.utf8EncodeChar
  rw [value]
  dsimp only
  generalize c.toNat = n at valid again ⊢
  split
  · next one =>
    have byte := toNat_ofNat_of_lt (by omega : n < 256)
    refine ⟨_, _, rfl, ?_⟩
    rw [List.nil_append, takeChar_one more (by rw [byte]; omega), byte, again]
  · split
    · next two =>
      have byte1 := toNat_ofNat_of_lt (by omega : n / 64 % 32 + 192 < 256)
      have byte2 := toNat_ofNat_of_lt (by omega : n % 64 + 128 < 256)
      have sum : (n / 64 % 32 + 192) % 32 * 64 + (n % 64 + 128) % 64 = n := by omega
      refine ⟨_, _, rfl, ?_⟩
      rw [List.singleton_append, takeChar_two more (by omega) (by omega)
        ((isContinuation_iff _).mpr (by omega)), byte1, byte2, sum, again]
    · split
      · next three =>
        have byte1 := toNat_ofNat_of_lt (by omega : n / 4096 % 16 + 224 < 256)
        have byte2 := toNat_ofNat_of_lt (by omega : n / 64 % 64 + 128 < 256)
        have byte3 := toNat_ofNat_of_lt (by omega : n % 64 + 128 < 256)
        have sum : ((n / 4096 % 16 + 224) % 16 * 64 + (n / 64 % 64 + 128) % 64) * 64
            + (n % 64 + 128) % 64 = n := by omega
        refine ⟨_, _, rfl, ?_⟩
        rw [List.cons_append, List.singleton_append, takeChar_three more (by omega) (by omega)
          (secondOfThree_iff.mpr (by omega)) ((isContinuation_iff _).mpr (by omega)),
          byte1, byte2, byte3, sum, again]
      · next four =>
        have byte1 := toNat_ofNat_of_lt (by omega : n / 262144 % 8 + 240 < 256)
        have byte2 := toNat_ofNat_of_lt (by omega : n / 4096 % 64 + 128 < 256)
        have byte3 := toNat_ofNat_of_lt (by omega : n / 64 % 64 + 128 < 256)
        have byte4 := toNat_ofNat_of_lt (by omega : n % 64 + 128 < 256)
        have sum : (((n / 262144 % 8 + 240) % 8 * 64 + (n / 4096 % 64 + 128) % 64) * 64
            + (n / 64 % 64 + 128) % 64) * 64 + (n % 64 + 128) % 64 = n := by omega
        refine ⟨_, _, rfl, ?_⟩
        rw [List.cons_append, List.cons_append, List.singleton_append,
          takeChar_four more (by omega) (by omega) (secondOfFour_iff.mpr (by omega))
            ((isContinuation_iff _).mpr (by omega)) ((isContinuation_iff _).mpr (by omega)),
          byte1, byte2, byte3, byte4, sum, again]

theorem exists_cons_encode (c : Char) : ∃ first rest, String.utf8EncodeChar c = first :: rest := by
  obtain ⟨first, rest, begins, _⟩ := takeChar_encode c []
  exact ⟨first, rest, begins⟩

/-- The UTF-8 form of a row of characters. -/
def encoded (chars : List Char) : Bytes := chars.flatMap String.utf8EncodeChar

@[simp] theorem encoded_nil : encoded [] = [] := rfl

theorem encoded_cons (c : Char) (rest : List Char) :
    encoded (c :: rest) = String.utf8EncodeChar c ++ encoded rest := rfl

theorem encoded_append (left right : List Char) :
    encoded (left ++ right) = encoded left ++ encoded right := List.flatMap_append

theorem encoded_singleton (c : Char) : encoded [c] = String.utf8EncodeChar c :=
  List.flatMap_singleton ..

theorem exists_cons_encoded {chars : List Char} (present : chars ≠ []) :
    ∃ first rest, encoded chars = first :: rest := by
  cases chars with
  | nil => exact absurd rfl present
  | cons c more =>
    obtain ⟨first, rest, begins⟩ := exists_cons_encode c
    exact ⟨first, rest ++ encoded more, by rw [encoded_cons, begins, List.cons_append]⟩

/-- The last byte of a text is one of its last character. -/
theorem getLast?_encoded {b : UInt8} {chars : List Char} (last : (encoded chars).getLast? = some b) :
    ∃ c, chars.getLast? = some c ∧ b ∈ String.utf8EncodeChar c := by
  induction chars using List.reverseRecOn with
  | nil => cases last
  | append_singleton before c _ =>
    obtain ⟨first, rest, begins⟩ := exists_cons_encode c
    rw [encoded_append, encoded_singleton, List.getLast?_append, begins, List.getLast?_cons,
      Option.some_or, ← List.getLast?_cons] at last
    refine ⟨c, List.getLast?_concat, ?_⟩
    rw [begins]
    exact List.mem_of_getLast? last

theorem utf8_eq (text : String) : utf8 text = encoded text.toList := rfl

theorem readStrict_encoded (read chars : List Char) :
    readStrict read (encoded chars) = some (chars.reverse ++ read) := by
  induction chars generalizing read with
  | nil => rw [encoded_nil, readStrict]; rfl
  | cons c rest ih =>
    obtain ⟨first, tail, bytes, takes⟩ := takeChar_encode c (encoded rest)
    rw [encoded_cons, bytes, List.cons_append, readStrict]
    split
    · next d left reads =>
      rw [takes] at reads
      cases reads
      rw [ih, List.reverse_cons, List.append_assoc]
      rfl
    · next left fails =>
      rw [takes] at fails
      cases fails

/-- A text is what its bytes are read as. -/
theorem ofUtf8?_encoded (chars : List Char) : ofUtf8? (encoded chars) = some (String.ofList chars) := by
  rw [ofUtf8?, readStrict_encoded, List.append_nil, Option.map_some, List.reverse_reverse]

theorem encoded_injective : Function.Injective encoded := by
  intro left right same
  have texts := (ofUtf8?_encoded left).symm.trans (same ▸ ofUtf8?_encoded right)
  rw [Option.some.injEq, String.ofList_inj] at texts
  exact texts

/-- An ASCII byte stands in the form of its own character only. -/
theorem mem_encode_iff {b : UInt8} (ascii : b.toNat < 0x80) (c : Char) :
    b ∈ String.utf8EncodeChar c ↔ c.toNat = b.toNat := by
  have value : c.val.toNat = c.toNat := rfl
  unfold String.utf8EncodeChar
  rw [value]
  dsimp only
  generalize c.toNat = n
  have large : ∀ m, 128 ≤ m → m < 256 → b ≠ UInt8.ofNat m := by
    intro m low high same
    rw [same, toNat_ofNat_of_lt high] at ascii
    omega
  split
  · rw [List.mem_singleton, ← UInt8.toNat_inj, toNat_ofNat_of_lt (by omega)]
    exact eq_comm
  · have differs : ¬ n = b.toNat := by omega
    simp only [differs, iff_false]
    split
    · simp only [List.mem_cons, List.not_mem_nil, or_false, not_or]
      exact ⟨large _ (by omega) (by omega), large _ (by omega) (by omega)⟩
    · split
      · simp only [List.mem_cons, List.not_mem_nil, or_false, not_or]
        exact ⟨large _ (by omega) (by omega), large _ (by omega) (by omega),
          large _ (by omega) (by omega)⟩
      · simp only [List.mem_cons, List.not_mem_nil, or_false, not_or]
        exact ⟨large _ (by omega) (by omega), large _ (by omega) (by omega),
          large _ (by omega) (by omega), large _ (by omega) (by omega)⟩

/-- A character that is not in a text has no byte in it. -/
theorem not_mem_encoded {c : Char} {chars : List Char} (ascii : c.toNat < 0x80) (absent : c ∉ chars) :
    UInt8.ofNat c.toNat ∉ encoded chars := by
  intro among
  have value := toNat_ofNat_of_lt (by omega : c.toNat < 256)
  obtain ⟨d, held, inside⟩ := List.mem_flatMap.mp among
  have same := (mem_encode_iff (by rw [value]; exact ascii) d).mp inside
  rw [value] at same
  exact absent (Char.toNat_inj.mp same ▸ held)

end Courier.Text
