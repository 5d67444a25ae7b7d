import Courier.Codec.Base64
import Courier.Codec.Hex
import Courier.Proofs.Trimming
import Courier.Proofs.Utf8
import Courier.Text.Ascii

/-!
Hexadecimal and base64 as exact codes. What reading takes is what writing makes and nothing else, but for the letter
case of hexadecimal digits (`Hex.decode?_eq_some_iff`, `Base64.decode?_eq_some_iff`); so no two byte strings are written
alike, and no text stands for two.
-/
namespace Courier

/-- The byte with the number of a byte is that byte. -/
theorem ofNat_eq_byte {b : UInt8} {n : Nat} (same : n = b.toNat) : UInt8.ofNat n = b := by
  rw [same, UInt8.ofNat_toNat]

namespace Hex

theorem value?_digit {n : Nat} (small : n < 16) : value? (digit n) = some n := by
  have all : ∀ n : Fin 16, value? (digit n) = some n.val := by decide
  exact all ⟨n, small⟩

/-- The value of a digit by its code point. -/
theorem value?_eq (c : Char) : value? c =
    if 48 ≤ c.toNat ∧ c.toNat ≤ 57 then some (c.toNat - 48)
    else if 97 ≤ c.toNat ∧ c.toNat ≤ 102 then some (c.toNat - 87)
    else if 65 ≤ c.toNat ∧ c.toNat ≤ 70 then some (c.toNat - 55)
    else none := rfl

theorem toNat_toLower (c : Char) :
    c.toLower.toNat = if 65 ≤ c.toNat ∧ c.toNat ≤ 90 then c.toNat + 32 else c.toNat := by
  unfold Char.toLower
  split
  · next capital =>
    have range : 65 ≤ c.toNat ∧ c.toNat ≤ 90 := capital
    rw [if_pos range]
    show (c.val + 32).toNat = c.val.toNat + 32
    have fits : c.val.toNat ≤ 90 := range.2
    rw [UInt32.toNat_add]
    exact Nat.mod_eq_of_lt (by simp; omega)
  · next other => rw [if_neg fun range : 65 ≤ c.toNat ∧ c.toNat ≤ 90 => other range]

/-- A digit has its value in either letter case. -/
theorem value?_toLower (c : Char) : value? c.toLower = value? c := by
  rw [value?_eq, value?_eq, toNat_toLower]
  by_cases capital : 65 ≤ c.toNat ∧ c.toNat ≤ 90
  · have number : c.toNat + 32 - 87 = c.toNat - 55 := by omega
    rw [if_pos capital, number]
    by_cases digit : c.toNat ≤ 70
    · rw [if_neg (by omega), if_pos (by omega), if_neg (by omega), if_neg (by omega), if_pos (by omega)]
    · rw [if_neg (by omega), if_neg (by omega), if_neg (by omega), if_neg (by omega), if_neg (by omega),
        if_neg (by omega)]
  · rw [if_neg capital]

/-- A character with a value is the digit of that value, in either letter case. -/
theorem digit_of_value? {c : Char} {v : Nat} (value : value? c = some v) : v < 16 ∧ digit v = c.toLower := by
  rw [value?_eq] at value
  have number : v < 16 ∧ (if v < 10 then 48 + v else 87 + v) = c.toLower.toNat := by
    rw [toNat_toLower]
    split_ifs at value ⊢ <;> cases value <;> omega
  refine ⟨number.1, ?_⟩
  rw [← Char.ofNat_toNat c.toLower, ← number.2, digit]
  split <;> rfl

theorem not_isBlank_of_value? {c : Char} {v : Nat} (value : value? c = some v) : Text.isBlank c = false := by
  have visible : 48 ≤ c.toNat ∧ c.toNat ≤ 102 := by
    rw [value?_eq] at value
    split_ifs at value <;> omega
  exact Text.not_isBlank_of_visible (by omega) (by omega)

theorem readPairs_map_toLower (read : Bytes) (digits : List Char) :
    readPairs read (digits.map Char.toLower) = readPairs read digits := by
  induction read, digits using readPairs.induct with
  | case1 read => rfl
  | case2 read c => rfl
  | case3 read high low rest h l hv lv ih =>
    rw [List.map_cons, List.map_cons, readPairs, readPairs, value?_toLower, value?_toLower, hv, lv]
    exact ih
  | case4 read high low rest none =>
    rw [List.map_cons, List.map_cons, readPairs, readPairs, value?_toLower, value?_toLower]
    cases hv : value? high with
    | none => rfl
    | some h =>
      cases lv : value? low with
      | none => rfl
      | some l => exact (none h l hv lv).elim

/-- Written bytes are read behind those that were read before. -/
theorem readPairs_written (read bytes : Bytes) :
    readPairs read (bytes.flatMap encodeByte) = some (read.reverse ++ bytes) := by
  induction bytes generalizing read with
  | nil => rw [List.append_nil]; rfl
  | cons b rest ih =>
    have bound := b.toNat_lt
    have whole : UInt8.ofNat (16 * (b.toNat / 16) + b.toNat % 16) = b :=
      ofNat_eq_byte (Nat.div_add_mod _ _)
    rw [List.flatMap_cons, encodeByte, List.cons_append, List.cons_append, List.nil_append, readPairs,
      value?_digit (by omega), value?_digit (by omega)]
    dsimp only
    rw [whole, ih, List.reverse_cons, List.append_assoc]
    rfl

/-- What was read is written with the digits that were read, in small letters. -/
theorem map_toLower_of_readPairs {read all : Bytes} {digits : List Char}
    (reads : readPairs read digits = some all) :
    ∃ bytes, all = read.reverse ++ bytes ∧ digits.map Char.toLower = bytes.flatMap encodeByte := by
  induction read, digits using readPairs.induct with
  | case1 read =>
    cases reads
    exact ⟨[], (List.append_nil _).symm, rfl⟩
  | case2 read c => cases reads
  | case3 read high low rest h l hv lv ih =>
    rw [readPairs, hv, lv] at reads
    obtain ⟨bytes, split, written⟩ := ih reads
    obtain ⟨smallHigh, digitHigh⟩ := digit_of_value? hv
    obtain ⟨smallLow, digitLow⟩ := digit_of_value? lv
    have number : (UInt8.ofNat (16 * h + l)).toNat = 16 * h + l := Text.toNat_ofNat_of_lt (by omega)
    refine ⟨UInt8.ofNat (16 * h + l) :: bytes, ?_, ?_⟩
    · rw [split, List.reverse_cons, List.append_assoc]
      rfl
    · have first : (16 * h + l) / 16 = h := by omega
      have second : (16 * h + l) % 16 = l := by omega
      rw [List.flatMap_cons, ← written, encodeByte, number, first, second, digitHigh, digitLow]
      rfl
  | case4 read high low rest none =>
    rw [readPairs] at reads
    split at reads
    · next h l hv lv => exact (none h l hv lv).elim
    · cases reads

/-- A text stands for the bytes that it is written for, in any letter case, and for no others. -/
theorem decode?_eq_some_iff {text : String} {bytes : Bytes} :
    decode? text = some bytes ↔ Text.lowerAscii text = encode bytes := by
  unfold decode? Text.lowerAscii encode
  constructor
  · intro reads
    obtain ⟨read, rfl, written⟩ := map_toLower_of_readPairs reads
    exact congrArg String.ofList written
  · intro written
    rw [← readPairs_map_toLower, String.ofList_injective written]
    exact readPairs_written [] bytes

/-- No blank is among the digits that bytes are written with, in any letter case. -/
theorem not_isBlank_of_written {text : String} {bytes : Bytes} (written : Text.lowerAscii text = encode bytes)
    {c : Char} (among : c ∈ text.toList) : Text.isBlank c = false := by
  have lowered : c.toLower ∈ bytes.flatMap encodeByte := by
    rw [← String.ofList_injective written]
    exact List.mem_map_of_mem among
  obtain ⟨b, -, digits⟩ := List.mem_flatMap.mp lowered
  have bound := b.toNat_lt
  obtain ⟨v, value⟩ : ∃ v, value? c.toLower = some v := by
    rcases List.mem_cons.mp digits with high | low
    · exact ⟨_, high ▸ value?_digit (by omega)⟩
    · exact ⟨_, List.mem_singleton.mp low ▸ value?_digit (by omega)⟩
  rw [value?_toLower] at value
  exact not_isBlank_of_value? value

end Hex

namespace Base64

theorem value?_letter {n : Nat} (small : n < 64) : value? (letter n) = some n := by
  have all : ∀ n : Fin 64, value? (letter n) = some n.val := by decide
  exact all ⟨n, small⟩

/-- The value of a letter by its code point. -/
theorem value?_eq (c : Char) : value? c =
    if 65 ≤ c.toNat ∧ c.toNat ≤ 90 then some (c.toNat - 65)
    else if 97 ≤ c.toNat ∧ c.toNat ≤ 122 then some (c.toNat - 71)
    else if 48 ≤ c.toNat ∧ c.toNat ≤ 57 then some (c.toNat + 4)
    else if c = '+' then some 62
    else if c = '/' then some 63
    else none := rfl

/-- A character with a value is the letter of that value. -/
theorem letter_of_value? {c : Char} {v : Nat} (value : value? c = some v) : v < 64 ∧ letter v = c := by
  rw [value?_eq] at value
  split_ifs at value with capital small digit plus slash
  · obtain rfl := Option.some.inj value
    refine ⟨by omega, ?_⟩
    rw [letter, if_pos (by omega), show 65 + (c.toNat - 65) = c.toNat by omega, Char.ofNat_toNat]
  · obtain rfl := Option.some.inj value
    refine ⟨by omega, ?_⟩
    rw [letter, if_neg (by omega), if_pos (by omega), show 71 + (c.toNat - 71) = c.toNat by omega,
      Char.ofNat_toNat]
  · obtain rfl := Option.some.inj value
    refine ⟨by omega, ?_⟩
    rw [letter, if_neg (by omega), if_neg (by omega), if_pos (by omega), Nat.add_sub_cancel, Char.ofNat_toNat]
  · subst plus
    obtain rfl := Option.some.inj value
    decide
  · subst slash
    obtain rfl := Option.some.inj value
    decide

theorem not_isBlank_of_value? {c : Char} {v : Nat} (value : value? c = some v) : Text.isBlank c = false := by
  have visible : 43 ≤ c.toNat ∧ c.toNat ≤ 122 := by
    rw [value?_eq] at value
    split_ifs at value with capital small digit plus slash
    · omega
    · omega
    · omega
    · subst plus; decide
    · subst slash; decide
  exact Text.not_isBlank_of_visible (by omega) (by omega)

theorem ne_pad_of_value? {c : Char} {v : Nat} (value : value? c = some v) : c ≠ '=' := by
  rintro rfl
  cases value

/-- What is written of bytes stands behind what was written before. -/
theorem write_eq (written : List Char) : ∀ bytes, write written bytes = written.reverse ++ write [] bytes
  | [] => by simp [write]
  | [a] => by simp [write]
  | [a, b] => by simp [write]
  | a :: b :: c :: rest => by
    rw [write, write, write_eq _ rest, write_eq (_ ++ []) rest, List.reverse_append, List.append_assoc,
      List.append_nil]

/-- The four letters of three bytes. -/
def quad (a b c : UInt8) : List Char :=
  [letter (a.toNat / 4), letter (a.toNat % 4 * 16 + b.toNat / 16),
    letter (b.toNat % 16 * 4 + c.toNat / 64), letter (c.toNat % 64)]

theorem write_cons (a b c : UInt8) (rest : Bytes) :
    write [] (a :: b :: c :: rest) = quad a b c ++ write [] rest := by
  rw [write, write_eq]
  rfl

/-- Four letters are read as three bytes, whatever comes after them. -/
theorem readGroups_letters (read : Bytes) {c1 c2 c3 c4 : Char} {v1 v2 v3 v4 : Nat} (h1 : value? c1 = some v1)
    (h2 : value? c2 = some v2) (h3 : value? c3 = some v3) (h4 : value? c4 = some v4) (rest : List Char) :
    readGroups read (c1 :: c2 :: c3 :: c4 :: rest) =
      readGroups ([UInt8.ofNat (v3 % 4 * 64 + v4), UInt8.ofNat (v2 % 16 * 16 + v3 / 4),
        UInt8.ofNat (v1 * 4 + v2 / 16)] ++ read) rest := by
  rw [readGroups, h1, h2, h3, h4]
  · intro _ pad _
    exact ne_pad_of_value? h4 pad
  · intro pad _
    exact ne_pad_of_value? h4 pad

/-- Written bytes are read behind those that were read before. -/
theorem readGroups_written (read : Bytes) : ∀ bytes, readGroups read (write [] bytes) = some (read.reverse ++ bytes)
  | [] => by
    rw [List.append_nil]
    rfl
  | [a] => by
    have boundA := a.toNat_lt
    have byteA : UInt8.ofNat (a.toNat / 4 * 4 + a.toNat % 4 * 16 / 16) = a := ofNat_eq_byte (by omega)
    have unused : a.toNat % 4 * 16 % 16 = 0 := by omega
    show readGroups read [letter (a.toNat / 4), letter (a.toNat % 4 * 16), '=', '='] = _
    rw [readGroups, value?_letter (by omega), value?_letter (by omega)]
    dsimp only
    rw [if_pos unused, byteA, List.reverse_cons]
  | [a, b] => by
    have boundA := a.toNat_lt
    have boundB := b.toNat_lt
    have byteA : UInt8.ofNat (a.toNat / 4 * 4 + (a.toNat % 4 * 16 + b.toNat / 16) / 16) = a :=
      ofNat_eq_byte (by omega)
    have byteB : UInt8.ofNat ((a.toNat % 4 * 16 + b.toNat / 16) % 16 * 16 + b.toNat % 16 * 4 / 4) = b :=
      ofNat_eq_byte (by omega)
    have unused : b.toNat % 16 * 4 % 4 = 0 := by omega
    show readGroups read [letter (a.toNat / 4), letter (a.toNat % 4 * 16 + b.toNat / 16),
      letter (b.toNat % 16 * 4), '='] = _
    have last : value? (letter (b.toNat % 16 * 4)) = some (b.toNat % 16 * 4) := value?_letter (by omega)
    rw [readGroups, value?_letter (by omega), value?_letter (by omega), last]
    · dsimp only
      rw [if_pos unused, byteA, byteB, List.reverse_append]
      rfl
    · exact ne_pad_of_value? last
  | a :: b :: c :: rest => by
    have boundA := a.toNat_lt
    have boundB := b.toNat_lt
    have boundC := c.toNat_lt
    have byteA : UInt8.ofNat (a.toNat / 4 * 4 + (a.toNat % 4 * 16 + b.toNat / 16) / 16) = a :=
      ofNat_eq_byte (by omega)
    have byteB : UInt8.ofNat ((a.toNat % 4 * 16 + b.toNat / 16) % 16 * 16 +
        (b.toNat % 16 * 4 + c.toNat / 64) / 4) = b :=
      ofNat_eq_byte (by omega)
    have byteC : UInt8.ofNat ((b.toNat % 16 * 4 + c.toNat / 64) % 4 * 64 + c.toNat % 64) = c :=
      ofNat_eq_byte (by omega)
    show readGroups read (write [] (a :: b :: c :: rest)) = _
    rw [write_cons]
    show readGroups read (letter (a.toNat / 4) :: letter (a.toNat % 4 * 16 + b.toNat / 16) ::
      letter (b.toNat % 16 * 4 + c.toNat / 64) :: letter (c.toNat % 64) :: write [] rest) = _
    rw [readGroups_letters read (value?_letter (by omega)) (value?_letter (by omega))
      (value?_letter (by omega)) (value?_letter (by omega)), readGroups_written _ rest, byteA, byteB, byteC,
      List.reverse_append, List.append_assoc]
    rfl

section

variable {v1 v2 v3 v4 : Nat}

/-- Three bytes that four values make up are written with these values. -/
theorem quad_eq (small1 : v1 < 64) (small2 : v2 < 64) (small3 : v3 < 64) (small4 : v4 < 64) :
    quad (UInt8.ofNat (v1 * 4 + v2 / 16)) (UInt8.ofNat (v2 % 16 * 16 + v3 / 4)) (UInt8.ofNat (v3 % 4 * 64 + v4)) =
      [letter v1, letter v2, letter v3, letter v4] := by
  have first : (v1 * 4 + v2 / 16) / 4 = v1 := by omega
  have second : (v1 * 4 + v2 / 16) % 4 * 16 + (v2 % 16 * 16 + v3 / 4) / 16 = v2 := by omega
  have third : (v2 % 16 * 16 + v3 / 4) % 16 * 4 + (v3 % 4 * 64 + v4) / 64 = v3 := by omega
  have fourth : (v3 % 4 * 64 + v4) % 64 = v4 := by omega
  rw [quad, Text.toNat_ofNat_of_lt (by omega), Text.toNat_ofNat_of_lt (by omega),
    Text.toNat_ofNat_of_lt (by omega), first, second, third, fourth]

/-- So are two bytes, if the last value has no bits left over. -/
theorem write_two (small1 : v1 < 64) (small2 : v2 < 64) (small3 : v3 < 64) (unused : v3 % 4 = 0) :
    write [] [UInt8.ofNat (v1 * 4 + v2 / 16), UInt8.ofNat (v2 % 16 * 16 + v3 / 4)] =
      [letter v1, letter v2, letter v3, '='] := by
  have first : (v1 * 4 + v2 / 16) / 4 = v1 := by omega
  have second : (v1 * 4 + v2 / 16) % 4 * 16 + (v2 % 16 * 16 + v3 / 4) / 16 = v2 := by omega
  have third : (v2 % 16 * 16 + v3 / 4) % 16 * 4 = v3 := by omega
  rw [write, Text.toNat_ofNat_of_lt (by omega), Text.toNat_ofNat_of_lt (by omega), first, second, third]
  rfl

/-- So is one. -/
theorem write_one (small1 : v1 < 64) (small2 : v2 < 64) (unused : v2 % 16 = 0) :
    write [] [UInt8.ofNat (v1 * 4 + v2 / 16)] = [letter v1, letter v2, '=', '='] := by
  have first : (v1 * 4 + v2 / 16) / 4 = v1 := by omega
  have second : (v1 * 4 + v2 / 16) % 4 * 16 = v2 := by omega
  rw [write, Text.toNat_ofNat_of_lt (by omega), first, second]
  rfl

end

/-- What was read is written with the letters that were read. -/
theorem eq_write_of_readGroups {read all : Bytes} {letters : List Char} (reads : readGroups read letters = some all) :
    ∃ bytes, all = read.reverse ++ bytes ∧ letters = write [] bytes := by
  induction read, letters using readGroups.induct with
  | case1 read =>
    cases reads
    exact ⟨[], (List.append_nil _).symm, rfl⟩
  | case2 read c1 c2 v1 v2 h2 h1 unused =>
    obtain ⟨small1, rfl⟩ := letter_of_value? h1
    obtain ⟨small2, rfl⟩ := letter_of_value? h2
    simp only [readGroups, h1, h2, if_pos unused, Option.some.injEq] at reads
    exact ⟨_, reads.symm.trans (List.reverse_cons ..), (write_one small1 small2 unused).symm⟩
  | case3 read c1 c2 v1 v2 h2 h1 used =>
    simp only [readGroups, h1, h2, if_neg used, reduceCtorEq] at reads
  | case4 read c1 c2 none =>
    rw [readGroups] at reads
    split at reads
    · next v1 v2 h1 h2 => exact (none v1 v2 h1 h2).elim
    · cases reads
  | case5 read c1 c2 c3 inside v1 v2 v3 h3 h2 h1 unused =>
    obtain ⟨small1, rfl⟩ := letter_of_value? h1
    obtain ⟨small2, rfl⟩ := letter_of_value? h2
    obtain ⟨small3, rfl⟩ := letter_of_value? h3
    rw [readGroups.eq_3 _ _ _ _ inside] at reads
    simp only [h1, h2, h3, if_pos unused, Option.some.injEq] at reads
    exact ⟨_, reads.symm.trans (List.reverse_append ..), (write_two small1 small2 small3 unused).symm⟩
  | case6 read c1 c2 c3 inside v1 v2 v3 h3 h2 h1 used =>
    rw [readGroups.eq_3 _ _ _ _ inside] at reads
    simp only [h1, h2, h3, if_neg used, reduceCtorEq] at reads
  | case7 read c1 c2 c3 inside none =>
    rw [readGroups.eq_3 _ _ _ _ inside] at reads
    split at reads
    · next v1 v2 v3 h1 h2 h3 => exact (none v1 v2 v3 h1 h2 h3).elim
    · cases reads
  | case8 read c1 c2 c3 c4 rest _ _ v1 v2 v3 v4 h4 h3 h2 h1 ih =>
    obtain ⟨small1, rfl⟩ := letter_of_value? h1
    obtain ⟨small2, rfl⟩ := letter_of_value? h2
    obtain ⟨small3, rfl⟩ := letter_of_value? h3
    obtain ⟨small4, rfl⟩ := letter_of_value? h4
    rw [readGroups_letters read h1 h2 h3 h4] at reads
    obtain ⟨bytes, split, written⟩ := ih reads
    refine ⟨_, split.trans (by rw [List.reverse_append, List.append_assoc]), ?_⟩
    show _ = write [] (_ :: _ :: _ :: bytes)
    rw [write_cons, quad_eq small1 small2 small3 small4, ← written]
    rfl
  | case9 read c1 c2 c3 c4 rest unpadded unpadded' none =>
    rw [readGroups.eq_4 _ _ _ _ _ _ unpadded unpadded'] at reads
    split at reads
    · next v1 v2 v3 v4 h1 h2 h3 h4 => exact (none v1 v2 v3 v4 h1 h2 h3 h4).elim
    · cases reads
  | case10 letters read filled one two three =>
    rw [readGroups.eq_5 _ _ filled one two three] at reads
    cases reads

/-- A text stands for the bytes that it is written for, and for no others. -/
theorem decode?_eq_some_iff {text : String} {bytes : Bytes} : decode? text = some bytes ↔ text = encode bytes := by
  unfold decode? encode
  constructor
  · intro reads
    obtain ⟨read, rfl, written⟩ := eq_write_of_readGroups reads
    rw [← String.ofList_toList (s := text), written]
  · rintro rfl
    rw [String.toList_ofList]
    exact readGroups_written [] bytes

theorem not_isBlank_letter {n : Nat} (small : n < 64) : Text.isBlank (letter n) = false :=
  not_isBlank_of_value? (value?_letter small)

/-- No blank is among the letters that bytes are written with. -/
theorem not_isBlank_of_mem_write : ∀ bytes, ∀ c ∈ write [] bytes, Text.isBlank c = false
  | [] => fun _ among => absurd among List.not_mem_nil
  | [a] => by
    have boundA := a.toNat_lt
    have pad : Text.isBlank '=' = false := by decide
    simp [write, pad, not_isBlank_letter (show a.toNat / 4 < 64 by omega),
      not_isBlank_letter (show a.toNat % 4 * 16 < 64 by omega)]
  | [a, b] => by
    have boundA := a.toNat_lt
    have boundB := b.toNat_lt
    have pad : Text.isBlank '=' = false := by decide
    simp [write, pad, not_isBlank_letter (show a.toNat / 4 < 64 by omega),
      not_isBlank_letter (show a.toNat % 4 * 16 + b.toNat / 16 < 64 by omega),
      not_isBlank_letter (show b.toNat % 16 * 4 < 64 by omega)]
  | a :: b :: c :: rest => by
    have boundA := a.toNat_lt
    have boundB := b.toNat_lt
    have boundC := c.toNat_lt
    intro d among
    rw [write_cons] at among
    rcases List.mem_append.mp among with first | later
    · simp only [quad, List.mem_cons, List.not_mem_nil, or_false] at first
      rcases first with rfl | rfl | rfl | rfl <;> exact not_isBlank_letter (by omega)
    · exact not_isBlank_of_mem_write rest d later

theorem trim_encode (bytes : Bytes) : Text.trim (encode bytes) = encode bytes := by
  refine Text.trim_of_solid fun c among => not_isBlank_of_mem_write bytes c ?_
  rwa [encode, String.toList_ofList] at among

end Base64

end Courier
