import Courier.Json.Value
import Courier.Proofs.CutScalar
import Courier.Text.Blank
import Mathlib.Data.List.TakeWhile

/-!
JSON documents cut short. A list, an object, a word or a string is read as it was if more bytes follow. So bytes before
a cut that are a document are still one if blanks follow, and else they are none any more (`ofBytes_append`): of a
document that is cut before its end nothing is read.
-/
namespace Courier.Json

theorem moreItems_onto {first goes : Bool} {c after : Cursor} (more : Bytes)
    (reads : moreItems first c = .ok (goes, after)) :
    0 < after.rest.length ∧ after.rest.length ≤ c.rest.length ∧
      moreItems first (c.onto more) = .ok (goes, after.onto more) := by
  have blanks := c.skipBlanks_length
  unfold moreItems at reads ⊢
  dsimp only at reads ⊢
  cases next : c.skipBlanks.peek with
  | none =>
    rw [next] at reads
    cases reads
  | some b =>
    have left := Cursor.length_pos_of_peek next
    rw [next] at reads
    rw [Cursor.skipBlanks_onto more left, Cursor.peek_onto left, next]
    split at reads
    · next ends => cases ends
    · next close =>
      cases reads
      exact ⟨left, blanks, rfl⟩
    · split at reads
      · next first =>
        cases reads
        rw [if_pos first]
        exact ⟨left, blanks, rfl⟩
      · next later =>
        rw [if_neg later]
        split at reads
        · next comma =>
          rw [if_pos comma, Cursor.skip_onto left]
          have shorter := Cursor.skip_length c.skipBlanks
          have further := c.skipBlanks.skip.skipBlanks_length
          cases upcoming : c.skipBlanks.skip.skipBlanks.peek with
          | none =>
            rw [upcoming] at reads
            cases reads
          | some d =>
            have remains := Cursor.length_pos_of_peek upcoming
            rw [upcoming] at reads
            rw [Cursor.skipBlanks_onto more remains, Cursor.peek_onto remains, upcoming]
            split at reads
            · next ends => cases ends
            · cases reads
            · cases reads
              exact ⟨remains, by omega, rfl⟩
        · cases reads

theorem moreMembers_onto {first goes : Bool} {c after : Cursor} (more : Bytes)
    (reads : moreMembers first c = .ok (goes, after)) :
    0 < after.rest.length ∧ after.rest.length ≤ c.rest.length ∧
      moreMembers first (c.onto more) = .ok (goes, after.onto more) := by
  have blanks := c.skipBlanks_length
  unfold moreMembers at reads ⊢
  dsimp only at reads ⊢
  cases next : c.skipBlanks.peek with
  | none =>
    rw [next] at reads
    cases reads
  | some b =>
    have left := Cursor.length_pos_of_peek next
    rw [next] at reads
    rw [Cursor.skipBlanks_onto more left, Cursor.peek_onto left, next]
    split at reads
    · next ends => cases ends
    · next close =>
      cases reads
      exact ⟨left, blanks, rfl⟩
    · split at reads
      · next first =>
        rw [if_pos first]
        split at reads
        · next quote =>
          cases reads
          rw [if_pos quote]
          exact ⟨left, blanks, rfl⟩
        · cases reads
      · next later =>
        rw [if_neg later]
        split at reads
        · next comma =>
          rw [if_pos comma, Cursor.skip_onto left]
          have shorter := Cursor.skip_length c.skipBlanks
          have further := c.skipBlanks.skip.skipBlanks_length
          cases upcoming : c.skipBlanks.skip.skipBlanks.peek with
          | none =>
            rw [upcoming] at reads
            cases reads
          | some d =>
            have remains := Cursor.length_pos_of_peek upcoming
            rw [upcoming] at reads
            rw [Cursor.skipBlanks_onto more remains, Cursor.peek_onto remains, upcoming]
            split at reads
            · next ends => cases ends
            · cases reads
              exact ⟨remains, by omega, rfl⟩
            · cases reads
            · cases reads
        · cases reads

theorem readColon_onto {c after : Cursor} (more : Bytes) (reads : readColon c = .ok after) :
    after.rest.length ≤ c.rest.length ∧ readColon (c.onto more) = .ok (after.onto more) := by
  have blanks := c.skipBlanks_length
  unfold readColon at reads ⊢
  dsimp only at reads ⊢
  cases next : c.skipBlanks.peek with
  | none =>
    rw [next] at reads
    cases reads
  | some b =>
    have left := Cursor.length_pos_of_peek next
    have shorter := Cursor.skip_length c.skipBlanks
    rw [next] at reads
    rw [Cursor.skipBlanks_onto more left, Cursor.peek_onto left, next]
    split at reads
    · cases reads
      refine ⟨by omega, ?_⟩
      rw [← Cursor.skip_onto left]
    · cases reads
    · next ends => cases ends

/-- What a reader of values makes of fewer than `limit` bytes, another makes of them with more to follow; only values
that are not `free` need a byte left that ends them. -/
def Carried {α : Type} (limit : Nat) (free : α → Prop) (more : Bytes)
    (reader later : Cursor → Except Trouble (α × Cursor)) : Prop :=
  ∀ ⦃c x after⦄, c.rest.length < limit → reader c = .ok (x, after) →
    after.rest.length < c.rest.length ∧
      (free x ∨ 0 < after.rest.length → later (c.onto more) = .ok (x, after.onto more))

section

variable {more : Bytes} {limit fuel further : Nat} {c after : Cursor}

theorem readItems_onto {α : Type} {free : α → Prop} {item later : Cursor → Except Trouble (α × Cursor)}
    (items : Carried limit free more item later) (few : fuel ≤ limit) (enough : fuel ≤ further)
    {read list : List α} (short : c.rest.length < fuel)
    (reads : readItems item fuel read c = .ok (list, after)) :
    after.rest.length < c.rest.length ∧
      readItems later further read (c.onto more) = .ok (list, after.onto more) := by
  induction fuel generalizing further read c with
  | zero => cases short
  | succ fuel ih =>
    obtain ⟨further, rfl⟩ := Nat.exists_eq_add_one_of_ne_zero (Nat.ne_zero_of_lt enough)
    have enough : fuel ≤ further := Nat.le_of_succ_le_succ enough
    unfold readItems at reads ⊢
    rcases goes : moreItems read.isEmpty c with trouble | ⟨another, there⟩
    · rw [goes] at reads
      cases reads
    · obtain ⟨left, nearer, onward⟩ := moreItems_onto more goes
      rw [goes] at reads
      rw [onward]
      cases another with
      | false =>
        have skipped := Cursor.skip_length there
        cases reads
        refine ⟨by omega, ?_⟩
        rw [← Cursor.skip_onto left]
        rfl
      | true =>
        dsimp only [bind, Except.bind] at reads ⊢
        rcases got : item there with trouble | ⟨x, beyond⟩
        · rw [got] at reads
          cases reads
        · obtain ⟨shorter, carried⟩ := items (by omega) got
          rw [got] at reads
          dsimp only at reads
          obtain ⟨shortest, rest⟩ := ih (by omega) enough (by omega) reads
          rw [carried (.inr (by omega))]
          exact ⟨by omega, rest⟩

theorem readMembers_onto {free : Value → Prop} {value later : Cursor → Except Trouble (Value × Cursor)}
    (values : Carried limit free more value later) (few : fuel ≤ limit) (enough : fuel ≤ further)
    {read list : List (String × Value)} (short : c.rest.length < fuel)
    (reads : readMembers value fuel read c = .ok (list, after)) :
    after.rest.length < c.rest.length ∧
      readMembers later further read (c.onto more) = .ok (list, after.onto more) := by
  induction fuel generalizing further read c with
  | zero => cases short
  | succ fuel ih =>
    obtain ⟨further, rfl⟩ := Nat.exists_eq_add_one_of_ne_zero (Nat.ne_zero_of_lt enough)
    have enough : fuel ≤ further := Nat.le_of_succ_le_succ enough
    unfold readMembers at reads ⊢
    rcases goes : moreMembers read.isEmpty c with trouble | ⟨another, there⟩
    · rw [goes] at reads
      cases reads
    · obtain ⟨left, nearer, onward⟩ := moreMembers_onto more goes
      rw [goes] at reads
      rw [onward]
      cases another with
      | false =>
        have skipped := Cursor.skip_length there
        cases reads
        refine ⟨by omega, ?_⟩
        rw [← Cursor.skip_onto left]
        rfl
      | true =>
        dsimp only [bind, Except.bind] at reads ⊢
        rcases quoted : readQuoted there with trouble | ⟨name, colon⟩
        · rw [quoted] at reads
          cases reads
        obtain ⟨named, nameOnward⟩ := readQuoted_onto left more quoted
        rw [quoted] at reads
        rw [nameOnward]
        dsimp only at reads ⊢
        rcases parted : readColon colon with trouble | start
        · rw [parted] at reads
          cases reads
        obtain ⟨apart, colonOnward⟩ := readColon_onto more parted
        rw [parted] at reads
        rw [colonOnward]
        dsimp only at reads ⊢
        rcases got : value start with trouble | ⟨x, beyond⟩
        · rw [got] at reads
          cases reads
        obtain ⟨shorter, carried⟩ := values (by omega) got
        rw [got] at reads
        dsimp only at reads
        obtain ⟨shortest, rest⟩ := ih (by omega) enough (by omega) reads
        rw [carried (.inr (by omega))]
        exact ⟨by omega, rest⟩

end

/-- Values that do not depend on what follows them: all but numbers. -/
def Value.isBounded : Value → Bool
  | number _ => false
  | _ => true

theorem wordValue_onto {word : List UInt8} {value v : Value} {c after : Cursor}
    (left : 0 < c.rest.length) (more : Bytes)
    (reads : (do pure (value, ← readWord word c.skip)) = Except.ok (v, after)) :
    after.rest.length < c.rest.length ∧
      (do pure (value, ← readWord word (c.onto more).skip)) = Except.ok (v, after.onto more) := by
  have shorter := Cursor.skip_length c
  rcases got : readWord word c.skip with trouble | there
  · rw [got] at reads
    cases reads
  · rw [got] at reads
    cases reads
    obtain ⟨short, onward⟩ := readWord_onto more got
    rw [Cursor.skip_onto left, onward]
    exact ⟨by omega, rfl⟩

/-- A value that is made of one part has the part's end. -/
theorem exists_part {α : Type} {part : Except Trouble (α × Cursor)} {wrap : α → Value} {v : Value}
    {after : Cursor} (reads : (do let (x, c) ← part; pure (wrap x, c)) = Except.ok (v, after)) :
    ∃ x, part = .ok (x, after) ∧ v = wrap x := by
  rcases part with trouble | ⟨x, there⟩
  · cases reads
  · cases reads
    exact ⟨x, rfl, rfl⟩

theorem readValue_carried {limit further : Nat} (enough : limit ≤ further) (more : Bytes) (depth : Nat) :
    Carried limit (·.isBounded = true) more (readValue limit depth) (readValue further depth) := by
  induction depth using Nat.strongRecOn with
  | ind depth ih =>
    intro c v after short reads
    have blanks := c.skipBlanks_length
    have shorter := Cursor.skip_length c.skipBlanks
    unfold readValue at reads ⊢
    dsimp only at reads ⊢
    cases next : c.skipBlanks.peek with
    | none =>
      rw [next] at reads
      cases reads
    | some b =>
      have left := Cursor.length_pos_of_peek next
      rw [next] at reads
      rw [Cursor.skipBlanks_onto more left, Cursor.peek_onto left, next]
      split at reads
      · next ends => cases ends
      · obtain ⟨within, onward⟩ := wordValue_onto left more reads
        exact ⟨by omega, fun _ => onward⟩
      · obtain ⟨within, onward⟩ := wordValue_onto left more reads
        exact ⟨by omega, fun _ => onward⟩
      · obtain ⟨within, onward⟩ := wordValue_onto left more reads
        exact ⟨by omega, fun _ => onward⟩
      · obtain ⟨s, quoted, rfl⟩ := exists_part reads
        obtain ⟨within, onward⟩ := readQuoted_onto left more quoted
        refine ⟨by omega, fun _ => ?_⟩
        rw [onward]
        rfl
      · obtain ⟨n, number, rfl⟩ := exists_part reads
        obtain ⟨within, onward⟩ := readNumber_onto number
        refine ⟨by omega, fun ends => ?_⟩
        have remains : 0 < after.rest.length := ends.resolve_left Bool.false_ne_true
        rw [Cursor.skip_onto left, onward remains]
        rfl
      · cases depth with
        | zero => cases reads
        | succ depth =>
          obtain ⟨items, list, rfl⟩ := exists_part reads
          obtain ⟨within, onward⟩ :=
            readItems_onto (ih depth (Nat.lt_succ_self depth)) (Nat.le_refl limit) enough (by omega) list
          refine ⟨by omega, fun _ => ?_⟩
          rw [Cursor.skip_onto left]
          dsimp only
          rw [onward]
          rfl
      · cases depth with
        | zero => cases reads
        | succ depth =>
          obtain ⟨members, object, rfl⟩ := exists_part reads
          obtain ⟨within, onward⟩ :=
            readMembers_onto (ih depth (Nat.lt_succ_self depth)) (Nat.le_refl limit) enough (by omega) object
          refine ⟨by omega, fun _ => ?_⟩
          rw [Cursor.skip_onto left]
          dsimp only
          rw [onward]
          rfl
      · split at reads
        · next digit =>
          obtain ⟨n, number, rfl⟩ := exists_part reads
          obtain ⟨within, onward⟩ := readNumber_onto number
          refine ⟨by omega, fun ends => ?_⟩
          have remains : 0 < after.rest.length := ends.resolve_left Bool.false_ne_true
          rw [if_pos digit, onward remains]
          rfl
        · cases reads

theorem Cursor.skipMany_takeWhile_rest (p : UInt8 → Bool) (c : Cursor) :
    (c.skipMany (c.rest.takeWhile p).length).rest = c.rest.dropWhile p := by
  have dropped : ∀ bytes : Bytes, bytes.drop (bytes.takeWhile p).length = bytes.dropWhile p := by
    intro bytes
    induction bytes with
    | nil => rfl
    | cons b rest ih => cases blank : p b <;> simp [blank, ih]
  exact dropped c.rest

/-- After a value nothing comes, or blanks. -/
theorem expectEnd_iff (c : Cursor) :
    expectEnd c = .ok () ↔ ∀ b ∈ c.rest, Text.isMarkupBlank b = true := by
  have blank : (fun b : UInt8 => b == 0x20 || b == 0x0a || b == 0x09 || b == 0x0d) = Text.isMarkupBlank := by
    funext b
    rw [Text.isMarkupBlank, Bool.or_right_comm (b == 0x20)]
  have rest : c.skipBlanks.rest = c.rest.dropWhile Text.isMarkupBlank := by
    rw [← blank]
    exact Cursor.skipMany_takeWhile_rest _ c
  unfold expectEnd
  dsimp only
  rw [Cursor.peek, rest, ← List.dropWhile_eq_nil_iff]
  cases c.rest.dropWhile Text.isMarkupBlank with
  | nil => simp
  | cons b rest => simp [Cursor.failNext]

/-- A document, other than a number, that more bytes follow is still read as the same value if they are blanks, and is
no document otherwise. -/
theorem ofBytes_append {cut : Bytes} {v : Value} (reads : ofBytes cut = .ok v)
    (bounded : v.isBounded = true) (more : Bytes) :
    ((∀ b ∈ more, Text.isMarkupBlank b = true) → ofBytes (cut ++ more) = .ok v) ∧
      ((¬∀ b ∈ more, Text.isMarkupBlank b = true) →
        ∃ trouble, ofBytes (cut ++ more) = .error trouble) := by
  unfold ofBytes at reads
  rcases value : readValue (cut.length + 1) maxDepth ⟨cut, 0⟩ with trouble | ⟨w, after⟩
  · rw [value] at reads
    cases reads
  · rw [value] at reads
    have ends : expectEnd after = .ok () ∧ w = v := by
      dsimp only [bind, Except.bind] at reads
      cases closes : expectEnd after with
      | error trouble =>
        rw [closes] at reads
        cases reads
      | ok u =>
        rw [closes] at reads
        cases reads
        exact ⟨rfl, rfl⟩
    obtain ⟨blanks, rfl⟩ := ends
    have further : cut.length + 1 ≤ (cut ++ more).length + 1 := by simp
    obtain ⟨-, onward⟩ := readValue_carried further more maxDepth (Nat.lt_succ_self cut.length) value
    have later : readValue ((cut ++ more).length + 1) maxDepth ⟨cut ++ more, 0⟩ =
        .ok (w, after.onto more) := onward (.inl bounded)
    have document : ofBytes (cut ++ more) = (do expectEnd (after.onto more); pure w) := by
      rw [ofBytes, later]
      rfl
    rw [expectEnd_iff] at blanks
    have closes : expectEnd (after.onto more) = .ok () ↔ ∀ b ∈ more, Text.isMarkupBlank b = true := by
      rw [expectEnd_iff, Cursor.onto, List.forall_mem_append]
      exact and_iff_right blanks
    rw [document]
    refine ⟨fun all => ?_, fun other => ?_⟩
    · rw [closes.mpr all]
      rfl
    · cases fault : expectEnd (after.onto more) with
      | error trouble => exact ⟨trouble, rfl⟩
      | ok u => exact absurd (closes.mp fault) other

end Courier.Json
