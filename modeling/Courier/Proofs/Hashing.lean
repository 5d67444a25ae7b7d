import Courier.Digest.Tap

/-!
Hashing a message that arrives in pieces. A digester that took bytes in one by one holds the whole blocks of the
message compressed and the rest of it pending (`Absorbed`), and the padding fills the message up to whole blocks. So
its digest is that of the whole message at once (`Digester.finish_takeIn`), and the digest of a tapped stream is that
of all the bytes that passed (`Tap.finish_advance`).
-/
namespace Courier

namespace Digest

namespace Compression

variable (h : Compression)

/-- More fuel than there are bytes changes nothing. -/
theorem compressAll_fuel {fuel more : Nat} {bytes : Bytes} (chain : List UInt32)
    (enough : bytes.length ≤ fuel) (plenty : bytes.length ≤ more) :
    h.compressAll fuel chain bytes = h.compressAll more chain bytes := by
  induction fuel generalizing more chain bytes with
  | zero =>
    have empty : bytes = [] := List.length_eq_zero_iff.mp (Nat.le_zero.mp enough)
    subst empty
    cases more <;> rfl
  | succ fuel ih =>
    cases more with
    | zero =>
      have empty : bytes = [] := List.length_eq_zero_iff.mp (Nat.le_zero.mp plenty)
      subst empty
      rfl
    | succ more =>
      unfold compressAll
      split
      · rfl
      · next full =>
        have some : 0 < bytes.length := List.length_pos_iff.mpr (by simpa using full)
        have shorter : (bytes.drop blockLength).length < bytes.length := by
          rw [List.length_drop, blockLength]
          omega
        exact ih _ (by omega) (by omega)

/-- The chaining value after the whole blocks that `bytes` consist of. -/
def chainAfter (chain : List UInt32) (bytes : Bytes) : List UInt32 :=
  h.compressAll bytes.length chain bytes

/-- A whole block is compressed before what comes after it. -/
theorem chainAfter_block {block : Bytes} (whole : block.length = blockLength) (chain : List UInt32)
    (rest : Bytes) :
    h.chainAfter chain (block ++ rest) = h.chainAfter (h.compress chain block) rest := by
  have first : (block ++ rest).take blockLength = block := List.take_left' whole
  have later : (block ++ rest).drop blockLength = rest := List.drop_left' whole
  have some : (block ++ rest).isEmpty = false := by
    cases block with
    | nil => cases whole
    | cons => rfl
  obtain ⟨fuel, length⟩ : ∃ fuel, (block ++ rest).length = fuel + 1 :=
    Nat.exists_eq_add_one.mpr (by rw [List.length_append, whole, blockLength]; omega)
  have enough : rest.length ≤ fuel := by
    rw [List.length_append, whole, blockLength] at length
    omega
  unfold chainAfter
  rw [length, compressAll, some, if_neg Bool.false_ne_true, first, later]
  exact h.compressAll_fuel _ enough (Nat.le_refl _)

/-- Whole blocks are compressed before what comes after them. -/
theorem chainAfter_append {blocks : Nat} {whole : Bytes} (aligned : whole.length = blocks * blockLength)
    (chain : List UInt32) (rest : Bytes) :
    h.chainAfter chain (whole ++ rest) = h.chainAfter (h.chainAfter chain whole) rest := by
  induction blocks generalizing whole chain with
  | zero =>
    have empty : whole = [] := List.length_eq_zero_iff.mp (by omega)
    subst empty
    rfl
  | succ blocks ih =>
    rw [Nat.succ_mul] at aligned
    have first : (whole.take blockLength).length = blockLength :=
      List.length_take_of_le (by omega)
    have later : (whole.drop blockLength).length = blocks * blockLength := by
      rw [List.length_drop]
      omega
    rw [← List.take_append_drop blockLength whole, List.append_assoc, h.chainAfter_block first,
      h.chainAfter_block first, ih later]

end Compression

/-- The absorber has taken in the message: its whole blocks are compressed, and the rest is pending. -/
structure Absorbed (h : Compression) (message : Bytes) (a : Absorber) : Prop where
  chain : ∃ blocks whole, whole.length = blocks * blockLength ∧
    message = whole ++ a.pending.reverse ∧ a.chain = h.chainAfter h.initial whole
  pendingLength : a.pendingLength = a.pending.length
  short : a.pending.length < blockLength
  total : a.total = message.length

namespace Absorbed

variable {h : Compression} {message : Bytes} {a : Absorber}

theorem start (h : Compression) : Absorbed h [] (.start h) :=
  ⟨⟨0, [], rfl, rfl, rfl⟩, rfl, Nat.zero_lt_succ _, rfl⟩

/-- One more byte fills the block, which is then compressed, or is pending too. -/
theorem push (absorbed : Absorbed h message a) (b : UInt8) : Absorbed h (message ++ [b]) (a.push h b) := by
  obtain ⟨⟨blocks, whole, aligned, split, chain⟩, pendingLength, short, total⟩ := absorbed
  have longer : (message ++ [b]).length = a.total + 1 := by
    rw [List.length_append, total, List.length_singleton]
  have next : message ++ [b] = whole ++ (b :: a.pending).reverse := by
    rw [split, List.reverse_cons, List.append_assoc]
  unfold Absorber.push
  split
  · next fills =>
    have block : (b :: a.pending).reverse.length = blockLength := by
      rw [List.length_reverse, List.length_cons, ← pendingLength, fills]
    refine ⟨⟨blocks + 1, whole ++ (b :: a.pending).reverse, ?_, ?_, ?_⟩, rfl, Nat.zero_lt_succ _, longer.symm⟩
    · rw [List.length_append, aligned, block, Nat.succ_mul]
    · rw [next, List.reverse_nil, List.append_nil]
    · have last := h.chainAfter_block block a.chain []
      rw [List.append_nil] at last
      rw [h.chainAfter_append aligned, ← chain, last]
      rfl
  · next fits =>
    refine ⟨⟨blocks, whole, aligned, next, chain⟩, congrArg (· + 1) pendingLength, ?_, longer.symm⟩
    rw [pendingLength] at fits
    exact Nat.lt_of_le_of_ne short fits

theorem takeIn (absorbed : Absorbed h message a) (piece : Bytes) :
    Absorbed h (message ++ piece) (a.takeIn h piece) := by
  induction piece generalizing message a with
  | nil =>
    rw [List.append_nil]
    exact absorbed
  | cons b rest ih =>
    rw [List.append_cons]
    exact ih (absorbed.push b)

/-- A message of whole blocks leaves nothing pending. -/
theorem chain_of_aligned (absorbed : Absorbed h message a) (aligned : message.length % blockLength = 0) :
    a.chain = h.chainAfter h.initial message := by
  obtain ⟨⟨blocks, whole, multiple, split, chain⟩, -, short, -⟩ := absorbed
  have length : message.length = blocks * blockLength + a.pending.length := by
    rw [split, List.length_append, multiple, List.length_reverse]
  have none : a.pending = [] := by
    have fits : a.pending.length = 0 := by
      unfold blockLength at *
      omega
    exact List.length_eq_zero_iff.mp fits
  rw [chain, split, none, List.reverse_nil, List.append_nil]

end Absorbed

/-- The padding fills the message up to whole blocks, if the length is written in eight bytes. -/
theorem Compression.aligned_padding {h : Compression} (eight : ∀ n, (h.lengthBytes n).length = 8)
    (message : Bytes) : (message ++ h.padding message.length).length % blockLength = 0 := by
  have length : (message ++ h.padding message.length).length =
      message.length + (1 + (2 * blockLength - 9 - message.length % blockLength) % blockLength + 8) := by
    unfold Compression.padding
    rw [List.length_append, List.cons_append, List.length_cons, List.length_append, List.length_replicate,
      eight]
    omega
  rw [length]
  unfold blockLength
  omega

/-- Taking a message in by pieces and finishing gives the hash of the whole. -/
theorem Absorbed.finish {h : Compression} {message : Bytes} {a : Absorber}
    (absorbed : Absorbed h message a) (eight : ∀ n, (h.lengthBytes n).length = 8) :
    a.finish h = h.hash message := by
  have padded := absorbed.takeIn (h.padding a.total)
  rw [absorbed.total] at padded
  unfold Absorber.finish Compression.hash
  rw [absorbed.total, padded.chain_of_aligned (Compression.aligned_padding eight message)]
  rfl

end Digest

theorem DigestAlgorithm.length_lengthBytes (algorithm : DigestAlgorithm) (n : Nat) :
    (algorithm.compression.lengthBytes n).length = 8 := by
  cases algorithm <;> rfl

namespace Digester

/-- The digest of what a fresh digester took in is that of the whole body. -/
theorem finish_takeIn (algorithm : DigestAlgorithm) (body : Bytes) :
    ((Digester.start algorithm).takeIn body).finish = ContentDigest.compute algorithm body := by
  have absorbed := (Digest.Absorbed.start algorithm.compression).takeIn body
  exact congrArg (ContentDigest.mk algorithm) (absorbed.finish algorithm.length_lengthBytes)

@[simp] theorem takeIn_nil (d : Digester) : d.takeIn [] = d := rfl

end Digester

namespace Tap

/-- What passes a tapped stream is taken in; an error has no bytes. -/
theorem digester_see (t : Tap) (item : Item) :
    (t.see item).digester = t.digester.map (·.takeIn item.bytes) := by
  cases item with
  | chunk bytes => rfl
  | failure error =>
    simp only [see, Item.bytes, Digester.takeIn_nil, Option.map_id']

/-- What so many pulls let pass is taken in. -/
theorem digester_advance (count : Nat) {t : Tap} {flow : Flow} (running : t.flow = some flow) :
    (t.advance count).digester =
      t.digester.map (·.takeIn ((flow.items.take count).flatMap Item.bytes)) := by
  induction count generalizing t flow with
  | zero => simp [advance]
  | succ count ih =>
    obtain ⟨items, stalls⟩ := flow
    cases items with
    | nil =>
      have stays : t.next.2 = t := by
        unfold next
        rw [running]
      rw [advance, stays, ih running, List.take_nil, List.take_nil]
    | cons item items =>
      have passes : t.next.2 = { t.see item with flow := some ⟨items, stalls⟩ } := by
        unfold next
        rw [running]
      rw [advance, passes, ih rfl, digester_see, Option.map_map, List.take_succ_cons, List.flatMap_cons]
      congr 1
      funext digester
      exact (digester.takeIn_append _ _).symm

/-- The digest that a tap gives after so many pulls is that of the bytes that they let pass, all at once. -/
theorem finish_advance (flow : Flow) (algorithm : DigestAlgorithm) (count : Nat) :
    ((Tap.ofFlow flow algorithm).advance count).finish.1 =
      some (ContentDigest.compute algorithm ((flow.items.take count).flatMap Item.bytes)) := by
  have running : (Tap.ofFlow flow algorithm).flow = some flow := rfl
  unfold finish
  rw [digester_advance count running, ← Digester.finish_takeIn]
  rfl

end Tap

end Courier
