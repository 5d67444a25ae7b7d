import Courier.Text.Utf8

/-!
Hashing by blocks. A compression function takes 64 bytes at a time into a chaining value; the message is
filled up to whole blocks by one byte `0x80`, zeros, and its length in bits. The definition over the whole
message is `Compression.hash`; `Absorber` does the same byte by byte, so that a message may arrive in
pieces. Main statements: taking in two pieces is taking in their concatenation (`Absorber.takeIn_append`).
-/
namespace Courier.Digest

def blockLength : Nat := 64

/-- A hash function of the kind described: its first chaining value, one step, how the message length is
written in eight bytes, and how the last chaining value is. -/
structure Compression where
  initial : List UInt32
  compress : List UInt32 → Bytes → List UInt32
  lengthBytes : Nat → Bytes
  wordBytes : UInt32 → Bytes

/-- The eight bytes of a number below `2 ^ 64`, least significant first. -/
def littleEndian8 (n : Nat) : Bytes :=
  (List.range 8).map fun i => UInt8.ofNat (n / Nat.pow 256 i)

/-- What follows a message of `length` bytes: `0x80`, then zeros up to eight bytes before the end of a
block, then the length in bits. -/
def Compression.padding (h : Compression) (length : Nat) : Bytes :=
  0x80 :: List.replicate ((2 * blockLength - 9 - length % blockLength) % blockLength) 0
    ++ h.lengthBytes (8 * length)

/-- Compresses the whole blocks that `bytes` consist of; `fuel` is at least their number. -/
def Compression.compressAll (h : Compression) : Nat → List UInt32 → Bytes → List UInt32
  | 0, chain, _ => chain
  | fuel + 1, chain, bytes =>
    if bytes.isEmpty then chain
    else h.compressAll fuel (h.compress chain (bytes.take blockLength)) (bytes.drop blockLength)

def Compression.hash (h : Compression) (message : Bytes) : Bytes :=
  let filled := message ++ h.padding message.length
  (h.compressAll filled.length h.initial filled).flatMap h.wordBytes

/-- A message that has been taken in up to here: the chaining value of its whole blocks, the bytes after
the last of them (newest first, with their number), and how many bytes there were in all. -/
structure Absorber where
  chain : List UInt32
  pending : Bytes
  pendingLength : Nat
  total : Nat

def Absorber.start (h : Compression) : Absorber := ⟨h.initial, [], 0, 0⟩

/-- Takes in one byte, and compresses when it fills a block. -/
def Absorber.push (h : Compression) (a : Absorber) (b : UInt8) : Absorber :=
  if a.pendingLength + 1 = blockLength then
    ⟨h.compress a.chain (b :: a.pending).reverse, [], 0, a.total + 1⟩
  else
    ⟨a.chain, b :: a.pending, a.pendingLength + 1, a.total + 1⟩

def Absorber.takeIn (h : Compression) (a : Absorber) (piece : Bytes) : Absorber :=
  piece.foldl (Absorber.push h) a

theorem Absorber.takeIn_append (h : Compression) (a : Absorber) (left right : Bytes) :
    a.takeIn h (left ++ right) = (a.takeIn h left).takeIn h right :=
  List.foldl_append

@[simp] theorem Absorber.takeIn_nil (h : Compression) (a : Absorber) : a.takeIn h [] = a := rfl

def Absorber.finish (h : Compression) (a : Absorber) : Bytes :=
  (a.takeIn h (h.padding a.total)).chain.flatMap h.wordBytes

end Courier.Digest
