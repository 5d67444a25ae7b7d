import Courier.Digest.Block

/-!
The MD5 message digest: four rounds of sixteen operations on a state of four words, each with its own
word of the block, constant and rotation.
-/
namespace Courier.Digest.Md5

/-- The four bytes of a word, least significant first. -/
def wordBytes (w : UInt32) : Bytes :=
  [w.toUInt8, (w >>> 8).toUInt8, (w >>> 16).toUInt8, (w >>> 24).toUInt8]

/-- The words that bytes stand for, four a word, least significant first. -/
def words : Bytes → List UInt32
  | a :: b :: c :: d :: rest =>
    (a.toUInt32 ||| b.toUInt32 <<< 8 ||| c.toUInt32 <<< 16 ||| d.toUInt32 <<< 24) :: words rest
  | _ => []

/-- `w` turned left by `n` bits, `0 < n < 32`. -/
def rotateLeft (w n : UInt32) : UInt32 := w <<< n ||| w >>> (32 - n)

/-- One of the sixty-four steps: the constant added, the message word used and the rotation. -/
structure Step where
  constant : UInt32
  word : Nat
  rotation : UInt32

/-- The constants `⌊2 ^ 32 * |sin i|⌋` for `i` from 1 to 64. -/
def constants : List UInt32 :=
  [0xd76aa478, 0xe8c7b756, 0x242070db, 0xc1bdceee, 0xf57c0faf, 0x4787c62a, 0xa8304613, 0xfd469501,
   0x698098d8, 0x8b44f7af, 0xffff5bb1, 0x895cd7be, 0x6b901122, 0xfd987193, 0xa679438e, 0x49b40821,
   0xf61e2562, 0xc040b340, 0x265e5a51, 0xe9b6c7aa, 0xd62f105d, 0x02441453, 0xd8a1e681, 0xe7d3fbc8,
   0x21e1cde6, 0xc33707d6, 0xf4d50d87, 0x455a14ed, 0xa9e3e905, 0xfcefa3f8, 0x676f02d9, 0x8d2a4c8a,
   0xfffa3942, 0x8771f681, 0x6d9d6122, 0xfde5380c, 0xa4beea44, 0x4bdecfa9, 0xf6bb4b60, 0xbebfbc70,
   0x289b7ec6, 0xeaa127fa, 0xd4ef3085, 0x04881d05, 0xd9d4d039, 0xe6db99e5, 0x1fa27cf8, 0xc4ac5665,
   0xf4292244, 0x432aff97, 0xab9423a7, 0xfc93a039, 0x655b59c3, 0x8f0ccc92, 0xffeff47d, 0x85845dd1,
   0x6fa87e4f, 0xfe2ce6e0, 0xa3014314, 0x4e0811a1, 0xf7537e82, 0xbd3af235, 0x2ad7d2bb, 0xeb86d391]

/-- The rotations of round `r`, used in turn. -/
def rotations (r : Nat) : List UInt32 :=
  match r with
  | 0 => [7, 12, 17, 22]
  | 1 => [5, 9, 14, 20]
  | 2 => [4, 11, 16, 23]
  | _ => [6, 10, 15, 21]

/-- The message word that step `i` uses. -/
def wordIndex (i : Nat) : Nat :=
  match i / 16 with
  | 0 => i
  | 1 => (5 * i + 1) % 16
  | 2 => (3 * i + 5) % 16
  | _ => 7 * i % 16

def steps : List (Nat × Step) :=
  (constants.zip (List.range 64)).map fun (constant, i) =>
    (i, ⟨constant, wordIndex i, (rotations (i / 16)).getD (i % 4) 0⟩)

structure State where
  a : UInt32
  b : UInt32
  c : UInt32
  d : UInt32

/-- The mixing function of the round that step `i` belongs to. -/
def mix (i : Nat) (s : State) : UInt32 :=
  match i / 16 with
  | 0 => (s.b &&& s.c) ||| (~~~s.b &&& s.d)
  | 1 => (s.d &&& s.b) ||| (~~~s.d &&& s.c)
  | 2 => s.b ^^^ s.c ^^^ s.d
  | _ => s.c ^^^ (s.b ||| ~~~s.d)

def State.step (message : Array UInt32) (s : State) (i : Nat) (step : Step) : State :=
  let sum := s.a + mix i s + step.constant + message.getD step.word 0
  ⟨s.d, s.b + rotateLeft sum step.rotation, s.b, s.c⟩

def compress (chain : List UInt32) (block : Bytes) : List UInt32 :=
  match chain with
  | [a, b, c, d] =>
    let message := (words block).toArray
    let s := steps.foldl (fun s (i, step) => s.step message i step) (⟨a, b, c, d⟩ : State)
    [a + s.a, b + s.b, c + s.c, d + s.d]
  | _ => chain

def compression : Compression where
  initial := [0x67452301, 0xefcdab89, 0x98badcfe, 0x10325476]
  compress := compress
  lengthBytes := littleEndian8
  wordBytes := wordBytes

end Courier.Digest.Md5
