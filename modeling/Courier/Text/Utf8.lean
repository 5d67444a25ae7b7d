/-!
UTF-8. A text is written character by character (`utf8`), and bytes are read either strictly
(`ofUtf8?`: all of them must be well formed) or with a replacement character for every piece that cannot
start or continue a character (`ofUtf8Lossy`). One step of reading is `takeChar`.
-/
namespace Courier

abbrev Bytes := List UInt8

namespace Text

def utf8 (text : String) : Bytes :=
  text.toList.flatMap String.utf8EncodeChar

/-- A byte of the form `10xxxxxx`. -/
def isContinuation (b : UInt8) : Bool := 0x80 ≤ b && b ≤ 0xbf

def lowBits (b : UInt8) : Nat := b.toNat % 64

/-- The bytes that may follow the first byte of a three-byte character: the shortest form is demanded
and surrogates are left out. -/
def secondOfThree (first second : UInt8) : Bool :=
  if first == 0xe0 then 0xa0 ≤ second && second ≤ 0xbf
  else if first == 0xed then 0x80 ≤ second && second ≤ 0x9f
  else isContinuation second

/-- The bytes that may follow the first byte of a four-byte character: the shortest form is demanded
and nothing above the last code point. -/
def secondOfFour (first second : UInt8) : Bool :=
  if first == 0xf0 then 0x90 ≤ second && second ≤ 0xbf
  else if first == 0xf4 then 0x80 ≤ second && second ≤ 0x8f
  else isContinuation second

/-- Reads the character that starts with the byte `first`: the character, or `none` if the bytes up to
the returned rest are not the form of one. As many bytes are taken as could have begun a character. -/
def takeChar (first : UInt8) (rest : Bytes) : Option Char × Bytes :=
  if first < 0x80 then (some (Char.ofNat first.toNat), rest)
  else if first < 0xc2 || 0xf4 < first then (none, rest)
  else
    match rest with
    | [] => (none, [])
    | second :: rest2 =>
      if first < 0xe0 then
        if isContinuation second then
          (some (Char.ofNat (first.toNat % 32 * 64 + lowBits second)), rest2)
        else (none, rest)
      else if first < 0xf0 then
        if secondOfThree first second then
          match rest2 with
          | third :: rest3 =>
            if isContinuation third then
              (some (Char.ofNat
                ((first.toNat % 16 * 64 + lowBits second) * 64 + lowBits third)), rest3)
            else (none, rest2)
          | [] => (none, [])
        else (none, rest)
      else if secondOfFour first second then
        match rest2 with
        | third :: rest3 =>
          if isContinuation third then
            match rest3 with
            | fourth :: rest4 =>
              if isContinuation fourth then
                (some (Char.ofNat
                  (((first.toNat % 8 * 64 + lowBits second) * 64 + lowBits third) * 64
                    + lowBits fourth)), rest4)
              else (none, rest3)
            | [] => (none, [])
          else (none, rest2)
        | [] => (none, [])
      else (none, rest)

theorem takeChar_length (first : UInt8) (rest : Bytes) :
    (takeChar first rest).2.length ≤ rest.length := by
  unfold takeChar
  repeat' split
  all_goals simp_all <;> omega

/-- Puts the characters that `bytes` begin with in front of `read`, newest first, until the bytes end
(`some`) or cannot be read (`none`). -/
def readStrict (read : List Char) : Bytes → Option (List Char)
  | [] => some read
  | first :: rest =>
    match _h : takeChar first rest with
    | (some c, rest2) => readStrict (c :: read) rest2
    | (none, _) => none
termination_by bytes => bytes.length
decreasing_by
  have h := takeChar_length first rest
  rw [_h] at h
  exact Nat.lt_succ_of_le h

/-- As `readStrict`, with U+FFFD for every piece that cannot be read. -/
def readLossy (read : List Char) : Bytes → List Char
  | [] => read
  | first :: rest =>
    match _h : takeChar first rest with
    | (c?, rest2) => readLossy (c?.getD '\ufffd' :: read) rest2
termination_by bytes => bytes.length
decreasing_by
  have h := takeChar_length first rest
  rw [_h] at h
  exact Nat.lt_succ_of_le h

def ofUtf8? (bytes : Bytes) : Option String :=
  (readStrict [] bytes).map fun read => String.ofList read.reverse

/-- The text that the bytes stand for, U+FFFD in place of what is not UTF-8. -/
def ofUtf8Lossy (bytes : Bytes) : String :=
  String.ofList (readLossy [] bytes).reverse

end Text

end Courier
