set_option autoImplicit false

/- The SHA-1 digest (FIPS 180-4) of a text in UTF-8. -/
namespace Bastion.Text

/-- The bytes, a set bit, zeros up to eight bytes short of a whole block, and the length in bits. -/
def padded (bytes : List UInt8) : List UInt8 :=
  let zeros := (119 - bytes.length % 64) % 64
  let bits := 8 * bytes.length
  bytes ++ 0x80 :: List.replicate zeros 0 ++
    (List.range 8).map fun i => UInt8.ofNat (bits / Nat.pow 256 (7 - i))

def bigEndianWord (bytes : List UInt8) : UInt32 :=
  bytes.foldl (fun word byte => word * 256 + byte.toUInt32) 0

def rotateLeft (word : UInt32) (count : UInt32) : UInt32 :=
  (word <<< count) ||| (word >>> (32 - count))

/-- Extends the sixteen words of a block, kept with the last word first. -/
def schedule : Nat → List UInt32 → List UInt32
  | 0, words => words
  | count + 1, words =>
    let word (back : Nat) := words.getD (back - 1) 0
    schedule count (rotateLeft (word 3 ^^^ word 8 ^^^ word 14 ^^^ word 16) 1 :: words)

structure Digest where
  a : UInt32
  b : UInt32
  c : UInt32
  d : UInt32
  e : UInt32

def Digest.start : Digest := ⟨0x67452301, 0xEFCDAB89, 0x98BADCFE, 0x10325476, 0xC3D2E1F0⟩

def roundRule (round : Nat) (b c d : UInt32) : UInt32 × UInt32 :=
  if round < 20 then ((b &&& c) ||| ((b ^^^ 0xFFFFFFFF) &&& d), 0x5A827999)
  else if round < 40 then (b ^^^ c ^^^ d, 0x6ED9EBA1)
  else if round < 60 then ((b &&& c) ||| (b &&& d) ||| (c &&& d), 0x8F1BBCDC)
  else (b ^^^ c ^^^ d, 0xCA62C1D6)

def Digest.round (state : Digest) (round : Nat) (word : UInt32) : Digest :=
  let (mixed, constant) := roundRule round state.b state.c state.d
  { a := rotateLeft state.a 5 + mixed + state.e + constant + word
    b := state.a
    c := rotateLeft state.b 30
    d := state.c
    e := state.d }

def Digest.rounds (state : Digest) (round : Nat) : List UInt32 → Digest
  | [] => state
  | word :: words => (state.round round word).rounds (round + 1) words

def wordsOf : List UInt8 → List UInt32
  | a :: b :: c :: d :: rest => bigEndianWord [a, b, c, d] :: wordsOf rest
  | _ => []

def Digest.block (state : Digest) (bytes : List UInt8) : Digest :=
  let mixed := state.rounds 0 (schedule 64 (wordsOf bytes).reverse).reverse
  ⟨state.a + mixed.a, state.b + mixed.b, state.c + mixed.c, state.d + mixed.d, state.e + mixed.e⟩

def Digest.blocks (state : Digest) : Nat → List UInt8 → Digest
  | 0, _ => state
  | count + 1, bytes => (state.block (bytes.take 64)).blocks count (bytes.drop 64)

def wordHex (word : UInt32) : List Char :=
  let digits := Nat.toDigits 16 word.toNat
  List.replicate (8 - digits.length) '0' ++ digits

def digest (text : String) : List Char :=
  let bytes := padded text.toUTF8.toList
  let result := Digest.start.blocks (bytes.length / 64) bytes
  [result.a, result.b, result.c, result.d, result.e].flatMap wordHex

end Bastion.Text
