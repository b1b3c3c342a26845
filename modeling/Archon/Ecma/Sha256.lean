/-
# SHA-256 of a text

The hash as Node computes it: the UTF-8 bytes of the text (`utf8`), padded and read as blocks of
sixteen big-endian words, each block compressed into a state of eight words, the last state
printed in lower-case hexadecimal.  Only the shape of the result is ever reasoned about, sixty-four
hexadecimal digits; the function itself is here to be run.
-/
import Archon.Ecma.Text

namespace Ecma

/-! ## 1. UTF-8 -/

/-- The bytes of a code point. -/
def codePointBytes (c : Nat) : List UInt8 :=
  if c < 0x80 then [UInt8.ofNat c]
  else if c < 0x800 then [UInt8.ofNat (0xC0 + c / 0x40), UInt8.ofNat (0x80 + c % 0x40)]
  else if c < 0x10000 then
    [UInt8.ofNat (0xE0 + c / 0x1000), UInt8.ofNat (0x80 + c / 0x40 % 0x40),
      UInt8.ofNat (0x80 + c % 0x40)]
  else
    [UInt8.ofNat (0xF0 + c / 0x40000), UInt8.ofNat (0x80 + c / 0x1000 % 0x40),
      UInt8.ofNat (0x80 + c / 0x40 % 0x40), UInt8.ofNat (0x80 + c % 0x40)]

/-- The code point of a unit that is not half of a pair: a lone surrogate becomes U+FFFD. -/
def loneCodePoint (u : UInt16) : Nat := if isHigh u || isLow u then 0xFFFD else u.toNat

/-- The code point of a surrogate pair. -/
def pairCodePoint (u v : UInt16) : Nat :=
  0x10000 + (u.toNat - 0xD800) * 0x400 + (v.toNat - 0xDC00)

/-- `Buffer.from(t, "utf8")`. -/
def utf8 : Text → List UInt8
  | [] => []
  | [u] => codePointBytes (loneCodePoint u)
  | u :: v :: t =>
    if isHigh u && isLow v then codePointBytes (pairCodePoint u v) ++ utf8 t
    else codePointBytes (loneCodePoint u) ++ utf8 (v :: t)

/-! ## 2. The compression -/

namespace Sha256

/-- The eight words of the state. -/
structure State where
  (a b c d e f g h : UInt32)

/-- The round constants: the fractional parts of the cube roots of the first primes. -/
def roundConstants : List UInt32 :=
  [0x428a2f98, 0x71374491, 0xb5c0fbcf, 0xe9b5dba5, 0x3956c25b, 0x59f111f1, 0x923f82a4, 0xab1c5ed5,
    0xd807aa98, 0x12835b01, 0x243185be, 0x550c7dc3, 0x72be5d74, 0x80deb1fe, 0x9bdc06a7, 0xc19bf174,
    0xe49b69c1, 0xefbe4786, 0x0fc19dc6, 0x240ca1cc, 0x2de92c6f, 0x4a7484aa, 0x5cb0a9dc, 0x76f988da,
    0x983e5152, 0xa831c66d, 0xb00327c8, 0xbf597fc7, 0xc6e00bf3, 0xd5a79147, 0x06ca6351, 0x14292967,
    0x27b70a85, 0x2e1b2138, 0x4d2c6dfc, 0x53380d13, 0x650a7354, 0x766a0abb, 0x81c2c92e, 0x92722c85,
    0xa2bfe8a1, 0xa81a664b, 0xc24b8b70, 0xc76c51a3, 0xd192e819, 0xd6990624, 0xf40e3585, 0x106aa070,
    0x19a4c116, 0x1e376c08, 0x2748774c, 0x34b0bcb5, 0x391c0cb3, 0x4ed8aa4a, 0x5b9cca4f, 0x682e6ff3,
    0x748f82ee, 0x78a5636f, 0x84c87814, 0x8cc70208, 0x90befffa, 0xa4506ceb, 0xbef9a3f7, 0xc67178f2]

/-- The state before the first block. -/
def initial : State where
  a := 0x6a09e667
  b := 0xbb67ae85
  c := 0x3c6ef372
  d := 0xa54ff53a
  e := 0x510e527f
  f := 0x9b05688c
  g := 0x1f83d9ab
  h := 0x5be0cd19

/-- Rotation to the right. -/
def rotr (x : UInt32) (n : UInt32) : UInt32 := (x >>> n) ||| (x <<< (32 - n))

/-- The word that follows the last sixteen of the schedule. -/
def nextWord (w : List UInt32) : UInt32 :=
  let w15 := w.getD 1 0
  let w2 := w.getD 14 0
  let s0 := rotr w15 7 ^^^ rotr w15 18 ^^^ (w15 >>> 3)
  let s1 := rotr w2 17 ^^^ rotr w2 19 ^^^ (w2 >>> 10)
  w.getD 0 0 + s0 + w.getD 9 0 + s1

/-- The schedule from a window of sixteen words on, `n` words long. -/
def schedule : Nat → List UInt32 → List UInt32
  | 0, _ => []
  | n + 1, w => w.headD 0 :: schedule n (w.tail ++ [nextWord w])

/-- One round, with its constant and its word of the schedule. -/
def round (s : State) (k w : UInt32) : State :=
  let s1 := rotr s.e 6 ^^^ rotr s.e 11 ^^^ rotr s.e 25
  let ch := (s.e &&& s.f) ^^^ (~~~s.e &&& s.g)
  let t1 := s.h + s1 + ch + k + w
  let s0 := rotr s.a 2 ^^^ rotr s.a 13 ^^^ rotr s.a 22
  let maj := (s.a &&& s.b) ^^^ (s.a &&& s.c) ^^^ (s.b &&& s.c)
  ⟨t1 + (s0 + maj), s.a, s.b, s.c, s.d + t1, s.e, s.f, s.g⟩

/-- The state after a block. -/
def compress (s : State) (block : List UInt32) : State :=
  let r := (roundConstants.zip (schedule 64 block)).foldl (fun s kw => round s kw.1 kw.2) s
  ⟨s.a + r.a, s.b + r.b, s.c + r.c, s.d + r.d, s.e + r.e, s.f + r.f, s.g + r.g, s.h + r.h⟩

/-! ## 3. Padding and printing -/

/-- The message with a one bit, zeros, and its length in bits. -/
def padded (bytes : List UInt8) : List UInt8 :=
  let length := bytes.length
  bytes ++ [0x80] ++ List.replicate ((119 - length % 64) % 64) 0 ++
    (List.range 8).map fun i => UInt8.ofNat (8 * length / 256 ^ (7 - i))

/-- Bytes as big-endian words. -/
def words : List UInt8 → List UInt32
  | a :: b :: c :: d :: bytes =>
    ((a.toUInt32 <<< 24) ||| (b.toUInt32 <<< 16) ||| (c.toUInt32 <<< 8) ||| d.toUInt32)
      :: words bytes
  | _ => []

/-- The blocks of the message, one after the other. -/
def compressAll : Nat → State → List UInt32 → State
  | 0, s, _ => s
  | n + 1, s, ws => compressAll n (compress s (ws.take 16)) (ws.drop 16)

/-- A lower-case hexadecimal digit. -/
def hexDigit (d : Nat) : UInt16 := if d < 10 then UInt16.ofNat (0x30 + d) else UInt16.ofNat (0x57 + d)

/-- The digits of a word, the highest first. -/
def hexWord (w : UInt32) : Text := (List.range 8).map fun i => hexDigit (w.toNat / 16 ^ (7 - i) % 16)

/-- `createHash("sha256").update(t, "utf8").digest("hex")`. -/
def hex (t : Text) : Text :=
  let ws := words (padded (utf8 t))
  let s := compressAll (ws.length / 16) initial ws
  [s.a, s.b, s.c, s.d, s.e, s.f, s.g, s.h].flatMap hexWord

theorem hex_length (t : Text) : (hex t).length = 64 := rfl

/-- Is this a digit that `hexDigit` prints? -/
def isHex (u : UInt16) : Bool := (0x30 ≤ u && u ≤ 0x39) || (0x61 ≤ u && u ≤ 0x66)

theorem isHex_hexDigit {d : Nat} (h : d < 16) : isHex (hexDigit d) = true := by
  interval_cases d <;> decide

theorem hex_all (t : Text) : (hex t).all isHex = true := by
  rw [List.all_eq_true]
  intro u hu
  obtain ⟨w, -, hu⟩ := List.mem_flatMap.mp hu
  obtain ⟨i, -, rfl⟩ := List.mem_map.mp hu
  exact isHex_hexDigit (Nat.mod_lt _ (by decide))

end Sha256

end Ecma
