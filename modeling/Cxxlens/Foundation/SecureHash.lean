import Cxxlens.Foundation.BigEndian
import Cxxlens.Foundation.Blocks

set_option autoImplicit false

/-! # SHA-256 of the Secure Hash Standard

FIPS 180-4 in its own terms, for messages of whole bytes: the functions of 4.1.2, the constants of
4.2.2 and 5.3.3 as the roots of primes that they are, the padding of 5.1.1 and the computation of
6.2. -/

namespace SecureHash

/-! ## Functions and constants -/

/-- `ROTR` -/
def rotr (count word : UInt32) : UInt32 :=
  (word >>> count) ||| (word <<< (32 - count))

/-- `Ch` -/
def ch (x y z : UInt32) : UInt32 :=
  (x &&& y) ^^^ (~~~x &&& z)

/-- `Maj` -/
def maj (x y z : UInt32) : UInt32 :=
  (x &&& y) ^^^ (x &&& z) ^^^ (y &&& z)

/-- `Σ₀` -/
def upperSigma0 (x : UInt32) : UInt32 :=
  rotr 2 x ^^^ rotr 13 x ^^^ rotr 22 x

/-- `Σ₁` -/
def upperSigma1 (x : UInt32) : UInt32 :=
  rotr 6 x ^^^ rotr 11 x ^^^ rotr 25 x

/-- `σ₀` -/
def lowerSigma0 (x : UInt32) : UInt32 :=
  rotr 7 x ^^^ rotr 18 x ^^^ (x >>> 3)

/-- `σ₁` -/
def lowerSigma1 (x : UInt32) : UInt32 :=
  rotr 17 x ^^^ rotr 19 x ^^^ (x >>> 10)

/-- The first sixty-four primes. -/
def primes : List Nat :=
  (List.range 312).filter Nat.Prime

/-- The first 32 bits of the fractional part of a root; the integer part is above them. -/
def rootFraction (degree prime : Nat) : UInt32 :=
  UInt32.ofNat (Nat.nthRoot degree (prime * 2 ^ (32 * degree)))

/-- `K`: from the cube roots of the first sixty-four primes. -/
def constants : List UInt32 :=
  primes.map (rootFraction 3)

/-! ## Hash values -/

/-- Eight words. -/
structure Words where
  a : UInt32
  b : UInt32
  c : UInt32
  d : UInt32
  e : UInt32
  f : UInt32
  g : UInt32
  h : UInt32
  deriving DecidableEq, Repr

/-- The words in order. -/
def Words.toList (words : Words) : List UInt32 :=
  [words.a, words.b, words.c, words.d, words.e, words.f, words.g, words.h]

/-- Word by word. -/
def Words.add (left right : Words) : Words :=
  ⟨left.a + right.a, left.b + right.b, left.c + right.c, left.d + right.d, left.e + right.e,
    left.f + right.f, left.g + right.g, left.h + right.h⟩

/-- The words of an array. -/
def Words.ofVector (state : Vector UInt32 8) : Words :=
  ⟨state.get 0, state.get 1, state.get 2, state.get 3, state.get 4, state.get 5, state.get 6,
    state.get 7⟩

@[simp] theorem Words.toList_ofVector (state : Vector UInt32 8) :
    (Words.ofVector state).toList = state.toList := by
  obtain ⟨⟨items⟩, hsize⟩ := state
  match items, hsize with
  | [a, b, c, d, e, f, g, h], _ => rfl

@[simp] theorem Words.ofVector_zipWith (left right : Vector UInt32 8) :
    Words.ofVector (Vector.zipWith (· + ·) left right) =
      (Words.ofVector left).add (Words.ofVector right) := by
  simp [Words.ofVector, Words.add, Vector.get_eq_getElem]

/-- `H⁽⁰⁾`: from the square roots of the first eight primes. -/
def initial : Words :=
  ⟨rootFraction 2 2, rootFraction 2 3, rootFraction 2 5, rootFraction 2 7, rootFraction 2 11,
    rootFraction 2 13, rootFraction 2 17, rootFraction 2 19⟩

/-! ## The computation -/

/-- `M_t`, a word of a block. -/
def blockWord (block : List UInt8) (t : Nat) : UInt32 :=
  UInt32.ofNat (BigEndian.decode ((block.drop (4 * t)).take 4))

/-- `W_t`, the message schedule. -/
def schedule (block : List UInt8) (t : Nat) : UInt32 :=
  if t < 16 then blockWord block t
  else lowerSigma1 (schedule block (t - 2)) + schedule block (t - 7) +
    lowerSigma0 (schedule block (t - 15)) + schedule block (t - 16)
termination_by t

/-- One round, with its constant and its word. -/
def round (working : Words) (constant word : UInt32) : Words :=
  let first := working.h + upperSigma1 working.e + ch working.e working.f working.g + constant + word
  let second := upperSigma0 working.a + maj working.a working.b working.c
  ⟨first + second, working.a, working.b, working.c, working.d + first, working.e, working.f,
    working.g⟩

/-- The next hash value. -/
def compress (value : Words) (block : List UInt8) : Words :=
  value.add ((List.range 64).foldl
    (fun working t => round working (constants.getD t 0) (schedule block t)) value)

/-- How many zero bytes follow the bit `1` and its seven zeros: the least number that leaves eight
    bytes to a block. -/
def zeroCount (length : Nat) : Nat :=
  (55 + 64 - length % 64) % 64

/-- The padded message. -/
def pad (message : List UInt8) : List UInt8 :=
  message ++ 0x80 :: (List.replicate (zeroCount message.length) 0 ++
    BigEndian.encode 8 (8 * message.length))

/-- The final hash value. -/
def hashWords (message : List UInt8) : Words :=
  (Blocks.blocks 64 (pad message)).foldl compress initial

/-- The message digest. -/
def digest (message : List UInt8) : List UInt8 :=
  (hashWords message).toList.flatMap fun word => BigEndian.encode 4 word.toNat

/-! ## Tables and schedules -/

theorem constants_eq : constants =
    [0x428a2f98, 0x71374491, 0xb5c0fbcf, 0xe9b5dba5, 0x3956c25b, 0x59f111f1, 0x923f82a4, 0xab1c5ed5,
      0xd807aa98, 0x12835b01, 0x243185be, 0x550c7dc3, 0x72be5d74, 0x80deb1fe, 0x9bdc06a7, 0xc19bf174,
      0xe49b69c1, 0xefbe4786, 0x0fc19dc6, 0x240ca1cc, 0x2de92c6f, 0x4a7484aa, 0x5cb0a9dc, 0x76f988da,
      0x983e5152, 0xa831c66d, 0xb00327c8, 0xbf597fc7, 0xc6e00bf3, 0xd5a79147, 0x06ca6351, 0x14292967,
      0x27b70a85, 0x2e1b2138, 0x4d2c6dfc, 0x53380d13, 0x650a7354, 0x766a0abb, 0x81c2c92e, 0x92722c85,
      0xa2bfe8a1, 0xa81a664b, 0xc24b8b70, 0xc76c51a3, 0xd192e819, 0xd6990624, 0xf40e3585, 0x106aa070,
      0x19a4c116, 0x1e376c08, 0x2748774c, 0x34b0bcb5, 0x391c0cb3, 0x4ed8aa4a, 0x5b9cca4f, 0x682e6ff3,
      0x748f82ee, 0x78a5636f, 0x84c87814, 0x8cc70208, 0x90befffa, 0xa4506ceb, 0xbef9a3f7,
      0xc67178f2] := by
  set_option maxRecDepth 20000 in decide

theorem initial_eq : initial = ⟨0x6a09e667, 0xbb67ae85, 0x3c6ef372, 0xa54ff53a, 0x510e527f,
    0x9b05688c, 0x1f83d9ab, 0x5be0cd19⟩ := by
  decide

theorem schedule_of_lt {block : List UInt8} {t : Nat} (h : t < 16) :
    schedule block t = blockWord block t := by
  rw [schedule, if_pos h]

theorem schedule_of_le {block : List UInt8} {t : Nat} (h : 16 ≤ t) :
    schedule block t = lowerSigma1 (schedule block (t - 2)) + schedule block (t - 7) +
      lowerSigma0 (schedule block (t - 15)) + schedule block (t - 16) := by
  rw [schedule, if_neg (by omega)]

/-- The constants by their numbers. -/
theorem constants_eq_map : constants = (List.range 64).map fun t => constants.getD t 0 := by
  rw [constants_eq]
  rfl

theorem zeroCount_spec (length : Nat) : (length + 1 + zeroCount length) % 64 = 56 := by
  rw [zeroCount]
  omega

end SecureHash
