import Cxxlens.Foundation.SecureHash
import Cxxlens.Sdk.Digest

set_option autoImplicit false

/-! # SHA-256 of the identity digests

`sha256_words` of `common.cpp`, which pads a copy of its input and walks over it block by block, and
the text `content_digest` prints. Elsewhere the hash function of the digests is a parameter; here is
the one the source has. -/

namespace Cxxlens.Sdk

open SecureHash (Words)

/-! ## The computation -/

/-- `round_constants` -/
def roundConstants : List UInt32 :=
  [0x428a2f98, 0x71374491, 0xb5c0fbcf, 0xe9b5dba5, 0x3956c25b, 0x59f111f1,
    0x923f82a4, 0xab1c5ed5, 0xd807aa98, 0x12835b01, 0x243185be, 0x550c7dc3,
    0x72be5d74, 0x80deb1fe, 0x9bdc06a7, 0xc19bf174, 0xe49b69c1, 0xefbe4786,
    0x0fc19dc6, 0x240ca1cc, 0x2de92c6f, 0x4a7484aa, 0x5cb0a9dc, 0x76f988da,
    0x983e5152, 0xa831c66d, 0xb00327c8, 0xbf597fc7, 0xc6e00bf3, 0xd5a79147,
    0x06ca6351, 0x14292967, 0x27b70a85, 0x2e1b2138, 0x4d2c6dfc, 0x53380d13,
    0x650a7354, 0x766a0abb, 0x81c2c92e, 0x92722c85, 0xa2bfe8a1, 0xa81a664b,
    0xc24b8b70, 0xc76c51a3, 0xd192e819, 0xd6990624, 0xf40e3585, 0x106aa070,
    0x19a4c116, 0x1e376c08, 0x2748774c, 0x34b0bcb5, 0x391c0cb3, 0x4ed8aa4a,
    0x5b9cca4f, 0x682e6ff3, 0x748f82ee, 0x78a5636f, 0x84c87814, 0x8cc70208,
    0x90befffa, 0xa4506ceb, 0xbef9a3f7, 0xc67178f2]

/-- `std::rotr` of a word, by less than its width. -/
def rotr (value count : UInt32) : UInt32 :=
  (value >>> count) ||| (value <<< (32 - count))

/-- `while (bytes.size() % 64U != 56U)`, which takes less than 64 rounds. -/
def padZeros : Nat → Bytes → Bytes
  | 0, bytes => bytes
  | rounds + 1, bytes => if bytes.length % 64 ≠ 56 then padZeros rounds (bytes ++ [0]) else bytes

/-- The padded copy of the input. -/
def paddedCopy (input : Bytes) : Bytes :=
  let bitLength := UInt64.ofNat input.length * 8
  padZeros 64 (input ++ [0x80]) ++
    [56, 48, 40, 32, 24, 16, 8, 0].map fun shift : UInt64 => (bitLength >>> shift).toUInt8

/-- Four bytes as a word. -/
def bytesWord (bytes : Bytes) (byte : Nat) : UInt32 :=
  ((bytes.getD byte 0).toUInt32 <<< 24) ||| ((bytes.getD (byte + 1) 0).toUInt32 <<< 16) |||
    ((bytes.getD (byte + 2) 0).toUInt32 <<< 8) ||| (bytes.getD (byte + 3) 0).toUInt32

/-- The loop that reads the first sixteen words. -/
def readWords (bytes : Bytes) (offset count : Nat) (words : List UInt32) : List UInt32 :=
  (List.range count).foldl
    (fun words index => words.set index (bytesWord bytes (offset + index * 4))) words

/-- The loop over the words behind them. -/
def expandWords (count : Nat) (words : List UInt32) : List UInt32 :=
  (List.range' 16 count).foldl
    (fun words index =>
      let word := fun back => words.getD (index - back) 0
      let s0 := rotr (word 15) 7 ^^^ rotr (word 15) 18 ^^^ (word 15 >>> 3)
      let s1 := rotr (word 2) 17 ^^^ rotr (word 2) 19 ^^^ (word 2 >>> 10)
      words.set index (word 16 + s0 + word 7 + s1)) words

theorem size_eight (a b c d e f g h : UInt32) : #[a, b, c, d, e, f, g, h].size = 8 := rfl

/-- Eight words in a row. -/
def eightWords (a b c d e f g h : UInt32) : Vector UInt32 8 :=
  ⟨#[a, b, c, d, e, f, g, h], size_eight a b c d e f g h⟩

/-- The variables `a` to `h` in one round. -/
def wordsRound (working : Vector UInt32 8) (constant word : UInt32) : Vector UInt32 8 :=
  let ⟨a, b, c, d, e, f, g, h⟩ := Words.ofVector working
  let choose := (e &&& f) ^^^ (~~~e &&& g)
  let majority := (a &&& b) ^^^ (a &&& c) ^^^ (b &&& c)
  let upperA := rotr a 2 ^^^ rotr a 13 ^^^ rotr a 22
  let upperE := rotr e 6 ^^^ rotr e 11 ^^^ rotr e 25
  let first := h + upperE + choose + constant + word
  let second := upperA + majority
  eightWords (first + second) a b c (d + first) e f g

/-- One block of the loop over the bytes. -/
def addBlock (bytes : Bytes) (state : Vector UInt32 8) (offset : Nat) : Vector UInt32 8 :=
  let words := expandWords 48 (readWords bytes offset 16 (List.replicate 64 0))
  let working := (List.range 64).foldl
    (fun working index =>
      wordsRound working (roundConstants.getD index 0) (words.getD index 0)) state
  Vector.zipWith (· + ·) state working

/-- The initial state, as `sha256_words` and `sqlite_incremental_sha256` write it out. -/
def sha256InitialState : Vector UInt32 8 :=
  eightWords 0x6a09e667 0xbb67ae85 0x3c6ef372 0xa54ff53a 0x510e527f 0x9b05688c 0x1f83d9ab
    0x5be0cd19

/-- `sha256_words` -/
def sha256Words (input : Bytes) : Vector UInt32 8 :=
  let bytes := paddedCopy input
  (List.range ((bytes.length + 63) / 64)).foldl
    (fun state index => addBlock bytes state (64 * index)) sha256InitialState

/-! ## The text -/

/-- The digits of a 32-bit number under `std::hex`, without leading zeros. -/
def hexNumber : Nat → Nat → Bytes
  | 0, _ => []
  | rounds + 1, value =>
    if value < 16 then [hexDigit value] else hexNumber rounds (value / 16) ++ [hexDigit (value % 16)]

/-- `std::hex << std::setfill('0') << std::setw(8) << value` -/
def streamWord (value : UInt32) : Bytes :=
  (hexNumber 8 value.toNat).leftpad 8 0x30

/-- `content_digest` with its hash function. -/
def printedContentDigest (bytes : Bytes) : Bytes :=
  ascii "sha256:" ++ (sha256Words bytes).toList.flatMap streamWord

/-! ## The padding -/

/-- The zeros the loop appends to the delimited input. -/
theorem padZeros_eq (rounds : Nat) : ∀ {bytes : Bytes} {length : Nat}, bytes.length = length + 1 →
    SecureHash.zeroCount length ≤ rounds →
      padZeros rounds bytes = bytes ++ List.replicate (SecureHash.zeroCount length) 0 := by
  induction rounds with
  | zero =>
      intro bytes length _ hcount
      rw [padZeros, Nat.le_zero.1 hcount]
      simp
  | succ rounds ih =>
      intro bytes length hlength hcount
      rw [padZeros]
      split_ifs with hmod
      · have hstep : SecureHash.zeroCount length = SecureHash.zeroCount (length + 1) + 1 := by
          simp only [SecureHash.zeroCount]
          omega
        rw [@ih _ (length + 1) (by simp [hlength]) (by omega), hstep,
          List.replicate_succ]
        simp
      · have hnone : SecureHash.zeroCount length = 0 := by
          rw [SecureHash.zeroCount]
          omega
        simp [hnone]

theorem shifts_eq (bitLength : UInt64) :
    ([56, 48, 40, 32, 24, 16, 8, 0].map fun shift : UInt64 => (bitLength >>> shift).toUInt8) =
      BigEndian.encode 8 bitLength.toNat := by
  simp only [List.map_cons, List.map_nil, BigEndian.encode]
  refine congrArg₂ _ ?_ <| congrArg₂ _ ?_ <| congrArg₂ _ ?_ <| congrArg₂ _ ?_ <| congrArg₂ _ ?_ <|
    congrArg₂ _ ?_ <| congrArg₂ _ ?_ <| congrArg₂ _ ?_ rfl
  all_goals
    apply UInt8.toNat_inj.1
    simp [Nat.shiftRight_eq_div_pow]

theorem paddedCopy_eq {input : Bytes} (h : input.length < 2 ^ 61) :
    paddedCopy input = SecureHash.pad input := by
  have hbits : (UInt64.ofNat input.length * 8).toNat = 8 * input.length := by
    rw [UInt64.toNat_mul, UInt64.toNat_ofNat_of_lt' (by rw [UInt64.size]; omega)]
    simp
    omega
  have hzeros : SecureHash.zeroCount input.length ≤ 64 := by
    rw [SecureHash.zeroCount]
    omega
  rw [paddedCopy]
  simp only [shifts_eq, hbits]
  rw [padZeros_eq 64 (by simp) hzeros, SecureHash.pad]
  simp

/-! ## One block -/

theorem shift_or {high low width : Nat} (h : low < 2 ^ width) :
    high <<< width ||| low = high * 2 ^ width + low := by
  rw [← Nat.shiftLeft_add_eq_or_of_lt h, Nat.shiftLeft_eq]

theorem shiftedWord_eq (a b c d : UInt8) :
    (a.toUInt32 <<< 24) ||| (b.toUInt32 <<< 16) ||| (c.toUInt32 <<< 8) ||| d.toUInt32 =
      UInt32.ofNat (BigEndian.decode [a, b, c, d]) := by
  have ha := a.toNat_lt
  have hb := b.toNat_lt
  have hc := c.toNat_lt
  have hd := d.toNat_lt
  apply UInt32.toNat_inj.1
  have hvalue : BigEndian.decode [a, b, c, d] =
      a.toNat * 2 ^ 24 + (b.toNat * 2 ^ 16 + (c.toNat * 2 ^ 8 + d.toNat)) := by
    simp only [BigEndian.decode, List.foldl_cons, List.foldl_nil]
    omega
  rw [UInt32.toNat_ofNat_of_lt' (by rw [hvalue, UInt32.size]; omega), hvalue,
    ← shift_or (by omega), ← shift_or (by omega), ← shift_or (by omega)]
  have hshift : ∀ {byte : UInt8} {width : Nat}, width ≤ 24 →
      byte.toNat <<< width % 4294967296 = byte.toNat <<< width := by
    intro byte width hwidth
    have hbyte := byte.toNat_lt
    have hpow : 2 ^ width ≤ 2 ^ 24 := Nat.pow_le_pow_right (by decide) hwidth
    rw [Nat.shiftLeft_eq, Nat.mod_eq_of_lt]
    calc byte.toNat * 2 ^ width ≤ 255 * 2 ^ 24 := Nat.mul_le_mul (by omega) hpow
      _ < 4294967296 := by decide
  simp [hshift, Nat.or_assoc]

theorem bytesWord_eq {bytes : Bytes} {offset : Nat} (t : Nat) (h : offset + 64 ≤ bytes.length)
    (ht : t < 16) :
    bytesWord bytes (offset + t * 4) = SecureHash.blockWord ((bytes.drop offset).take 64) t := by
  have hget : ∀ back, back < 4 → bytes.getD (offset + t * 4 + back) 0 =
      ((bytes.drop offset).take 64).getD (4 * t + back) 0 := by
    intro back hback
    have hindex : 4 * t + back < 64 := by omega
    simp only [List.getD_eq_getElem?_getD, List.getElem?_take_of_lt hindex, List.getElem?_drop]
    congr 2
    omega
  have hlength : ((bytes.drop offset).take 64).length = 64 := by simp; omega
  generalize (bytes.drop offset).take 64 = block at hget hlength
  have hfour : (block.drop (4 * t)).take 4 = [block.getD (4 * t) 0, block.getD (4 * t + 1) 0,
      block.getD (4 * t + 2) 0, block.getD (4 * t + 3) 0] := by
    apply List.ext_getElem
    · simp
      omega
    · intro index hleft _
      have hindex : index < 4 := by
        simp at hleft
        omega
      interval_cases index <;> simp [List.getD_eq_getElem?_getD, hlength, show 4 * t < 64 by omega,
        show 4 * t + 1 < 64 by omega, show 4 * t + 2 < 64 by omega, show 4 * t + 3 < 64 by omega]
  rw [SecureHash.blockWord, hfour, ← shiftedWord_eq, bytesWord, ← hget 1 (by omega),
    ← hget 2 (by omega), ← hget 3 (by omega)]
  have hzero := hget 0 (by omega)
  rw [Nat.add_zero, Nat.add_zero] at hzero
  rw [← hzero]

/-! ## Schedules -/

theorem getD_set {words : List UInt32} {index : Nat} (h : index < words.length) (value : UInt32)
    (t : Nat) : (words.set index value).getD t 0 = if t = index then value else words.getD t 0 := by
  simp only [List.getD_eq_getElem?_getD, List.getElem?_set]
  split_ifs with hleft hright hright
  · rfl
  · exact absurd hleft.symm hright
  · exact absurd hright.symm hleft
  · rfl

theorem readWords_spec {bytes : Bytes} {offset : Nat} {words : List UInt32}
    (hroom : offset + 64 ≤ bytes.length) (hwords : words.length = 64) (count : Nat) :
    count ≤ 16 → (readWords bytes offset count words).length = 64 ∧
      ∀ t < count, (readWords bytes offset count words).getD t 0 =
        SecureHash.schedule ((bytes.drop offset).take 64) t := by
  induction count with
  | zero => exact fun _ => ⟨hwords, fun t ht => absurd ht (Nat.not_lt_zero t)⟩
  | succ count ih =>
      intro hcount
      obtain ⟨hlength, hget⟩ := ih (by omega)
      rw [readWords, List.range_succ, List.foldl_append, ← readWords, List.foldl_cons,
        List.foldl_nil]
      refine ⟨by rw [List.length_set, hlength], fun t ht => ?_⟩
      rw [getD_set (by omega)]
      split_ifs with hlast
      · rw [hlast, bytesWord_eq count hroom (by omega), SecureHash.schedule_of_lt (by omega)]
      · exact hget t (by omega)

/-- The sum of four earlier words, in the order of the source and in that of the standard. -/
theorem scheduleSum (w16 w15 w7 w2 : UInt32) :
    w16 + (rotr w15 7 ^^^ rotr w15 18 ^^^ (w15 >>> 3)) + w7 +
        (rotr w2 17 ^^^ rotr w2 19 ^^^ (w2 >>> 10)) =
      SecureHash.lowerSigma1 w2 + w7 + SecureHash.lowerSigma0 w15 + w16 := by
  have hsum : ∀ a b c d : UInt32, a + b + c + d = d + c + b + a := by
    intro a b c d
    ac_rfl
  exact hsum w16 _ w7 _

theorem expandWords_spec {block : Bytes} {words : List UInt32} (hwords : words.length = 64)
    (hread : ∀ t < 16, words.getD t 0 = SecureHash.schedule block t) (count : Nat) :
    count ≤ 48 → (expandWords count words).length = 64 ∧
      ∀ t < 16 + count, (expandWords count words).getD t 0 = SecureHash.schedule block t := by
  induction count with
  | zero => exact fun _ => ⟨hwords, hread⟩
  | succ count ih =>
      intro hcount
      obtain ⟨hlength, hget⟩ := ih (by omega)
      rw [expandWords, List.range'_concat, List.foldl_append, ← expandWords, Nat.one_mul,
        List.foldl_cons, List.foldl_nil]
      refine ⟨by rw [List.length_set, hlength], fun t ht => ?_⟩
      rw [getD_set (by omega)]
      split_ifs with hlast
      · -- The four earlier words are those of the standard; only the order of the sum differs.
        have hback : ∀ back, 0 < back → back ≤ 16 → (expandWords count words).getD
            (16 + count - back) 0 = SecureHash.schedule block (16 + count - back) :=
          fun back hpos hle => hget _ (by omega)
        simp only [hlast]
        rw [hback 16 (by omega) (by omega), hback 15 (by omega) (by omega),
          hback 7 (by omega) (by omega), hback 2 (by omega) (by omega),
          SecureHash.schedule_of_le (t := 16 + count) (by omega), ← scheduleSum]
      · exact hget t (by omega)

theorem ofVector_wordsRound (working : Vector UInt32 8) (constant word : UInt32) :
    Words.ofVector (wordsRound working constant word) =
      SecureHash.round (Words.ofVector working) constant word := by
  rfl

theorem roundConstants_eq : roundConstants = SecureHash.constants := by
  rw [SecureHash.constants_eq]
  rfl

/-- One block changes the state as the standard says. -/
theorem ofVector_addBlock {bytes : Bytes} {offset : Nat} (h : offset + 64 ≤ bytes.length)
    (state : Vector UInt32 8) :
    Words.ofVector (addBlock bytes state offset) =
      SecureHash.compress (Words.ofVector state) ((bytes.drop offset).take 64) := by
  obtain ⟨hlength, hread⟩ := readWords_spec h (List.length_replicate (a := (0 : UInt32))) 16 le_rfl
  obtain ⟨-, hwords⟩ := expandWords_spec hlength hread 48 le_rfl
  have hrounds : ∀ (items : List Nat), (∀ t ∈ items, t < 64) → ∀ working : Vector UInt32 8,
      Words.ofVector (items.foldl (fun working index => wordsRound working
          (roundConstants.getD index 0) ((expandWords 48 (readWords bytes offset 16
            (List.replicate 64 0))).getD index 0)) working) =
        items.foldl (fun working t => SecureHash.round working (SecureHash.constants.getD t 0)
          (SecureHash.schedule ((bytes.drop offset).take 64) t)) (Words.ofVector working) := by
    intro items
    induction items with
    | nil => exact fun _ _ => rfl
    | cons t rest ih =>
        intro hitems working
        rw [List.foldl_cons, List.foldl_cons, ih fun t ht => hitems t (List.mem_cons_of_mem _ ht),
          ofVector_wordsRound, roundConstants_eq, hwords t (hitems t List.mem_cons_self)]
  rw [addBlock, SecureHash.compress]
  simp only [Words.ofVector_zipWith]
  rw [hrounds _ fun t ht => List.mem_range.1 ht]

/-! ## All blocks -/

theorem ofVector_foldl_addBlock {bytes : Bytes} (count : Nat) : 64 * count ≤ bytes.length →
    ∀ state : Vector UInt32 8,
      Words.ofVector ((List.range count).foldl
          (fun state index => addBlock bytes state (64 * index)) state) =
        (((List.range count).map fun index => (bytes.drop (64 * index)).take 64).foldl
          SecureHash.compress (Words.ofVector state)) := by
  induction count with
  | zero => exact fun _ _ => rfl
  | succ count ih =>
      intro hroom state
      rw [List.range_succ, List.foldl_append, List.map_append, List.foldl_append, List.foldl_cons,
        List.foldl_nil, List.map_cons, List.map_nil, List.foldl_cons, List.foldl_nil,
        ofVector_addBlock (by omega), ih (by omega)]

/-- The words are those of the standard. -/
theorem ofVector_sha256Words {input : Bytes} (h : input.length < 2 ^ 61) :
    Words.ofVector (sha256Words input) = SecureHash.hashWords input := by
  have hlength : (SecureHash.pad input).length % 64 = 0 := by
    have hspec := SecureHash.zeroCount_spec input.length
    rw [SecureHash.pad]
    simp
    omega
  have hcount : ((SecureHash.pad input).length + 63) / 64 = (SecureHash.pad input).length / 64 := by
    omega
  rw [sha256Words, SecureHash.hashWords, Blocks.blocks]
  simp only [paddedCopy_eq h, hcount]
  rw [ofVector_foldl_addBlock _ (by omega), SecureHash.initial_eq]
  rfl

/-! ## The printed text -/

/-- A number in a fixed number of hexadecimal digits. -/
def hexDigits : Nat → Nat → Bytes
  | 0, _ => []
  | width + 1, value => hexDigits width (value / 16) ++ [hexDigit (value % 16)]

theorem hexDigits_zero (width : Nat) : hexDigits width 0 = List.replicate width 0x30 := by
  induction width with
  | zero => rfl
  | succ width ih =>
      rw [hexDigits, Nat.zero_div, ih, List.replicate_succ']
      rfl

/-- Filling up with zeros makes the width fixed. -/
theorem leftpad_hexNumber (width : Nat) : ∀ {value : Nat}, value < 16 ^ width →
    (hexNumber width value).leftpad width 0x30 = hexDigits width value := by
  induction width with
  | zero => exact fun _ => rfl
  | succ width ih =>
      intro value hvalue
      rw [hexNumber, hexDigits]
      split_ifs with hsmall
      · rw [Nat.div_eq_of_lt hsmall, Nat.mod_eq_of_lt hsmall, hexDigits_zero]
        simp [List.leftpad]
      · rw [← ih (Nat.div_lt_of_lt_mul (by rw [← Nat.pow_succ']; exact hvalue))]
        simp [List.leftpad]

theorem streamWord_eq (value : UInt32) :
    streamWord value = hex (BigEndian.encode 4 value.toNat) := by
  have hvalue := value.toNat_lt
  rw [streamWord, leftpad_hexNumber 8 hvalue]
  simp only [hex, hexByte, BigEndian.encode, hexDigits, List.flatMap_cons, List.flatMap_nil,
    UInt8.toNat_ofNat', List.nil_append, List.cons_append, List.append_nil]
  refine congrArg₂ _ ?_ <| congrArg₂ _ ?_ <| congrArg₂ _ ?_ <| congrArg₂ _ ?_ <| congrArg₂ _ ?_ <|
    congrArg₂ _ ?_ <| congrArg₂ _ ?_ <| congrArg₂ _ ?_ rfl
  all_goals
    refine congrArg hexDigit ?_
    omega

theorem hex_append (first second : Bytes) : hex (first ++ second) = hex first ++ hex second :=
  List.flatMap_append

/-- `content_digest` is the digest of the standard in hexadecimal. -/
theorem printedContentDigest_eq {bytes : Bytes} (h : bytes.length < 2 ^ 61) :
    printedContentDigest bytes = contentDigest SecureHash.digest bytes := by
  rw [printedContentDigest, contentDigest, SecureHash.digest, ← ofVector_sha256Words h,
    Words.toList_ofVector]
  congr 1
  induction (sha256Words bytes).toList with
  | nil => rfl
  | cons word rest ih =>
      rw [List.flatMap_cons, List.flatMap_cons, hex_append, streamWord_eq, ih]

end Cxxlens.Sdk
