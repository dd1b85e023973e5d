import Mathlib

set_option autoImplicit false

/-! # Fixed-width big-endian numbers

A natural number written in `width` bytes, most significant byte first, and read back. Writing
keeps the low `width` bytes only, so the two are inverse below `256 ^ width`. -/

namespace BigEndian

/-- The low `width` bytes of `value`, most significant first. -/
def encode : Nat → Nat → List UInt8
  | 0, _ => []
  | width + 1, value => UInt8.ofNat (value / 256 ^ width) :: encode width value

/-- The number a byte string denotes, most significant byte first. -/
def decode (bytes : List UInt8) : Nat :=
  bytes.foldl (fun value byte => value * 256 + byte.toNat) 0

@[simp] theorem length_encode (width value : Nat) : (encode width value).length = width := by
  induction width with
  | zero => rfl
  | succ width ih => rw [encode, List.length_cons, ih]

theorem foldl_eq (bytes : List UInt8) (init : Nat) :
    bytes.foldl (fun value byte => value * 256 + byte.toNat) init
      = init * 256 ^ bytes.length + decode bytes := by
  induction bytes generalizing init with
  | nil => simp [decode]
  | cons byte rest ih =>
      have hrest := ih (0 * 256 + byte.toNat)
      rw [decode, List.foldl_cons, List.foldl_cons, ih, hrest, List.length_cons]
      ring

theorem decode_cons (byte : UInt8) (rest : List UInt8) :
    decode (byte :: rest) = byte.toNat * 256 ^ rest.length + decode rest := by
  rw [decode, List.foldl_cons, foldl_eq, Nat.zero_mul, Nat.zero_add]

theorem decode_lt (bytes : List UInt8) : decode bytes < 256 ^ bytes.length := by
  induction bytes with
  | nil => simp [decode]
  | cons byte rest ih =>
      have hbyte : byte.toNat + 1 ≤ 256 := byte.toNat_lt
      have hmul : (byte.toNat + 1) * 256 ^ rest.length ≤ 256 * 256 ^ rest.length :=
        Nat.mul_le_mul_right _ hbyte
      rw [decode_cons, List.length_cons, Nat.pow_succ]
      rw [Nat.add_mul] at hmul
      omega

theorem decode_encode_mod (width value : Nat) :
    decode (encode width value) = value % 256 ^ width := by
  induction width with
  | zero => simp [encode, decode, Nat.mod_one]
  | succ width ih =>
      have hhead : (UInt8.ofNat (value / 256 ^ width)).toNat = value / 256 ^ width % 256 := by simp
      rw [encode, decode_cons, length_encode, ih, hhead, Nat.pow_succ, Nat.mod_mul,
        Nat.mul_comm (256 ^ width)]
      omega

theorem decode_encode {width value : Nat} (h : value < 256 ^ width) :
    decode (encode width value) = value := by
  rw [decode_encode_mod, Nat.mod_eq_of_lt h]

theorem encode_add_mul (width value high : Nat) :
    encode width (high * 256 ^ width + value) = encode width value := by
  induction width generalizing high with
  | zero => rfl
  | succ width ih =>
      have hsplit : high * 256 ^ (width + 1) + value = high * 256 * 256 ^ width + value := by ring
      have hdiv : (high * 256 * 256 ^ width + value) / 256 ^ width
          = high * 256 + value / 256 ^ width := by
        rw [Nat.add_comm, Nat.add_mul_div_right _ _ (by positivity), Nat.add_comm]
      rw [encode, encode, hsplit, ih, hdiv]
      congr 1
      apply UInt8.toNat_inj.1
      simp only [UInt8.toNat_ofNat']
      omega

theorem encode_decode (bytes : List UInt8) : encode bytes.length (decode bytes) = bytes := by
  induction bytes with
  | nil => rfl
  | cons byte rest ih =>
      have hlt := decode_lt rest
      have hdiv : (byte.toNat * 256 ^ rest.length + decode rest) / 256 ^ rest.length
          = byte.toNat := by
        rw [Nat.add_comm, Nat.add_mul_div_right _ _ (by positivity), Nat.div_eq_of_lt hlt,
          Nat.zero_add]
      rw [List.length_cons, encode, decode_cons, hdiv, encode_add_mul, ih, UInt8.ofNat_toNat]

end BigEndian
