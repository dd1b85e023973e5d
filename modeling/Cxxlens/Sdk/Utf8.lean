import Cxxlens.Sdk.Result

set_option autoImplicit false

/-! # Strict UTF-8

`invalid_utf8_offset` of `json_internal.hpp`, which the canonical tuples, the JSON parser and the
text checks of the SDK share: the offset of the first byte that no scalar value explains. It finds
nothing exactly in the encodings of sequences of scalar values (`validUtf8_iff`). Masks and shifts
of bytes are written as arithmetic. -/

namespace Cxxlens.Sdk

/-- The loop over the continuation bytes and the range checks behind it: the first bad offset of
    the scalar at `index`, given the bits of its first byte. -/
def invalidScalar (index offset codePoint minimum : Nat) : Bytes → Option Nat
  | [] =>
    if codePoint < minimum ∨ codePoint > 0x10ffff ∨ (0xd800 ≤ codePoint ∧ codePoint ≤ 0xdfff) then
      some index
    else none
  | continuation :: rest =>
    if continuation.toNat / 64 ≠ 2 then some (index + offset)
    else
      invalidScalar index (offset + 1) (codePoint * 64 + continuation.toNat % 64) minimum rest

/-- `invalid_utf8_offset`, from the byte at `index` on. -/
def invalidUtf8From (index : Nat) : Bytes → Option Nat
  | [] => none
  | first :: rest =>
    if first ≤ 0x7f then invalidUtf8From (index + 1) rest
    else if 0xc2 ≤ first ∧ first ≤ 0xdf then
      match rest with
      | second :: rest =>
        match invalidScalar index 1 (first.toNat % 32) 0x80 [second] with
        | some bad => some bad
        | none => invalidUtf8From (index + 2) rest
      | _ => some index
    else if 0xe0 ≤ first ∧ first ≤ 0xef then
      match rest with
      | second :: third :: rest =>
        match invalidScalar index 1 (first.toNat % 16) 0x800 [second, third] with
        | some bad => some bad
        | none => invalidUtf8From (index + 3) rest
      | _ => some index
    else if 0xf0 ≤ first ∧ first ≤ 0xf4 then
      match rest with
      | second :: third :: fourth :: rest =>
        match invalidScalar index 1 (first.toNat % 8) 0x10000 [second, third, fourth] with
        | some bad => some bad
        | none => invalidUtf8From (index + 4) rest
      | _ => some index
    else some index

/-- `invalid_utf8_offset` -/
def invalidUtf8Offset (input : Bytes) : Option Nat :=
  invalidUtf8From 0 input

/-- `valid_utf8` -/
def validUtf8 (input : Bytes) : Bool :=
  (invalidUtf8Offset input).isNone

example : invalidUtf8Offset [0x61, 0xc3, 0xa9, 0xed, 0xa0, 0x80] = some 3 := by decide

/-! ## Encodings of scalar values -/

/-- The bytes of a sequence of scalar values. -/
def utf8 (text : List Char) : Bytes :=
  text.flatMap String.utf8EncodeChar

/-- Every byte of a scalar but its first one is a continuation byte. -/
theorem continuation_of_mem_tail {scalar : Char} {byte : UInt8}
    (h : byte ∈ (String.utf8EncodeChar scalar).tail) : 0x80 ≤ byte.toNat := by
  rw [String.utf8EncodeChar] at h
  split_ifs at h
  · simp at h
  all_goals
    simp only [List.tail_cons, List.mem_cons, List.not_mem_nil, or_false] at h
    rcases h with rfl | rfl | rfl
  all_goals simp [UInt8.toNat_ofNat']; omega

theorem scalar_lt (scalar : Char) :
    scalar.val.toNat ≤ 0x10ffff ∧ ¬ (0xd800 ≤ scalar.val.toNat ∧ scalar.val.toNat ≤ 0xdfff) := by
  rcases scalar.valid with h | h
  · omega
  · omega

theorem invalidScalar_nil_eq_none_iff (index offset codePoint minimum : Nat) :
    invalidScalar index offset codePoint minimum [] = none ↔
      minimum ≤ codePoint ∧ codePoint ≤ 0x10ffff ∧
        ¬ (0xd800 ≤ codePoint ∧ codePoint ≤ 0xdfff) := by
  rw [invalidScalar]
  split_ifs with h
  · simp
    omega
  · simp
    omega

theorem invalidScalar_cons_eq_none_iff (index offset codePoint minimum : Nat) (byte : UInt8)
    (rest : Bytes) :
    invalidScalar index offset codePoint minimum (byte :: rest) = none ↔
      byte.toNat / 64 = 2 ∧
        invalidScalar index (offset + 1) (codePoint * 64 + byte.toNat % 64) minimum rest =
          none := by
  rw [invalidScalar]
  split_ifs with h
  · simp [h]
  · simp [not_not.1 h]

/-! ## One scalar at a time -/

section Steps

variable (index : Nat) {first : UInt8} (second third fourth : UInt8) (rest : Bytes)

theorem invalidUtf8From_one (h : first.toNat ≤ 0x7f) :
    invalidUtf8From index (first :: rest) = invalidUtf8From (index + 1) rest := by
  conv_lhs => unfold invalidUtf8From
  exact if_pos (UInt8.le_iff_toNat_le.2 (show first.toNat ≤ (0x7f : UInt8).toNat from h))

theorem invalidUtf8From_two (hlow : 0xc2 ≤ first.toNat) (hhigh : first.toNat ≤ 0xdf)
    (h : invalidScalar index 1 (first.toNat % 32) 0x80 [second] = none) :
    invalidUtf8From index (first :: second :: rest) = invalidUtf8From (index + 2) rest := by
  have hlow' : 0xc2 ≤ first := UInt8.le_iff_toNat_le.2 hlow
  have hhigh' : first ≤ 0xdf := UInt8.le_iff_toNat_le.2 hhigh
  have hone : ¬ first ≤ 0x7f := fun hle => by
    have hnat := UInt8.le_iff_toNat_le.1 hle
    simp at hnat
    omega
  rw [invalidUtf8From, if_neg hone, if_pos ⟨hlow', hhigh'⟩, h]

theorem invalidUtf8From_three (hlow : 0xe0 ≤ first.toNat) (hhigh : first.toNat ≤ 0xef)
    (h : invalidScalar index 1 (first.toNat % 16) 0x800 [second, third] = none) :
    invalidUtf8From index (first :: second :: third :: rest) =
      invalidUtf8From (index + 3) rest := by
  have hlow' : 0xe0 ≤ first := UInt8.le_iff_toNat_le.2 hlow
  have hhigh' : first ≤ 0xef := UInt8.le_iff_toNat_le.2 hhigh
  have hone : ¬ first ≤ 0x7f := fun hle => by
    have hnat := UInt8.le_iff_toNat_le.1 hle
    simp at hnat
    omega
  have htwo : ¬ (0xc2 ≤ first ∧ first ≤ 0xdf) := fun hle => by
    have hnat := UInt8.le_iff_toNat_le.1 hle.2
    simp at hnat
    omega
  rw [invalidUtf8From, if_neg hone, if_neg htwo, if_pos ⟨hlow', hhigh'⟩]
  simp only [h]

theorem invalidUtf8From_four (hlow : 0xf0 ≤ first.toNat) (hhigh : first.toNat ≤ 0xf4)
    (h : invalidScalar index 1 (first.toNat % 8) 0x10000 [second, third, fourth] = none) :
    invalidUtf8From index (first :: second :: third :: fourth :: rest) =
      invalidUtf8From (index + 4) rest := by
  have hlow' : 0xf0 ≤ first := UInt8.le_iff_toNat_le.2 hlow
  have hhigh' : first ≤ 0xf4 := UInt8.le_iff_toNat_le.2 hhigh
  have hone : ¬ first ≤ 0x7f := fun hle => by
    have hnat := UInt8.le_iff_toNat_le.1 hle
    simp at hnat
    omega
  have htwo : ¬ (0xc2 ≤ first ∧ first ≤ 0xdf) := fun hle => by
    have hnat := UInt8.le_iff_toNat_le.1 hle.2
    simp at hnat
    omega
  have hthree : ¬ (0xe0 ≤ first ∧ first ≤ 0xef) := fun hle => by
    have hnat := UInt8.le_iff_toNat_le.1 hle.2
    simp at hnat
    omega
  rw [invalidUtf8From, if_neg hone, if_neg htwo, if_neg hthree, if_pos ⟨hlow', hhigh'⟩]
  simp only [h]

end Steps

/-- A scalar in front is passed over. -/
theorem invalidUtf8From_scalar (index : Nat) (scalar : Char) (rest : Bytes) :
    invalidUtf8From index (String.utf8EncodeChar scalar ++ rest) =
      invalidUtf8From (index + (String.utf8EncodeChar scalar).length) rest := by
  obtain ⟨hmax, hsurrogate⟩ := scalar_lt scalar
  generalize hpoint : scalar.val.toNat = point at hmax hsurrogate
  simp only [String.utf8EncodeChar, hpoint]
  split_ifs with hone htwo hthree
  · refine invalidUtf8From_one index rest ?_
    rw [UInt8.toNat_ofNat']
    omega
  · refine invalidUtf8From_two index _ rest ?_ ?_ ?_
    · rw [UInt8.toNat_ofNat']
      omega
    · rw [UInt8.toNat_ofNat']
      omega
    · simp only [invalidScalar_cons_eq_none_iff, invalidScalar_nil_eq_none_iff,
        UInt8.toNat_ofNat']
      omega
  · refine invalidUtf8From_three index _ _ rest ?_ ?_ ?_
    · rw [UInt8.toNat_ofNat']
      omega
    · rw [UInt8.toNat_ofNat']
      omega
    · simp only [invalidScalar_cons_eq_none_iff, invalidScalar_nil_eq_none_iff,
        UInt8.toNat_ofNat']
      omega
  · refine invalidUtf8From_four index _ _ _ rest ?_ ?_ ?_
    · rw [UInt8.toNat_ofNat']
      omega
    · rw [UInt8.toNat_ofNat']
      omega
    · simp only [invalidScalar_cons_eq_none_iff, invalidScalar_nil_eq_none_iff,
        UInt8.toNat_ofNat']
      omega

theorem invalidUtf8From_utf8 (index : Nat) (text : List Char) :
    invalidUtf8From index (utf8 text) = none := by
  induction text generalizing index with
  | nil => rfl
  | cons scalar text ih =>
      rw [utf8, List.flatMap_cons, invalidUtf8From_scalar]
      exact ih _

/-- A code point of a scalar value. -/
def IsScalar (codePoint : Nat) : Prop :=
  codePoint ≤ 0x10ffff ∧ ¬ (0xd800 ≤ codePoint ∧ codePoint ≤ 0xdfff)

/-- The scalar value with this code point. -/
def scalarOf (codePoint : Nat) (h : IsScalar codePoint) : Char :=
  Char.ofNatAux codePoint (by
    obtain ⟨hmax, hsurrogate⟩ := h
    by_cases hlow : codePoint < 0xd800
    · exact .inl hlow
    · exact .inr ⟨by omega, by omega⟩)

@[simp] theorem val_scalarOf {codePoint : Nat} (h : IsScalar codePoint) :
    (scalarOf codePoint h).val.toNat = codePoint := by
  simp [scalarOf, Char.ofNatAux]

theorem encode_one {first : UInt8} (h : IsScalar first.toNat) (hhigh : first.toNat ≤ 0x7f) :
    String.utf8EncodeChar (scalarOf first.toNat h) = [first] := by
  simp only [String.utf8EncodeChar, val_scalarOf, if_pos hhigh]
  rw [UInt8.ofNat_toNat]

theorem encode_two {first second : UInt8} {codePoint : Nat} (h : IsScalar codePoint)
    (hcode : codePoint = first.toNat % 32 * 64 + second.toNat % 64) (hlow : 0xc2 ≤ first.toNat)
    (hhigh : first.toNat ≤ 0xdf) (hsecond : second.toNat / 64 = 2) :
    String.utf8EncodeChar (scalarOf codePoint h) = [first, second] := by
  simp only [String.utf8EncodeChar, val_scalarOf]
  rw [if_neg (by omega), if_pos (by omega)]
  refine congrArg₂ _ (UInt8.toNat_inj.1 ?_) (congrArg₂ _ (UInt8.toNat_inj.1 ?_) rfl)
  · rw [UInt8.toNat_ofNat']
    omega
  · rw [UInt8.toNat_ofNat']
    omega

theorem encode_three {first second third : UInt8} {codePoint : Nat} (h : IsScalar codePoint)
    (hcode : codePoint =
      (first.toNat % 16 * 64 + second.toNat % 64) * 64 + third.toNat % 64)
    (hlow : 0xe0 ≤ first.toNat) (hhigh : first.toNat ≤ 0xef) (hsecond : second.toNat / 64 = 2)
    (hthird : third.toNat / 64 = 2) (hminimum : 0x800 ≤ codePoint) :
    String.utf8EncodeChar (scalarOf codePoint h) = [first, second, third] := by
  simp only [String.utf8EncodeChar, val_scalarOf]
  rw [if_neg (by omega), if_neg (by omega), if_pos (by omega)]
  refine congrArg₂ _ (UInt8.toNat_inj.1 ?_) (congrArg₂ _ (UInt8.toNat_inj.1 ?_)
    (congrArg₂ _ (UInt8.toNat_inj.1 ?_) rfl))
  · rw [UInt8.toNat_ofNat']
    omega
  · rw [UInt8.toNat_ofNat']
    omega
  · rw [UInt8.toNat_ofNat']
    omega

theorem encode_four {first second third fourth : UInt8} {codePoint : Nat}
    (h : IsScalar codePoint) (hcode : codePoint =
      ((first.toNat % 8 * 64 + second.toNat % 64) * 64 + third.toNat % 64) * 64 +
        fourth.toNat % 64)
    (hlow : 0xf0 ≤ first.toNat) (hhigh : first.toNat ≤ 0xf4) (hsecond : second.toNat / 64 = 2)
    (hthird : third.toNat / 64 = 2) (hfourth : fourth.toNat / 64 = 2)
    (hminimum : 0x10000 ≤ codePoint) :
    String.utf8EncodeChar (scalarOf codePoint h) = [first, second, third, fourth] := by
  simp only [String.utf8EncodeChar, val_scalarOf]
  rw [if_neg (by omega), if_neg (by omega), if_neg (by omega)]
  refine congrArg₂ _ (UInt8.toNat_inj.1 ?_) (congrArg₂ _ (UInt8.toNat_inj.1 ?_)
    (congrArg₂ _ (UInt8.toNat_inj.1 ?_) (congrArg₂ _ (UInt8.toNat_inj.1 ?_) rfl)))
  · rw [UInt8.toNat_ofNat']
    omega
  · rw [UInt8.toNat_ofNat']
    omega
  · rw [UInt8.toNat_ofNat']
    omega
  · rw [UInt8.toNat_ofNat']
    omega

/-- One scalar in front of an encoding is an encoding. -/
theorem exists_text_cons {scalar : Char} {front rest : Bytes}
    (hfront : String.utf8EncodeChar scalar = front) (h : ∃ text, rest = utf8 text) :
    ∃ text, front ++ rest = utf8 text := by
  obtain ⟨text, rfl⟩ := h
  exact ⟨scalar :: text, by rw [← hfront]; rfl⟩

/-- Bytes without an invalid offset are an encoding. -/
theorem exists_text_of_invalidUtf8From (index : Nat) (bytes : Bytes)
    (h : invalidUtf8From index bytes = none) : ∃ text, bytes = utf8 text := by
  fun_induction invalidUtf8From index bytes with
  | case1 index => exact ⟨[], rfl⟩
  | case2 index first rest hone ih =>
      have hle : first.toNat ≤ 0x7f := UInt8.le_iff_toNat_le.1 hone
      exact exists_text_cons (encode_one ⟨by omega, by omega⟩ hle) (ih h)
  | case4 index first _ htwo second rest hscalar ih =>
      have hlow : 0xc2 ≤ first.toNat := UInt8.le_iff_toNat_le.1 htwo.1
      have hhigh : first.toNat ≤ 0xdf := UInt8.le_iff_toNat_le.1 htwo.2
      simp only [invalidScalar_cons_eq_none_iff, invalidScalar_nil_eq_none_iff] at hscalar
      obtain ⟨hsecond, -, hpoint⟩ := hscalar
      exact exists_text_cons (encode_two hpoint rfl hlow hhigh hsecond) (ih h)
  | case7 index first _ _ hthree second third rest hscalar ih =>
      have hlow : 0xe0 ≤ first.toNat := UInt8.le_iff_toNat_le.1 hthree.1
      have hhigh : first.toNat ≤ 0xef := UInt8.le_iff_toNat_le.1 hthree.2
      simp only [invalidScalar_cons_eq_none_iff, invalidScalar_nil_eq_none_iff] at hscalar
      obtain ⟨hsecond, hthird, hminimum, hpoint⟩ := hscalar
      exact exists_text_cons (encode_three hpoint rfl hlow hhigh hsecond hthird hminimum) (ih h)
  | case10 index first _ _ _ hfour second third fourth rest hscalar ih =>
      have hlow : 0xf0 ≤ first.toNat := UInt8.le_iff_toNat_le.1 hfour.1
      have hhigh : first.toNat ≤ 0xf4 := UInt8.le_iff_toNat_le.1 hfour.2
      simp only [invalidScalar_cons_eq_none_iff, invalidScalar_nil_eq_none_iff] at hscalar
      obtain ⟨hsecond, hthird, hfourth, hminimum, hpoint⟩ := hscalar
      exact exists_text_cons
        (encode_four hpoint rfl hlow hhigh hsecond hthird hfourth hminimum) (ih h)
  | _ => exact absurd h (by simp)

/-- **The check accepts exactly the encodings of scalar values.** -/
theorem validUtf8_iff (bytes : Bytes) : validUtf8 bytes = true ↔ ∃ text, bytes = utf8 text := by
  rw [validUtf8, invalidUtf8Offset, Option.isNone_iff_eq_none]
  constructor
  · exact exists_text_of_invalidUtf8From 0 bytes
  · rintro ⟨text, rfl⟩
    exact invalidUtf8From_utf8 0 text

/-! ## Parts of valid texts -/

theorem validUtf8_append {a b : Bytes} (ha : validUtf8 a = true) (hb : validUtf8 b = true) :
    validUtf8 (a ++ b) = true := by
  rw [validUtf8_iff] at *
  obtain ⟨front, rfl⟩ := ha
  obtain ⟨back, rfl⟩ := hb
  exact ⟨front ++ back, (List.flatMap_append ..).symm⟩

/-- A valid text falls into valid parts in front of an ASCII byte. -/
theorem validUtf8_split {a b : Bytes} {byte : UInt8} (hascii : byte.toNat < 0x80)
    (h : validUtf8 (a ++ byte :: b) = true) :
    validUtf8 a = true ∧ validUtf8 (byte :: b) = true := by
  rw [validUtf8_iff] at h
  obtain ⟨text, htext⟩ := h
  induction text generalizing a with
  | nil => exact absurd htext (by simp [utf8])
  | cons scalar text ih =>
      rcases a with _ | ⟨first, a⟩
      · exact ⟨rfl, (validUtf8_iff _).2 ⟨_, htext⟩⟩
      · rw [utf8, List.flatMap_cons] at htext
        obtain ⟨head, tail, hscalar⟩ := List.exists_cons_of_ne_nil
          (show String.utf8EncodeChar scalar ≠ [] by simp)
        have htail : ∀ other ∈ tail, 0x80 ≤ other.toNat := by
          intro other hother
          have hin : other ∈ (String.utf8EncodeChar scalar).tail := by
            rwa [hscalar, List.tail_cons]
          exact continuation_of_mem_tail hin
        rw [hscalar, List.cons_append, List.cons_append, List.cons.injEq] at htext
        obtain ⟨rfl, htext⟩ := htext
        rcases List.append_eq_append_iff.1 htext with ⟨middle, rfl, hrest⟩ | ⟨middle, rfl, hrest⟩
        · rcases middle with _ | ⟨other, middle⟩
          · rw [List.append_nil] at hscalar
            refine ⟨(validUtf8_iff _).2 ⟨[scalar], ?_⟩, (validUtf8_iff _).2 ⟨text, hrest⟩⟩
            rw [utf8, List.flatMap_singleton, hscalar]
          · -- the ASCII byte would be inside the scalar
            obtain ⟨rfl, -⟩ := List.cons.inj hrest
            have hlarge := htail byte (by simp)
            omega
        · obtain ⟨hfront, hback⟩ := ih hrest.symm
          refine ⟨?_, hback⟩
          rw [← List.cons_append, ← hscalar]
          exact validUtf8_append ((validUtf8_iff _).2 ⟨[scalar], by
            rw [utf8, List.flatMap_singleton]⟩) hfront

theorem validUtf8_cons_ascii {byte : UInt8} {bytes : Bytes} (hascii : byte.toNat < 0x80) :
    validUtf8 (byte :: bytes) = validUtf8 bytes := by
  rw [Bool.eq_iff_iff, validUtf8, invalidUtf8Offset, invalidUtf8From_one 0 bytes (by omega),
    Option.isNone_iff_eq_none, validUtf8_iff]
  constructor
  · exact exists_text_of_invalidUtf8From 1 bytes
  · rintro ⟨text, rfl⟩
    exact invalidUtf8From_utf8 1 text

theorem validUtf8_of_ascii {bytes : Bytes} (h : ∀ byte ∈ bytes, byte.toNat < 0x80) :
    validUtf8 bytes = true := by
  induction bytes with
  | nil => rfl
  | cons byte bytes ih =>
      rw [List.forall_mem_cons] at h
      rw [validUtf8_cons_ascii h.1]
      exact ih h.2

/-- What follows ASCII bytes in a valid text is valid. -/
theorem validUtf8_of_ascii_append {a b : Bytes} (ha : ∀ byte ∈ a, byte.toNat < 0x80) :
    validUtf8 (a ++ b) = validUtf8 b := by
  induction a with
  | nil => rfl
  | cons byte a ih =>
      rw [List.forall_mem_cons] at ha
      rw [List.cons_append, validUtf8_cons_ascii ha.1]
      exact ih ha.2

theorem ascii_lt {literal : String} (h : ∀ c ∈ literal.toList, c.toNat < 0x80) :
    ∀ byte ∈ ascii literal, byte.toNat < 0x80 := by
  intro byte hbyte
  obtain ⟨c, hc, rfl⟩ := List.mem_map.1 hbyte
  have hlt := h c hc
  rw [UInt8.toNat_ofNat_of_lt' (hlt.trans (by decide))]
  exact hlt

/-- A literal of ASCII characters is valid. -/
theorem validUtf8_literal {literal : String} (h : ∀ c ∈ literal.toList, c.toNat < 0x80) :
    validUtf8 (ascii literal) = true :=
  validUtf8_of_ascii (ascii_lt h)

end Cxxlens.Sdk
