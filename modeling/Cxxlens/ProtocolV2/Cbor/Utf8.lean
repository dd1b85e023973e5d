import Cxxlens.ProtocolV2.Cbor.Value
import Cxxlens.Sdk.Utf8

set_option autoImplicit false

/-! # One notion of UTF-8

`valid_utf8` of `cbor.cpp` looks at ranges of bytes, `valid_utf8` of `json_internal.hpp` decodes each
code point and looks at its value. They accept the same texts, the encodings of scalar values. Where the
second one stops, only a character that is cut off stands behind whole characters. -/

namespace Cxxlens.ProtocolV2.Cbor

open Sdk (utf8 invalidScalar invalidUtf8From)

/-! ## Bytes of one character -/

section Steps

variable {index : Nat} {first second third fourth : UInt8}

theorem continuation_iff {byte : UInt8} : continuation byte = true ↔ byte.toNat / 64 = 2 := by
  simp only [continuation, Bool.and_eq_true, decide_eq_true_eq, UInt8.le_iff_toNat_le]
  have hlow : (0x80 : UInt8).toNat = 0x80 := rfl
  have hhigh : (0xbf : UInt8).toNat = 0xbf := rfl
  omega

theorem two_iff (hlow : 0xc2 ≤ first) (hhigh : first ≤ 0xdf) :
    invalidScalar index 1 (first.toNat % 32) 0x80 [second] = none ↔ continuation second = true := by
  have hlow : 0xc2 ≤ first.toNat := UInt8.le_iff_toNat_le.1 hlow
  have hhigh : first.toNat ≤ 0xdf := UInt8.le_iff_toNat_le.1 hhigh
  simp only [Sdk.invalidScalar_cons_eq_none_iff, Sdk.invalidScalar_nil_eq_none_iff, continuation_iff]
  omega

theorem three_iff (hlow : 0xe0 ≤ first) (hhigh : first ≤ 0xef) :
    invalidScalar index 1 (first.toNat % 16) 0x800 [second, third] = none ↔
      (continuation third = true ∧ continuation second = true) ∧
        ¬ ((first = 0xe0 ∧ second < 0xa0) ∨ (first = 0xed ∧ second > 0x9f)) := by
  have hlow : 0xe0 ≤ first.toNat := UInt8.le_iff_toNat_le.1 hlow
  have hhigh : first.toNat ≤ 0xef := UInt8.le_iff_toNat_le.1 hhigh
  simp only [Sdk.invalidScalar_cons_eq_none_iff, Sdk.invalidScalar_nil_eq_none_iff, continuation_iff,
    ← UInt8.toNat_inj, UInt8.lt_iff_toNat_lt, gt_iff_lt]
  simp only [UInt8.reduceToNat]
  omega

theorem four_iff (hlow : 0xf0 ≤ first) (hhigh : first ≤ 0xf4) :
    invalidScalar index 1 (first.toNat % 8) 0x10000 [second, third, fourth] = none ↔
      ((continuation second = true ∧ continuation third = true) ∧ continuation fourth = true) ∧
        ¬ ((first = 0xf0 ∧ second < 0x90) ∨ (first = 0xf4 ∧ second > 0x8f)) := by
  have hlow : 0xf0 ≤ first.toNat := UInt8.le_iff_toNat_le.1 hlow
  have hhigh : first.toNat ≤ 0xf4 := UInt8.le_iff_toNat_le.1 hhigh
  simp only [Sdk.invalidScalar_cons_eq_none_iff, Sdk.invalidScalar_nil_eq_none_iff, continuation_iff,
    ← UInt8.toNat_inj, UInt8.lt_iff_toNat_lt, gt_iff_lt]
  simp only [UInt8.reduceToNat]
  omega

end Steps

/-! ## Both validators -/

theorem validUtf8_iff_invalidUtf8From (bytes : Bytes) :
    ∀ index, validUtf8 bytes = true ↔ invalidUtf8From index bytes = none := by
  fun_induction validUtf8 bytes with
  | case1 =>
      intro index
      simp [invalidUtf8From]
  | case2 first rest hone ih =>
      intro index
      rw [Sdk.invalidUtf8From_one index rest (UInt8.le_iff_toNat_le.1 hone)]
      exact ih _
  | case3 first hone htwo second rest hsecond ih =>
      intro index
      rw [invalidUtf8From, if_neg hone, if_pos htwo, (two_iff htwo.1 htwo.2).2 hsecond]
      exact ih _
  | case4 first hone htwo second rest hsecond =>
      intro index
      obtain ⟨bad, hbad⟩ := Option.ne_none_iff_exists'.1
        (mt (@two_iff index first second htwo.1 htwo.2).1 hsecond)
      rw [invalidUtf8From, if_neg hone, if_pos htwo, hbad]
      simp
  | case5 first rest hone htwo hshort =>
      intro index
      cases rest with
      | nil => simp [invalidUtf8From, hone, htwo]
      | cons second rest => exact (hshort second rest rfl).elim
  | case6 first hone htwo hthree second third rest hbytes =>
      intro index
      obtain ⟨bad, hbad⟩ := Option.ne_none_iff_exists'.1
        (mt (@three_iff index first second third hthree.1 hthree.2).1 (by grind))
      rw [invalidUtf8From, if_neg hone, if_neg htwo, if_pos hthree]
      simp [hbad]
  | case7 first hone htwo hthree second third rest _ hrange =>
      intro index
      obtain ⟨bad, hbad⟩ := Option.ne_none_iff_exists'.1
        (mt (@three_iff index first second third hthree.1 hthree.2).1 fun h => h.2 hrange)
      rw [invalidUtf8From, if_neg hone, if_neg htwo, if_pos hthree]
      simp [hbad]
  | case8 first hone htwo hthree second third rest hbytes hrange ih =>
      intro index
      have hscalar := (@three_iff index first second third hthree.1 hthree.2).2 ⟨by grind, hrange⟩
      rw [invalidUtf8From, if_neg hone, if_neg htwo, if_pos hthree]
      simp only [hscalar]
      exact ih _
  | case9 first rest hone htwo hthree hshort =>
      intro index
      rcases rest with _ | ⟨second, _ | ⟨third, rest⟩⟩
      · simp [invalidUtf8From, hone, htwo, hthree]
      · simp [invalidUtf8From, hone, htwo, hthree]
      · exact (hshort second third rest rfl).elim
  | case10 first hone htwo hthree hfour second third fourth rest hbytes =>
      intro index
      obtain ⟨bad, hbad⟩ := Option.ne_none_iff_exists'.1
        (mt (@four_iff index first second third fourth hfour.1 hfour.2).1 (by grind))
      rw [invalidUtf8From, if_neg hone, if_neg htwo, if_neg hthree, if_pos hfour]
      simp [hbad]
  | case11 first hone htwo hthree hfour second third fourth rest _ hrange =>
      intro index
      obtain ⟨bad, hbad⟩ := Option.ne_none_iff_exists'.1
        (mt (@four_iff index first second third fourth hfour.1 hfour.2).1 fun h => h.2 hrange)
      rw [invalidUtf8From, if_neg hone, if_neg htwo, if_neg hthree, if_pos hfour]
      simp [hbad]
  | case12 first hone htwo hthree hfour second third fourth rest hbytes hrange ih =>
      intro index
      have hscalar :=
        (@four_iff index first second third fourth hfour.1 hfour.2).2 ⟨by grind, hrange⟩
      rw [invalidUtf8From, if_neg hone, if_neg htwo, if_neg hthree, if_pos hfour]
      simp only [hscalar]
      exact ih _
  | case13 first rest hone htwo hthree hfour hshort =>
      intro index
      rcases rest with _ | ⟨second, _ | ⟨third, _ | ⟨fourth, rest⟩⟩⟩
      · simp [invalidUtf8From, hone, htwo, hthree, hfour]
      · simp [invalidUtf8From, hone, htwo, hthree, hfour]
      · simp [invalidUtf8From, hone, htwo, hthree, hfour]
      · exact (hshort second third fourth rest rfl).elim
  | case14 first rest hone htwo hthree hfour =>
      intro index
      unfold invalidUtf8From
      simp [hone, htwo, hthree, hfour]

theorem validUtf8_iff (bytes : Bytes) : validUtf8 bytes = true ↔ ∃ text, bytes = utf8 text := by
  rw [validUtf8_iff_invalidUtf8From bytes 0]
  constructor
  · exact Sdk.exists_text_of_invalidUtf8From 0 bytes
  · rintro ⟨text, rfl⟩
    exact Sdk.invalidUtf8From_utf8 0 text

/-! ## Where the check stops -/

/-- How many bytes the first byte of a character announces. -/
def width (first : UInt8) : Nat :=
  if first < 0xc2 then 1
  else if first ≤ 0xdf then 2
  else if first ≤ 0xef then 3
  else if first ≤ 0xf4 then 4
  else 1

/-- A character that is cut off: its first byte and fewer continuation bytes than this byte
    announces. -/
def Incomplete : Bytes → Prop
  | [] => False
  | first :: tail => tail.length + 1 < width first ∧ ∀ byte ∈ tail, continuation byte = true

/-- The check of a character stops at its first byte, or at the first byte that does not continue it. -/
theorem exists_of_invalidScalar {index minimum bad : Nat} {bytes : Bytes} :
    ∀ {offset codePoint : Nat}, invalidScalar index offset codePoint minimum bytes = some bad →
      bad = index ∨ ∃ count < bytes.length, bad = index + offset + count ∧
        ∀ byte ∈ bytes.take count, continuation byte = true := by
  induction bytes with
  | nil =>
      intro offset codePoint h
      rw [invalidScalar] at h
      split_ifs at h
      exact .inl (Option.some.inj h).symm
  | cons byte rest ih =>
      intro offset codePoint h
      rw [invalidScalar] at h
      split_ifs at h with hbyte
      · exact .inr ⟨0, by simp, (Option.some.inj h).symm, by simp⟩
      · rcases ih h with hfirst | ⟨count, hcount, hbad, hrest⟩
        · exact .inl hfirst
        · refine .inr ⟨count + 1, by simpa using hcount, by omega, ?_⟩
          rw [List.take_succ_cons, List.forall_mem_cons]
          exact ⟨continuation_iff.2 (not_not.1 hbyte), hrest⟩

/-- Whole characters, and one that is cut off at most, stand between two offsets. -/
def StopsBehind (bytes : Bytes) (index bad : Nat) : Prop :=
  index ≤ bad ∧ bad ≤ index + bytes.length ∧ ∃ (text : List Char) (rest : Bytes),
    bytes.take (bad - index) = utf8 text ++ rest ∧ (rest = [] ∨ Incomplete rest)

theorem stopsBehind_self (bytes : Bytes) (index : Nat) : StopsBehind bytes index index :=
  ⟨le_rfl, by omega, [], [], by simp [utf8], .inl rfl⟩

/-- A whole character in front is passed over. -/
theorem StopsBehind.cons {scalar : Char} {front rest : Bytes} {index bad : Nat}
    (hfront : String.utf8EncodeChar scalar = front)
    (h : StopsBehind rest (index + front.length) bad) : StopsBehind (front ++ rest) index bad := by
  obtain ⟨hle, hend, text, part, htake, hpart⟩ := h
  refine ⟨by omega, by rw [List.length_append]; omega, scalar :: text, part, ?_, hpart⟩
  have hsplit : bad - index = front.length + (bad - (index + front.length)) := by omega
  have hcons : utf8 (scalar :: text) = front ++ utf8 text := by
    rw [← hfront]
    rfl
  rw [hsplit, List.take_length_add_append, htake, hcons, List.append_assoc]

/-- The check stops inside a character. -/
theorem stopsBehind_of_invalidScalar {first : UInt8} {tail rest : Bytes}
    {index minimum codePoint bad : Nat} (h : invalidScalar index 1 codePoint minimum tail = some bad)
    (hwidth : tail.length + 1 = width first) :
    StopsBehind (first :: tail ++ rest) index bad := by
  rcases exists_of_invalidScalar h with rfl | ⟨count, hcount, rfl, hcontinue⟩
  · exact stopsBehind_self _ _
  · refine ⟨by omega, by simp; omega, [], first :: tail.take count, ?_, .inr ⟨?_, hcontinue⟩⟩
    · have hoffset : index + 1 + count - index = count + 1 := by omega
      rw [hoffset, List.cons_append, List.take_succ_cons, List.take_append_of_le_length hcount.le]
      rfl
    · rw [List.length_take]
      omega

theorem width_two {first : UInt8} (h : 0xc2 ≤ first ∧ first ≤ 0xdf) : width first = 2 := by
  simp only [width, UInt8.lt_iff_toNat_lt, UInt8.le_iff_toNat_le, UInt8.reduceToNat] at h ⊢
  split_ifs <;> omega

theorem width_three {first : UInt8} (h : 0xe0 ≤ first ∧ first ≤ 0xef) : width first = 3 := by
  simp only [width, UInt8.lt_iff_toNat_lt, UInt8.le_iff_toNat_le, UInt8.reduceToNat] at h ⊢
  split_ifs <;> omega

theorem width_four {first : UInt8} (h : 0xf0 ≤ first ∧ first ≤ 0xf4) : width first = 4 := by
  simp only [width, UInt8.lt_iff_toNat_lt, UInt8.le_iff_toNat_le, UInt8.reduceToNat] at h ⊢
  split_ifs <;> omega

theorem stopsBehind_of_invalidUtf8From (index bad : Nat) (bytes : Bytes)
    (h : invalidUtf8From index bytes = some bad) : StopsBehind bytes index bad := by
  fun_induction invalidUtf8From index bytes with
  | case1 index => cases h
  | case2 index first rest hone ih =>
      have hle : first.toNat ≤ 0x7f := UInt8.le_iff_toNat_le.1 hone
      exact (ih h).cons (Sdk.encode_one ⟨by omega, by omega⟩ hle)
  | case3 index first _ htwo second rest stop hscalar =>
      obtain rfl := Option.some.inj h
      exact stopsBehind_of_invalidScalar hscalar (width_two htwo).symm
  | case4 index first _ htwo second rest hscalar ih =>
      have hlow : 0xc2 ≤ first.toNat := UInt8.le_iff_toNat_le.1 htwo.1
      have hhigh : first.toNat ≤ 0xdf := UInt8.le_iff_toNat_le.1 htwo.2
      simp only [Sdk.invalidScalar_cons_eq_none_iff, Sdk.invalidScalar_nil_eq_none_iff] at hscalar
      obtain ⟨hsecond, -, hpoint⟩ := hscalar
      exact (ih h).cons (Sdk.encode_two hpoint rfl hlow hhigh hsecond)
  | case6 index first _ _ hthree second third rest stop hscalar =>
      obtain rfl := Option.some.inj h
      exact stopsBehind_of_invalidScalar hscalar (width_three hthree).symm
  | case7 index first _ _ hthree second third rest hscalar ih =>
      have hlow : 0xe0 ≤ first.toNat := UInt8.le_iff_toNat_le.1 hthree.1
      have hhigh : first.toNat ≤ 0xef := UInt8.le_iff_toNat_le.1 hthree.2
      simp only [Sdk.invalidScalar_cons_eq_none_iff, Sdk.invalidScalar_nil_eq_none_iff] at hscalar
      obtain ⟨hsecond, hthird, hminimum, hpoint⟩ := hscalar
      exact (ih h).cons (Sdk.encode_three hpoint rfl hlow hhigh hsecond hthird hminimum)
  | case9 index first _ _ _ hfour second third fourth rest stop hscalar =>
      obtain rfl := Option.some.inj h
      exact stopsBehind_of_invalidScalar hscalar (width_four hfour).symm
  | case10 index first _ _ _ hfour second third fourth rest hscalar ih =>
      have hlow : 0xf0 ≤ first.toNat := UInt8.le_iff_toNat_le.1 hfour.1
      have hhigh : first.toNat ≤ 0xf4 := UInt8.le_iff_toNat_le.1 hfour.2
      simp only [Sdk.invalidScalar_cons_eq_none_iff, Sdk.invalidScalar_nil_eq_none_iff] at hscalar
      obtain ⟨hsecond, hthird, hfourth, hminimum, hpoint⟩ := hscalar
      exact (ih h).cons
        (Sdk.encode_four hpoint rfl hlow hhigh hsecond hthird hfourth hminimum)
  | _ =>
      -- the first byte starts no character, or the text ends inside one
      obtain rfl := Option.some.inj h
      exact stopsBehind_self _ _

/-- **Both validators accept exactly the encodings of scalar values, and the offset of the first fault
stands behind whole characters and one that is cut off at most.** -/
theorem validators_agree (bytes : Bytes) :
    (validUtf8 bytes = true ↔ ∃ text : List Char, bytes = text.flatMap String.utf8EncodeChar) ∧
      (Sdk.validUtf8 bytes = true ↔
        ∃ text : List Char, bytes = text.flatMap String.utf8EncodeChar) ∧
      (Sdk.validUtf8 bytes = false → ∃ offset, Sdk.invalidUtf8Offset bytes = some offset ∧
        offset ≤ bytes.length ∧ ∃ (text : List Char) (rest : Bytes),
          bytes.take offset = text.flatMap String.utf8EncodeChar ++ rest ∧
            (rest = [] ∨ Incomplete rest)) := by
  refine ⟨validUtf8_iff bytes, Sdk.validUtf8_iff bytes, ?_⟩
  intro h
  rw [Sdk.validUtf8, Option.isNone_eq_false_iff, Option.isSome_iff_exists] at h
  obtain ⟨offset, hoffset⟩ := h
  obtain ⟨-, hend, text, rest, htake, hrest⟩ :=
    stopsBehind_of_invalidUtf8From 0 offset bytes hoffset
  exact ⟨offset, hoffset, by omega, text, rest, htake, hrest⟩

end Cxxlens.ProtocolV2.Cbor
