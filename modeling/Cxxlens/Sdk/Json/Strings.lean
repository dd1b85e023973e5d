import Cxxlens.Sdk.Json.Grammar

set_option autoImplicit false

/-! # Strings

`parse_string` reads exactly the strings of the grammar that keep within the limits on bytes. -/

namespace Cxxlens.Sdk.Json

open Fallible

/-! ## Characters -/

theorem simpleEscape_eq_some_iff (escaped value : UInt8) :
    Parser.simpleEscape escaped = some value ↔ Escape escaped value := by
  constructor
  · intro h
    rw [Parser.simpleEscape] at h
    split_ifs at h with hself hb hf hn hr ht
    · obtain rfl := Option.some.inj h
      rcases hself with rfl | rfl | rfl
      · exact .quotationMark
      · exact .reverseSolidus
      · exact .solidus
    · obtain rfl := Option.some.inj h
      exact hb ▸ .backspace
    · obtain rfl := Option.some.inj h
      exact hf ▸ .formFeed
    · obtain rfl := Option.some.inj h
      exact hn ▸ .lineFeed
    · obtain rfl := Option.some.inj h
      exact hr ▸ .carriageReturn
    · obtain rfl := Option.some.inj h
      exact ht ▸ .tab
  · intro h
    cases h with
    | quotationMark | reverseSolidus | solidus | backspace | formFeed | lineFeed
    | carriageReturn | tab => rfl

/-- `append_utf8` appends the UTF-8 encoding. -/
theorem appendUtf8_eq (scalar : Char) :
    Parser.appendUtf8 scalar.val.toNat = utf8 [scalar] := by
  have hmax := (scalar_lt scalar).1
  rw [utf8, List.flatMap_singleton, Parser.appendUtf8, String.utf8EncodeChar]
  generalize scalar.val.toNat = point at hmax
  split_ifs with hone htwo hthree
  · rfl
  · rw [show 0xc0 + point / 64 = point / 64 % 32 + 0xc0 by omega,
      show 0x80 + point % 64 = point % 64 + 0x80 by omega]
  · rw [show 0xe0 + point / 4096 = point / 4096 % 16 + 0xe0 by omega,
      show 0x80 + point / 64 % 64 = point / 64 % 64 + 0x80 by omega,
      show 0x80 + point % 64 = point % 64 + 0x80 by omega]
  · rw [show 0xf0 + point / 262144 = point / 262144 % 8 + 0xf0 by omega,
      show 0x80 + point / 4096 % 64 = point / 4096 % 64 + 0x80 by omega,
      show 0x80 + point / 64 % 64 = point / 64 % 64 + 0x80 by omega,
      show 0x80 + point % 64 = point % 64 + 0x80 by omega]

theorem canAppend_eq_true_iff (parser : Parser) (total current amount : Nat) :
    parser.canAppend total current amount = true ↔
      current + amount ≤ parser.limits.maxStringBytes.toNat ∧
        total + (current + amount) ≤ parser.limits.maxTotalStringBytes.toNat := by
  rw [Parser.canAppend, decide_eq_true_iff]
  omega

/-! ## Escapes -/

theorem hexadecimalQuad_eq_ok_iff {parser : Parser} {input rest : Bytes} {codePoint : Nat} :
    parser.hexadecimalQuad input = .ok (codePoint, rest) ↔
      ∃ quad, input = quad ++ rest ∧ Quad quad codePoint := by
  constructor
  · intro h
    rw [Parser.hexadecimalQuad, Parser.fail, guard_eq_ok_iff] at h
    obtain ⟨hlong, h⟩ := h
    rcases input with _ | ⟨a, _ | ⟨b, _ | ⟨c, _ | ⟨d, tail⟩⟩⟩⟩
    · simp at hlong
    · simp at hlong
    · simp at hlong
    · simp at hlong
    · simp only [Parser.hexadecimalDigits, Parser.fail] at h
      rcases ha : Parser.hexadecimalDigit a with _ | w
      · simp [ha] at h
      rcases hb : Parser.hexadecimalDigit b with _ | x
      · simp [ha, hb] at h
      rcases hc : Parser.hexadecimalDigit c with _ | y
      · simp [ha, hb, hc] at h
      rcases hd : Parser.hexadecimalDigit d with _ | z
      · simp [ha, hb, hc, hd] at h
      simp only [ha, hb, hc, hd, Except.ok.injEq, Prod.mk.injEq] at h
      obtain ⟨rfl, rfl⟩ := h
      refine ⟨[a, b, c, d], rfl, ?_⟩
      have hquad := Quad.mk ha hb hc hd
      rwa [show w * 4096 + x * 256 + y * 16 + z =
        (((0 * 16 + w) * 16 + x) * 16 + y) * 16 + z by ring] at hquad
  · rintro ⟨quad, rfl, hquad⟩
    obtain ⟨ha, hb, hc, hd⟩ := hquad
    rename_i w x y z
    rw [Parser.hexadecimalQuad, if_neg (by simp)]
    simp only [Parser.hexadecimalDigits, List.cons_append, List.nil_append, ha, hb, hc, hd]
    rw [show (((0 * 16 + w) * 16 + x) * 16 + y) * 16 + z = w * 4096 + x * 256 + y * 16 + z by ring]

theorem surrogatePair_eq_ok_iff {parser : Parser} {high codePoint : Nat} {input rest : Bytes} :
    parser.surrogatePair high input = .ok (codePoint, rest) ↔
      ∃ quad low, input = 0x5c :: 0x75 :: (quad ++ rest) ∧ Quad quad low ∧
        (0xdc00 ≤ low ∧ low ≤ 0xdfff) ∧
        codePoint = 0x10000 + (high - 0xd800) * 0x400 + (low - 0xdc00) := by
  constructor
  · intro h
    unfold Parser.surrogatePair at h
    split at h
    · rename_i tail
      split at h
      · exact absurd h (by simp [Parser.fail])
      · rename_i low tail' hquad
        rw [Parser.fail, guard_eq_ok_iff] at h
        obtain ⟨hrange, h⟩ := h
        obtain ⟨hcode, rfl⟩ := Prod.mk.injEq .. ▸ Except.ok.inj h
        obtain ⟨quad, rfl, hdigits⟩ := hexadecimalQuad_eq_ok_iff.1 hquad
        exact ⟨quad, low, rfl, hdigits, by omega, hcode.symm⟩
    · exact absurd h (by simp [Parser.fail])
  · rintro ⟨quad, low, rfl, hquad, hrange, hcode⟩
    have hinside : ¬ (low < 0xdc00 ∨ low > 0xdfff) := by omega
    simp only [Parser.surrogatePair, hexadecimalQuad_eq_ok_iff.2 ⟨quad, rfl, hquad⟩]
    rw [if_neg hinside, hcode]

/-- The text of one `\u` escape behind its first two bytes. -/
inductive EscapeText : Bytes → Char → Prop where
  | unicode {quad : Bytes} {scalar : Char} (hquad : Quad quad scalar.val.toNat) :
      EscapeText quad scalar
  | surrogates {high low : Bytes} {a b : Nat} {scalar : Char} (hhigh : Quad high a)
      (hlow : Quad low b) (ha : 0xd800 ≤ a ∧ a ≤ 0xdbff) (hb : 0xdc00 ≤ b ∧ b ≤ 0xdfff)
      (hscalar : scalar.val.toNat = 0x10000 + (a - 0xd800) * 0x400 + (b - 0xdc00)) :
      EscapeText (high ++ 0x5c :: 0x75 :: low) scalar

theorem Quad.le_max {quad : Bytes} {codePoint : Nat} (h : Quad quad codePoint) :
    codePoint ≤ 0xffff := by
  have hdigit : ∀ {byte : UInt8} {value : Nat},
      Parser.hexadecimalDigit byte = some value → value ≤ 15 := by
    intro byte value hvalue
    rw [Parser.hexadecimalDigit] at hvalue
    split_ifs at hvalue with hnumber hlower hupper
    · have hhigh : byte.toNat ≤ 0x39 := UInt8.le_iff_toNat_le.1 hnumber.2
      obtain rfl := Option.some.inj hvalue
      omega
    · have hhigh : byte.toNat ≤ 0x66 := UInt8.le_iff_toNat_le.1 hlower.2
      obtain rfl := Option.some.inj hvalue
      omega
    · have hhigh : byte.toNat ≤ 0x46 := UInt8.le_iff_toNat_le.1 hupper.2
      obtain rfl := Option.some.inj hvalue
      omega
  obtain ⟨ha, hb, hc, hd⟩ := h
  have := hdigit ha
  have := hdigit hb
  have := hdigit hc
  have := hdigit hd
  omega

theorem unicodeEscape_eq_ok_iff {parser : Parser} {input rest : Bytes} {codePoint : Nat} :
    parser.unicodeEscape input = .ok (codePoint, rest) ↔
      ∃ text scalar, input = text ++ rest ∧ EscapeText text scalar ∧
        scalar.val.toNat = codePoint := by
  rw [Parser.unicodeEscape, bind_eq_ok_iff]
  constructor
  · rintro ⟨⟨first, tail⟩, hquad, h⟩
    obtain ⟨quad, rfl, hdigits⟩ := hexadecimalQuad_eq_ok_iff.1 hquad
    have hmax : first ≤ 0xffff := hdigits.le_max
    simp only at h
    split_ifs at h with hhigh hlow
    · obtain ⟨quad', low, rfl, hdigits', hrange, hcode⟩ := surrogatePair_eq_ok_iff.1 h
      have hscalar : IsScalar codePoint := ⟨by omega, by omega⟩
      refine ⟨quad ++ 0x5c :: 0x75 :: quad', scalarOf codePoint hscalar, by simp, ?_,
        val_scalarOf _⟩
      exact .surrogates hdigits hdigits' hhigh hrange ((val_scalarOf _).trans hcode)
    · exact absurd h (by simp [Parser.fail])
    · obtain ⟨rfl, rfl⟩ := Prod.mk.injEq .. ▸ Except.ok.inj h
      have hscalar : IsScalar first := ⟨by omega, by omega⟩
      refine ⟨quad, scalarOf first hscalar, rfl, .unicode ?_, val_scalarOf _⟩
      rwa [val_scalarOf]
  · rintro ⟨text, scalar, rfl, htext, rfl⟩
    cases htext with
    | unicode hquad =>
        have hvalid := (scalar_lt scalar).2
        have hhigh : ¬ (0xd800 ≤ scalar.val.toNat ∧ scalar.val.toNat ≤ 0xdbff) := by omega
        have hlow : ¬ (0xdc00 ≤ scalar.val.toNat ∧ scalar.val.toNat ≤ 0xdfff) := by omega
        refine ⟨(scalar.val.toNat, rest), hexadecimalQuad_eq_ok_iff.2 ⟨text, rfl, hquad⟩, ?_⟩
        exact (if_neg hhigh).trans (if_neg hlow)
    | surrogates hhigh hlow ha hb hscalar =>
        rename_i high low a b
        refine ⟨(a, 0x5c :: 0x75 :: (low ++ rest)), hexadecimalQuad_eq_ok_iff.2
          ⟨high, by simp, hhigh⟩, ?_⟩
        exact (if_pos ha).trans (surrogatePair_eq_ok_iff.2 ⟨low, b, rfl, hlow, hb, hscalar⟩)

theorem Chars.unicodeText {text rest decoded : Bytes} {scalar : Char} (h : EscapeText text scalar)
    (hrest : Chars rest decoded) :
    Chars (0x5c :: 0x75 :: (text ++ rest)) (utf8 [scalar] ++ decoded) := by
  cases h with
  | unicode hquad => exact .unicode hquad hrest
  | surrogates hhigh hlow ha hb hscalar =>
      rw [List.append_assoc]
      exact .surrogates hhigh hlow ha hb hscalar hrest

/-! ## The loop -/

section Loop

variable {parser : Parser} {total start : Nat}

/-- What the loop returns is the string that stands in front of a closing quote. -/
theorem stringLoop_sound {fuel : Nat} {output input decoded rest : Bytes}
    (hbytes : output.length ≤ parser.limits.maxStringBytes.toNat)
    (htotal : total + output.length ≤ parser.limits.maxTotalStringBytes.toNat)
    (h : parser.stringLoop total start fuel output input = .ok (decoded, rest)) :
    ∃ body more, input = body ++ 0x22 :: rest ∧ Chars body more ∧ decoded = output ++ more ∧
      decoded.length ≤ parser.limits.maxStringBytes.toNat ∧
      total + decoded.length ≤ parser.limits.maxTotalStringBytes.toNat := by
  induction fuel generalizing output input with
  | zero =>
      rcases input with _ | ⟨byte, input⟩
      · exact absurd h (by simp [Parser.stringLoop, Parser.fail])
      · exact absurd h (by simp [Parser.stringLoop, Parser.fail])
  | succ fuel ih =>
      rcases input with _ | ⟨byte, input⟩
      · exact absurd h (by simp [Parser.stringLoop, Parser.fail])
      unfold Parser.stringLoop at h
      by_cases hquote : byte = 0x22
      · rw [if_pos hquote] at h
        obtain ⟨rfl, rfl⟩ := Prod.mk.injEq .. ▸ Except.ok.inj h
        exact ⟨[], [], by rw [hquote]; rfl, .nil, (List.append_nil _).symm, hbytes, htotal⟩
      rw [if_neg hquote, Parser.fail, guard_eq_ok_iff] at h
      obtain ⟨hcontrol, h⟩ := h
      by_cases hplain : byte ≠ 0x5c
      · rw [if_pos hplain, Parser.fail, guard_eq_ok_iff, Bool.not_eq_false,
          canAppend_eq_true_iff, ← List.length_singleton (a := byte), ← List.length_append] at h
        obtain ⟨⟨hone, hall⟩, h⟩ := h
        obtain ⟨body, more, rfl, hchars, rfl, hlimits⟩ := ih hone hall h
        exact ⟨byte :: body, byte :: more, rfl, .unescaped hcontrol hquote hplain hchars,
          List.append_assoc .., hlimits⟩
      rw [if_neg hplain] at h
      obtain rfl : byte = 0x5c := not_not.1 hplain
      rcases input with _ | ⟨escaped, input⟩
      · exact absurd h (by simp [Parser.fail])
      dsimp only at h
      rcases hsimple : Parser.simpleEscape escaped with _ | value
      · rw [hsimple] at h
        dsimp only at h
        rw [Parser.fail, guard_eq_ok_iff, not_not] at h
        obtain ⟨rfl, h⟩ := h
        rcases hcode : parser.unicodeEscape input with error | ⟨codePoint, tail⟩
        · exact absurd h (by simp [hcode])
        obtain ⟨text, scalar, rfl, htext, rfl⟩ := unicodeEscape_eq_ok_iff.1 hcode
        rw [hcode] at h
        dsimp only at h
        rw [appendUtf8_eq, Parser.fail, guard_eq_ok_iff, Bool.not_eq_false,
          canAppend_eq_true_iff, ← List.length_append] at h
        obtain ⟨⟨hone, hall⟩, h⟩ := h
        obtain ⟨body, more, rfl, hchars, rfl, hlimits⟩ := ih hone hall h
        exact ⟨0x5c :: 0x75 :: (text ++ body), utf8 [scalar] ++ more, by simp,
          hchars.unicodeText htext, List.append_assoc .., hlimits⟩
      · rw [hsimple] at h
        dsimp only at h
        rw [Parser.fail, guard_eq_ok_iff, Bool.not_eq_false, canAppend_eq_true_iff,
          ← List.length_singleton (a := value), ← List.length_append] at h
        obtain ⟨⟨hone, hall⟩, h⟩ := h
        obtain ⟨body, more, rfl, hchars, rfl, hlimits⟩ := ih hone hall h
        exact ⟨0x5c :: escaped :: body, value :: more, rfl,
          .escape ((simpleEscape_eq_some_iff _ _).1 hsimple) hchars, List.append_assoc ..,
          hlimits⟩

/-- One round over a `\\u` escape. -/
theorem stringLoop_unicode {fuel : Nat} {output text tail more : Bytes} {scalar : Char}
    (h : EscapeText text scalar)
    (hbytes : (output ++ utf8 [scalar] ++ more).length ≤ parser.limits.maxStringBytes.toNat)
    (htotal : total + (output ++ utf8 [scalar] ++ more).length ≤
      parser.limits.maxTotalStringBytes.toNat) :
    parser.stringLoop total start (fuel + 1) output (0x5c :: 0x75 :: (text ++ tail)) =
      parser.stringLoop total start fuel (output ++ utf8 [scalar]) tail := by
  have happend : parser.canAppend total output.length (utf8 [scalar]).length = true := by
    rw [canAppend_eq_true_iff]
    simp only [List.length_append] at hbytes htotal
    omega
  have hcode : parser.unicodeEscape (text ++ tail) = .ok (scalar.val.toNat, tail) :=
    unicodeEscape_eq_ok_iff.2 ⟨text, scalar, rfl, h, rfl⟩
  have hnone : Parser.simpleEscape 0x75 = none := by decide
  have hencoded : Parser.appendUtf8 scalar.toNat = utf8 [scalar] := appendUtf8_eq scalar
  simp [Parser.stringLoop, hnone, hcode, hencoded, happend]

/-- A string of the grammar that keeps within the limits is read to its closing quote. -/
theorem stringLoop_complete {body more : Bytes} (h : Chars body more) :
    ∀ {fuel : Nat} {output : Bytes} (rest : Bytes), body.length < fuel →
      (output ++ more).length ≤ parser.limits.maxStringBytes.toNat →
      total + (output ++ more).length ≤ parser.limits.maxTotalStringBytes.toNat →
      parser.stringLoop total start fuel output (body ++ 0x22 :: rest) =
        .ok (output ++ more, rest) := by
  induction h with
  | nil =>
      intro fuel output rest hfuel _ _
      obtain ⟨fuel, rfl⟩ := Nat.exists_eq_add_one_of_ne_zero (Nat.ne_of_gt hfuel)
      rw [List.append_nil]
      rfl
  | unescaped hcontrol hquote hescape hchars ih =>
      rename_i byte text decoded
      intro fuel output rest hfuel hbytes htotal
      rw [List.length_cons] at hfuel
      obtain ⟨fuel, rfl⟩ := Nat.exists_eq_add_one_of_ne_zero (show fuel ≠ 0 by omega)
      rw [List.append_cons output byte decoded] at hbytes htotal ⊢
      rw [List.cons_append]
      unfold Parser.stringLoop
      have happend : parser.canAppend total output.length 1 = true := by
        rw [canAppend_eq_true_iff]
        simp only [List.length_append, List.length_singleton] at hbytes htotal
        omega
      rw [if_neg hquote, if_neg hcontrol, if_pos hescape, if_neg (by rw [happend]; decide)]
      exact ih rest (by omega) hbytes htotal
  | escape hsimple hchars ih =>
      rename_i escaped value text decoded
      intro fuel output rest hfuel hbytes htotal
      rw [List.length_cons, List.length_cons] at hfuel
      obtain ⟨fuel, rfl⟩ := Nat.exists_eq_add_one_of_ne_zero (show fuel ≠ 0 by omega)
      rw [List.append_cons output value decoded] at hbytes htotal ⊢
      have happend : parser.canAppend total output.length 1 = true := by
        rw [canAppend_eq_true_iff]
        simp only [List.length_append, List.length_singleton] at hbytes htotal
        omega
      have hstep := ih rest (show text.length < fuel by omega) hbytes htotal
      simp only [List.cons_append, Parser.stringLoop, (simpleEscape_eq_some_iff _ _).2 hsimple,
        happend]
      simpa using hstep
  | unicode hquad hchars ih =>
      intro fuel output rest hfuel hbytes htotal
      simp only [List.length_cons, List.length_append] at hfuel
      obtain ⟨fuel, rfl⟩ := Nat.exists_eq_add_one_of_ne_zero (show fuel ≠ 0 by omega)
      rw [← List.append_assoc] at hbytes htotal ⊢
      rw [List.cons_append, List.cons_append, List.append_assoc,
        stringLoop_unicode (.unicode hquad) hbytes htotal]
      exact ih rest (by omega) hbytes htotal
  | surrogates hhigh hlow ha hb hscalar hchars ih =>
      rename_i high low text decoded a b scalar
      intro fuel output rest hfuel hbytes htotal
      simp only [List.length_cons, List.length_append] at hfuel
      obtain ⟨fuel, rfl⟩ := Nat.exists_eq_add_one_of_ne_zero (show fuel ≠ 0 by omega)
      rw [← List.append_assoc] at hbytes htotal ⊢
      have hstep := @stringLoop_unicode _ _ start fuel _ _ (text ++ 0x22 :: rest) _ _
        (.surrogates hhigh hlow ha hb hscalar) hbytes htotal
      simp only [List.append_assoc, List.cons_append] at hstep ⊢
      rw [hstep, ← List.append_assoc]
      exact ih rest (by omega) hbytes htotal

end Loop

/-! ## The whole string -/

theorem parseString_sound {parser : Parser} {state state' : ParserState} {decoded : Bytes}
    (htotal : state.totalStringBytes ≤ parser.limits.maxTotalStringBytes.toNat)
    (h : parser.parseString state = .ok (decoded, state')) :
    ∃ text, state.rest = text ++ state'.rest ∧ StringText text decoded ∧
      decoded.length ≤ parser.limits.maxStringBytes.toNat ∧
      state'.valueCount = state.valueCount ∧
      state'.totalStringBytes = state.totalStringBytes + decoded.length ∧
      state'.totalStringBytes ≤ parser.limits.maxTotalStringBytes.toNat := by
  unfold Parser.parseString at h
  split at h
  · rename_i rest hrest
    rw [bind_eq_ok_iff] at h
    obtain ⟨⟨output, tail⟩, hloop, h⟩ := h
    obtain ⟨rfl, rfl⟩ := Prod.mk.injEq .. ▸ Except.ok.inj h
    obtain ⟨body, more, rfl, hchars, rfl, hbytes, hall⟩ :=
      stringLoop_sound (Nat.zero_le _) (by simpa using htotal) hloop
    exact ⟨0x22 :: (body ++ [0x22]), by simp [hrest], .mk hchars, hbytes, rfl, rfl, hall⟩
  · exact absurd h (by simp [Parser.fail])

theorem parseString_complete {parser : Parser} {text decoded : Bytes} (h : StringText text decoded)
    (rest : Bytes) (count total : Nat)
    (hbytes : decoded.length ≤ parser.limits.maxStringBytes.toNat)
    (htotal : total + decoded.length ≤ parser.limits.maxTotalStringBytes.toNat) :
    parser.parseString ⟨text ++ rest, count, total⟩ =
      .ok (decoded, ⟨rest, count, total + decoded.length⟩) := by
  obtain ⟨hchars⟩ := h
  rename_i body
  have hinput : 0x22 :: (body ++ [0x22]) ++ rest = 0x22 :: (body ++ 0x22 :: rest) := by simp
  have hloop : parser.stringLoop total (parser.position (0x22 :: (body ++ 0x22 :: rest)))
      (body ++ 0x22 :: rest).length [] (body ++ 0x22 :: rest) = .ok (decoded, rest) :=
    stringLoop_complete hchars rest (by simp) hbytes htotal
  simp only [Parser.parseString, hinput, hloop, ok_bind]

end Cxxlens.Sdk.Json
