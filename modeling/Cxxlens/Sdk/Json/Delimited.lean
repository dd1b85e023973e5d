import Cxxlens.Foundation.Delimited
import Cxxlens.Sdk.Text

set_option autoImplicit false

/-! # Strings in printed texts

A JSON string ends at its closing quotation mark, so the parts of a text that was put together by hand
can be told apart. A string that is not valid UTF-8 is printed as the empty one. -/

namespace Cxxlens.Sdk.Json

/-- The bytes that are not printed as themselves. -/
def escapedBytes : List UInt8 :=
  [0x5c, 0x22] ++ (List.range 32).map UInt8.ofNat

theorem escapeByte_of_not_escaped {byte : UInt8} (h : byte ∉ escapedBytes) :
    escapeByte byte = [byte] := by
  simp only [escapedBytes, List.mem_append, List.mem_cons, List.not_mem_nil, or_false, List.mem_map,
    List.mem_range, not_or] at h
  obtain ⟨⟨hsolidus, hquote⟩, hcontrol⟩ := h
  have hprintable : ¬ byte < 0x20 := fun hlt => hcontrol ⟨byte.toNat, hlt, UInt8.ofNat_toNat⟩
  have hne : ∀ control : UInt8, control < 0x20 → byte ≠ control := fun control hlt heq =>
    hprintable (heq ▸ hlt)
  simp only [escapeByte, if_neg hsolidus, if_neg hquote, if_neg (hne 0x08 (by decide)),
    if_neg (hne 0x0c (by decide)), if_neg (hne 0x0a (by decide)), if_neg (hne 0x0d (by decide)),
    if_neg (hne 0x09 (by decide)), if_neg hprintable]

theorem head_escapeByte_escaped {byte : UInt8} (h : byte ∈ escapedBytes) :
    ∃ rest, escapeByte byte = 0x5c :: rest := by
  have hall : escapedBytes.all (fun byte => (escapeByte byte).head? == some 0x5c) = true := by
    decide
  have hhead := beq_iff_eq.1 (List.all_eq_true.1 hall byte h)
  cases htext : escapeByte byte with
  | nil => simp [htext] at hhead
  | cons first rest =>
      rw [htext, List.head?_cons, Option.some.injEq] at hhead
      exact ⟨rest, by rw [hhead]⟩

/-- No text of a byte begins another. -/
theorem escapeByte_prefix_inj {x y : UInt8} (h : escapeByte x <+: escapeByte y) : x = y := by
  have hpairs : escapedBytes.Pairwise fun a b =>
      (escapeByte a).isPrefixOf (escapeByte b) = false ∧
        (escapeByte b).isPrefixOf (escapeByte a) = false := by decide
  have hescaped : ∀ x ∈ escapedBytes, ∀ y ∈ escapedBytes,
      (escapeByte x).isPrefixOf (escapeByte y) = true → x = y := by
    intro x hx y hy hxy
    by_contra hne
    have hsymm : Std.Symm fun a b : UInt8 => (escapeByte a).isPrefixOf (escapeByte b) = false ∧
        (escapeByte b).isPrefixOf (escapeByte a) = false := ⟨fun _ _ => And.symm⟩
    rw [(hpairs.forall hx hy hne).1] at hxy
    cases hxy
  have hsolidus : (0x5c : UInt8) ∈ escapedBytes := by simp [escapedBytes]
  by_cases hx : x ∈ escapedBytes
  · by_cases hy : y ∈ escapedBytes
    · exact hescaped x hx y hy (List.isPrefixOf_iff_prefix.2 h)
    · obtain ⟨rest, htext⟩ := head_escapeByte_escaped hx
      rw [htext, escapeByte_of_not_escaped hy] at h
      have hhead := (List.cons_prefix_cons.1 h).1
      exact absurd (hhead ▸ hsolidus) hy
  · by_cases hy : y ∈ escapedBytes
    · obtain ⟨rest, htext⟩ := head_escapeByte_escaped hy
      rw [htext, escapeByte_of_not_escaped hx] at h
      have hhead := (List.cons_prefix_cons.1 h).1
      exact absurd (hhead ▸ hsolidus) hx
    · rw [escapeByte_of_not_escaped hx, escapeByte_of_not_escaped hy] at h
      exact (List.cons_prefix_cons.1 h).1

theorem escapeByte_delimited : Delimited escapeByte :=
  Delimited.of_prefix fun _ _ h => congrArg escapeByte (escapeByte_prefix_inj h)

theorem head_escapeByte_ne (byte : UInt8) : ∃ first rest, escapeByte byte = first :: rest ∧
    first ≠ 0x22 := by
  by_cases hescaped : byte ∈ escapedBytes
  · obtain ⟨rest, htext⟩ := head_escapeByte_escaped hescaped
    exact ⟨0x5c, rest, htext, by decide⟩
  · have hquote : byte ≠ 0x22 := by
      rintro rfl
      exact hescaped (by simp [escapedBytes])
    exact ⟨byte, [], escapeByte_of_not_escaped hescaped, hquote⟩

/-- The characters of a literal that is printed as it is. -/
def plainCharacter (c : Char) : Bool :=
  decide (0x20 ≤ c.toNat ∧ c.toNat < 0x80 ∧ c.toNat ≠ 0x22 ∧ c.toNat ≠ 0x5c)

theorem escapeByte_plain {c : Char} (h : plainCharacter c = true) :
    escapeByte (UInt8.ofNat c.toNat) = [UInt8.ofNat c.toNat] := by
  rw [plainCharacter, decide_eq_true_iff] at h
  obtain ⟨hlow, hhigh, hquote, hsolidus⟩ := h
  have hnat : (UInt8.ofNat c.toNat).toNat = c.toNat :=
    UInt8.toNat_ofNat_of_lt' (hhigh.trans (by decide))
  refine escapeByte_of_not_escaped fun hmem => ?_
  simp only [escapedBytes, List.mem_append, List.mem_cons, List.not_mem_nil, or_false, List.mem_map,
    List.mem_range] at hmem
  rcases hmem with (hbyte | hbyte) | ⟨control, hcontrol, hbyte⟩
  · exact hsolidus (by rw [← hnat, hbyte]; rfl)
  · exact hquote (by rw [← hnat, hbyte]; rfl)
  · rw [← hnat, ← hbyte, UInt8.toNat_ofNat_of_lt' (hcontrol.trans (by decide))] at hlow
    omega

/-- A literal without characters to escape stands between quotation marks. -/
theorem canonicalJsonString_literal {literal quoted : String}
    (h : literal.toList.all plainCharacter = true)
    (hquoted : quoted.toList = '"' :: (literal.toList ++ ['"'])) :
    canonicalJsonString (ascii literal) = ascii quoted := by
  have hvalid : validUtf8 (ascii literal) = true := by
    refine validUtf8_literal fun c hc => ?_
    have hplain := List.all_eq_true.1 h c hc
    rw [plainCharacter, decide_eq_true_iff] at hplain
    exact hplain.2.1
  have hescaped : (ascii literal).flatMap escapeByte = ascii literal := by
    rw [ascii, List.flatMap_map,
      List.flatMap_congr fun c hc => escapeByte_plain (List.all_eq_true.1 h c hc)]
    exact List.flatMap_pure_eq_map _ _
  unfold canonicalJsonString canonicalJsonEscape
  rw [if_neg (by simp [hvalid]), hescaped]
  simp [ascii, hquoted]

/-- Escaped bytes end at a quotation mark. -/
theorem split_escaped {left right : Bytes} {rest other : Bytes}
    (h : left.flatMap escapeByte ++ 0x22 :: rest = right.flatMap escapeByte ++ 0x22 :: other) :
    left = right := by
  induction left generalizing right with
  | nil =>
      cases right with
      | nil => rfl
      | cons byte right =>
          obtain ⟨first, tail, htext, hne⟩ := head_escapeByte_ne byte
          rw [List.flatMap_cons, htext] at h
          exact absurd (List.cons.inj h).1.symm hne
  | cons byte left ih =>
      cases right with
      | nil =>
          obtain ⟨first, tail, htext, hne⟩ := head_escapeByte_ne byte
          rw [List.flatMap_cons, htext] at h
          exact absurd (List.cons.inj h).1 hne
      | cons second right =>
          rw [List.flatMap_cons, List.flatMap_cons, List.append_assoc, List.append_assoc] at h
          obtain ⟨hbyte, h⟩ := escapeByte_delimited.split h
          have heq : byte = second := escapeByte_prefix_inj (hbyte ▸ List.prefix_refl _)
          rw [heq, ih h]

/-- What a string is printed as: itself where it is valid. -/
def printable (value : Bytes) : Bytes :=
  if validUtf8 value = false then [] else value

theorem canonicalJsonString_printable (value : Bytes) :
    canonicalJsonString value = 0x22 :: ((printable value).flatMap escapeByte ++ [0x22]) := by
  unfold canonicalJsonString canonicalJsonEscape printable
  by_cases h : validUtf8 value = false
  · rw [if_pos h, if_pos h]
    rfl
  · rw [if_neg h, if_neg h]
    rfl

theorem canonicalJsonString_delimited : Delimited canonicalJsonString := by
  intro left right rest other h
  rw [canonicalJsonString_printable, canonicalJsonString_printable] at h ⊢
  simp only [List.cons_append, List.append_assoc, List.cons.injEq, true_and, List.nil_append] at h
  rw [split_escaped h]

theorem canonicalJsonString_eq_iff {left right : Bytes} :
    canonicalJsonString left = canonicalJsonString right ↔ printable left = printable right := by
  constructor
  · intro h
    rw [canonicalJsonString_printable, canonicalJsonString_printable] at h
    exact split_escaped (List.cons.inj h).2
  · intro h
    rw [canonicalJsonString_printable, canonicalJsonString_printable, h]

theorem printable_of_valid {value : Bytes} (h : validUtf8 value = true) : printable value = value := by
  unfold printable
  rw [if_neg (by simp [h])]

/-- A string that is printed as a valid text that is not empty is that text. -/
theorem eq_of_canonicalJsonString {value text : Bytes} (hvalid : validUtf8 text = true)
    (hne : text ≠ []) (h : canonicalJsonString value = canonicalJsonString text) : value = text := by
  rw [canonicalJsonString_eq_iff, printable_of_valid hvalid] at h
  unfold printable at h
  split_ifs at h with hinvalid
  · exact absurd h.symm hne
  · exact h

theorem canonicalJsonString_begins (value : Bytes) :
    ∃ rest, canonicalJsonString value = 0x22 :: rest :=
  ⟨_, canonicalJsonString_printable value⟩

end Cxxlens.Sdk.Json
