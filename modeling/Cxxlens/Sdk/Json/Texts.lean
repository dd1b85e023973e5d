import Cxxlens.Sdk.Json.Numbers
import Cxxlens.Sdk.Json.Strings

set_option autoImplicit false

/-! # Facts about texts of the grammar

How texts begin and what may follow them, which parts of a valid UTF-8 text are valid, and the
order of the members of an object. -/

namespace Cxxlens.Sdk.Json

open Sorting
open Cxxlens.Sdk.Json.Parser (isSpace space)

/-! ## Whitespace -/

theorem isSpace_iff (byte : UInt8) :
    isSpace byte = true ↔ byte = 0x20 ∨ byte = 0x09 ∨ byte = 0x0a ∨ byte = 0x0d := by
  simp [isSpace, or_assoc]

theorem space_append {pad : Bytes} (h : Whitespace pad) (rest : Bytes) :
    space (pad ++ rest) = space rest :=
  List.dropWhile_append_of_pos h

theorem space_of_head {rest : Bytes} (h : ∀ byte ∈ rest.head?, isSpace byte = false) :
    space rest = rest := by
  rcases rest with _ | ⟨byte, rest⟩
  · rfl
  · exact List.dropWhile_cons_of_neg (by rw [h byte rfl]; decide)

theorem space_cons {byte : UInt8} (h : isSpace byte = false) (rest : Bytes) :
    space (byte :: rest) = byte :: rest :=
  space_of_head (by rintro _ ⟨⟩; exact h)

theorem space_space (rest : Bytes) : space (space rest) = space rest :=
  space_of_head fun byte hbyte => by
    have hnot := List.head?_dropWhile_not isSpace rest
    rw [show rest.dropWhile isSpace = space rest from rfl, hbyte] at hnot
    simpa using hnot

/-- The whitespace that `space` skips. -/
theorem exists_space (rest : Bytes) : ∃ pad, rest = pad ++ space rest ∧ Whitespace pad :=
  ⟨rest.takeWhile isSpace, List.takeWhile_append_dropWhile.symm,
    fun _ hbyte => List.mem_takeWhile_imp hbyte⟩

theorem Whitespace.append {a b : Bytes} (ha : Whitespace a) (hb : Whitespace b) :
    Whitespace (a ++ b) := by
  intro byte hbyte
  rcases List.mem_append.1 hbyte with hbyte | hbyte
  · exact ha byte hbyte
  · exact hb byte hbyte

/-! ## What may follow a value -/

/-- Whitespace, a comma, a closing bracket or brace, or the end. -/
def Follow (rest : Bytes) : Prop :=
  ∀ byte ∈ rest.head?, isSpace byte = true ∨ byte = 0x2c ∨ byte = 0x5d ∨ byte = 0x7d

theorem Follow.stops {rest : Bytes} (h : Follow rest) : Stops rest := by
  intro byte hbyte
  rcases h byte hbyte with hspace | rfl | rfl | rfl
  · rcases (isSpace_iff byte).1 hspace with rfl | rfl | rfl | rfl <;> exact ⟨by decide, by decide⟩
  · exact ⟨by decide, by decide⟩
  · exact ⟨by decide, by decide⟩
  · exact ⟨by decide, by decide⟩

theorem follow_nil : Follow [] := by
  rintro byte ⟨⟩

theorem Follow.pad {pad rest : Bytes} (hpad : Whitespace pad) (h : Follow rest) :
    Follow (pad ++ rest) := by
  rcases pad with _ | ⟨byte, pad⟩
  · exact h
  · rintro _ ⟨⟩
    exact .inl (hpad byte List.mem_cons_self)

theorem follow_comma (rest : Bytes) : Follow (0x2c :: rest) := by
  rintro _ ⟨⟩
  exact .inr (.inl rfl)

theorem follow_bracket (rest : Bytes) : Follow (0x5d :: rest) := by
  rintro _ ⟨⟩
  exact .inr (.inr (.inl rfl))

theorem follow_brace (rest : Bytes) : Follow (0x7d :: rest) := by
  rintro _ ⟨⟩
  exact .inr (.inr (.inr rfl))

/-! ## How texts begin -/

theorem StringText.head {text decoded : Bytes} (h : StringText text decoded) :
    ∃ rest, text = 0x22 :: rest := by
  obtain ⟨hchars⟩ := h
  exact ⟨_, rfl⟩

/-- A number begins with a sign or a digit. -/
theorem Number.WellFormed.head {number : Number} (h : number.WellFormed) :
    ∃ byte rest, number.text = byte :: rest ∧
      (byte = 0x2d ∨ (0x30 ≤ byte.toNat ∧ byte.toNat ≤ 0x39)) := by
  obtain ⟨minus, integer, frac, exp⟩ := number
  obtain ⟨byte, rest, rfl⟩ := List.exists_cons_of_ne_nil h.integer.1
  cases minus with
  | true => exact ⟨0x2d, _, rfl, .inl rfl⟩
  | false => exact ⟨byte, _, rfl, .inr (digit_range (h.integer.2 byte List.mem_cons_self))⟩

/-- The first byte of a value is an ASCII character, no whitespace, and closes nothing. -/
theorem ValueText.head {numbers : JsonNumberSyntax} {text : Bytes} {value : JsonValue}
    (h : ValueText numbers text value) :
    ∃ byte rest, text = byte :: rest ∧ isSpace byte = false ∧ byte ≠ 0x5d ∧ byte ≠ 0x7d ∧
      byte.toNat < 0x80 := by
  cases h with
  | nullLiteral | trueLiteral | falseLiteral =>
      exact ⟨_, _, rfl, by decide, by decide, by decide, by decide⟩
  | number hform hvalue =>
      obtain ⟨byte, rest, htext, hbyte⟩ := hform.head
      refine ⟨byte, rest, htext, ?_, ?_, ?_, ?_⟩
      · rw [← Bool.not_eq_true, isSpace_iff]
        rintro (rfl | rfl | rfl | rfl) <;> simp at hbyte
      · rintro rfl
        simp at hbyte
      · rintro rfl
        simp at hbyte
      · rcases hbyte with rfl | hdigit
        · decide
        · omega
  | string h =>
      obtain ⟨rest, rfl⟩ := h.head
      exact ⟨_, _, rfl, by decide, by decide, by decide, by decide⟩
  | emptyArray h | array h | emptyObject h | object h hnames =>
      exact ⟨_, _, rfl, by decide, by decide, by decide, by decide⟩

theorem ValueText.space_eq {numbers : JsonNumberSyntax} {text : Bytes} {value : JsonValue}
    (h : ValueText numbers text value) (rest : Bytes) : space (text ++ rest) = text ++ rest := by
  obtain ⟨byte, tail, rfl, hbyte, -⟩ := h.head
  exact space_cons hbyte _

/-! ## UTF-8 -/

theorem Whitespace.ascii {pad : Bytes} (h : Whitespace pad) : ∀ byte ∈ pad, byte.toNat < 0x80 := by
  intro byte hbyte
  rcases (isSpace_iff byte).1 (h byte hbyte) with rfl | rfl | rfl | rfl <;> decide

theorem validUtf8_follow {a b : Bytes} (hb : Follow b) (h : validUtf8 (a ++ b) = true) :
    validUtf8 a = true ∧ validUtf8 b = true := by
  rcases b with _ | ⟨byte, b⟩
  · rw [List.append_nil] at h
    exact ⟨h, rfl⟩
  · have hascii : byte.toNat < 0x80 := by
      rcases hb byte rfl with hspace | rfl | rfl | rfl
      · rcases (isSpace_iff byte).1 hspace with rfl | rfl | rfl | rfl <;> decide
      · decide
      · decide
      · decide
    exact validUtf8_split hascii h

theorem hexadecimalDigit_ascii {byte : UInt8} {value : Nat}
    (h : Parser.hexadecimalDigit byte = some value) : byte.toNat < 0x80 := by
  rw [Parser.hexadecimalDigit] at h
  split_ifs at h with hnumber hlower hupper
  · exact (UInt8.le_iff_toNat_le.1 hnumber.2).trans_lt (by decide)
  · exact (UInt8.le_iff_toNat_le.1 hlower.2).trans_lt (by decide)
  · exact (UInt8.le_iff_toNat_le.1 hupper.2).trans_lt (by decide)

theorem Quad.ascii {quad : Bytes} {codePoint : Nat} (h : Quad quad codePoint) :
    ∀ byte ∈ quad, byte.toNat < 0x80 := by
  obtain ⟨ha, hb, hc, hd⟩ := h
  simp only [List.forall_mem_cons, List.not_mem_nil, false_implies, implies_true, and_true]
  exact ⟨hexadecimalDigit_ascii ha, hexadecimalDigit_ascii hb, hexadecimalDigit_ascii hc,
    hexadecimalDigit_ascii hd⟩

theorem validUtf8_scalar (scalar : Char) : validUtf8 (utf8 [scalar]) = true :=
  (validUtf8_iff _).2 ⟨_, rfl⟩

/-- The characters of a string in a valid text decode to a valid string. The bytes of a scalar are
    taken over one by one, so those that stand in front belong to the claim. -/
theorem Chars.validUtf8 {body decoded : Bytes} (h : Chars body decoded) :
    ∀ front, Sdk.validUtf8 (front ++ body) = true → Sdk.validUtf8 (front ++ decoded) = true := by
  have hsplit : ∀ {front text : Bytes} {byte : UInt8}, byte.toNat < 0x80 →
      Sdk.validUtf8 (front ++ byte :: text) = true →
      Sdk.validUtf8 front = true ∧ Sdk.validUtf8 text = true := by
    intro front text byte hascii htext
    obtain ⟨hfront, hback⟩ := validUtf8_split hascii htext
    rw [validUtf8_cons_ascii hascii] at hback
    exact ⟨hfront, hback⟩
  induction h with
  | nil => exact fun _ h => h
  | unescaped hcontrol hquote hescape hrest ih =>
      intro front htext
      rw [List.append_cons] at htext ⊢
      exact ih _ htext
  | escape h hrest ih =>
      intro front htext
      obtain ⟨hfront, hback⟩ := hsplit (by decide) htext
      have hbytes : ∀ {a b : UInt8}, Escape a b → a.toNat < 0x80 ∧ b.toNat < 0x80 := by
        intro a b hescape
        cases hescape <;> decide
      rw [validUtf8_cons_ascii (hbytes h).1] at hback
      refine validUtf8_append hfront ?_
      rw [validUtf8_cons_ascii (hbytes h).2]
      exact ih [] hback
  | unicode hquad hrest ih =>
      intro front htext
      obtain ⟨hfront, hback⟩ := hsplit (by decide) htext
      rw [validUtf8_cons_ascii (by decide), validUtf8_of_ascii_append hquad.ascii] at hback
      exact validUtf8_append hfront (validUtf8_append (validUtf8_scalar _) (ih [] hback))
  | surrogates hhigh hlow ha hb hscalar hrest ih =>
      intro front htext
      obtain ⟨hfront, hback⟩ := hsplit (by decide) htext
      rw [validUtf8_cons_ascii (by decide), validUtf8_of_ascii_append hhigh.ascii,
        validUtf8_cons_ascii (by decide), validUtf8_cons_ascii (by decide),
        validUtf8_of_ascii_append hlow.ascii] at hback
      exact validUtf8_append hfront (validUtf8_append (validUtf8_scalar _) (ih [] hback))

theorem StringText.validUtf8 {text decoded : Bytes} (h : StringText text decoded)
    (htext : Sdk.validUtf8 text = true) : Sdk.validUtf8 decoded = true := by
  obtain ⟨hchars⟩ := h
  rw [validUtf8_cons_ascii (by decide)] at htext
  exact hchars.validUtf8 [] (validUtf8_split (by decide) htext).1

/-! ## The order of members -/

theorem utf8ByteLess_iff (left right : Bytes) :
    utf8ByteLess left right = true ↔ left < right := by
  induction left generalizing right with
  | nil =>
      rcases right with _ | ⟨b, right⟩
      · simp [utf8ByteLess]
      · simp [utf8ByteLess]
  | cons a left ih =>
      rcases right with _ | ⟨b, right⟩
      · simp [utf8ByteLess]
      · rw [utf8ByteLess, List.cons_lt_cons_iff]
        split_ifs with hne
        · simp [hne]
        · obtain rfl : a = b := not_not.1 hne
          simp [ih]

theorem byName_compares :
    Compares (fun a b : Bytes × JsonValue => utf8ByteLess a.1 b.1) Prod.fst :=
  fun a b => utf8ByteLess_iff a.1 b.1

theorem byName_perm (members : Members) : (byName members).Perm members :=
  sortBy_perm _ _

theorem containsName_eq (members : Members) (name : Bytes) :
    containsName members name = true ↔ name ∈ members.map Prod.fst := by
  simp [containsName]

/-- A name not present yet is put in its place. -/
theorem emplace_byName {members : Members} {name : Bytes} (value : JsonValue)
    (hnames : (members.map Prod.fst).Nodup) (hnew : name ∉ members.map Prod.fst) :
    emplace name value (byName members) = byName (members ++ [(name, value)]) := by
  have hinsert : ∀ sorted : Members, name ∉ sorted.map Prod.fst →
      emplace name value sorted = sorted.orderedInsert
        (fun a b : Bytes × JsonValue => utf8ByteLess b.1 a.1 = false) (name, value) := by
    intro sorted habsent
    induction sorted with
    | nil => rfl
    | cons member rest ih =>
        rw [List.map_cons, List.mem_cons, not_or] at habsent
        rw [emplace, List.orderedInsert]
        rcases lt_trichotomy name member.1 with hlt | heq | hgt
        · have hback : utf8ByteLess member.1 name = false := by
            rw [← Bool.not_eq_true, utf8ByteLess_iff]
            exact hlt.not_gt
          rw [if_pos ((utf8ByteLess_iff _ _).2 hlt), if_pos hback]
        · exact absurd heq habsent.1
        · have hless : utf8ByteLess member.1 name = true := (utf8ByteLess_iff _ _).2 hgt
          have hnot : ¬ utf8ByteLess name member.1 = true := by
            rw [utf8ByteLess_iff]
            exact hgt.not_gt
          rw [if_neg hnot, if_pos hless, ih habsent.2, if_neg (by rw [hless]; decide)]
  have habsent : name ∉ (byName members).map Prod.fst := by
    rwa [((byName_perm members).map Prod.fst).mem_iff]
  rw [hinsert _ habsent]
  show byName ((name, value) :: members) = _
  refine sortBy_eq_of_perm byName_compares ?_ ?_
  · exact (List.perm_append_singleton (name, value) members).symm
  · intro a ha b hb hkey
    have hnodup : (((name, value) :: members).map Prod.fst).Nodup :=
      List.nodup_cons.2 ⟨hnew, hnames⟩
    exact List.inj_on_of_nodup_map hnodup ha hb hkey

end Cxxlens.Sdk.Json
