import Cxxlens.Sdk.Decimal
import Cxxlens.Sdk.Provider.Values

set_option autoImplicit false

/-! # Versions of the NG1 controls

`parse_semantic_version` of `provider_ng1_transport.cpp`: three decimal numbers between two dots. -/

namespace Cxxlens.Sdk.Provider

open Fallible

/-! ## Parsing -/

/-- The loop of `parse_semantic_version_component`, behind the digits of `value`. -/
def componentValue (field : Bytes) : (value : Nat) → Bytes → Result Nat
  | value, [] => .ok value
  | value, byte :: rest => do
    reject (!isDecimal byte) (transportError field "semantic-version")
    let digit := byte.toNat - 0x30
    reject (decide (value > (0xffffffff - digit) / 10))
      (transportError field "semantic-version-overflow")
    componentValue field (value * 10 + digit) rest

/-- `parse_semantic_version_component` -/
def parseSemanticVersionComponent (text field : Bytes) : Result UInt32 := do
  reject (text.isEmpty || (decide (text.length > 1) && text.head? == some 0x30))
    (transportError field "semantic-version")
  let value ← componentValue field 0 text
  .ok (UInt32.ofNat value)

/-- `text.find('.', begin)` -/
def findDot (text : Bytes) (first : Nat) : Option Nat :=
  ((text.drop first).findIdx? (· == 0x2e)).map (first + ·)

/-- One round of the loop of `parse_semantic_version`: a component up to `last`, and where the next
    one begins. -/
def parseNextComponent (text : Bytes) (first : Nat) (last : Option Nat) : Result (UInt32 × Nat) :=
  match last with
  | none => .error (transportError "provider_version" "semantic-version")
  | some last => do
    reject (decide (last < first)) (transportError "provider_version" "semantic-version")
    let component ←
      parseSemanticVersionComponent ((text.drop first).take (last - first)) "provider_version"
    .ok (component, last + 1)

/-- `parse_semantic_version` -/
def parseSemanticVersion (text : Bytes) : Result SemanticVersion := do
  let (major, first) ← parseNextComponent text 0 (findDot text 0)
  let (minor, first) ← parseNextComponent text first (findDot text first)
  let (patch, first) ← parseNextComponent text first (some text.length)
  reject (findDot text first).isSome (transportError "provider_version" "semantic-version")
  .ok { major, minor, patch }

/-! ## Components -/

/-- The value of digits behind `value`. -/
def digitsValue (value : Nat) (digits : Bytes) : Nat :=
  digits.foldl (fun sofar byte => sofar * 10 + (byte.toNat - 0x30)) value

theorem le_digitsValue (digits : Bytes) : ∀ value : Nat, value ≤ digitsValue value digits := by
  induction digits with
  | nil => exact fun value => le_rfl
  | cons byte rest ih =>
      intro value
      have hrest := ih (value * 10 + (byte.toNat - 0x30))
      rw [digitsValue] at hrest ⊢
      rw [List.foldl_cons]
      omega

/-- The overflow test keeps the value in 32 bits, and fails only where it would leave them. -/
theorem componentValue_eq_ok_iff {field : Bytes} {result : Nat} (digits : Bytes) :
    ∀ {value : Nat}, value ≤ 0xffffffff →
      (componentValue field value digits = .ok result ↔
        (∀ byte ∈ digits, isDecimal byte = true) ∧ result = digitsValue value digits ∧
          result ≤ 0xffffffff) := by
  induction digits with
  | nil =>
      intro value hvalue
      rw [componentValue, Except.ok.injEq, digitsValue, List.foldl_nil]
      constructor
      · rintro rfl
        exact ⟨by simp, rfl, hvalue⟩
      · rintro ⟨-, rfl, -⟩
        rfl
  | cons byte rest ih =>
      intro value hvalue
      simp only [componentValue, seq_eq_ok_iff, reject_eq_ok_iff, decide_eq_false_iff_not,
        Bool.not_eq_false', List.forall_mem_cons, not_lt]
      have hnext : digitsValue value (byte :: rest) =
          digitsValue (value * 10 + (byte.toNat - 0x30)) rest := rfl
      constructor
      · rintro ⟨hdigit, hroom, hrest⟩
        rw [isDecimal, decide_eq_true_iff] at hdigit
        have hhigh : byte.toNat ≤ 0x39 := hdigit.2
        obtain ⟨hdigits, hresult, hle⟩ := (ih (by omega)).1 hrest
        exact ⟨⟨by rw [isDecimal, decide_eq_true_iff]; exact hdigit, hdigits⟩, hresult, hle⟩
      · rintro ⟨⟨hdigit, hdigits⟩, hresult, hle⟩
        have hsofar := le_digitsValue rest (value * 10 + (byte.toNat - 0x30))
        rw [hnext] at hresult
        exact ⟨hdigit, by omega, (ih (by omega)).2 ⟨hdigits, hresult, hle⟩⟩

theorem toNat_isDecimal {byte : UInt8} (h : isDecimal byte = true) :
    0x30 ≤ byte.toNat ∧ byte.toNat ≤ 0x39 := by
  rwa [isDecimal, decide_eq_true_iff] at h

theorem digitsValue_pos {digits : Bytes} (hdigits : ∀ byte ∈ digits, isDecimal byte = true)
    (hne : digits ≠ []) (hhead : digits.head? ≠ some 0x30) : 0 < digitsValue 0 digits := by
  cases digits with
  | nil => exact absurd rfl hne
  | cons byte rest =>
      have hdigit := toNat_isDecimal (hdigits byte List.mem_cons_self)
      have hnonzero : byte.toNat ≠ 0x30 := by
        intro hzero
        exact hhead (congrArg some (UInt8.toNat_inj.1 hzero))
      have hrest := le_digitsValue rest (0 * 10 + (byte.toNat - 0x30))
      rw [digitsValue] at hrest ⊢
      rw [List.foldl_cons]
      omega

/-- Digits without a zero in front are the decimal text of their value. -/
theorem decimal_digitsValue (digits : Bytes) : (∀ byte ∈ digits, isDecimal byte = true) →
    digits ≠ [] → (1 < digits.length → digits.head? ≠ some 0x30) →
      CanonicalValue.decimal (digitsValue 0 digits) = digits := by
  induction digits using List.reverseRecOn with
  | nil => exact fun _ hne => absurd rfl hne
  | append_singleton front last ih =>
      intro hdigits _ hhead
      have hlast := toNat_isDecimal (hdigits last (by simp))
      have hbyte : UInt8.ofNat (0x30 + (last.toNat - 0x30)) = last := by
        rw [Nat.add_sub_cancel' hlast.1, UInt8.ofNat_toNat]
      have hfront : ∀ byte ∈ front, isDecimal byte = true :=
        fun byte hmem => hdigits byte (List.mem_append_left _ hmem)
      have hvalue : digitsValue 0 (front ++ [last]) =
          digitsValue 0 front * 10 + (last.toNat - 0x30) := by
        rw [digitsValue, List.foldl_append]
        rfl
      by_cases hne : front = []
      · subst hne
        have hsingle : digitsValue 0 ([] ++ [last]) = last.toNat - 0x30 := by
          rw [hvalue]
          simp [digitsValue]
        rw [hsingle, decimal_of_lt (by omega), hbyte, List.nil_append]
      · -- A text of two digits or more starts with none that is zero, so its front is positive.
        have hheadFront : front.head? ≠ some 0x30 := by
          have hlength := List.length_pos_iff.2 hne
          rw [← List.head?_append_of_ne_nil _ hne]
          exact hhead (by simp [hlength])
        have hpos := digitsValue_pos hfront hne hheadFront
        have hdiv : (digitsValue 0 front * 10 + (last.toNat - 0x30)) / 10 =
            digitsValue 0 front := by omega
        have hmod : (digitsValue 0 front * 10 + (last.toNat - 0x30)) % 10 =
            last.toNat - 0x30 := by omega
        rw [hvalue, decimal_of_le (by omega), hdiv, hmod, hbyte,
          ih hfront hne fun _ => hheadFront]

theorem isDecimal_of_mem_decimal {value : Nat} {byte : UInt8}
    (h : byte ∈ CanonicalValue.decimal value) : isDecimal byte = true := by
  rw [isDecimal, decide_eq_true_iff]
  exact isDigit_decimal h

theorem digitsValue_decimal (value : Nat) : digitsValue 0 (CanonicalValue.decimal value) = value :=
  foldl_decimal_digits value

/-- A component is parsed from the decimal text of a 32-bit number, and from nothing else. -/
theorem parseSemanticVersionComponent_eq_ok_iff {text field : Bytes} {component : UInt32} :
    parseSemanticVersionComponent text field = .ok component ↔
      text = CanonicalValue.decimal component.toNat := by
  simp only [parseSemanticVersionComponent, bind_eq_ok_iff, Unique.exists_iff,
    PUnit.default_eq_unit, reject_eq_ok_iff, Bool.or_eq_false_iff, List.isEmpty_eq_false_iff,
    componentValue_eq_ok_iff text (Nat.zero_le _), Except.ok.injEq]
  constructor
  · rintro ⟨⟨hne, hhead⟩, value, ⟨hdigits, rfl, hle⟩, rfl⟩
    have hzero : 1 < text.length → text.head? ≠ some 0x30 := by
      intro hlength
      simpa [hlength] using hhead
    rw [UInt32.toNat_ofNat_of_lt' (by rw [UInt32.size]; omega),
      decimal_digitsValue text hdigits hne hzero]
  · rintro rfl
    have hlt := component.toNat_lt
    refine ⟨⟨decimal_ne_nil _, ?_⟩, component.toNat,
      ⟨fun byte => isDecimal_of_mem_decimal, (digitsValue_decimal _).symm, by omega⟩,
      UInt32.ofNat_toNat⟩
    by_cases hpos : 0 < component.toNat
    · simp [head_decimal component.toNat hpos]
    · rw [Nat.eq_zero_of_not_pos hpos, decimal_of_lt (by decide)]
      rfl

/-! ## Versions -/

theorem findDot_of_drop {text front back : Bytes} {first : Nat}
    (h : text.drop first = front ++ 0x2e :: back) (hfront : (0x2e : UInt8) ∉ front) :
    findDot text first = some (first + front.length) := by
  have hnone : front.findIdx? (· == 0x2e) = none := by
    rw [List.findIdx?_eq_none_iff]
    intro byte hbyte
    exact beq_false_of_ne fun heq => hfront (heq ▸ hbyte)
  rw [findDot, h, List.findIdx?_append, hnone, List.findIdx?_cons]
  simp

theorem findDot_eq_some {text : Bytes} {first last : Nat} (h : findDot text first = some last) :
    ∃ front back, text.drop first = front ++ 0x2e :: back ∧ last = first + front.length := by
  rw [findDot, Option.map_eq_some_iff] at h
  obtain ⟨index, hindex, rfl⟩ := h
  obtain ⟨hlt, hdot, -⟩ := List.findIdx?_eq_some_iff_getElem.1 hindex
  refine ⟨(text.drop first).take index, (text.drop first).drop (index + 1), ?_, ?_⟩
  · rw [← beq_iff_eq.1 hdot, List.cons_getElem_drop_succ, List.take_append_drop]
  · rw [List.length_take, Nat.min_eq_left hlt.le]

theorem drop_of_drop_eq {text front back : Bytes} {first : Nat}
    (h : text.drop first = front ++ 0x2e :: back) :
    text.drop (first + front.length + 1) = back := by
  rw [Nat.add_assoc, ← List.drop_drop, h, List.drop_append]
  simp

/-- A component in front of a dot. -/
theorem parseNextComponent_findDot_iff {text : Bytes} {first next : Nat} {component : UInt32} :
    parseNextComponent text first (findDot text first) = .ok (component, next) ↔
      ∃ back, text.drop first = CanonicalValue.decimal component.toNat ++ 0x2e :: back ∧
        next = first + (CanonicalValue.decimal component.toNat).length + 1 := by
  constructor
  · intro h
    rcases hdot : findDot text first with _ | last
    · rw [hdot, parseNextComponent] at h
      cases h
    · rw [hdot, parseNextComponent] at h
      simp only [bind_eq_ok_iff, Unique.exists_iff, PUnit.default_eq_unit, reject_eq_ok_iff,
        parseSemanticVersionComponent_eq_ok_iff, Except.ok.injEq, Prod.mk.injEq] at h
      obtain ⟨-, _, hcomponent, rfl, rfl⟩ := h
      obtain ⟨front, back, htext, rfl⟩ := findDot_eq_some hdot
      rw [Nat.add_sub_cancel_left, htext, List.take_left] at hcomponent
      exact ⟨back, by rw [← hcomponent, htext], by rw [← hcomponent]⟩
  · rintro ⟨back, htext, rfl⟩
    rw [findDot_of_drop htext (dot_not_mem_decimal _), parseNextComponent]
    simp only [bind_eq_ok_iff, Unique.exists_iff, PUnit.default_eq_unit, reject_eq_ok_iff,
      parseSemanticVersionComponent_eq_ok_iff, Except.ok.injEq, Prod.mk.injEq]
    refine ⟨by simp, component, ?_, rfl, trivial⟩
    rw [Nat.add_sub_cancel_left, htext, List.take_left]

/-- The component behind the last dot. -/
theorem parseNextComponent_length_iff {text : Bytes} {first next : Nat} {component : UInt32} :
    parseNextComponent text first (some text.length) = .ok (component, next) ↔
      text.drop first = CanonicalValue.decimal component.toNat ∧ next = text.length + 1 := by
  simp only [parseNextComponent, bind_eq_ok_iff, Unique.exists_iff, PUnit.default_eq_unit,
    reject_eq_ok_iff, parseSemanticVersionComponent_eq_ok_iff, Except.ok.injEq, Prod.mk.injEq,
    decide_eq_false_iff_not, not_lt]
  have hall : (text.drop first).take (text.length - first) = text.drop first :=
    List.take_of_length_le (by rw [List.length_drop])
  constructor
  · rintro ⟨-, _, hcomponent, rfl, rfl⟩
    exact ⟨hall ▸ hcomponent, rfl⟩
  · rintro ⟨hcomponent, rfl⟩
    have hlength : (text.drop first).length ≠ 0 := by
      rw [hcomponent]
      exact fun hzero => decimal_ne_nil _ (List.length_eq_zero_iff.1 hzero)
    rw [List.length_drop] at hlength
    exact ⟨by omega, component, by rw [hall, hcomponent], rfl, rfl⟩

theorem string_eq (version : SemanticVersion) : version.string =
    CanonicalValue.decimal version.major.toNat ++ 0x2e ::
      (CanonicalValue.decimal version.minor.toNat ++ 0x2e ::
        CanonicalValue.decimal version.patch.toNat) := by
  have hdot : ascii "." = [0x2e] := rfl
  rw [SemanticVersion.string, hdot]
  simp

/-- **A version is parsed from its own text, and from nothing else.** -/
theorem parseSemanticVersion_eq_ok_iff {text : Bytes} {version : SemanticVersion} :
    parseSemanticVersion text = .ok version ↔ text = version.string := by
  have hend : findDot text (text.length + 1) = none := by
    rw [findDot, List.drop_of_length_le (Nat.le_succ _)]
    rfl
  simp only [parseSemanticVersion, bind_eq_ok_iff, Prod.exists, parseNextComponent_findDot_iff,
    parseNextComponent_length_iff, Unique.exists_iff, PUnit.default_eq_unit, reject_eq_ok_iff,
    Except.ok.injEq]
  constructor
  · rintro ⟨major, _, ⟨back, hmajor, rfl⟩, minor, _, ⟨rest, hminor, rfl⟩, patch, _, ⟨hpatch, rfl⟩, -,
      rfl⟩
    have hdrop := drop_of_drop_eq hmajor
    have hdrop' := drop_of_drop_eq hminor
    rw [List.drop_zero] at hmajor
    rw [string_eq, ← hpatch, hdrop', ← hminor, hdrop, ← hmajor]
  · rintro rfl
    have hmajor := string_eq version
    rw [← List.drop_zero (l := version.string)] at hmajor
    have hminor := drop_of_drop_eq hmajor
    have hpatch := drop_of_drop_eq hminor
    exact ⟨_, _, ⟨_, hmajor, rfl⟩, _, _, ⟨_, hminor, rfl⟩, _, _, ⟨hpatch, rfl⟩, by rw [hend]; rfl, rfl⟩

end Cxxlens.Sdk.Provider
