import Cxxlens.Sdk.CanonicalValue

set_option autoImplicit false

/-! # Decimal numbers

What `std::to_string` prints for an unsigned number, and where a text is split at a byte that its
numbers do not contain. -/

namespace Cxxlens.Sdk

/-- A text is split one way at the first place of a byte. -/
theorem split_at_first {front front' back back' : Bytes} {byte : UInt8} (h : byte ∉ front)
    (h' : byte ∉ front') (heq : front ++ byte :: back = front' ++ byte :: back') :
    front = front' ∧ back = back' := by
  induction front generalizing front' with
  | nil =>
      cases front' with
      | nil => exact ⟨rfl, (List.cons.inj heq).2⟩
      | cons first rest =>
          obtain rfl := (List.cons.inj heq).1
          exact absurd List.mem_cons_self h'
  | cons first rest ih =>
      cases front' with
      | nil =>
          obtain rfl := (List.cons.inj heq).1
          exact absurd List.mem_cons_self h
      | cons other rest' =>
          obtain ⟨rfl, htail⟩ := List.cons.inj heq
          obtain ⟨rfl, hback⟩ := ih (fun hmem => h (List.mem_cons_of_mem _ hmem))
            (fun hmem => h' (List.mem_cons_of_mem _ hmem)) htail
          exact ⟨rfl, hback⟩

/-- A text is split one way at the last place of a byte. -/
theorem split_at_last {front front' back back' : Bytes} {byte : UInt8} (h : byte ∉ back)
    (h' : byte ∉ back') (heq : front ++ byte :: back = front' ++ byte :: back') :
    front = front' ∧ back = back' := by
  have hreverse := congrArg List.reverse heq
  simp only [List.reverse_append, List.reverse_cons, List.append_assoc, List.singleton_append]
    at hreverse
  obtain ⟨hback, hfront⟩ := split_at_first (by simpa using h) (by simpa using h') hreverse
  exact ⟨List.reverse_injective hfront, List.reverse_injective hback⟩

theorem decimal_eq (value : Nat) :
    CanonicalValue.decimal value =
      (Nat.toDigits 10 value).map fun character => UInt8.ofNat character.toNat := by
  rw [CanonicalValue.decimal, ascii, Nat.toString_eq_ofList_toDigits, String.toList_ofList]

theorem isDigit_decimal {value : Nat} {byte : UInt8} (h : byte ∈ CanonicalValue.decimal value) :
    0x30 ≤ byte.toNat ∧ byte.toNat ≤ 0x39 := by
  rw [decimal_eq] at h
  obtain ⟨character, hcharacter, rfl⟩ := List.mem_map.1 h
  have hdigit := Nat.isDigit_of_mem_toDigits (by decide) (by decide) hcharacter
  rw [Char.isDigit, Bool.and_eq_true, decide_eq_true_iff, decide_eq_true_iff] at hdigit
  have hlow : 48 ≤ character.toNat := hdigit.1
  have hhigh : character.toNat ≤ 57 := hdigit.2
  rw [UInt8.toNat_ofNat_of_lt' (hhigh.trans_lt (by decide))]
  exact ⟨hlow, hhigh⟩

theorem dot_not_mem_decimal (value : Nat) : (0x2e : UInt8) ∉ CanonicalValue.decimal value := by
  intro h
  have hdigit := isDigit_decimal h
  have hdot : (0x2e : UInt8).toNat = 46 := rfl
  omega

/-- The last digit stands behind the digits of the tenth part. -/
theorem decimal_of_lt {value : Nat} (h : value < 10) :
    CanonicalValue.decimal value = [UInt8.ofNat (0x30 + value)] := by
  rw [decimal_eq, Nat.toDigits_of_lt_base h]
  interval_cases value <;> rfl

theorem decimal_of_le {value : Nat} (h : 10 ≤ value) :
    CanonicalValue.decimal value =
      CanonicalValue.decimal (value / 10) ++ [UInt8.ofNat (0x30 + value % 10)] := by
  have hdigit : value % 10 < 10 := Nat.mod_lt _ (by decide)
  rw [← decimal_of_lt hdigit, decimal_eq, decimal_eq, decimal_eq,
    Nat.toDigits_of_base_le (by decide) h, Nat.toDigits_of_lt_base hdigit, List.map_append]

/-- Induction on the digits of a number. -/
theorem decimal_induction {P : Nat → Prop} (digit : ∀ value, value < 10 → P value)
    (more : ∀ value, 10 ≤ value → P (value / 10) → P value) : ∀ value, P value := by
  intro value
  induction value using Nat.strong_induction_on with
  | _ value ih =>
      by_cases h : value < 10
      · exact digit value h
      · exact more value (by omega) (ih _ (by omega))

theorem decimal_ne_nil (value : Nat) : CanonicalValue.decimal value ≠ [] := by
  by_cases h : value < 10
  · simp [decimal_of_lt h]
  · simp [decimal_of_le (Nat.le_of_not_lt h)]

/-- The first digit is a zero only for the number zero. -/
theorem head_decimal (value : Nat) (hpos : 0 < value) :
    (CanonicalValue.decimal value).head? ≠ some 0x30 := by
  induction value using decimal_induction with
  | digit value h =>
      rw [decimal_of_lt h, List.head?_cons]
      interval_cases value <;> decide
  | more value h ih =>
      rw [decimal_of_le h, List.head?_append_of_ne_nil _ (decimal_ne_nil _)]
      exact ih (by omega)

theorem length_decimal_le {value places : Nat} (hpos : 0 < places) (h : value < 10 ^ places) :
    (CanonicalValue.decimal value).length ≤ places := by
  induction value using decimal_induction generalizing places with
  | digit value hdigit =>
      rw [decimal_of_lt hdigit]
      exact hpos
  | more value hle ih =>
      have hmany : 1 < places := by
        by_contra hone
        have : places = 1 := by omega
        subst this
        omega
      have hrest : value / 10 < 10 ^ (places - 1) := by
        rw [Nat.div_lt_iff_lt_mul (by decide), ← Nat.pow_succ]
        have hsucc : (places - 1).succ = places := by omega
        rwa [hsucc]
      have hlength := ih (by omega) hrest
      rw [decimal_of_le hle, List.length_append, List.length_singleton]
      omega

/-- Reading the digits gives the number. -/
theorem foldl_decimal_digits (value : Nat) :
    (CanonicalValue.decimal value).foldl (fun sofar byte => sofar * 10 + (byte.toNat - 0x30)) 0 =
      value := by
  induction value using decimal_induction with
  | digit value h =>
      rw [decimal_of_lt h]
      interval_cases value <;> rfl
  | more value h ih =>
      have hlast : (UInt8.ofNat (0x30 + value % 10)).toNat - 0x30 = value % 10 := by
        have hdigit : value % 10 < 10 := Nat.mod_lt _ (by decide)
        have hsize : 0x30 + value % 10 < UInt8.size := by
          show 0x30 + value % 10 < 256
          omega
        rw [UInt8.toNat_ofNat_of_lt' hsize]
        omega
      rw [decimal_of_le h, List.foldl_append, ih, List.foldl_cons, List.foldl_nil, hlast]
      omega

theorem decimal_injective : Function.Injective CanonicalValue.decimal := by
  intro a b h
  rw [← foldl_decimal_digits a, h, foldl_decimal_digits]

end Cxxlens.Sdk
