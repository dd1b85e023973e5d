import Cxxlens.Sdk.Json.Numbers

set_option autoImplicit false

/-! # Exact integers of any length

`parse_number` computes the value of a token without big numbers: it counts the digits that an
exponent moves over the point, and gives up when a count says that the value is no integer or out of
range. What it returns and which of the two reasons it reports depend on the exact value alone. -/

namespace Cxxlens.Sdk.Json

open Fallible
open Cxxlens.Sdk.Json.Parser (decimalValue isDigit accumulate)

/-- The value for an integer in range. -/
def integerValue (value : ℤ) : JsonValue :=
  if 0 ≤ value then .unsignedInteger (UInt64.ofNat value.toNat) else .signedInteger (Int64.ofInt value)

theorem exactValue_iff (exact : ℚ) (value : JsonValue) :
    ExactValue exact value ↔ ∃ number : ℤ, exact = number ∧ -2 ^ 63 ≤ number ∧
      number ≤ 2 ^ 64 - 1 ∧ value = integerValue number := by
  constructor
  · intro h
    rcases h with ⟨u, rfl, hu⟩ | ⟨s, rfl, hnegative, hs⟩
    · have hlt := u.toNat_lt
      refine ⟨u.toNat, by rw [hu, Int.cast_natCast], by omega, by omega, ?_⟩
      rw [integerValue, if_pos (by omega), Int.toNat_natCast, UInt64.ofNat_toNat]
    · have hlow := s.le_toInt
      refine ⟨s.toInt, hs, by omega, by omega, ?_⟩
      rw [integerValue, if_neg (by omega), Int64.ofInt_toInt]
  · intro h
    obtain ⟨number, rfl, hlow, hhigh, rfl⟩ := h
    rw [integerValue]
    split_ifs with hsign
    · refine .inl ⟨_, rfl, ?_⟩
      rw [UInt64.toNat_ofNat_of_lt' (by rw [UInt64.size]; omega), ← Int.cast_natCast,
        Int.toNat_of_nonneg hsign]
    · refine .inr ⟨_, rfl, ?_, ?_⟩
      · rw [Int64.toInt_ofInt_of_le (by omega) (by omega)]
        omega
      · rw [Int64.toInt_ofInt_of_le (by omega) (by omega)]

/-! ## Which reason is reported -/

section Reasons

variable {parser : Parser} {start : Nat} {negative exponentNegative : Bool}
variable {integer fraction exponentDigits : Bytes}

/-- The reason can be read off the error, with or without the offset behind it. -/
theorem fail_inj {α : Type} {first second : Bytes} :
    (parser.fail first start : Result α) = parser.fail second start ↔ first = second := by
  simp only [Parser.fail, jsonError, Except.error.injEq, Error.mk.injEq, true_and]
  split_ifs
  · simp
  · rfl

/-- The natural numbers among the exact magnitudes. -/
def IsNatural (exact : ℚ) : Prop :=
  ∃ magnitude : Nat, exact = magnitude

/-- A number of more places than digits is not natural; see `no_magnitude_below_one`. -/
theorem not_isNatural_below_one {base : Bytes} {places : Nat}
    (hbase : ∀ byte ∈ base, isDigit byte = true) (hpos : decimalValue base ≠ 0)
    (hplaces : base.length < places) :
    ¬ IsNatural ((decimalValue base : ℚ) * 10 ^ (((0 : ℕ) : ℤ) - places)) := by
  intro h
  obtain ⟨magnitude, heq⟩ := h
  exact no_magnitude_below_one hbase hpos hplaces heq

/-- The digits behind the point decide: they are the remainder by the power of ten. -/
theorem isNatural_retained_iff {base : Bytes} {retained zeros : Nat}
    (hbase : ∀ byte ∈ base, isDigit byte = true)
    (hside : zeros = 0 ∨ retained = base.length) :
    IsNatural ((decimalValue base : ℚ) * 10 ^ ((zeros : ℤ) - (base.length - retained : Nat))) ↔
      (base.drop retained).any (· != 0x30) = false := by
  have htail : ∀ byte ∈ base.drop retained, isDigit byte = true :=
    fun byte hbyte => hbase byte (List.mem_of_mem_drop hbyte)
  have hsplit := decimalValue_append (base.take retained) (base.drop retained)
  rw [List.take_append_drop, List.length_drop] at hsplit
  have hsmall := decimalValue_lt htail
  rw [List.length_drop] at hsmall
  have hzeros : decimalValue (base.drop retained) = 0 ↔
      (base.drop retained).any (· != 0x30) = false := by
    rw [decimalValue_eq_zero_iff htail]
    simp
  rw [← hzeros]
  simp only [IsNatural, decimal_eq_iff]
  constructor
  · intro h
    obtain ⟨magnitude, heq⟩ := h
    by_cases hall : retained = base.length
    · simp [hall, decimalValue]
    · obtain rfl : zeros = 0 := hside.resolve_right hall
      rw [pow_zero, mul_one, hsplit] at heq
      have hmod := congrArg (· % 10 ^ (base.length - retained)) heq
      simp only [Nat.mul_add_mod_self_right, Nat.mul_mod_left] at hmod
      rwa [Nat.mod_eq_of_lt hsmall] at hmod
  · intro h
    rw [h, Nat.add_zero] at hsplit
    exact ⟨decimalValue (base.take retained) * 10 ^ zeros, by rw [hsplit]; ring⟩

/-- The last part of `exactInteger`. -/
theorem exactInteger_retained_reason {base : Bytes} {retained zeros : Nat} {reason : Bytes}
    (hreason : reason ≠ ascii "non-integer-number") :
    (if (base.drop retained).any (· != 0x30) = true then
        parser.fail "non-integer-number" start
      else if (base.take retained).dropWhile (· == 0x30) = [] then .ok (.unsignedInteger 0)
      else if zeros > 20 ∨
          ((base.take retained).dropWhile (· == 0x30)).length > 20 - zeros then
        parser.fail reason start
      else
        match accumulate (magnitudeLimit negative) 0
            (((base.take retained).dropWhile (· == 0x30)).map (fun digit => digit.toNat - 0x30) ++
              List.replicate zeros 0) with
        | none => parser.fail reason start
        | some magnitude => .ok (signedValue negative magnitude)) =
          (parser.fail "non-integer-number" start : Result JsonValue) ↔
      (base.drop retained).any (· != 0x30) = true := by
  by_cases hany : (base.drop retained).any (· != 0x30) = true
  · simp [hany]
  · rw [if_neg hany]
    refine iff_of_false ?_ hany
    split_ifs
    · simp [Parser.fail]
    · exact mt fail_inj.1 hreason
    · split
      · exact mt fail_inj.1 hreason
      · simp [Parser.fail]

/-- **`non-integer-number` is the reason exactly when there is no integer.** -/
theorem exactInteger_nonInteger_iff (hbase : ∀ byte ∈ integer ++ fraction, isDigit byte = true)
    (hsize : 2 ^ 64 ≤ decimalValue exponentDigits → decimalValue (integer ++ fraction) ≠ 0 →
      (integer ++ fraction).length + 20 ≤ 2 ^ 64) :
    parser.exactInteger start negative integer fraction exponentNegative exponentDigits =
        parser.fail "non-integer-number" start ↔
      ¬ IsNatural (exactMagnitude integer fraction exponentNegative
        (decimalValue exponentDigits)) := by
  have hresult : ∀ magnitude : Nat,
      (if negative = false then (.ok (.unsignedInteger (UInt64.ofNat magnitude)) : Result JsonValue)
        else if magnitude = 2 ^ 63 then .ok (.signedInteger Int64.minValue)
        else .ok (.signedInteger (-Int64.ofNat magnitude))) = .ok (signedValue negative magnitude) := by
    intro magnitude
    rw [signedValue]
    split_ifs
    · rfl
    · rfl
    · rfl
  have hreason : (if negative = true then ascii "signed-integer-overflow"
      else ascii "unsigned-integer-overflow") ≠ ascii "non-integer-number" := by
    cases negative with
    | true => decide
    | false => decide
  have hzero := decimalValue_eq_zero_iff hbase
  simp only [Parser.exactInteger, hresult, decide_eq_true_eq]
  rw [← magnitudeLimit]
  by_cases hall : (integer ++ fraction).all (· == 0x30) = true
  · rw [if_pos hall]
    have hexact : exactMagnitude integer fraction exponentNegative
        (decimalValue exponentDigits) = 0 := by
      rw [exactMagnitude, hzero.2 hall, Nat.cast_zero, zero_mul]
    refine iff_of_false (by simp [Parser.fail]) ?_
    rw [hexact, not_not]
    exact ⟨0, by simp⟩
  have hpos : decimalValue (integer ++ fraction) ≠ 0 := fun heq => hall (hzero.1 heq)
  have hfraction : fraction.length ≤ (integer ++ fraction).length := by
    rw [List.length_append]
    omega
  rw [if_neg hall, exactMagnitude]
  set base := integer ++ fraction
  by_cases hoverflow : decimalValue exponentDigits ≥ 2 ^ 64
  · have hlength := hsize hoverflow hpos
    rw [if_pos hoverflow]
    cases exponentNegative with
    | true =>
        rw [if_pos rfl, if_pos rfl, ← neg_add', ← Nat.cast_add, ← zero_sub, ← Nat.cast_zero]
        exact iff_of_true rfl (not_isNatural_below_one hbase hpos (by omega))
    | false =>
        refine iff_of_false (mt fail_inj.1 hreason) (not_not.2 ?_)
        refine ⟨decimalValue base * 10 ^ (decimalValue exponentDigits - fraction.length), ?_⟩
        have hle : fraction.length ≤ decimalValue exponentDigits := by omega
        rw [if_neg Bool.false_ne_true, ← Nat.cast_sub hle, zpow_natCast]
        push_cast
        rfl
  rw [if_neg hoverflow, if_neg hoverflow]
  by_cases hsmall : exponentNegative = true ∧ (decimalValue exponentDigits > base.length ∨
      fraction.length > base.length - decimalValue exponentDigits)
  · rw [if_pos hsmall, if_pos hsmall.1, ← neg_add', ← Nat.cast_add, ← zero_sub, ← Nat.cast_zero]
    exact iff_of_true rfl (not_isNatural_below_one hbase hpos (by omega))
  rw [if_neg hsmall]
  -- what is left are the digits that stay and the zeros behind them
  cases exponentNegative with
  | true =>
      have hfits : fraction.length + decimalValue exponentDigits ≤ base.length := by
        simp only [true_and, not_or] at hsmall
        omega
      simp only [if_true, Bool.true_eq_false, false_and, if_false]
      refine (exactInteger_retained_reason hreason).trans ?_
      rw [← Bool.not_eq_false, ← isNatural_retained_iff hbase (.inl rfl), Nat.sub_sub_self hfits,
        Nat.cast_add, Nat.cast_zero, zero_sub, neg_add', neg_sub_comm]
  | false =>
      simp only [Bool.false_eq_true, if_false, true_and]
      by_cases hmore : decimalValue exponentDigits ≥ fraction.length
      · rw [if_pos hmore, if_pos hmore]
        refine (exactInteger_retained_reason hreason).trans ?_
        rw [← Bool.not_eq_false, ← @isNatural_retained_iff base base.length
          (decimalValue exponentDigits - fraction.length) hbase (.inr rfl), Nat.sub_self,
          Nat.cast_zero, sub_zero, Nat.cast_sub hmore]
      · rw [if_neg hmore, if_neg hmore]
        refine (exactInteger_retained_reason hreason).trans ?_
        rw [← Bool.not_eq_false, ← isNatural_retained_iff hbase (.inl rfl),
          Nat.sub_sub_self (by omega), Nat.cast_sub (by omega), Nat.cast_zero, zero_sub, neg_sub]

end Reasons

/-! ## The token -/

theorem isNatural_magnitude_iff {number : Number} :
    IsNatural number.magnitude ↔ ∃ value : ℤ, number.value = value := by
  have hnonneg : 0 ≤ number.magnitude := by
    rw [Number.magnitude]
    positivity
  rw [Number.value]
  constructor
  · intro h
    obtain ⟨magnitude, heq⟩ := h
    cases number.minus with
    | true => exact ⟨-magnitude, by rw [if_pos rfl, heq]; push_cast; rfl⟩
    | false => exact ⟨magnitude, by rw [if_neg Bool.false_ne_true, heq]; push_cast; rfl⟩
  · intro h
    obtain ⟨value, heq⟩ := h
    have habs : number.magnitude = |(value : ℚ)| := by
      rw [← heq]
      split_ifs
      · rw [abs_neg, abs_of_nonneg hnonneg]
      · rw [abs_of_nonneg hnonneg]
    exact ⟨value.natAbs, by rw [habs, Nat.cast_natAbs, Int.cast_abs]⟩

/-- **Exact decimal integers.** Where integer tokens are not asked for, a number token that ends
    where its text ends is accepted exactly when its value is an integer that 64 bits can hold, and
    then that integer is returned. -/
theorem parseNumber_exact {parser : Parser} {number : Number} {rest : Bytes}
    (hnumbers : parser.contract.numbers ≠ .integerTokens) (hform : number.WellFormed)
    (hends : EndsNumber rest) (hsize : number.text.length < 2 ^ 64) :
    (∀ value rest', parser.parseNumber (number.text ++ rest) = .ok (value, rest') ↔
      rest' = rest ∧ ∃ exact : ℤ, number.value = exact ∧ -2 ^ 63 ≤ exact ∧ exact ≤ 2 ^ 64 - 1 ∧
        value = integerValue exact) ∧
    (parser.parseNumber (number.text ++ rest) =
        parser.fail "non-integer-number" (parser.position (number.text ++ rest)) ↔
      ¬ ∃ exact : ℤ, number.value = exact) ∧
    (number.value = 0 →
      parser.parseNumber (number.text ++ rest) = .ok (.unsignedInteger 0, rest)) := by
  obtain ⟨negative, part, hparse, hbase, hfits, hmagnitude⟩ :=
    parseNumber_exactInteger hform hends hnumbers hsize
  have hok : ∀ value rest', parser.parseNumber (number.text ++ rest) = .ok (value, rest') ↔
      rest' = rest ∧ ∃ exact : ℤ, number.value = exact ∧ -2 ^ 63 ≤ exact ∧ exact ≤ 2 ^ 64 - 1 ∧
        value = integerValue exact := by
    intro value rest'
    rw [hparse, ← exactValue_iff, Number.value, hmagnitude, ← exactInteger_eq_ok_iff hbase hfits]
    simp only [bind_eq_ok_iff, Except.ok.injEq, Prod.mk.injEq]
    constructor
    · intro h
      obtain ⟨_, hvalue, rfl, rfl⟩ := h
      exact ⟨rfl, hvalue⟩
    · intro h
      exact ⟨value, h.2, rfl, h.1.symm⟩
  refine ⟨hok, ?_, ?_⟩
  · rw [← isNatural_magnitude_iff, hmagnitude, ← exactInteger_nonInteger_iff hbase hfits, hparse]
    cases parser.exactInteger (parser.position (number.text ++ rest)) number.minus number.integer
        (number.fraction.getD []) negative part with
    | error error => simp [Parser.fail]
    | ok value => simp [Parser.fail]
  · intro hzero
    exact (hok _ _).2 ⟨rfl, 0, by simpa using hzero, by norm_num, by norm_num, rfl⟩

/-- The token `-12.50e1`. -/
def sampleNumber : Number :=
  ⟨true, [0x31, 0x32], some [0x35, 0x30], some ⟨0x65, [], [0x31]⟩⟩

theorem sampleNumber_wellFormed : sampleNumber.WellFormed := by
  constructor
  · exact ⟨by simp [sampleNumber], by simp [sampleNumber, isDigit]⟩
  · simp [sampleNumber]
  · rintro digits ⟨⟩
    exact ⟨by simp, by simp [isDigit]⟩
  · rintro exponent ⟨⟩
    exact ⟨.inl rfl, .inl rfl, by simp, by simp [isDigit]⟩

/-- It is the integer -125, before a comma. -/
theorem parseNumber_exact_sample :
    (Parser.mk 9 {} {}).parseNumber (sampleNumber.text ++ [0x2c]) =
      .ok (.signedInteger (-125), [0x2c]) := by
  have hends : EndsNumber [0x2c] := by
    rintro byte ⟨⟩
    decide
  have hvalue : sampleNumber.value = ((-125 : ℤ) : ℚ) := by
    have hbase : decimalValue [0x31, 0x32, 0x35, 0x30] = 1250 := rfl
    have hexponent : decimalValue [0x31] = 1 := rfl
    norm_num [Number.value, Number.magnitude, sampleNumber, Exponent.value, hbase, hexponent]
  have hexact := @parseNumber_exact (Parser.mk 9 {} {}) sampleNumber [0x2c] (by decide)
    sampleNumber_wellFormed hends (by decide)
  exact (hexact.1 _ _).2 ⟨rfl, -125, hvalue, by norm_num, by norm_num, rfl⟩

end Cxxlens.Sdk.Json
