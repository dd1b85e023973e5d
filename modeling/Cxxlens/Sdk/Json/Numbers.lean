import Cxxlens.Sdk.Json.Grammar

set_option autoImplicit false

/-! # Numbers

`parse_number` reads exactly the numbers of the grammar that denote a value, and the value it
returns is the one they denote. With exact values the source decides without rational arithmetic
whether a decimal text is an integer; `exactInteger_eq_ok_iff` says that it decides right. -/

namespace Cxxlens.Sdk.Json

open Fallible
open Cxxlens.Sdk.Json.Parser (decimalValue isDigit digits accumulate)

/-! ## Decimal numbers -/

theorem foldl_decimal (digits : Bytes) (init : Nat) :
    digits.foldl (fun value digit => value * 10 + (digit.toNat - 0x30)) init =
      init * 10 ^ digits.length + decimalValue digits := by
  induction digits generalizing init with
  | nil => simp [decimalValue]
  | cons digit rest ih =>
      rw [decimalValue, List.foldl_cons, List.foldl_cons, ih, ih, List.length_cons]
      ring

theorem decimalValue_append (a b : Bytes) :
    decimalValue (a ++ b) = decimalValue a * 10 ^ b.length + decimalValue b := by
  rw [decimalValue, List.foldl_append, foldl_decimal]
  rfl

theorem decimalValue_cons (digit : UInt8) (rest : Bytes) :
    decimalValue (digit :: rest) = (digit.toNat - 0x30) * 10 ^ rest.length + decimalValue rest := by
  rw [decimalValue, List.foldl_cons, foldl_decimal, Nat.zero_mul, Nat.zero_add]

theorem digit_range {byte : UInt8} (h : isDigit byte = true) :
    0x30 ≤ byte.toNat ∧ byte.toNat ≤ 0x39 := by
  rw [isDigit, decide_eq_true_iff] at h
  exact ⟨UInt8.le_iff_toNat_le.1 h.1, UInt8.le_iff_toNat_le.1 h.2⟩

theorem decimalValue_lt {digits : Bytes} (h : ∀ byte ∈ digits, isDigit byte = true) :
    decimalValue digits < 10 ^ digits.length := by
  induction digits with
  | nil => simp [decimalValue]
  | cons digit rest ih =>
      rw [List.forall_mem_cons] at h
      have hdigit := digit_range h.1
      have hrest := ih h.2
      have hmul : (digit.toNat - 0x30) * 10 ^ rest.length ≤ 9 * 10 ^ rest.length :=
        Nat.mul_le_mul_right _ (by omega)
      rw [decimalValue_cons, List.length_cons, Nat.pow_succ]
      omega

theorem decimalValue_eq_zero_iff {digits : Bytes} (h : ∀ byte ∈ digits, isDigit byte = true) :
    decimalValue digits = 0 ↔ digits.all (· == 0x30) = true := by
  induction digits with
  | nil => simp [decimalValue]
  | cons digit rest ih =>
      rw [List.forall_mem_cons] at h
      have hdigit := digit_range h.1
      have hpos : 0 < 10 ^ rest.length := by positivity
      rw [decimalValue_cons, List.all_cons, Bool.and_eq_true, ← ih h.2, beq_iff_eq,
        Nat.add_eq_zero_iff, Nat.mul_eq_zero]
      refine and_congr_left fun _ => ?_
      constructor
      · intro hzero
        exact UInt8.toNat_inj.1 (show digit.toNat = 0x30 by omega)
      · rintro rfl
        exact .inl rfl

/-- Leading zeros do not count. -/
theorem decimalValue_dropZeros (digits : Bytes) :
    decimalValue (digits.dropWhile (· == 0x30)) = decimalValue digits := by
  induction digits with
  | nil => rfl
  | cons digit rest ih =>
      rw [List.dropWhile_cons]
      split_ifs with hzero
      · rw [ih, decimalValue_cons, beq_iff_eq.1 hzero]
        simp
      · rfl

/-- Digits without a leading zero denote a number of their length. -/
theorem pow_le_decimalValue {digits : Bytes} (h : ∀ byte ∈ digits, isDigit byte = true)
    (hne : digits ≠ []) (hlead : digits.head? ≠ some 0x30) :
    10 ^ (digits.length - 1) ≤ decimalValue digits := by
  obtain ⟨digit, rest, rfl⟩ := List.exists_cons_of_ne_nil hne
  rw [List.forall_mem_cons] at h
  have hdigit := digit_range h.1
  have hne30 : digit.toNat ≠ 0x30 := fun heq =>
    hlead (congrArg some (UInt8.toNat_inj.1 heq))
  have hmul : 1 * 10 ^ rest.length ≤ (digit.toNat - 0x30) * 10 ^ rest.length :=
    Nat.mul_le_mul_right _ (by omega)
  rw [decimalValue_cons, List.length_cons, Nat.add_sub_cancel]
  omega

/-! ## Accumulation within a limit -/

theorem le_foldl_digits (digits : List Nat) (start : Nat) :
    start ≤ digits.foldl (fun value digit => value * 10 + digit) start := by
  induction digits generalizing start with
  | nil => exact le_rfl
  | cons digit rest ih =>
      have hrest := ih (start * 10 + digit)
      rw [List.foldl_cons]
      omega

theorem accumulate_eq_some_iff {limit : Nat} {digits : List Nat}
    (hdigits : ∀ digit ∈ digits, digit ≤ limit) {start magnitude : Nat} (hstart : start ≤ limit) :
    accumulate limit start digits = some magnitude ↔
      magnitude = digits.foldl (fun value digit => value * 10 + digit) start ∧
        magnitude ≤ limit := by
  induction digits generalizing start with
  | nil =>
      rw [accumulate, List.foldl_nil, Option.some_inj]
      constructor
      · rintro rfl
        exact ⟨rfl, hstart⟩
      · exact fun h => h.1.symm
  | cons digit rest ih =>
      rw [List.forall_mem_cons] at hdigits
      rw [accumulate, List.foldl_cons]
      split_ifs with hbig
      · -- the value only grows from here
        have hgrow := le_foldl_digits rest (start * 10 + digit)
        constructor
        · intro h
          exact absurd h (by simp)
        · rintro ⟨rfl, hle⟩
          omega
      · exact ih hdigits.2 (by omega)

theorem foldl_map_digits (digits : Bytes) (start : Nat) :
    (digits.map fun digit => digit.toNat - 0x30).foldl (fun value digit => value * 10 + digit)
      start = start * 10 ^ digits.length + decimalValue digits := by
  rw [List.foldl_map, foldl_decimal]

theorem foldl_replicate_zero (count start : Nat) :
    (List.replicate count 0).foldl (fun value digit => value * 10 + digit) start =
      start * 10 ^ count := by
  induction count generalizing start with
  | zero => simp
  | succ count ih =>
      rw [List.replicate_succ, List.foldl_cons, ih]
      ring

/-! ## Exact values -/

/-- A decimal number with an exponent is a natural number when the powers of ten on both sides
    balance. -/
theorem decimal_eq_iff (number value a k : Nat) :
    (number : ℚ) * 10 ^ ((a : ℤ) - k) = value ↔ number * 10 ^ a = value * 10 ^ k := by
  have hpos : (10 : ℚ) ^ k ≠ 0 := by positivity
  rw [zpow_sub₀ (by norm_num), zpow_natCast, zpow_natCast, mul_div_assoc', div_eq_iff hpos]
  exact_mod_cast Iff.rfl

/-- The largest magnitude of a number with this sign. -/
def magnitudeLimit (negative : Bool) : Nat :=
  if negative = true then 2 ^ 63 else 2 ^ 64 - 1

theorem magnitudeLimit_lt (negative : Bool) : magnitudeLimit negative < 10 ^ 20 := by
  rw [magnitudeLimit]
  split_ifs
  · norm_num
  · norm_num

/-- The value of a sign and a positive magnitude. -/
def signedValue (negative : Bool) (magnitude : Nat) : JsonValue :=
  if negative = false then .unsignedInteger (UInt64.ofNat magnitude)
  else if magnitude = 2 ^ 63 then .signedInteger Int64.minValue
  else .signedInteger (-Int64.ofNat magnitude)

/-- The values that an exact number denotes. -/
def ExactValue (exact : ℚ) (value : JsonValue) : Prop :=
  (∃ u : UInt64, value = .unsignedInteger u ∧ exact = u.toNat) ∨
    ∃ s : Int64, value = .signedInteger s ∧ s.toInt < 0 ∧ exact = s.toInt

theorem denotes_exact_iff (number : Number) (value : JsonValue) :
    Denotes .exactIntegerValues number value ↔ ExactValue number.value value := by
  constructor
  · intro h
    cases h with
    | unsignedValue hvalue => exact .inl ⟨_, rfl, hvalue⟩
    | signedValue hnegative hvalue => exact .inr ⟨_, rfl, hnegative, hvalue⟩
  · rintro (⟨u, rfl, hvalue⟩ | ⟨s, rfl, hnegative, hvalue⟩)
    · exact .unsignedValue hvalue
    · exact .signedValue hnegative hvalue

theorem exactValue_zero_iff (value : JsonValue) :
    ExactValue 0 value ↔ value = .unsignedInteger 0 := by
  constructor
  · rintro (⟨u, rfl, hzero⟩ | ⟨s, rfl, hnegative, hzero⟩)
    · have hnat : u.toNat = 0 := by exact_mod_cast hzero.symm
      exact congrArg _ (UInt64.toNat_inj.1 hnat)
    · have hint : s.toInt = 0 := by exact_mod_cast hzero.symm
      omega
  · rintro rfl
    exact .inl ⟨0, rfl, by simp⟩

/-- The least integer, or the negation of a smaller magnitude. -/
theorem toInt_negated {magnitude : Nat} (h : magnitude ≤ 2 ^ 63) :
    (if magnitude = 2 ^ 63 then Int64.minValue else -Int64.ofNat magnitude).toInt =
      -(magnitude : Int) := by
  split_ifs with hmin
  · rw [Int64.toInt_minValue, hmin]
    norm_num
  · have hneg : -Int64.ofNat magnitude = Int64.ofInt (-(magnitude : Int)) := by
      rw [Int64.ofInt_neg]
      rfl
    rw [hneg, Int64.toInt_ofInt_of_le (by omega) (by omega)]

theorem exactValue_iff_of_pos (negative : Bool) {exact : ℚ} (hpos : 0 < exact)
    (value : JsonValue) :
    ExactValue (if negative = true then -exact else exact) value ↔
      ∃ magnitude : Nat, exact = magnitude ∧ magnitude ≤ magnitudeLimit negative ∧
        value = signedValue negative magnitude := by
  cases negative with
  | false =>
      rw [if_neg Bool.false_ne_true]
      constructor
      · rintro (⟨u, rfl, hu⟩ | ⟨s, rfl, hnegative, hs⟩)
        · refine ⟨u.toNat, hu, ?_, ?_⟩
          · have hlt := u.toNat_lt
            rw [magnitudeLimit, if_neg Bool.false_ne_true]
            omega
          · rw [signedValue, if_pos rfl, UInt64.ofNat_toNat]
        · rw [hs] at hpos
          have hint : 0 < s.toInt := by exact_mod_cast hpos
          omega
      · rintro ⟨magnitude, hmagnitude, hle, rfl⟩
        rw [magnitudeLimit, if_neg Bool.false_ne_true] at hle
        refine .inl ⟨UInt64.ofNat magnitude, rfl, ?_⟩
        rw [hmagnitude, UInt64.toNat_ofNat_of_lt' (by rw [UInt64.size]; omega)]
  | true =>
      rw [if_pos rfl]
      constructor
      · rintro (⟨u, rfl, hu⟩ | ⟨s, rfl, hnegative, hs⟩)
        · have hnonneg : (0 : ℚ) ≤ u.toNat := Nat.cast_nonneg _
          linarith
        · have hlow := s.le_toInt
          have hcast : ((s.toInt.natAbs : ℕ) : ℤ) = -s.toInt := by omega
          have hvalue : exact = (s.toInt.natAbs : ℕ) := by
            rw [← Int.cast_natCast, hcast, Int.cast_neg]
            linarith
          have hle : s.toInt.natAbs ≤ 2 ^ 63 := by omega
          refine ⟨s.toInt.natAbs, hvalue, by rwa [magnitudeLimit, if_pos rfl], ?_⟩
          rw [signedValue, if_neg (by decide), ← apply_ite JsonValue.signedInteger]
          refine congrArg _ (Int64.toInt_inj.1 ?_)
          rw [toInt_negated hle]
          omega
      · rintro ⟨magnitude, hmagnitude, hle, rfl⟩
        rw [magnitudeLimit, if_pos rfl] at hle
        have hmpos : 0 < magnitude := by
          rw [hmagnitude] at hpos
          exact_mod_cast hpos
        rw [signedValue, if_neg (by decide), ← apply_ite JsonValue.signedInteger]
        refine .inr ⟨_, rfl, ?_, ?_⟩
        · rw [toInt_negated hle]
          omega
        · rw [toInt_negated hle, hmagnitude]
          push_cast
          rfl

section Exact

variable {parser : Parser} {start : Nat} {negative exponentNegative : Bool}
variable {integer fraction exponentDigits : Bytes} {value : JsonValue}

/-- The power of ten of a number with this exponent. -/
def netExponent (exponentNegative : Bool) (exponent fractionLength : Nat) : ℤ :=
  (if exponentNegative = true then -(exponent : ℤ) else exponent) - fractionLength

/-- The last part of `exactInteger`, on the digits that stay and the zeros behind them. -/
theorem exactInteger_retained {base : Bytes} {retained zeros : Nat}
    (hbase : ∀ byte ∈ base, isDigit byte = true) (hpos : decimalValue base ≠ 0)
    (hretained : retained ≤ base.length) (hside : zeros = 0 ∨ retained = base.length)
    (reason : Bytes) :
    (if (base.drop retained).any (· != 0x30) = true then
        parser.fail "non-integer-number" start
      else if (base.take retained).dropWhile (· == 0x30) = [] then .ok (.unsignedInteger 0)
      else if zeros > 20 ∨
          ((base.take retained).dropWhile (· == 0x30)).length > 20 - zeros then
        parser.fail reason start
      else
        match accumulate (magnitudeLimit negative) 0
            (((base.take retained).dropWhile (· == 0x30)).map (fun digit => digit.toNat - 0x30) ++
              List.replicate zeros 0) with
        | none => parser.fail reason start
        | some magnitude => .ok (signedValue negative magnitude)) = .ok value ↔
      ∃ magnitude : Nat,
        (decimalValue base : ℚ) * 10 ^ ((zeros : ℤ) - (base.length - retained : Nat)) = magnitude ∧
        magnitude ≤ magnitudeLimit negative ∧ value = signedValue negative magnitude := by
  set significant := (base.take retained).dropWhile (· == 0x30) with hsignificant
  have hlimit := magnitudeLimit_lt negative
  have htail : ∀ byte ∈ base.drop retained, isDigit byte = true :=
    fun byte hbyte => hbase byte (List.mem_of_mem_drop hbyte)
  have hsplit : decimalValue base =
      decimalValue significant * 10 ^ (base.length - retained) +
        decimalValue (base.drop retained) := by
    have happend := decimalValue_append (base.take retained) (base.drop retained)
    rwa [List.take_append_drop, List.length_drop, ← decimalValue_dropZeros (base.take retained)]
      at happend
  have hsmall := decimalValue_lt htail
  rw [List.length_drop] at hsmall
  have hzeros := decimalValue_eq_zero_iff htail
  simp only [decimal_eq_iff]
  by_cases hany : (base.drop retained).any (· != 0x30) = true
  · -- a nonzero digit behind the point: the number is no multiple of the power of ten
    rw [if_pos hany]
    refine ⟨fun h => absurd h (by simp [Parser.fail]), ?_⟩
    rintro ⟨magnitude, heq, -, -⟩
    have hne : decimalValue (base.drop retained) ≠ 0 := by
      rw [ne_eq, hzeros]
      simpa using hany
    have hmore : retained ≠ base.length := by
      rintro rfl
      simp at hany
    obtain rfl : zeros = 0 := hside.resolve_right hmore
    rw [pow_zero, mul_one, hsplit] at heq
    have hmod := congrArg (· % 10 ^ (base.length - retained)) heq
    simp only [Nat.mul_add_mod_self_right, Nat.mul_mod_left] at hmod
    rw [Nat.mod_eq_of_lt hsmall] at hmod
    exact absurd hmod hne
  rw [if_neg hany]
  have hall : decimalValue (base.drop retained) = 0 := by
    rw [hzeros]
    simpa using hany
  rw [hall, Nat.add_zero] at hsplit
  have hsigpos : decimalValue significant ≠ 0 := by
    intro hzero
    rw [hzero, Nat.zero_mul] at hsplit
    exact hpos hsplit
  have hne : significant ≠ [] := by
    intro hnil
    rw [hnil] at hsigpos
    exact hsigpos rfl
  have hdigits : ∀ byte ∈ significant, isDigit byte = true := by
    intro byte hbyte
    exact hbase byte (List.mem_of_mem_take ((List.dropWhile_sublist _).subset hbyte))
  have hlead : significant.head? ≠ some 0x30 := by
    intro hhead
    have hfalse := List.head?_dropWhile_not (· == (0x30 : UInt8)) (base.take retained)
    rw [← hsignificant, hhead] at hfalse
    simp at hfalse
  have hbalance : ∀ magnitude : Nat, decimalValue base * 10 ^ zeros =
      magnitude * 10 ^ (base.length - retained) ↔
        magnitude = decimalValue significant * 10 ^ zeros := by
    intro magnitude
    have hten : 0 < 10 ^ (base.length - retained) := by positivity
    rw [hsplit, Nat.mul_right_comm, Nat.mul_left_inj (Nat.ne_of_gt hten)]
    exact eq_comm
  simp only [hbalance]
  rw [if_neg hne]
  have hlarge := pow_le_decimalValue hdigits hne hlead
  by_cases hlong : zeros > 20 ∨ significant.length > 20 - zeros
  · -- more digits than any magnitude in range has
    rw [if_pos hlong]
    refine ⟨fun h => absurd h (by simp [Parser.fail]), ?_⟩
    rintro ⟨magnitude, rfl, hle, -⟩
    have hlength := List.length_pos_iff.2 hne
    have hpow : 10 ^ 20 ≤ 10 ^ (significant.length - 1) * 10 ^ zeros := by
      rw [← Nat.pow_add]
      exact Nat.pow_le_pow_right (by norm_num) (by omega)
    have hmul := Nat.mul_le_mul_right (10 ^ zeros) hlarge
    omega
  rw [if_neg hlong]
  have hnine : ∀ digit ∈ significant.map (fun digit : UInt8 => digit.toNat - 0x30) ++
      List.replicate zeros 0, digit ≤ magnitudeLimit negative := by
    intro digit hdigit
    have hlow : 9 ≤ magnitudeLimit negative := by
      rw [magnitudeLimit]
      split_ifs
      · norm_num
      · norm_num
    rcases List.mem_append.1 hdigit with hfirst | hzero
    · obtain ⟨byte, hbyte, rfl⟩ := List.mem_map.1 hfirst
      have hrange := digit_range (hdigits byte hbyte)
      omega
    · rw [List.eq_of_mem_replicate hzero]
      exact Nat.zero_le _
  have hvalue : (significant.map (fun digit : UInt8 => digit.toNat - 0x30) ++
      List.replicate zeros 0).foldl (fun value digit => value * 10 + digit) 0 =
        decimalValue significant * 10 ^ zeros := by
    rw [List.foldl_append, foldl_map_digits, foldl_replicate_zero, Nat.zero_mul, Nat.zero_add]
  rcases haccumulate : accumulate (magnitudeLimit negative) 0 _ with _ | magnitude
  · refine ⟨fun h => absurd h (by simp [Parser.fail]), ?_⟩
    rintro ⟨magnitude, hmagnitude, hle, -⟩
    have hsome := (accumulate_eq_some_iff hnine (Nat.zero_le _)).2
      ⟨hmagnitude.trans hvalue.symm, hle⟩
    rw [haccumulate] at hsome
    exact absurd hsome (by simp)
  · obtain ⟨hmagnitude, hle⟩ := (accumulate_eq_some_iff hnine (Nat.zero_le _)).1 haccumulate
    rw [hvalue] at hmagnitude
    constructor
    · intro h
      exact ⟨magnitude, hmagnitude, hle, (Except.ok.inj h).symm⟩
    · rintro ⟨other, rfl, -, rfl⟩
      rw [hmagnitude]

/-- The exact absolute value of these digits with this exponent. -/
def exactMagnitude (integer fraction : Bytes) (exponentNegative : Bool) (exponent : Nat) : ℚ :=
  decimalValue (integer ++ fraction) *
    10 ^ ((if exponentNegative = true then -(exponent : ℤ) else exponent) - fraction.length)

/-- With more places behind the point than digits the number is below one. -/
theorem no_magnitude_below_one {base : Bytes} {places magnitude : Nat}
    (hbase : ∀ byte ∈ base, isDigit byte = true) (hpos : decimalValue base ≠ 0)
    (hplaces : base.length < places)
    (h : (decimalValue base : ℚ) * 10 ^ (((0 : ℕ) : ℤ) - places) = magnitude) : False := by
  rw [decimal_eq_iff, pow_zero, mul_one] at h
  have hlt := decimalValue_lt hbase
  have hpow : 10 ^ base.length ≤ 10 ^ places := Nat.pow_le_pow_right (by norm_num) hplaces.le
  rcases Nat.eq_zero_or_pos magnitude with rfl | hmagnitude
  · rw [Nat.zero_mul] at h
    exact hpos h
  · have hmul : 1 * 10 ^ places ≤ magnitude * 10 ^ places := Nat.mul_le_mul_right _ hmagnitude
    omega

/-- Twenty zeros more than places behind the point are beyond every limit. -/
theorem no_magnitude_beyond {number zeros places magnitude : Nat} (hpos : number ≠ 0)
    (hzeros : places + 20 ≤ zeros) (hle : magnitude ≤ magnitudeLimit negative)
    (h : (number : ℚ) * 10 ^ ((zeros : ℤ) - places) = magnitude) : False := by
  rw [decimal_eq_iff] at h
  have hlimit := magnitudeLimit_lt negative
  have hnumber : 1 * 10 ^ zeros ≤ number * 10 ^ zeros :=
    Nat.mul_le_mul_right _ (Nat.one_le_iff_ne_zero.2 hpos)
  have hmagnitude : magnitude * 10 ^ places < 10 ^ 20 * 10 ^ places :=
    Nat.mul_lt_mul_of_pos_right (hle.trans_lt hlimit) (by positivity)
  have hpow : 10 ^ (20 + places) ≤ 10 ^ zeros := Nat.pow_le_pow_right (by norm_num) (by omega)
  rw [Nat.pow_add] at hpow
  omega

/-- An exponent beyond 64 bits is refused, unless the number is zero. -/
theorem exponent_lt_of_exactInteger (hbase : ∀ byte ∈ integer ++ fraction, isDigit byte = true)
    (hpos : decimalValue (integer ++ fraction) ≠ 0)
    (h : parser.exactInteger start negative integer fraction exponentNegative exponentDigits =
      .ok value) : ¬ 2 ^ 64 ≤ decimalValue exponentDigits := by
  intro hoverflow
  rw [ne_eq, decimalValue_eq_zero_iff hbase] at hpos
  simp only [Parser.exactInteger] at h
  rw [if_neg hpos, if_pos (decide_eq_true hoverflow), Parser.fail] at h
  exact absurd h (by simp)

/-- **The source decides exactly which decimal texts denote integers in range**, as long as the
    digits of a text with an exponent beyond 64 bits fit into memory. -/
theorem exactInteger_eq_ok_iff (hbase : ∀ byte ∈ integer ++ fraction, isDigit byte = true)
    (hsize : 2 ^ 64 ≤ decimalValue exponentDigits → decimalValue (integer ++ fraction) ≠ 0 →
      (integer ++ fraction).length + 20 ≤ 2 ^ 64) :
    parser.exactInteger start negative integer fraction exponentNegative exponentDigits =
        .ok value ↔
      ExactValue (if negative = true then
        -exactMagnitude integer fraction exponentNegative (decimalValue exponentDigits)
      else exactMagnitude integer fraction exponentNegative (decimalValue exponentDigits))
        value := by
  have hresult : ∀ magnitude : Nat,
      (if negative = false then (.ok (.unsignedInteger (UInt64.ofNat magnitude)) : Result JsonValue)
        else if magnitude = 2 ^ 63 then .ok (.signedInteger Int64.minValue)
        else .ok (.signedInteger (-Int64.ofNat magnitude))) = .ok (signedValue negative magnitude) := by
    intro magnitude
    rw [signedValue]
    split_ifs
    · rfl
    · rfl
    · rfl
  have hzero := decimalValue_eq_zero_iff hbase
  have hfraction : fraction.length ≤ (integer ++ fraction).length := by
    rw [List.length_append]
    omega
  simp only [Parser.exactInteger, hresult, decide_eq_true_eq]
  rw [← magnitudeLimit]
  by_cases hall : (integer ++ fraction).all (· == 0x30) = true
  · rw [if_pos hall]
    have hexact : exactMagnitude integer fraction exponentNegative
        (decimalValue exponentDigits) = 0 := by
      rw [exactMagnitude, hzero.2 hall, Nat.cast_zero, zero_mul]
    rw [hexact, neg_zero, ite_self, exactValue_zero_iff]
    exact ⟨fun h => (Except.ok.inj h).symm, fun h => congrArg _ h.symm⟩
  have hpos : decimalValue (integer ++ fraction) ≠ 0 := fun heq => hall (hzero.1 heq)
  have hexact : 0 < exactMagnitude integer fraction exponentNegative
      (decimalValue exponentDigits) := by
    have hnat : 0 < decimalValue (integer ++ fraction) := Nat.pos_of_ne_zero hpos
    rw [exactMagnitude]
    positivity
  rw [if_neg hall, exactValue_iff_of_pos negative hexact, exactMagnitude]
  set base := integer ++ fraction
  by_cases hoverflow : decimalValue exponentDigits ≥ 2 ^ 64
  · rw [if_pos hoverflow]
    refine ⟨fun h => absurd h (by simp [Parser.fail]), ?_⟩
    have hlength := hsize hoverflow hpos
    rintro ⟨magnitude, heq, hle, -⟩
    exfalso
    cases exponentNegative with
    | true =>
        rw [if_pos rfl, ← neg_add', ← Nat.cast_add, ← zero_sub, ← Nat.cast_zero] at heq
        exact no_magnitude_below_one hbase hpos (by omega) heq
    | false => exact no_magnitude_beyond hpos (by omega) hle heq
  rw [if_neg hoverflow, if_neg hoverflow]
  by_cases hsmall : exponentNegative = true ∧ (decimalValue exponentDigits > base.length ∨
      fraction.length > base.length - decimalValue exponentDigits)
  · rw [if_pos hsmall]
    refine ⟨fun h => absurd h (by simp [Parser.fail]), ?_⟩
    rintro ⟨magnitude, heq, -, -⟩
    exfalso
    rw [if_pos hsmall.1, ← neg_add', ← Nat.cast_add, ← zero_sub, ← Nat.cast_zero] at heq
    exact no_magnitude_below_one hbase hpos (by omega) heq
  rw [if_neg hsmall]
  -- what is left are the digits that stay and the zeros behind them
  cases exponentNegative with
  | true =>
      have hfits : fraction.length + decimalValue exponentDigits ≤ base.length := by
        simp only [true_and, not_or] at hsmall
        omega
      simp only [if_true, Bool.true_eq_false, false_and, if_false]
      refine (exactInteger_retained hbase hpos (Nat.sub_le _ _) (.inl rfl) _).trans ?_
      rw [Nat.sub_sub_self hfits, Nat.cast_add, Nat.cast_zero, zero_sub, neg_add', neg_sub_comm]
  | false =>
      simp only [Bool.false_eq_true, if_false, true_and]
      by_cases hmore : decimalValue exponentDigits ≥ fraction.length
      · rw [if_pos hmore, if_pos hmore]
        refine (exactInteger_retained hbase hpos le_rfl (.inr rfl) _).trans ?_
        rw [Nat.sub_self, Nat.cast_zero, sub_zero, Nat.cast_sub hmore]
      · rw [if_neg hmore, if_neg hmore]
        refine (exactInteger_retained hbase hpos (Nat.sub_le _ _) (.inl rfl) _).trans ?_
        rw [Nat.sub_sub_self (by omega), Nat.cast_sub (by omega), Nat.cast_zero, zero_sub, neg_sub]

end Exact

/-! ## The parts of a number -/

/-- What follows does not go on with digits. -/
def NoDigit (rest : Bytes) : Prop :=
  ∀ byte ∈ rest.head?, isDigit byte = false

theorem digits_spec (rest : Bytes) :
    (digits rest).1 ++ (digits rest).2 = rest ∧ ∀ byte ∈ (digits rest).1, isDigit byte = true :=
  ⟨List.takeWhile_append_dropWhile, fun _ hbyte => List.mem_takeWhile_imp hbyte⟩

theorem digits_append {number rest : Bytes} (hnumber : ∀ byte ∈ number, isDigit byte = true)
    (hrest : NoDigit rest) : digits (number ++ rest) = (number, rest) := by
  rw [Parser.digits, List.takeWhile_append_of_pos hnumber, List.dropWhile_append_of_pos hnumber]
  rcases rest with _ | ⟨byte, rest⟩
  · simp
  · have hstop : isDigit byte = false := hrest byte rfl
    rw [List.takeWhile_cons_of_neg (by rw [hstop]; decide),
      List.dropWhile_cons_of_neg (by rw [hstop]; decide), List.append_nil]

section Parts

variable {parser : Parser} {start : Nat} {rest rest' : Bytes}

/-- The optional fraction of a number. -/
def fractionText (fraction : Option Bytes) : Bytes :=
  fraction.elim [] (0x2e :: ·)

theorem fraction_sound {part : Bytes} (h : parser.fraction start rest = .ok (part, rest')) :
    ∃ fraction : Option Bytes, rest = fractionText fraction ++ rest' ∧
      fraction.getD [] = part ∧ ∀ digits ∈ fraction, Digits digits := by
  unfold Parser.fraction at h
  split at h
  · rename_i tail
    rw [Parser.fail, guard_eq_ok_iff] at h
    obtain ⟨hne, h⟩ := h
    obtain ⟨happend, hdigits⟩ := digits_spec tail
    rw [Except.ok.inj h] at happend hdigits hne
    refine ⟨some part, by rw [← happend]; rfl, rfl, ?_⟩
    rintro _ ⟨⟩
    exact ⟨hne, hdigits⟩
  · obtain ⟨rfl, rfl⟩ := Prod.mk.injEq .. ▸ Except.ok.inj h
    exact ⟨none, rfl, rfl, fun _ hnone => absurd hnone (by simp)⟩

theorem fraction_complete {fraction : Option Bytes} (hform : ∀ digits ∈ fraction, Digits digits)
    (hdigit : NoDigit rest) (hpoint : rest.head? ≠ some 0x2e) :
    parser.fraction start (fractionText fraction ++ rest) = .ok (fraction.getD [], rest) := by
  rcases fraction with _ | part
  · show parser.fraction start rest = _
    unfold Parser.fraction
    split
    · exact absurd rfl hpoint
    · rfl
  · obtain ⟨hne, hdigits⟩ := hform part rfl
    show parser.fraction start (0x2e :: (part ++ rest)) = _
    simp only [Parser.fraction, digits_append hdigits hdigit]
    rw [if_neg hne]
    rfl

/-- The optional exponent of a number. -/
def exponentText (exponent : Option Exponent) : Bytes :=
  exponent.elim [] Exponent.text

theorem exponent_sound {negative : Bool} {part : Bytes}
    (h : parser.exponent start rest = .ok (negative, part, rest')) :
    ∃ exponent : Option Exponent, rest = exponentText exponent ++ rest' ∧
      (∀ item ∈ exponent, item.WellFormed) ∧ (∀ byte ∈ part, isDigit byte = true) ∧
      exponent.elim 0 Exponent.value =
        if negative = true then -(decimalValue part : ℤ) else decimalValue part := by
  unfold Parser.exponent at h
  rcases rest with _ | ⟨letter, tail⟩
  · simp only [Except.ok.injEq, Prod.mk.injEq] at h
    obtain ⟨rfl, rfl, rfl⟩ := h
    exact ⟨none, rfl, by simp, by simp, rfl⟩
  dsimp only at h
  split_ifs at h with hletter hsign hempty hempty
  · exact absurd h (by simp [Parser.fail])
  · obtain ⟨happend, hdigits⟩ := digits_spec (tail.drop 1)
    simp only [Except.ok.injEq, Prod.mk.injEq] at h
    obtain ⟨hnegative, hpair⟩ := h
    rw [hpair] at happend hdigits hempty
    obtain ⟨sign, tail, rfl⟩ : ∃ sign tail', tail = sign :: tail' := by
      rcases tail with _ | ⟨sign, tail⟩
      · simp at hsign
      · exact ⟨sign, tail, rfl⟩
    simp only [List.head?_cons, Option.some_inj] at hsign hnegative
    have hform : ([sign] : Bytes) = [] ∨ ([sign] : Bytes) = [0x2b] ∨ ([sign] : Bytes) = [0x2d] := by
      rcases hsign with rfl | rfl
      · exact .inr (.inl rfl)
      · exact .inr (.inr rfl)
    refine ⟨some ⟨letter, [sign], part⟩, ?_, ?_, hdigits, ?_⟩
    · show letter :: sign :: tail = letter :: ([sign] ++ part) ++ rest'
      rw [show tail = part ++ rest' from happend.symm]
      rfl
    · rintro _ ⟨⟩
      exact ⟨hletter, hform, hempty, hdigits⟩
    · subst hnegative
      simp [Exponent.value]
  · exact absurd h (by simp [Parser.fail])
  · obtain ⟨happend, hdigits⟩ := digits_spec tail
    simp only [Except.ok.injEq, Prod.mk.injEq] at h
    obtain ⟨hnegative, hpair⟩ := h
    rw [hpair] at happend hdigits hempty
    refine ⟨some ⟨letter, [], part⟩, ?_, ?_, hdigits, ?_⟩
    · rw [← happend]
      rfl
    · rintro _ ⟨⟩
      exact ⟨hletter, .inl rfl, hempty, hdigits⟩
    · have hplus : negative = false := by
        rw [← hnegative, decide_eq_false_iff_not]
        exact fun hminus => hsign (.inr hminus)
      rw [hplus]
      simp [Exponent.value]
  · simp only [Except.ok.injEq, Prod.mk.injEq] at h
    obtain ⟨rfl, rfl, rfl⟩ := h
    exact ⟨none, rfl, by simp, by simp, rfl⟩

theorem exponent_complete {exponent : Option Exponent}
    (hform : ∀ item ∈ exponent, item.WellFormed) (hdigit : NoDigit rest)
    (hletter : rest.head? ≠ some 0x65 ∧ rest.head? ≠ some 0x45) :
    ∃ negative part, parser.exponent start (exponentText exponent ++ rest) =
        .ok (negative, part, rest) ∧ (∀ byte ∈ part, isDigit byte = true) ∧
      part.length ≤ (exponentText exponent).length ∧
      exponent.elim 0 Exponent.value =
        if negative = true then -(decimalValue part : ℤ) else decimalValue part := by
  rcases exponent with _ | ⟨letter, sign, part⟩
  · refine ⟨false, [], ?_, by simp, Nat.zero_le _, rfl⟩
    show parser.exponent start rest = _
    rcases rest with _ | ⟨byte, rest⟩
    · rfl
    · simp only [List.head?_cons, ne_eq, Option.some_inj] at hletter
      simp [Parser.exponent, hletter]
  · obtain ⟨hname, hsign, hne, hdigits⟩ := hform _ rfl
    simp only at hname hsign hne hdigits
    refine ⟨decide (sign = [0x2d]), part, ?_, hdigits, ?_, ?_⟩
    · show parser.exponent start (letter :: (sign ++ part) ++ rest) = _
      obtain ⟨first, others, rfl⟩ := List.exists_cons_of_ne_nil hne
      have hfirst := digit_range (hdigits first List.mem_cons_self)
      have hplus : first ≠ 0x2b := by
        rintro rfl
        simp at hfirst
      have hminus : first ≠ 0x2d := by
        rintro rfl
        simp at hfirst
      have happend := digits_append hdigits hdigit
      rw [List.cons_append] at happend
      rcases hsign with rfl | rfl | rfl
      · simp [Parser.exponent, hname, hplus, hminus, happend]
      · simp [Parser.exponent, hname, happend]
      · simp [Parser.exponent, hname, happend]
    · show part.length ≤ (letter :: (sign ++ part)).length
      rw [List.length_cons, List.length_append]
      omega
    · simp [Exponent.value]

end Parts

/-! ## The whole number -/

theorem Number.text_eq (number : Number) :
    number.text = (if number.minus = true then [0x2d] else []) ++
      (number.integer ++ (fractionText number.fraction ++ exponentText number.exponent)) := rfl

theorem value_of_integer (minus : Bool) (integer : Bytes) :
    (Number.mk minus integer none none).value =
      if minus = true then -(decimalValue integer : ℚ) else decimalValue integer := by
  simp [Number.value, Number.magnitude]

theorem integerToken_eq_ok_iff {parser : Parser} {start : Nat} {negative : Bool}
    {integer rest rest' : Bytes} {value : JsonValue} :
    parser.integerToken start negative integer rest = .ok (value, rest') ↔
      (rest.head?.any fun byte => [0x2e, 0x65, 0x45, 0x2b].contains byte) = false ∧ rest' = rest ∧
        Denotes .integerTokens ⟨negative, integer, none, none⟩ value := by
  rw [Parser.integerToken, Parser.fail, guard_eq_ok_iff, Bool.not_eq_true]
  refine and_congr_right fun _ => ?_
  cases negative with
  | true =>
      rw [if_pos rfl, Parser.fail, guard_eq_ok_iff, not_lt]
      constructor
      · rintro ⟨hle, h⟩
        obtain ⟨rfl, rfl⟩ := Prod.mk.injEq .. ▸ Except.ok.inj h
        refine ⟨rfl, .signedToken rfl rfl rfl ?_⟩
        rw [value_of_integer, if_pos rfl, Int64.toInt_ofInt_of_le (by omega) (by omega)]
        push_cast
        rfl
      · rintro ⟨rfl, h⟩
        cases h with
        | unsignedToken _ _ hsign _ => exact Bool.noConfusion hsign
        | @signedToken _ item _ _ _ hvalue =>
            rw [value_of_integer, if_pos rfl] at hvalue
            have hint : -(decimalValue integer : ℤ) = item.toInt := by exact_mod_cast hvalue
            have hlow := item.le_toInt
            refine ⟨by omega, ?_⟩
            rw [hint, Int64.ofInt_toInt]
  | false =>
      rw [if_neg (by decide), Parser.fail, guard_eq_ok_iff, ge_iff_le, not_le]
      constructor
      · rintro ⟨hlt, h⟩
        obtain ⟨rfl, rfl⟩ := Prod.mk.injEq .. ▸ Except.ok.inj h
        refine ⟨rfl, .unsignedToken rfl rfl rfl ?_⟩
        rw [value_of_integer, if_neg (by decide),
          UInt64.toNat_ofNat_of_lt' (by rw [UInt64.size]; omega)]
      · rintro ⟨rfl, h⟩
        cases h with
        | signedToken _ _ hsign _ => exact Bool.noConfusion hsign
        | @unsignedToken _ item _ _ _ hvalue =>
            rw [value_of_integer, if_neg (by decide)] at hvalue
            have hnat : decimalValue integer = item.toNat := by exact_mod_cast hvalue
            have hlt := item.toNat_lt
            refine ⟨by omega, ?_⟩
            rw [hnat, UInt64.ofNat_toNat]

/-- The digits and the exponent that `exactInteger` sees make up the value of the number. -/
theorem exactMagnitude_eq {number : Number} {negative : Bool} {part : Bytes}
    (h : number.exponent.elim 0 Exponent.value =
      if negative = true then -(decimalValue part : ℤ) else decimalValue part) :
    number.magnitude = exactMagnitude number.integer (number.fraction.getD []) negative
      (decimalValue part) := by
  rw [Number.magnitude, exactMagnitude, h]

theorem parseNumber_sound {parser : Parser} {rest rest' : Bytes} {value : JsonValue}
    (h : parser.parseNumber rest = .ok (value, rest')) :
    ∃ number : Number, rest = number.text ++ rest' ∧ number.WellFormed ∧
      Denotes parser.contract.numbers number value := by
  unfold Parser.parseNumber at h
  dsimp only at h
  rw [Parser.fail, guard_eq_ok_iff, not_or] at h
  obtain ⟨⟨hne, hlead⟩, h⟩ := h
  set minus := decide (rest.head? = some 0x2d) with hminus
  obtain ⟨happend, hdigits⟩ := digits_spec (if minus = true then rest.drop 1 else rest)
  set integer := (digits (if minus = true then rest.drop 1 else rest)).1
  set tail := (digits (if minus = true then rest.drop 1 else rest)).2
  have hrest : rest = (if minus = true then [0x2d] else []) ++ (integer ++ tail) := by
    rw [happend]
    split_ifs with hsign
    · obtain ⟨byte, others, rfl⟩ : ∃ byte others, rest = byte :: others := by
        rcases rest with _ | ⟨byte, others⟩
        · simp [hminus] at hsign
        · exact ⟨byte, others, rfl⟩
      have hbyte : byte = 0x2d := by simpa [hminus] using hsign
      rw [hbyte]
      rfl
    · rfl
  by_cases htokens : parser.contract.numbers = .integerTokens
  · rw [if_pos htokens, integerToken_eq_ok_iff] at h
    obtain ⟨-, rfl, hdenotes⟩ := h
    refine ⟨⟨minus, integer, none, none⟩, ?_, ⟨⟨hne, hdigits⟩, hlead, by simp, by simp⟩, ?_⟩
    · rw [Number.text_eq]
      simpa [fractionText, exponentText] using hrest
    · rwa [htokens]
  · have hexact : parser.contract.numbers = .exactIntegerValues := by
      cases hnumbers : parser.contract.numbers with
      | integerTokens => exact absurd hnumbers htokens
      | exactIntegerValues => rfl
    rw [if_neg htokens] at h
    simp only [bind_eq_ok_iff, Except.ok.injEq, Prod.mk.injEq] at h
    obtain ⟨⟨fraction, tail₁⟩, hfraction, ⟨negative, part, tail₂⟩, hexponent, value', hvalue,
      rfl, rfl⟩ := h
    obtain ⟨frac, htail, rfl, hfrac⟩ := fraction_sound hfraction
    obtain ⟨exp, htail₁, hexp, hpart, hexpvalue⟩ := exponent_sound hexponent
    have hbase : ∀ byte ∈ integer ++ frac.getD [], isDigit byte = true := by
      intro byte hbyte
      rcases List.mem_append.1 hbyte with hbyte | hbyte
      · exact hdigits byte hbyte
      · rcases frac with _ | digits
        · simp at hbyte
        · exact (hfrac digits rfl).2 byte hbyte
    -- an exponent beyond 64 bits would have been refused
    have hsize : 2 ^ 64 ≤ decimalValue part → decimalValue (integer ++ frac.getD []) ≠ 0 →
        (integer ++ frac.getD []).length + 20 ≤ 2 ^ 64 := by
      intro hoverflow hpos
      exact absurd hoverflow (exponent_lt_of_exactInteger hbase hpos hvalue)
    refine ⟨⟨minus, integer, frac, exp⟩, ?_, ⟨⟨hne, hdigits⟩, hlead, hfrac, hexp⟩, ?_⟩
    · have htail₁ : tail₁ = exponentText exp ++ tail₂ := htail₁
      rw [Number.text_eq, hrest, htail, htail₁]
      simp
    · rw [hexact, denotes_exact_iff, Number.value, exactMagnitude_eq hexpvalue]
      exact (exactInteger_eq_ok_iff hbase hsize).1 hvalue

/-- What follows does not go on with the digits, the fraction or the exponent of a number. -/
def EndsNumber (rest : Bytes) : Prop :=
  ∀ byte ∈ rest.head?, isDigit byte = false ∧ byte ∉ ([0x2e, 0x65, 0x45] : Bytes)

theorem EndsNumber.noDigit {rest : Bytes} (h : EndsNumber rest) : NoDigit rest :=
  fun byte hbyte => (h byte hbyte).1

theorem EndsNumber.head_ne {rest : Bytes} (h : EndsNumber rest) {byte : UInt8}
    (hbyte : byte ∈ ([0x2e, 0x65, 0x45] : Bytes)) : rest.head? ≠ some byte :=
  fun hhead => (h byte hhead).2 hbyte

/-- What follows does not go on with the number, and no sign follows it. -/
def Stops (rest : Bytes) : Prop :=
  ∀ byte ∈ rest.head?, isDigit byte = false ∧ byte ∉ ([0x2e, 0x65, 0x45, 0x2b] : Bytes)

theorem Stops.endsNumber {rest : Bytes} (h : Stops rest) : EndsNumber rest := by
  intro byte hbyte
  obtain ⟨hdigit, hnot⟩ := h byte hbyte
  exact ⟨hdigit, fun hmem => hnot (List.mem_append_left [0x2b] hmem)⟩

/-- An exponent or what follows the number does not go on with digits or a point. -/
theorem exponentText_noDigit {exponent : Option Exponent}
    (hform : ∀ item ∈ exponent, item.WellFormed) {rest : Bytes} (h : EndsNumber rest) :
    NoDigit (exponentText exponent ++ rest) ∧ (exponentText exponent ++ rest).head? ≠ some 0x2e := by
  rcases exponent with _ | ⟨letter, sign, part⟩
  · exact ⟨h.noDigit, h.head_ne (by simp)⟩
  · have hletter := (hform _ rfl).1
    show NoDigit (letter :: (sign ++ part) ++ rest) ∧ (letter :: (sign ++ part) ++ rest).head? ≠ _
    rcases hletter with hletter | hletter <;> simp only at hletter <;> subst hletter
    · exact ⟨by rintro byte ⟨⟩; decide, by simp⟩
    · exact ⟨by rintro byte ⟨⟩; decide, by simp⟩

/-- Twenty digits at least make a number beyond 64 bits. -/
theorem twenty_le_length {digits : Bytes} (hdigits : ∀ byte ∈ digits, isDigit byte = true)
    (h : 2 ^ 64 ≤ decimalValue digits) : 20 ≤ digits.length := by
  by_contra hshort
  have hlt := decimalValue_lt hdigits
  have hpow : 10 ^ digits.length ≤ 10 ^ 19 := Nat.pow_le_pow_right (by norm_num) (by omega)
  have hlarge : (10 : Nat) ^ 19 < 2 ^ 64 := by norm_num
  omega

/-- The integer of a number starts with a digit, and its minus is what the parser looks for. -/
theorem head_minus {number : Number} (hform : number.WellFormed) (tail : Bytes) :
    decide (((if number.minus = true then [0x2d] else []) ++ (number.integer ++ tail)).head? =
      some (0x2d : UInt8)) = number.minus := by
  obtain ⟨first, others, hinteger⟩ := List.exists_cons_of_ne_nil hform.integer.1
  have hfirst : first ≠ 0x2d := by
    rintro rfl
    have hrange := digit_range (hform.integer.2 0x2d (by rw [hinteger]; exact List.mem_cons_self))
    simp at hrange
  cases number.minus with
  | true => rfl
  | false => simp [hinteger, hfirst]

/-- What the parser makes of a number behind its sign and the digits of its integer. -/
theorem parseNumber_text {parser : Parser} {number : Number} {rest : Bytes}
    (hform : number.WellFormed) (hends : EndsNumber rest) :
    parser.parseNumber (number.text ++ rest) =
      (if parser.contract.numbers = .integerTokens then
        parser.integerToken (parser.position (number.text ++ rest)) number.minus number.integer
          (fractionText number.fraction ++ (exponentText number.exponent ++ rest))
      else do
        let (fraction, rest') ← parser.fraction (parser.position (number.text ++ rest))
          (fractionText number.fraction ++ (exponentText number.exponent ++ rest))
        let (exponentNegative, exponentDigits, rest') ←
          parser.exponent (parser.position (number.text ++ rest)) rest'
        let value ← parser.exactInteger (parser.position (number.text ++ rest)) number.minus
          number.integer fraction exponentNegative exponentDigits
        .ok (value, rest')) := by
  obtain ⟨hexpdigit, -⟩ := exponentText_noDigit hform.exponent hends
  have htaildigit : NoDigit
      (fractionText number.fraction ++ (exponentText number.exponent ++ rest)) := by
    rcases number.fraction with _ | part
    · exact hexpdigit
    · rintro byte ⟨⟩
      decide
  have htext : number.text ++ rest = (if number.minus = true then [0x2d] else []) ++
      (number.integer ++ (fractionText number.fraction ++
        (exponentText number.exponent ++ rest))) := by
    rw [Number.text_eq]
    simp
  have hdrop : ∀ tail : Bytes, (if number.minus = true then
      ((if number.minus = true then [0x2d] else []) ++ tail).drop 1
      else (if number.minus = true then [0x2d] else []) ++ tail) = tail := by
    intro tail
    cases number.minus with
    | true => rfl
    | false => rfl
  unfold Parser.parseNumber
  dsimp only
  rw [htext, head_minus hform, hdrop, digits_append hform.integer.2 htaildigit,
    if_neg (not_or.2 ⟨hform.integer.1, hform.leading⟩)]

/-- With exact values the digits of a number go to `exactInteger`, which sees its magnitude. -/
theorem parseNumber_exactInteger {parser : Parser} {number : Number} {rest : Bytes}
    (hform : number.WellFormed) (hends : EndsNumber rest)
    (hexact : parser.contract.numbers ≠ .integerTokens) (hsize : number.text.length < 2 ^ 64) :
    ∃ exponentNegative part,
      parser.parseNumber (number.text ++ rest) = (do
        let value ← parser.exactInteger (parser.position (number.text ++ rest)) number.minus
          number.integer (number.fraction.getD []) exponentNegative part
        .ok (value, rest)) ∧
      (∀ byte ∈ number.integer ++ number.fraction.getD [], isDigit byte = true) ∧
      (2 ^ 64 ≤ decimalValue part →
        decimalValue (number.integer ++ number.fraction.getD []) ≠ 0 →
          (number.integer ++ number.fraction.getD []).length + 20 ≤ 2 ^ 64) ∧
      number.magnitude = exactMagnitude number.integer (number.fraction.getD []) exponentNegative
        (decimalValue part) := by
  obtain ⟨hexpdigit, hexppoint⟩ := exponentText_noDigit hform.exponent hends
  obtain ⟨negative, part, hexponent, hpart, hpartlength, hexpvalue⟩ :=
    @exponent_complete parser (parser.position (number.text ++ rest)) rest number.exponent
      hform.exponent hends.noDigit ⟨hends.head_ne (by simp), hends.head_ne (by simp)⟩
  refine ⟨negative, part, ?_, ?_, ?_, exactMagnitude_eq hexpvalue⟩
  · rw [parseNumber_text hform hends, if_neg hexact,
      fraction_complete hform.fraction hexpdigit hexppoint, ok_bind]
    dsimp only
    rw [hexponent, ok_bind]
  · intro byte hbyte
    rcases List.mem_append.1 hbyte with hbyte | hbyte
    · exact hform.integer.2 byte hbyte
    · rcases hfraction : number.fraction with _ | digits
      · simp [hfraction] at hbyte
      · rw [hfraction] at hbyte
        exact (hform.fraction digits hfraction).2 byte hbyte
  · intro hoverflow _
    have htwenty := twenty_le_length hpart hoverflow
    have hfraction : (number.fraction.getD []).length ≤ (fractionText number.fraction).length := by
      rcases number.fraction with _ | part
      · exact le_rfl
      · exact Nat.le_succ _
    rw [Number.text_eq] at hsize
    simp only [List.length_append] at hsize
    rw [List.length_append]
    omega

theorem parseNumber_complete {parser : Parser} {number : Number} {value : JsonValue} {rest : Bytes}
    (hform : number.WellFormed) (hvalue : Denotes parser.contract.numbers number value)
    (hstop : Stops rest) (hsize : number.text.length < 2 ^ 64) :
    parser.parseNumber (number.text ++ rest) = .ok (value, rest) := by
  by_cases htokens : parser.contract.numbers = .integerTokens
  · rw [htokens] at hvalue
    rw [parseNumber_text hform hstop.endsNumber, if_pos htokens]
    obtain ⟨minus, integer, frac, exp⟩ := number
    obtain ⟨rfl, rfl⟩ : frac = none ∧ exp = none := by
      cases hvalue with
      | unsignedToken hfraction hexponent _ _ => exact ⟨hfraction, hexponent⟩
      | signedToken hfraction hexponent _ _ => exact ⟨hfraction, hexponent⟩
    refine integerToken_eq_ok_iff.2 ⟨?_, rfl, hvalue⟩
    show (rest.head?.any _) = false
    rcases hhead : rest.head? with _ | byte
    · rfl
    · have hnot := (hstop byte hhead).2
      simpa using hnot
  · have hexact : parser.contract.numbers = .exactIntegerValues := by
      cases hnumbers : parser.contract.numbers with
      | integerTokens => exact absurd hnumbers htokens
      | exactIntegerValues => rfl
    obtain ⟨negative, part, hparse, hbase, hfits, hmagnitude⟩ :=
      @parseNumber_exactInteger parser number rest hform hstop.endsNumber htokens hsize
    rw [hexact, denotes_exact_iff, Number.value, hmagnitude,
      ← exactInteger_eq_ok_iff hbase hfits] at hvalue
    rw [hparse, hvalue, ok_bind]

end Cxxlens.Sdk.Json
