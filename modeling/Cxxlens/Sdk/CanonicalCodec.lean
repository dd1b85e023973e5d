import Cxxlens.Foundation.Framing
import Cxxlens.Sdk.CanonicalValue

set_option autoImplicit false

/-! # The canonical tuple codec is a bijection

Encoding and decoding are inverse to each other on valid values and accepted byte strings, and an
encoding says where it ends. The decoder accepts encodings only (`decodeNested_sound`), so its
comparison with the encoding in the end rejects nothing more. -/

namespace Cxxlens.Sdk.CanonicalValue

open Fallible Framing BigEndian

/-! ## Valid values -/

theorem validateItems_eq_ok_iff (index : Nat) (items : List CanonicalValue) :
    validateItems index items = .ok () ↔ ∀ item ∈ items, item.validate = .ok () := by
  induction items generalizing index with
  | nil => simp [validateItems]
  | cons item rest ih =>
      rw [validateItems, List.forall_mem_cons]
      rcases hitem : item.validate with error | ⟨⟩
      · simp
      · simp [ih]

/-- A valid value is made by one of the constructors, from valid items if it is a tuple. -/
theorem validate_cases {value : CanonicalValue} (h : value.validate = .ok ()) :
    value = null ∨ (∃ flag, value = fromBoolean flag) ∨ (∃ number, value = fromInteger number) ∨
      (∃ bytes, value = fromBytes bytes) ∨
      (∃ text, value = fromString text ∧ validUtf8 text = true) ∨
      ∃ items, value = fromTuple items ∧ ∀ item ∈ items, item.validate = .ok () := by
  obtain ⟨type, boolean, integer, byteString, text, tuple⟩ := value
  cases type with
  | nullValue =>
      simp [validate] at h
      obtain ⟨rfl, rfl, rfl, rfl, rfl⟩ := h
      exact .inl rfl
  | boolean =>
      simp [validate] at h
      obtain ⟨rfl, rfl, rfl, rfl⟩ := h
      exact .inr (.inl ⟨boolean, rfl⟩)
  | signedInteger =>
      simp [validate] at h
      obtain ⟨rfl, rfl, rfl, rfl⟩ := h
      exact .inr (.inr (.inl ⟨integer, rfl⟩))
  | bytes =>
      simp [validate] at h
      obtain ⟨rfl, rfl, rfl, rfl⟩ := h
      exact .inr (.inr (.inr (.inl ⟨byteString, rfl⟩)))
  | utf8String =>
      simp only [validate, guard_eq_ok_iff] at h
      obtain ⟨hinactive, htext, -⟩ := h
      simp at hinactive
      obtain ⟨rfl, rfl, rfl, rfl⟩ := hinactive
      exact .inr (.inr (.inr (.inr (.inl ⟨text, rfl, by simpa using htext⟩))))
  | orderedTuple =>
      simp only [validate, guard_eq_ok_iff, validateItems_eq_ok_iff] at h
      obtain ⟨hinactive, hitems⟩ := h
      simp at hinactive
      obtain ⟨rfl, rfl, rfl, rfl⟩ := hinactive
      exact .inr (.inr (.inr (.inr (.inr ⟨tuple, rfl, hitems⟩))))
  | unnamed value => simp [validate] at h

/-- Induction on a value through the items of its tuples. -/
theorem tupleInduct {P : CanonicalValue → Prop}
    (step : ∀ value : CanonicalValue, (∀ item ∈ value.tuple, P item) → P value) :
    ∀ value, P value := by
  intro value
  refine @CanonicalValue.rec P (fun items => ∀ item ∈ items, P item) ?_ ?_ ?_ value
  · intro type boolean integer byteString text tuple htuple
    exact step _ htuple
  · intro item hitem
    exact absurd hitem (by simp)
  · intro head tail hhead htail item hitem
    rcases List.mem_cons.1 hitem with rfl | hmem
    · exact hhead
    · exact htail item hmem

/-- Induction on a valid value. -/
theorem validInduct {P : CanonicalValue → Prop} (null : P null)
    (boolean : ∀ flag, P (fromBoolean flag)) (integer : ∀ number, P (fromInteger number))
    (bytes : ∀ bytes, P (fromBytes bytes))
    (string : ∀ text, validUtf8 text = true → P (fromString text))
    (tuple : ∀ items : List CanonicalValue,
      (∀ item ∈ items, item.validate = .ok () ∧ P item) → P (fromTuple items)) :
    ∀ value : CanonicalValue, value.validate = .ok () → P value := by
  refine tupleInduct ?_
  intro value ih h
  rcases validate_cases h with rfl | ⟨flag, rfl⟩ | ⟨number, rfl⟩ | ⟨content, rfl⟩ |
    ⟨text, rfl, htext⟩ | ⟨items, rfl, hitems⟩
  · exact null
  · exact boolean flag
  · exact integer number
  · exact bytes content
  · exact string text htext
  · exact tuple items fun item hitem => ⟨hitems item hitem, ih item hitem (hitems item hitem)⟩

@[simp] theorem validate_null : null.validate = .ok () := rfl

@[simp] theorem validate_fromBoolean (flag : Bool) : (fromBoolean flag).validate = .ok () := by
  simp [fromBoolean, validate]

@[simp] theorem validate_fromInteger (number : Int64) : (fromInteger number).validate = .ok () := by
  simp [fromInteger, validate]

@[simp] theorem validate_fromBytes (bytes : Bytes) : (fromBytes bytes).validate = .ok () := by
  simp [fromBytes, validate]

theorem validate_fromString_iff (text : Bytes) :
    (fromString text).validate = .ok () ↔ validUtf8 text = true := by
  simp [fromString, validate]

theorem validate_fromTuple_iff (items : List CanonicalValue) :
    (fromTuple items).validate = .ok () ↔ ∀ item ∈ items, item.validate = .ok () := by
  simp [fromTuple, validate, validateItems_eq_ok_iff]

/-! ## Encodings -/

@[simp] theorem appendCanonical_null : appendCanonical null = [0x00] := rfl

@[simp] theorem appendCanonical_fromBoolean (flag : Bool) :
    appendCanonical (fromBoolean flag) = [0x01, if flag = true then 0x01 else 0x00] := by
  simp [fromBoolean, appendCanonical]

theorem appendCanonical_fromInteger (number : Int64) :
    appendCanonical (fromInteger number) =
      [0x02, if number.toInt < 0 then 0x01 else 0x00] ++ framed (magnitudeBytes number) := by
  simp [fromInteger, appendCanonical, appendLength, framed]

theorem appendCanonical_fromBytes (bytes : Bytes) :
    appendCanonical (fromBytes bytes) = 0x03 :: framed bytes := by
  simp [fromBytes, appendCanonical, appendLength, framed]

theorem appendCanonical_fromString (text : Bytes) :
    appendCanonical (fromString text) = 0x04 :: framed text := by
  simp [fromString, appendCanonical, appendLength, framed]

theorem appendItems_eq (items : List CanonicalValue) :
    appendItems items = (items.map appendCanonical).flatMap framed := by
  induction items with
  | nil => rfl
  | cons item rest ih =>
      rw [appendItems, ih, List.map_cons, List.flatMap_cons]
      rfl

theorem appendCanonical_fromTuple (items : List CanonicalValue) :
    appendCanonical (fromTuple items) =
      0x05 :: (encode 8 items.length ++ (items.map appendCanonical).flatMap framed) := by
  rw [← appendItems_eq]
  simp [fromTuple, appendCanonical, appendLength]

theorem appendCanonical_ne_nil {value : CanonicalValue} (h : value.validate = .ok ()) :
    appendCanonical value ≠ [] := by
  rcases validate_cases h with rfl | ⟨flag, rfl⟩ | ⟨number, rfl⟩ | ⟨content, rfl⟩ |
    ⟨text, rfl, -⟩ | ⟨items, rfl, -⟩
  · simp
  · simp
  · simp [appendCanonical_fromInteger]
  · simp [appendCanonical_fromBytes]
  · simp [appendCanonical_fromString]
  · simp [appendCanonical_fromTuple]

/-! ## Integers -/

theorem magnitude_eq (value : Int64) : magnitude value = value.toInt.natAbs := by
  rw [magnitude]
  split_ifs
  · omega
  · omega

theorem magnitude_le (value : Int64) : magnitude value ≤ 2 ^ 63 := by
  have hlow := value.le_toInt
  have hhigh := value.toInt_lt
  rw [magnitude_eq]
  omega

/-- The loop stops at the first width that holds the number. -/
theorem exists_magnitudeWidth_eq (rounds remaining width : Nat)
    (h : remaining < 256 ^ (rounds + 1)) :
    ∃ extra, magnitudeWidth rounds remaining width = width + extra ∧ extra ≤ rounds ∧
      remaining < 256 ^ (extra + 1) ∧ (extra ≠ 0 → 256 ^ extra ≤ remaining) := by
  induction rounds generalizing remaining width with
  | zero => exact ⟨0, rfl, le_rfl, h, fun hne => absurd rfl hne⟩
  | succ rounds ih =>
      rw [magnitudeWidth]
      split_ifs with hbig
      · have hquotient : remaining / 256 < 256 ^ (rounds + 1) :=
          Nat.div_lt_of_lt_mul (by rw [Nat.pow_succ] at h; omega)
        obtain ⟨extra, hwidth, hextra, hlt, hge⟩ := ih _ (width + 1) hquotient
        refine ⟨extra + 1, by omega, by omega, ?_, fun _ => ?_⟩
        · rw [Nat.pow_succ]
          omega
        · rcases Nat.eq_zero_or_pos extra with rfl | hpos
          · omega
          · have hle := hge (by omega)
            rw [Nat.pow_succ]
            omega
      · exact ⟨0, rfl, Nat.zero_le _, by omega, fun hne => absurd rfl hne⟩

/-- The width of a number is the one width that holds it without a leading zero. -/
theorem magnitudeWidth_eq {number width : Nat} (hpos : 0 < width) (hwidth : width ≤ 8)
    (hlt : number < 256 ^ width) (hge : 1 < width → 256 ^ (width - 1) ≤ number) :
    magnitudeWidth 8 number 1 = width := by
  have hbound : number < 256 ^ (8 + 1) :=
    hlt.trans_le (Nat.pow_le_pow_right (by omega) (by omega))
  obtain ⟨extra, heq, hextra, hlt', hge'⟩ := exists_magnitudeWidth_eq 8 number 1 hbound
  rw [heq]
  rcases Nat.lt_trichotomy (1 + extra) width with hless | hsame | hmore
  · have hpow : 256 ^ (extra + 1) ≤ 256 ^ (width - 1) :=
      Nat.pow_le_pow_right (by omega) (by omega)
    have hle := hge (by omega)
    omega
  · exact hsame
  · have hpow : 256 ^ width ≤ 256 ^ extra := Nat.pow_le_pow_right (by omega) (by omega)
    have hle := hge' (by omega)
    omega

/-- The bytes of a magnitude: a fitting width, no leading zero, and the number they denote. -/
theorem magnitudeBytes_spec (value : Int64) :
    0 < (magnitudeBytes value).length ∧ (magnitudeBytes value).length ≤ 8 ∧
      decode (magnitudeBytes value) = magnitude value ∧
      (1 < (magnitudeBytes value).length →
        256 ^ ((magnitudeBytes value).length - 1) ≤ magnitude value) := by
  have hmagnitude := magnitude_le value
  have hbound : magnitude value < 256 ^ (7 + 1) := by omega
  have hround : magnitude value < 256 ^ (8 + 1) := by omega
  obtain ⟨extra, heq, -, hlt, hge⟩ := exists_magnitudeWidth_eq 8 (magnitude value) 1 hround
  rw [magnitudeBytes, length_encode, heq, Nat.add_comm 1 extra]
  refine ⟨by omega, ?_, decode_encode hlt, fun hmany => ?_⟩
  · by_contra hextra
    have hpow : 256 ^ (7 + 1) ≤ 256 ^ extra := Nat.pow_le_pow_right (by omega) (by omega)
    have hle := hge (by omega)
    omega
  · exact hge (by omega)

theorem head_eq_zero_iff {bytes : Bytes} (h : bytes ≠ []) :
    bytes.head? = some 0 ↔ decode bytes < 256 ^ (bytes.length - 1) := by
  obtain ⟨byte, rest, rfl⟩ := List.exists_cons_of_ne_nil h
  have hrest := decode_lt rest
  rw [decode_cons, List.head?_cons, List.length_cons, Nat.add_sub_cancel, Option.some_inj]
  constructor
  · rintro rfl
    simpa using hrest
  · intro hlt
    by_contra hbyte
    have hne : byte.toNat ≠ 0 := fun hzero => hbyte (UInt8.toNat_inj.1 hzero)
    have hmul : 1 * 256 ^ rest.length ≤ byte.toNat * 256 ^ rest.length :=
      Nat.mul_le_mul_right _ (by omega)
    omega

/-- A length that was read stands in front of what is left. -/
theorem readCanonicalLength_eq_ok_iff {bytes rest : Bytes} {length : Nat} :
    readCanonicalLength bytes = .ok (length, rest) ↔
      length < 256 ^ 8 ∧ bytes = encode 8 length ++ rest := by
  rw [readCanonicalLength, guard_eq_ok_iff, not_lt, Except.ok.injEq, Prod.mk.injEq]
  constructor
  · rintro ⟨hlong, rfl, rfl⟩
    have htake : (bytes.take 8).length = 8 := List.length_take_of_le hlong
    have hlt := decode_lt (bytes.take 8)
    have hencode := encode_decode (bytes.take 8)
    rw [htake] at hlt hencode
    exact ⟨hlt, by rw [hencode, List.take_append_drop]⟩
  · rintro ⟨hlt, rfl⟩
    refine ⟨by simp, ?_, ?_⟩
    · rw [List.take_left' (length_encode 8 length), decode_encode hlt]
    · rw [List.drop_left' (length_encode 8 length)]

theorem readCanonicalLength_encode {length : Nat} (h : length < 256 ^ 8) (rest : Bytes) :
    readCanonicalLength (encode 8 length ++ rest) = .ok (length, rest) :=
  readCanonicalLength_eq_ok_iff.2 ⟨h, rfl⟩

/-- The value a sign and a magnitude in range denote. -/
theorem toInt_signed {magnitude : Nat} (negative : Prop) [Decidable negative]
    (h : magnitude ≤ 2 ^ 63) (hnegative : ¬ negative → magnitude ≤ 2 ^ 63 - 1) :
    (if negative then
        if magnitude = 2 ^ 63 - 1 + 1 then Int64.minValue else -Int64.ofNat magnitude
      else Int64.ofNat magnitude).toInt = if negative then -(magnitude : Int) else magnitude := by
  split_ifs with hsign hmin
  · rw [Int64.toInt_minValue, hmin]
    norm_num
  · have hneg : -Int64.ofNat magnitude = Int64.ofInt (-(magnitude : Int)) := by
      rw [Int64.ofInt_neg]
      rfl
    rw [hneg, Int64.toInt_ofInt_of_le (by omega) (by omega)]
  · exact Int64.toInt_ofNat_of_lt (by have := hnegative hsign; omega)

/-- Whatever `decodeInteger` accepts is the sign and the framed magnitude of the integer it
    returns. -/
theorem decodeInteger_sound {bytes rest : Bytes} {value : CanonicalValue}
    (h : decodeInteger bytes = .ok (value, rest)) :
    value.validate = .ok () ∧ 0x02 :: bytes = appendCanonical value ++ rest := by
  rcases bytes with _ | ⟨sign, bytes⟩
  · exact absurd h (by simp [decodeInteger])
  rw [decodeInteger, guard_eq_ok_iff, bind_eq_ok_iff] at h
  obtain ⟨hflag, ⟨width, body⟩, hread, h⟩ := h
  obtain ⟨-, rfl⟩ := readCanonicalLength_eq_ok_iff.1 hread
  simp only [guard_eq_ok_iff, Except.ok.injEq, Prod.mk.injEq] at h
  obtain ⟨hwidth, hzero, hrange, rfl, rfl⟩ := h
  refine ⟨validate_fromInteger _, ?_⟩
  have htake : (body.take width).length = width := List.length_take_of_le (by omega)
  have hne : body.take width ≠ [] := List.ne_nil_of_length_pos (by omega)
  have hhead : (body.take width).head? = body.head? := by
    rw [List.head?_take, if_neg (by omega)]
  set magnitude := decode (body.take width) with hmagnitude
  obtain ⟨hplus, hminus⟩ := not_or.1 hrange
  have hplus : sign ≠ 1 → magnitude ≤ 2 ^ 63 - 1 := by
    intro hsign
    exact not_lt.1 fun hbig => hplus ⟨hsign, hbig⟩
  have hminus : sign = 1 → 0 < magnitude ∧ magnitude ≤ 2 ^ 63 := by
    intro hsign
    have hinside := not_or.1 fun hbad => hminus ⟨hsign, hbad⟩
    omega
  have hle : magnitude ≤ 2 ^ 63 := by
    by_cases hsign : sign = 1
    · exact (hminus hsign).2
    · exact (hplus hsign).trans (by omega)
  have hvalue := toInt_signed (sign = 1) hle hplus
  set value : Int64 := if sign = 1 then _ else _ with hdef
  have habs : CanonicalValue.magnitude value = magnitude := by
    rw [magnitude_eq, hvalue]
    split_ifs
    · omega
    · omega
  have hbytes : magnitudeBytes value = body.take width := by
    have hlt := decode_lt (body.take width)
    have hfit : magnitudeWidth 8 magnitude 1 = width := by
      refine magnitudeWidth_eq (by omega) (by omega) (by rwa [htake] at hlt) ?_
      intro hmany
      by_contra hsmall
      refine hzero ⟨hmany, ?_⟩
      rw [← hhead, head_eq_zero_iff hne, htake]
      omega
    have hencode := encode_decode (body.take width)
    rw [htake] at hencode
    rw [magnitudeBytes, habs, hfit, hencode]
  have hsign : (if value.toInt < 0 then (0x01 : UInt8) else 0x00) = sign := by
    rw [hvalue]
    by_cases hone : sign = 1
    · subst hone
      have hpositive := (hminus rfl).1
      rw [if_pos rfl, if_pos (by omega)]
    · have hnot : sign.toNat ≤ 1 := UInt8.le_iff_toNat_le.1 (UInt8.not_lt.1 hflag)
      have hne1 : sign.toNat ≠ 1 := fun heq => hone (UInt8.toNat_inj.1 heq)
      rw [if_neg hone, if_neg (by omega)]
      exact UInt8.toNat_inj.1 (by simp; omega)
  rw [appendCanonical_fromInteger, hbytes, hsign, framed, htake, List.append_assoc,
    List.append_assoc, List.take_append_drop]
  rfl

theorem decodeInteger_append (number : Int64) (rest : Bytes) :
    decodeInteger ((if number.toInt < 0 then 0x01 else 0x00) ::
      (framed (magnitudeBytes number) ++ rest)) = .ok (fromInteger number, rest) := by
  obtain ⟨hpos, hwidth, hdecode, hge⟩ := magnitudeBytes_spec number
  have hmagnitude := magnitude_eq number
  have hlow := number.le_toInt
  have hhigh := number.toInt_lt
  have hne : magnitudeBytes number ≠ [] := List.ne_nil_of_length_pos hpos
  have hhead : (magnitudeBytes number ++ rest).head? = (magnitudeBytes number).head? :=
    List.head?_append_of_ne_nil _ hne
  have hsign : (if number.toInt < 0 then (0x01 : UInt8) else 0x00) = 1 ↔ number.toInt < 0 := by
    split_ifs with hneg
    · simp [hneg]
    · simp [hneg]
  have hflag : ¬ (if number.toInt < 0 then (0x01 : UInt8) else 0x00) > 1 := by
    split_ifs
    · decide
    · decide
  have hfits : ¬ ((magnitudeBytes number).length = 0 ∨ (magnitudeBytes number).length > 8 ∨
      (magnitudeBytes number).length > (magnitudeBytes number ++ rest).length) := by
    rw [List.length_append]
    omega
  rw [framed, List.append_assoc, decodeInteger, if_neg hflag,
    readCanonicalLength_encode (by omega)]
  simp only [ok_bind]
  rw [if_neg hfits, hhead, List.take_left, List.drop_left, hdecode, if_neg, if_neg]
  · refine congrArg (fun value => Except.ok (fromInteger value, rest)) ?_
    apply Int64.toInt_inj.1
    rw [toInt_signed _ (by omega) (by rw [hsign]; omega)]
    simp only [hsign]
    split_ifs
    · omega
    · omega
  · rw [ne_eq, hsign]
    omega
  · rintro ⟨hmany, hzero⟩
    have hle := hge hmany
    rw [head_eq_zero_iff hne, hdecode] at hzero
    omega

/-! ## What the decoder accepts is an encoding -/

theorem decodeString_sound {make : Bytes → CanonicalValue} {bytes rest : Bytes}
    {value : CanonicalValue} (h : decodeString make bytes = .ok (value, rest)) :
    ∃ content, value = make content ∧ bytes = framed content ++ rest := by
  rw [decodeString, bind_eq_ok_iff] at h
  obtain ⟨⟨length, body⟩, hread, h⟩ := h
  obtain ⟨-, rfl⟩ := readCanonicalLength_eq_ok_iff.1 hread
  simp only [guard_eq_ok_iff, Except.ok.injEq, Prod.mk.injEq] at h
  obtain ⟨hlong, rfl, rfl⟩ := h
  refine ⟨body.take length, rfl, ?_⟩
  rw [framed, List.length_take_of_le (by omega), List.append_assoc, List.take_append_drop]

theorem decodeItems_sound {decodeItem : Bytes → Result CanonicalValue}
    (hitem : ∀ bytes item, decodeItem bytes = .ok item → appendCanonical item = bytes)
    {count : Nat} {bytes rest : Bytes} {values : List CanonicalValue}
    (h : decodeItems decodeItem count bytes = .ok (values, rest)) :
    values.length = count ∧ bytes = (values.map appendCanonical).flatMap framed ++ rest := by
  induction count generalizing bytes values with
  | zero =>
      obtain ⟨rfl, rfl⟩ := Prod.mk.injEq .. ▸ Except.ok.inj h
      exact ⟨rfl, rfl⟩
  | succ count ih =>
      rw [decodeItems, bind_eq_ok_iff] at h
      obtain ⟨⟨length, body⟩, hread, h⟩ := h
      obtain ⟨-, rfl⟩ := readCanonicalLength_eq_ok_iff.1 hread
      simp only [guard_eq_ok_iff, bind_eq_ok_iff, Except.ok.injEq, Prod.mk.injEq] at h
      obtain ⟨hlong, item, hdecode, ⟨values, tail⟩, htail, rfl, rfl⟩ := h
      obtain ⟨hcount, hrest⟩ := ih htail
      refine ⟨by rw [List.length_cons, hcount], ?_⟩
      rw [List.map_cons, List.flatMap_cons, List.append_assoc, ← hrest, hitem _ _ hdecode, framed,
        List.length_take_of_le (by omega), List.append_assoc, List.take_append_drop]

theorem decodeTagged_sound {decodeItem : Bytes → Result CanonicalValue}
    (hitem : ∀ bytes item, decodeItem bytes = .ok item → appendCanonical item = bytes)
    {tag : UInt8} {bytes rest : Bytes} {value : CanonicalValue}
    (h : decodeTagged decodeItem tag bytes = .ok (value, rest)) :
    tag :: bytes = appendCanonical value ++ rest := by
  unfold decodeTagged at h
  split_ifs at h with hnull hboolean hinteger hbytes hstring htuple
  · obtain ⟨rfl, rfl⟩ := Prod.mk.injEq .. ▸ Except.ok.inj h
    rw [hnull]
    rfl
  · subst hboolean
    rcases bytes with _ | ⟨flag, bytes⟩
    · exact absurd h (by simp)
    · simp only [guard_eq_ok_iff, Except.ok.injEq, Prod.mk.injEq] at h
      obtain ⟨hflag, rfl, rfl⟩ := h
      have hle : flag.toNat ≤ 1 := UInt8.le_iff_toNat_le.1 (UInt8.not_lt.1 hflag)
      rw [appendCanonical_fromBoolean]
      by_cases hone : flag = 1
      · subst hone
        rfl
      · have hzero : flag = 0 := by
          have hne : flag.toNat ≠ 1 := fun heq => hone (UInt8.toNat_inj.1 heq)
          exact UInt8.toNat_inj.1 (by simp; omega)
        subst hzero
        rfl
  · rw [hinteger]
    exact (decodeInteger_sound h).2
  · obtain ⟨content, rfl, rfl⟩ := decodeString_sound h
    rw [hbytes, appendCanonical_fromBytes]
    rfl
  · obtain ⟨content, rfl, rfl⟩ := decodeString_sound h
    rw [hstring, appendCanonical_fromString]
    rfl
  · rw [decodeTuple, bind_eq_ok_iff] at h
    obtain ⟨⟨count, body⟩, hread, h⟩ := h
    obtain ⟨-, rfl⟩ := readCanonicalLength_eq_ok_iff.1 hread
    simp only [guard_eq_ok_iff, bind_eq_ok_iff, Except.ok.injEq, Prod.mk.injEq] at h
    obtain ⟨-, ⟨values, tail⟩, hvalues, rfl, rfl⟩ := h
    obtain ⟨hcount, rfl⟩ := decodeItems_sound hitem hvalues
    rw [htuple, appendCanonical_fromTuple, hcount, List.cons_append, List.append_assoc]

/-- An accepted byte string is the encoding of the valid value it decodes to. -/
theorem decodeNested_sound (levels : Nat) :
    ∀ (bytes : Bytes) (value : CanonicalValue), decodeNested levels bytes = .ok value →
      value.validate = .ok () ∧ appendCanonical value = bytes := by
  induction levels with
  | zero =>
      intro bytes value h
      exact absurd h (by simp [decodeNested])
  | succ levels ih =>
      intro bytes value h
      rcases bytes with _ | ⟨tag, bytes⟩
      · exact absurd h (by simp [decodeNested])
      · rw [decodeNested, bind_eq_ok_iff] at h
        obtain ⟨⟨output, rest⟩, htagged, h⟩ := h
        simp only [guard_eq_ok_iff, seq_eq_ok_iff, Except.ok.injEq] at h
        obtain ⟨hrest, hvalid, rfl⟩ := h
        have hempty : rest = [] := by simpa using hrest
        have hbytes := decodeTagged_sound (fun bytes item hitem => (ih bytes item hitem).2) htagged
        rw [hempty, List.append_nil] at hbytes
        exact ⟨hvalid, hbytes.symm⟩

/-! ## Decoding an encoding -/

theorem decodeString_append (make : Bytes → CanonicalValue) {content : Bytes}
    (h : content.length < 256 ^ 8) (rest : Bytes) :
    decodeString make (framed content ++ rest) = .ok (make content, rest) := by
  rw [framed, List.append_assoc, decodeString, readCanonicalLength_encode h]
  simp only [ok_bind]
  rw [if_neg (by rw [List.length_append]; omega), List.take_left, List.drop_left]

theorem decodeItems_append {decodeItem : Bytes → Result CanonicalValue}
    {items : List CanonicalValue} (rest : Bytes)
    (hitem : ∀ item ∈ items, decodeItem (appendCanonical item) = .ok item)
    (hne : ∀ item ∈ items, appendCanonical item ≠ [])
    (hfits : ∀ item ∈ items, (appendCanonical item).length < 256 ^ 8) :
    decodeItems decodeItem items.length ((items.map appendCanonical).flatMap framed ++ rest) =
      .ok (items, rest) := by
  induction items with
  | nil => rfl
  | cons item items ih =>
      rw [List.forall_mem_cons] at hitem hne hfits
      have hpos : (appendCanonical item).length ≠ 0 := fun hzero =>
        hne.1 (List.length_eq_zero_iff.1 hzero)
      rw [List.map_cons, List.flatMap_cons, List.append_assoc, framed, List.append_assoc,
        List.length_cons, decodeItems, readCanonicalLength_encode hfits.1]
      simp only [ok_bind]
      rw [if_neg (by rw [List.length_append]; omega), List.take_left, List.drop_left, hitem.1,
        ih hitem.2 hne.2 hfits.2]
      rfl

/-- Nine bytes at least for each item: its length and its tag. -/
theorem nine_mul_length_le {items : List CanonicalValue}
    (hne : ∀ item ∈ items, appendCanonical item ≠ []) :
    9 * items.length ≤ ((items.map appendCanonical).flatMap framed).length := by
  induction items with
  | nil => simp
  | cons item items ih =>
      rw [List.forall_mem_cons] at hne
      have hpos := List.length_pos_iff.2 hne.1
      have hrest := ih hne.2
      rw [List.map_cons, List.flatMap_cons, List.length_append, length_framed, List.length_cons]
      omega

/-- The switch over the tag reads an encoding that a vector can hold, whatever comes behind it. -/
def ReadsBack (value : CanonicalValue) : Prop :=
  ∀ levels rest, (appendCanonical value).length ≤ levels + 1 →
    (appendCanonical value).length < 256 ^ 8 →
    ∃ tag payload, appendCanonical value = tag :: payload ∧
      decodeTagged (decodeNested levels) tag (payload ++ rest) = .ok (value, rest)

theorem ReadsBack.decodeNested_eq {value : CanonicalValue} (h : ReadsBack value)
    (hvalid : value.validate = .ok ()) {levels : Nat}
    (hlevels : (appendCanonical value).length ≤ levels)
    (hfits : (appendCanonical value).length < 256 ^ 8) :
    decodeNested levels (appendCanonical value) = .ok value := by
  have hpos := List.length_pos_iff.2 (appendCanonical_ne_nil hvalid)
  obtain ⟨levels, rfl⟩ := Nat.exists_eq_add_one_of_ne_zero (show levels ≠ 0 by omega)
  obtain ⟨tag, payload, hbytes, hdecode⟩ := h levels [] hlevels hfits
  rw [List.append_nil] at hdecode
  rw [hbytes, decodeNested, hdecode]
  simp [hvalid]

theorem readsBack_tuple {items : List CanonicalValue}
    (h : ∀ item ∈ items, item.validate = .ok () ∧ ReadsBack item) :
    ReadsBack (fromTuple items) := by
  intro levels rest hlevels hfits
  refine ⟨_, _, appendCanonical_fromTuple items, ?_⟩
  rw [appendCanonical_fromTuple, List.length_cons, List.length_append, length_encode]
    at hlevels hfits
  have hne : ∀ item ∈ items, appendCanonical item ≠ [] := by
    intro item hitem
    exact appendCanonical_ne_nil (h item hitem).1
  -- an item is shorter than the tuple, so one level less is enough for it
  have hshort : ∀ item ∈ items, 8 + (appendCanonical item).length ≤
      ((items.map appendCanonical).flatMap framed).length := by
    intro item hitem
    exact length_le_of_mem_flatMap (List.mem_map_of_mem hitem)
  have hitem : ∀ item ∈ items, decodeNested levels (appendCanonical item) = .ok item := by
    intro item hitem
    have hlength := hshort item hitem
    exact (h item hitem).2.decodeNested_eq (h item hitem).1 (by omega) (by omega)
  have hsmall : ∀ item ∈ items, (appendCanonical item).length < 256 ^ 8 := by
    intro item hitem
    have hlength := hshort item hitem
    omega
  have hcount := nine_mul_length_le hne
  show decodeTuple (decodeNested levels) _ = _
  rw [List.append_assoc, decodeTuple, readCanonicalLength_encode (by omega)]
  simp only [ok_bind]
  rw [if_neg (by rw [List.length_append]; omega), decodeItems_append rest hitem hne hsmall]
  rfl

/-- **Every valid value reads back.** -/
theorem readsBack {value : CanonicalValue} (h : value.validate = .ok ()) : ReadsBack value := by
  refine validInduct ?_ ?_ ?_ ?_ ?_ ?_ value h
  · intro levels rest _ _
    exact ⟨_, _, appendCanonical_null, rfl⟩
  · intro flag levels rest _ _
    refine ⟨_, _, appendCanonical_fromBoolean flag, ?_⟩
    cases flag with
    | false => rfl
    | true => rfl
  · intro number levels rest _ _
    exact ⟨_, _, appendCanonical_fromInteger number, decodeInteger_append number rest⟩
  · intro content levels rest _ hfits
    rw [appendCanonical_fromBytes, List.length_cons, length_framed] at hfits
    exact ⟨_, _, appendCanonical_fromBytes content,
      decodeString_append fromBytes (by omega) rest⟩
  · intro text _ levels rest _ hfits
    rw [appendCanonical_fromString, List.length_cons, length_framed] at hfits
    exact ⟨_, _, appendCanonical_fromString text, decodeString_append fromString (by omega) rest⟩
  · exact fun items hitems => readsBack_tuple hitems

/-- An encoding says where it ends: texts that start with encodings agree on them. -/
theorem appendCanonical_append_inj {a b : CanonicalValue} (ha : a.validate = .ok ())
    (hb : b.validate = .ok ()) (hfa : (appendCanonical a).length < 256 ^ 8)
    (hfb : (appendCanonical b).length < 256 ^ 8) {s t : Bytes}
    (h : appendCanonical a ++ s = appendCanonical b ++ t) : a = b ∧ s = t := by
  obtain ⟨tag, payload, hbytes, hdecode⟩ :=
    readsBack ha ((appendCanonical a).length + (appendCanonical b).length) s (by omega) hfa
  obtain ⟨tag', payload', hbytes', hdecode'⟩ :=
    readsBack hb ((appendCanonical a).length + (appendCanonical b).length) t (by omega) hfb
  rw [hbytes, hbytes', List.cons_append, List.cons_append, List.cons.injEq] at h
  rw [h.1, h.2, hdecode'] at hdecode
  obtain ⟨hvalue, hrest⟩ := Prod.mk.injEq .. ▸ Except.ok.inj hdecode
  exact ⟨hvalue.symm, hrest.symm⟩

/-! ## The codec -/

theorem canonicalBinary_eq_ok_iff {value : CanonicalValue} {bytes : Bytes} :
    canonicalBinary value = .ok bytes ↔
      value.validate = .ok () ∧ bytes.length ≤ vectorMaxSize ∧ appendCanonical value = bytes := by
  rw [canonicalBinary, seq_eq_ok_iff]
  simp only [guard_eq_ok_iff, Except.ok.injEq, not_lt]
  refine and_congr_right fun _ => ?_
  constructor
  · rintro ⟨hsize, rfl⟩
    exact ⟨hsize, rfl⟩
  · rintro ⟨hsize, rfl⟩
    exact ⟨hsize, rfl⟩

theorem canonicalBinary_of_decode {bytes : Bytes} {value : CanonicalValue}
    (hsize : bytes.length ≤ vectorMaxSize) (h : decodeCanonicalValue bytes = .ok value) :
    canonicalBinary value = .ok bytes := by
  obtain ⟨hvalid, hbytes⟩ := decodeNested_sound _ _ _ h
  exact canonicalBinary_eq_ok_iff.2 ⟨hvalid, hsize, hbytes⟩

theorem decode_of_canonicalBinary {bytes : Bytes} {value : CanonicalValue}
    (h : canonicalBinary value = .ok bytes) : canonicalBinaryDecode bytes = .ok value := by
  obtain ⟨hvalid, hsize, rfl⟩ := canonicalBinary_eq_ok_iff.1 h
  have hfits : (appendCanonical value).length < 256 ^ 8 := by
    rw [vectorMaxSize] at hsize
    omega
  have hdecode : decodeCanonicalValue (appendCanonical value) = .ok value :=
    (readsBack hvalid).decodeNested_eq hvalid le_rfl hfits
  rw [canonicalBinaryDecode, hdecode, ok_bind, h, ok_bind, if_neg (not_not.2 rfl)]

theorem canonicalBinary_of_canonicalBinaryDecode {bytes : Bytes} {value : CanonicalValue}
    (h : canonicalBinaryDecode bytes = .ok value) : canonicalBinary value = .ok bytes := by
  simp only [canonicalBinaryDecode, bind_eq_ok_iff, guard_eq_ok_iff, Except.ok.injEq] at h
  obtain ⟨decoded, -, encoded, hencode, hsame, rfl⟩ := h
  rw [hencode, not_not.1 hsame]

/-- **The canonical tuple codec.** Encoding and decoding are inverse to each other, the decoder's
    last comparison rejects nothing, and encodings are injective and prefix-free. Only a vector that
    cannot hold the encoding of a valid value keeps it from being encoded. -/
theorem canonicalBinary_codec :
    (∀ value : CanonicalValue, value.validate = .ok () → canonicalBinary value ≠ .error lengthError →
      ∃ bytes, canonicalBinary value = .ok bytes ∧ canonicalBinaryDecode bytes = .ok value) ∧
    (∀ bytes value, canonicalBinaryDecode bytes = .ok value → canonicalBinary value = .ok bytes) ∧
    (∀ bytes value, bytes.length ≤ vectorMaxSize → decodeCanonicalValue bytes = .ok value →
      canonicalBinary value = .ok bytes ∧ canonicalBinaryDecode bytes = .ok value) ∧
    (∀ a b bytes, canonicalBinary a = .ok bytes → canonicalBinary b = .ok bytes → a = b) ∧
    ∀ a b x y, canonicalBinary a = .ok x → canonicalBinary b = .ok y → x <+: y → x = y := by
  refine ⟨?_, ?_, ?_, ?_, ?_⟩
  · intro value hvalid hsize
    have hbinary : canonicalBinary value = .ok (appendCanonical value) := by
      refine canonicalBinary_eq_ok_iff.2 ⟨hvalid, ?_, rfl⟩
      by_contra hlong
      exact hsize (by rw [canonicalBinary, hvalid, ok_bind, if_pos (not_le.1 hlong)])
    exact ⟨_, hbinary, decode_of_canonicalBinary hbinary⟩
  · intro bytes value h
    exact canonicalBinary_of_canonicalBinaryDecode h
  · intro bytes value hsize h
    have hbinary := canonicalBinary_of_decode hsize h
    exact ⟨hbinary, decode_of_canonicalBinary hbinary⟩
  · intro a b bytes ha hb
    have hdecode := decode_of_canonicalBinary ha
    rw [decode_of_canonicalBinary hb] at hdecode
    exact (Except.ok.inj hdecode).symm
  · intro a b x y ha hb hstarts
    obtain ⟨hvalid, hsize, rfl⟩ := canonicalBinary_eq_ok_iff.1 ha
    obtain ⟨hvalid', hsize', rfl⟩ := canonicalBinary_eq_ok_iff.1 hb
    obtain ⟨rest, hrest⟩ := hstarts
    rw [vectorMaxSize] at hsize hsize'
    have hsame := appendCanonical_append_inj hvalid hvalid' (by omega) (by omega)
      (hrest.trans (List.append_nil _).symm)
    rw [hsame.1]

/-- A nested tuple with the least integer. -/
def sampleTuple : CanonicalValue :=
  fromTuple [fromInteger Int64.minValue, fromTuple [fromString "a", null, fromBytes []]]

theorem canonicalBinary_codec_sample :
    ∃ bytes, canonicalBinary sampleTuple = .ok bytes ∧
      canonicalBinaryDecode bytes = .ok sampleTuple :=
  canonicalBinary_codec.1 sampleTuple (by decide) (by decide)

end Cxxlens.Sdk.CanonicalValue
