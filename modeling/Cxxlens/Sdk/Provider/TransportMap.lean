import Cxxlens.Sdk.Provider.ControlMap
import Cxxlens.Sdk.Provider.Values

set_option autoImplicit false

/-! # Control maps of the NG1 transport

`encode_cbor_map` and `decode_cbor_map` of `provider_ng1_transport.cpp`. They are written apart from
those of the columnar codec, with errors of their own, a bound on the size of a control and a number
of fields that is known beforehand; what they accept is the same. -/

namespace Cxxlens.Sdk.Provider.Transport

open Fallible Sorting Span ProtocolV2.Cbor

/-! ## Encoding -/

/-- The checks of the loop of `encode_cbor_map`; `keys` has been seen. -/
def checkFields : (keys : List Bytes) → CborFields → Result Unit
  | _, [] => .ok ()
  | keys, (key, value) :: rest => do
    reject (keys.contains key) (transportError "cbor" "duplicate-key")
    reject (!validUtf8 key) (transportError "cbor-key" "invalid-utf8")
    reject (!value.valid) (transportError key "invalid-utf8")
    checkFields (key :: keys) rest

/-- `encode_cbor_map` -/
def encodeCborMap (fields : CborFields) : Result Bytes := do
  checkFields [] fields
  .ok (mapBytes (sortBy controlLess fields))

/-! ## Decoding -/

/-- `ng1_max_control_bytes` -/
def maxControlBytes : Nat := 65536

/-- `decode_cbor_argument`, of the head whose initial byte is at `offset` -/
def decodeCborArgument (input : Bytes) (offset : Nat) : Result Head :=
  (headAt true input offset).mapError fun
    | .nonShortest => transportError "cbor" "non-shortest"
    | _ => transportError "cbor" "truncated-or-indefinite"

theorem decodeCborArgument_eq_ok_iff {input : Bytes} {offset : Nat} {h : Head} :
    decodeCborArgument input offset = .ok h ↔ Sdk.decodeCborArgument input offset = .ok h := by
  unfold decodeCborArgument Sdk.decodeCborArgument
  cases headAt true input offset with
  | error fault => simp [Except.mapError]
  | ok value => simp [Except.mapError]

/-- `decode_cbor_scalar` -/
def decodeCborScalar (input : Bytes) (offset : Nat) : Result (CborScalar × Nat) := do
  match input[offset]? with
  | none => .error (transportError "cbor" "truncated")
  | some initial =>
    let major := Major.ofInitial initial
    reject (major != .unsignedInteger && major != .text) (transportError "cbor" "scalar-type")
    match hargument : decodeCborArgument input offset with
    | .error error => .error error
    | .ok argument =>
      if major = .unsignedInteger then .ok (.number (UInt64.ofNat argument.argument), argument.next)
      else if argument.argument > input.length - argument.next then
        .error (transportError "cbor" "text-length")
      else
        let text : Text := ⟨slice input argument.next (argument.next + argument.argument), by
          have hlt := headAt_argument_lt (decodeCborArgument_eq_ok_iff.1 hargument)
          rw [slice, List.length_take]
          omega⟩
        if validUtf8 text.bytes = false then .error (transportError "cbor" "invalid-utf8")
        else .ok (.text text, argument.next + text.bytes.length)

/-- A key is a text. -/
def decodeCborKey (input : Bytes) (offset : Nat) : Result (Text × Nat) :=
  match decodeCborScalar input offset with
  | .ok (.text key, next) => .ok (key, next)
  | _ => .error (transportError "cbor" "map-key-type")

/-- The loop of `decode_cbor_map`. -/
def decodeEntries (input : Bytes) :
    (count offset : Nat) → (previousKey : Bytes) → (output : CborFields) → Result (CborFields × Nat)
  | 0, offset, _, output => .ok (output, offset)
  | count + 1, offset, previousKey, output => do
    let (key, next) ← decodeCborKey input offset
    let encodedKey := slice input offset next
    reject (!previousKey.isEmpty && !shortlexLess previousKey encodedKey)
      (transportError "cbor" "map-order-or-duplicate")
    let (value, next) ← decodeCborScalar input next
    reject (output.any fun field => field.1 == key.bytes) (transportError key.bytes "duplicate-key")
    decodeEntries input count next encodedKey (output ++ [(key.bytes, value)])

/-- `decode_cbor_map` -/
def decodeCborMap (input : Bytes) (expectedFieldCount : Nat) : Result CborFields := do
  reject (decide (input.length > maxControlBytes)) (transportError "control" "limit-exceeded")
  reject input.isEmpty (transportError "cbor" "empty")
  reject (input.head?.map Major.ofInitial != some .map) (transportError "cbor" "map-type")
  let count ← decodeCborArgument input 0
  reject (count.argument != expectedFieldCount) (transportError "cbor" "field-count")
  reject (decide (count.next > input.length) || decide (count.argument > input.length - count.next))
    (transportError "cbor" "field-count-overflow")
  let (output, offset) ← decodeEntries input count.argument count.next [] []
  reject (offset != input.length) (transportError "cbor" "trailing")
  .ok output

/-- `map_field<std::string>` -/
def mapText (fields : CborFields) (name : Bytes) : Result Text :=
  match fields.lookup name with
  | none => .error (transportError name "missing-field")
  | some (.text value) => .ok value
  | some (.number _) => .error (transportError name "field-type")

/-- `map_field<std::uint64_t>` -/
def mapNumber (fields : CborFields) (name : Bytes) : Result UInt64 :=
  match fields.lookup name with
  | none => .error (transportError name "missing-field")
  | some (.number value) => .ok value
  | some (.text _) => .error (transportError name "field-type")

/-! ## What is accepted -/

theorem toOption_decodeCborArgument (input : Bytes) (offset : Nat) :
    (decodeCborArgument input offset).toOption = (Sdk.decodeCborArgument input offset).toOption := by
  apply Option.ext
  intro h
  rw [toOption_eq_some_iff, toOption_eq_some_iff, decodeCborArgument_eq_ok_iff]

theorem toOption_reject (failed : Bool) (error : Error) :
    (reject failed error).toOption = if failed = true then none else some () := by
  rw [reject]
  split_ifs <;> rfl

/-- The scalars of the columnar codec, with other errors. -/
theorem toOption_decodeCborScalar (input : Bytes) (offset : Nat) :
    (decodeCborScalar input offset).toOption = (Sdk.decodeCborScalar input offset).toOption := by
  have hsame := @decodeCborArgument_eq_ok_iff input offset
  unfold decodeCborScalar Sdk.decodeCborScalar
  cases hinitial : input[offset]? with
  | none => rfl
  | some initial =>
      simp only [toOption_bind, toOption_reject]
      congr 1
      funext _
      split
      · rename_i error herror
        split
        · rfl
        · rename_i argument hargument
          rw [hsame.2 hargument] at herror
          cases herror
      · rename_i argument hargument
        have hother := hsame.1 hargument
        split_ifs
        all_goals
          split
          · rename_i error herror
            rw [hother] at herror
            cases herror
          · rename_i argument' hargument'
            obtain rfl := Except.ok.inj (hother.symm.trans hargument')
            first | rfl | simp [*]

theorem decodeCborScalar_eq_ok_iff {input : Bytes} {offset : Nat} {found : CborScalar × Nat} :
    decodeCborScalar input offset = .ok found ↔ Sdk.decodeCborScalar input offset = .ok found := by
  rw [← toOption_eq_some_iff, toOption_decodeCborScalar, toOption_eq_some_iff]

theorem decodeCborKey_eq_ok_iff {input : Bytes} {offset : Nat} {found : Text × Nat} :
    decodeCborKey input offset = .ok found ↔ Sdk.decodeCborKey input offset = .ok found := by
  have hscalar := toOption_decodeCborScalar input offset
  unfold decodeCborKey Sdk.decodeCborKey
  cases hleft : decodeCborScalar input offset with
  | error error =>
      cases hright : Sdk.decodeCborScalar input offset with
      | error error => simp
      | ok value =>
          rw [hleft, hright] at hscalar
          cases hscalar
  | ok value =>
      rw [decodeCborScalar_eq_ok_iff.1 hleft]
      obtain ⟨scalar, next⟩ := value
      cases scalar <;> simp

theorem decodeEntries_eq_ok_iff {input : Bytes} {found : CborFields × Nat} (count : Nat) :
    ∀ {offset : Nat} {previousKey : Bytes} {output : CborFields},
      decodeEntries input count offset previousKey output = .ok found ↔
        Sdk.decodeEntries input count offset previousKey output = .ok found := by
  induction count with
  | zero => exact fun {_ _ _} => Iff.rfl
  | succ count ih =>
      intro offset previousKey output
      simp only [decodeEntries, Sdk.decodeEntries, bind_eq_ok_iff, Unique.exists_iff,
        PUnit.default_eq_unit, reject_eq_ok_iff, decodeCborKey_eq_ok_iff,
        decodeCborScalar_eq_ok_iff, ih]

theorem fieldBytes_pos (field : Bytes × CborScalar) : 0 < (fieldBytes field).length := by
  rw [fieldBytes, List.length_append]
  have hkey := List.length_pos_iff.2 (encodedText_ne_nil field.1)
  omega

theorem length_le_flatMap_fieldBytes (fields : CborFields) :
    fields.length ≤ (fields.flatMap fieldBytes).length := by
  induction fields with
  | nil => exact le_rfl
  | cons field rest ih =>
      have hpos := fieldBytes_pos field
      rw [List.flatMap_cons, List.length_append, List.length_cons]
      omega

/-- A control map is accepted where the columnar codec accepts it, in its size and with its number
    of fields. -/
theorem decodeCborMap_eq_ok_iff {input : Bytes} {expected : Nat} {fields : CborFields} :
    decodeCborMap input expected = .ok fields ↔
      input.length ≤ maxControlBytes ∧ fields.length = expected ∧
        Sdk.decodeCborMap input = .ok fields := by
  constructor
  · intro h
    simp only [decodeCborMap, bind_eq_ok_iff, Unique.exists_iff, PUnit.default_eq_unit,
      reject_eq_ok_iff, Prod.exists, Except.ok.injEq, decodeEntries_eq_ok_iff,
      decodeCborArgument_eq_ok_iff, decide_eq_false_iff_not, not_lt, bne_eq_false_iff_eq] at h
    obtain ⟨hsize, -, hmap, count, hcount, hexpected, -, output, last, hentries, hlast, rfl⟩ := h
    obtain ⟨added, hadded, hlength, -⟩ := (Sdk.decodeEntries_eq_ok_iff (by simp)).1 hentries
    have hfields : output.length = expected := by
      rw [hadded, List.nil_append, hlength, hexpected]
    refine ⟨hsize, hfields, ?_⟩
    simp only [Sdk.decodeCborMap, bind_eq_ok_iff, Unique.exists_iff, PUnit.default_eq_unit,
      reject_eq_ok_iff, Prod.exists, Except.ok.injEq, bne_eq_false_iff_eq]
    exact ⟨hmap, count, hcount, output, last, hentries, hlast, rfl⟩
  · rintro ⟨hsize, hfields, h⟩
    simp only [Sdk.decodeCborMap, bind_eq_ok_iff, Unique.exists_iff, PUnit.default_eq_unit,
      reject_eq_ok_iff, Prod.exists, Except.ok.injEq, bne_eq_false_iff_eq] at h
    obtain ⟨hmap, count, hcount, output, last, hentries, hlast, rfl⟩ := h
    obtain ⟨added, hadded, hlength, hat, hend, -⟩ :=
      (Sdk.decodeEntries_eq_ok_iff (by simp)).1 hentries
    obtain rfl : output = added := hadded
    -- Every field takes a byte at least, so the count never exceeds what is left.
    have hroom := length_le_flatMap_fieldBytes output
    have hne : input.isEmpty = false := by
      rw [List.isEmpty_eq_false_iff]
      rintro rfl
      cases hmap
    simp only [decodeCborMap, bind_eq_ok_iff, Unique.exists_iff, PUnit.default_eq_unit,
      reject_eq_ok_iff, Prod.exists, Except.ok.injEq, decodeEntries_eq_ok_iff,
      decodeCborArgument_eq_ok_iff, decide_eq_false_iff_not, not_lt, bne_eq_false_iff_eq,
      Bool.or_eq_false_iff]
    exact ⟨hsize, hne, hmap, count, hcount, by omega, ⟨by omega, by omega⟩, output, last, hentries,
      hlast, rfl⟩

theorem checkFields_eq_ok_iff (fields : CborFields) : ∀ {keys : List Bytes},
    checkFields keys fields = .ok () ↔ Sdk.checkFields keys fields = .ok () := by
  induction fields with
  | nil => exact fun {_} => Iff.rfl
  | cons field rest ih =>
      intro keys
      obtain ⟨key, value⟩ := field
      simp only [checkFields, Sdk.checkFields, seq_eq_ok_iff, reject_eq_ok_iff, ih,
        Bool.or_eq_false_iff, and_assoc]

theorem encodeCborMap_eq_ok_iff {fields : CborFields} {output : Bytes} :
    encodeCborMap fields = .ok output ↔ Sdk.encodeCborMap fields = .ok output := by
  rw [encodeCborMap, Sdk.encodeCborMap, seq_eq_ok_iff, seq_eq_ok_iff, checkFields_eq_ok_iff]

end Cxxlens.Sdk.Provider.Transport
