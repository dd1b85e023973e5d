import Cxxlens.ProtocolV2.Cbor.Reorder
import Cxxlens.Sdk.Relation.Descriptor

set_option autoImplicit false

/-! # Control maps

The controls of provider frames are CBOR maps from texts to texts and numbers. `decode_cbor_map`
insists on the shortest heads and on ascending keys, so a map has one encoding: what is decoded is what
the fields encode to, and the other way round (`encodeCborMap_eq_ok_iff`). -/

namespace Cxxlens.Sdk

open Fallible Sorting Span ProtocolV2.Cbor

/-- `std::string`, with its size a `std::size_t`. -/
structure Text where
  bytes : Bytes
  size : bytes.length < 2 ^ 64
  deriving DecidableEq, Repr

theorem Text.ext {left right : Text} (h : left.bytes = right.bytes) : left = right := by
  cases left
  cases right
  simpa using h

/-- `cbor_scalar` -/
inductive CborScalar where
  | number (value : UInt64)
  | text (value : Text)
  deriving DecidableEq, Repr

/-- `cbor_fields`, and what `decode_cbor_map` returns -/
abbrev CborFields := List (Bytes × CborScalar)

/-- The errors of the columnar codec. -/
def columnarInvalid (field detail : Bytes) : Error :=
  { code := "provider.columnar-invalid", field := field, detail := detail }

/-! ## Encoding -/

/-- The encoded value of a field. -/
def CborScalar.encoded : CborScalar → Bytes
  | .number value => head .unsignedInteger value.toNat
  | .text value => encodedText value.bytes

/-- What is wrong with a value. -/
def CborScalar.valid : CborScalar → Bool
  | .number _ => true
  | .text value => validUtf8 value.bytes

/-- The checks of the loop of `encode_cbor_map`; `keys` has been seen. -/
def checkFields : (keys : List Bytes) → CborFields → Result Unit
  | _, [] => .ok ()
  | keys, (key, value) :: rest => do
    reject (keys.contains key || !validUtf8 key) (columnarInvalid key "cbor-key")
    reject (!value.valid) (columnarInvalid key "cbor-utf8")
    checkFields (key :: keys) rest

def fieldBytes (field : Bytes × CborScalar) : Bytes :=
  encodedText field.1 ++ field.2.encoded

/-- A map of fields in this order. -/
def mapBytes (fields : CborFields) : Bytes :=
  head .map fields.length ++ fields.flatMap fieldBytes

/-- The order of the encoded keys. -/
def controlLess (left right : Bytes × CborScalar) : Bool :=
  shortlexLess (encodedText left.1) (encodedText right.1)

/-- `encode_cbor_map` -/
def encodeCborMap (fields : CborFields) : Result Bytes := do
  checkFields [] fields
  .ok (mapBytes (sortBy controlLess fields))

/-! ## Decoding -/

/-- `decode_cbor_argument`, of the head whose initial byte is at `offset` -/
def decodeCborArgument (input : Bytes) (offset : Nat) : Result Head :=
  (headAt true input offset).mapError fun
    | .nonShortest => columnarInvalid "cbor" "non-shortest"
    | _ => columnarInvalid "cbor" "argument"

theorem decodeCborArgument_eq_ok_iff {input : Bytes} {offset : Nat} {h : Head} :
    decodeCborArgument input offset = .ok h ↔ headAt true input offset = .ok h := by
  unfold decodeCborArgument
  cases headAt true input offset with
  | error fault => simp [Except.mapError]
  | ok value => simp [Except.mapError]

theorem headAt_argument_lt {input : Bytes} {offset : Nat} {h : Head}
    (hhead : decodeCborArgument input offset = .ok h) : h.argument < 2 ^ 64 :=
  (headAt_eq_ok_iff.1 (decodeCborArgument_eq_ok_iff.1 hhead)).1

/-- `decode_cbor_scalar` -/
def decodeCborScalar (input : Bytes) (offset : Nat) : Result (CborScalar × Nat) := do
  match input[offset]? with
  | none => .error (columnarInvalid "cbor" "truncated")
  | some initial =>
    let major := Major.ofInitial initial
    reject (major != .unsignedInteger && major != .text) (columnarInvalid "cbor" "scalar-type")
    match hargument : decodeCborArgument input offset with
    | .error error => .error error
    | .ok argument =>
      if major = .unsignedInteger then .ok (.number (UInt64.ofNat argument.argument), argument.next)
      else if argument.argument > input.length - argument.next then
        .error (columnarInvalid "cbor" "text-length")
      else
        let text : Text := ⟨slice input argument.next (argument.next + argument.argument), by
          have hlt := headAt_argument_lt hargument
          rw [slice, List.length_take]
          omega⟩
        if validUtf8 text.bytes = false then .error (columnarInvalid "cbor" "utf8")
        else .ok (.text text, argument.next + text.bytes.length)

/-- A key is a text. -/
def decodeCborKey (input : Bytes) (offset : Nat) : Result (Text × Nat) :=
  match decodeCborScalar input offset with
  | .ok (.text key, next) => .ok (key, next)
  | _ => .error (columnarInvalid "cbor" "map-key")

/-- The loop of `decode_cbor_map`. -/
def decodeEntries (input : Bytes) :
    (count offset : Nat) → (previousKey : Bytes) → (output : CborFields) → Result (CborFields × Nat)
  | 0, offset, _, output => .ok (output, offset)
  | count + 1, offset, previousKey, output => do
    let (key, next) ← decodeCborKey input offset
    let encodedKey := slice input offset next
    reject (!previousKey.isEmpty && !shortlexLess previousKey encodedKey)
      (columnarInvalid "cbor" "map-order")
    let (value, next) ← decodeCborScalar input next
    reject (output.any fun field => field.1 == key.bytes) (columnarInvalid "cbor" "duplicate-key")
    decodeEntries input count next encodedKey (output ++ [(key.bytes, value)])

/-- `decode_cbor_map` -/
def decodeCborMap (input : Bytes) : Result CborFields := do
  reject (input.head?.map Major.ofInitial != some .map) (columnarInvalid "cbor" "map")
  let count ← decodeCborArgument input 0
  let (output, offset) ← decodeEntries input count.argument count.next [] []
  reject (offset != input.length) (columnarInvalid "cbor" "trailing")
  .ok output

/-- `cbor_field<std::string>` -/
def textField (fields : CborFields) (key : Bytes) : Option Text :=
  match fields.lookup key with
  | some (.text value) => some value
  | _ => none

/-- `cbor_field<std::uint64_t>` -/
def numberField (fields : CborFields) (key : Bytes) : Option UInt64 :=
  match fields.lookup key with
  | some (.number value) => some value
  | _ => none

/-! ## One encoding -/

theorem head_kind {input : Bytes} {offset : Nat} {initial : UInt8} {h : Head}
    (hinitial : input[offset]? = some initial) (hhead : headAt true input offset = .ok h) :
    Major.ofInitial initial = h.kind := by
  unfold headAt at hhead
  rw [hinitial] at hhead
  simp only at hhead
  split_ifs at hhead
  · exact congrArg Head.kind (Except.ok.inj hhead)
  · exact congrArg Head.kind (Except.ok.inj hhead)

theorem getElem_of_head {input : Bytes} {offset : Nat} {h : Head}
    (hhead : headAt true input offset = .ok h) : ∃ initial, input[offset]? = some initial := by
  unfold headAt at hhead
  cases hinitial : input[offset]? with
  | none => simp [hinitial] at hhead
  | some initial => exact ⟨initial, rfl⟩

/-- A scalar is decoded exactly where its encoding stands. -/
theorem decodeCborScalar_eq_ok_iff {input : Bytes} {offset next : Nat} {scalar : CborScalar} :
    decodeCborScalar input offset = .ok (scalar, next) ↔
      scalar.valid = true ∧ At input offset scalar.encoded ∧
        next = offset + scalar.encoded.length := by
  constructor
  · intro h
    unfold decodeCborScalar at h
    cases hinitial : input[offset]? with
    | none => simp [hinitial] at h
    | some initial =>
        simp only [hinitial, seq_eq_ok_iff, reject_eq_ok_iff] at h
        obtain ⟨hmajor, h⟩ := h
        split at h
        · cases h
        · rename_i argument hargument
          have hhead := decodeCborArgument_eq_ok_iff.1 hargument
          have hkind := head_kind hinitial hhead
          obtain ⟨hlt, hat, hnext⟩ := headAt_eq_ok_iff.1 hhead
          split_ifs at h with hunsigned hlength hutf8
          · obtain ⟨rfl, rfl⟩ := Prod.mk.inj (Except.ok.inj h)
            have hvalue : (UInt64.ofNat argument.argument).toNat = argument.argument := by
              rw [UInt64.toNat_ofNat', Nat.mod_eq_of_lt hlt]
            rw [← hkind, hunsigned] at hat hnext
            simp only [CborScalar.encoded, hvalue]
            exact ⟨rfl, hat, hnext⟩
          · obtain ⟨rfl, rfl⟩ := Prod.mk.inj (Except.ok.inj h)
            have htext : Major.ofInitial initial = .text := by
              simpa [hunsigned] using hmajor
            have hbound := hat.end_le (head_ne_nil _ _)
            have hsize : (slice input argument.next
                (argument.next + argument.argument)).length = argument.argument := by
              rw [length_slice (by omega), Nat.add_sub_cancel_left]
            rw [← hkind, htext] at hat hnext
            simp only [CborScalar.encoded, CborScalar.valid, encodedText, hsize,
              List.length_append, at_append]
            refine ⟨by simpa using hutf8, ⟨hat, ?_⟩, by omega⟩
            rw [← hnext]
            exact at_slice _ _ _
  · rintro ⟨hvalid, hat, rfl⟩
    cases scalar with
    | number value =>
        have hhead : headAt true input offset = .ok ⟨.unsignedInteger, value.toNat,
            offset + (head .unsignedInteger value.toNat).length⟩ :=
          headAt_of_at true value.toNat_lt hat
        obtain ⟨initial, hinitial⟩ := getElem_of_head hhead
        have hkind := head_kind hinitial hhead
        unfold decodeCborScalar
        simp only [hinitial, hkind]
        rw [seq_eq_ok_iff]
        refine ⟨by simp [reject], ?_⟩
        split
        · rename_i error herror
          rw [decodeCborArgument_eq_ok_iff.2 hhead] at herror
          cases herror
        · rename_i argument hargument
          rw [decodeCborArgument_eq_ok_iff.2 hhead] at hargument
          obtain rfl := Except.ok.inj hargument
          simp [CborScalar.encoded]
    | text value =>
        rw [CborScalar.encoded, encodedText, at_append] at hat
        have hhead : headAt true input offset = .ok ⟨.text, value.bytes.length,
            offset + (head .text value.bytes.length).length⟩ :=
          headAt_of_at true value.size hat.1
        obtain ⟨initial, hinitial⟩ := getElem_of_head hhead
        have hkind := head_kind hinitial hhead
        have hslice := hat.2.slice_eq
        have hlength := hat.2.length_le
        unfold decodeCborScalar
        simp only [hinitial, hkind]
        rw [seq_eq_ok_iff]
        refine ⟨by simp [reject], ?_⟩
        split
        · rename_i error herror
          rw [decodeCborArgument_eq_ok_iff.2 hhead] at herror
          cases herror
        · rename_i argument hargument
          rw [decodeCborArgument_eq_ok_iff.2 hhead] at hargument
          obtain rfl := Except.ok.inj hargument
          have hutf8 : validUtf8 value.bytes = true := hvalid
          rw [if_neg (by simp), if_neg (by simpa using hlength), if_neg (by simp [hslice, hutf8])]
          have hnext : offset + (head .text value.bytes.length).length + value.bytes.length =
              offset + (CborScalar.text value).encoded.length := by
            rw [CborScalar.encoded, encodedText, List.length_append, Nat.add_assoc]
          exact congrArg Except.ok (Prod.ext (congrArg CborScalar.text (Text.ext hslice))
            ((congrArg (_ + ·) (congrArg List.length hslice)).trans hnext))

theorem decodeCborKey_eq_ok_iff {input : Bytes} {offset next : Nat} {key : Text} :
    decodeCborKey input offset = .ok (key, next) ↔
      validUtf8 key.bytes = true ∧ At input offset (encodedText key.bytes) ∧
        next = offset + (encodedText key.bytes).length := by
  rw [show validUtf8 key.bytes = (CborScalar.text key).valid from rfl,
    show encodedText key.bytes = (CborScalar.text key).encoded from rfl,
    ← decodeCborScalar_eq_ok_iff, decodeCborKey]
  cases hscalar : decodeCborScalar input offset with
  | error error => simp
  | ok found =>
      obtain ⟨scalar, last⟩ := found
      cases scalar with
      | number value => simp
      | text value => simp

/-- A field that can be written. -/
structure ValidField (field : Bytes × CborScalar) : Prop where
  size : field.1.length < 2 ^ 64
  key : validUtf8 field.1 = true
  value : field.2.valid = true

/-- The keys ascend, after an encoded key. -/
def KeysAscend (previousKey : Bytes) (fields : CborFields) : Prop :=
  List.IsChain (fun a b => a = [] ∨ shortlexLess a b = true)
    (previousKey :: fields.map fun field => encodedText field.1)

theorem decodeEntries_eq_ok_iff {input : Bytes} {count : Nat} :
    ∀ {offset last : Nat} {previousKey : Bytes} {output entries : CborFields},
      (output.map Prod.fst).Nodup →
      (decodeEntries input count offset previousKey output = .ok (entries, last) ↔
        ∃ added : CborFields, entries = output ++ added ∧ added.length = count ∧
          At input offset (added.flatMap fieldBytes) ∧
          last = offset + (added.flatMap fieldBytes).length ∧ KeysAscend previousKey added ∧
          (∀ field ∈ added, ValidField field) ∧ (entries.map Prod.fst).Nodup) := by
  induction count with
  | zero =>
      intro offset last previousKey output entries hnodup
      simp only [decodeEntries, Except.ok.injEq, Prod.mk.injEq, List.length_eq_zero_iff]
      constructor
      · rintro ⟨rfl, rfl⟩
        exact ⟨[], by simp, rfl, by simp, by simp, .singleton _, by simp, hnodup⟩
      · rintro ⟨added, rfl, rfl, -, hlast, -⟩
        exact ⟨by simp, by simpa using hlast.symm⟩
  | succ count ih =>
      intro offset last previousKey output entries hnodup
      simp only [decodeEntries, bind_eq_ok_iff, Unique.exists_iff, PUnit.default_eq_unit,
        reject_eq_ok_iff, Prod.exists]
      constructor
      · rintro ⟨key, next, hkey, horder, value, next', hvalue, hfresh, hrest⟩
        obtain ⟨hkeyValid, hkeyAt, rfl⟩ := decodeCborKey_eq_ok_iff.1 hkey
        obtain ⟨hvalueValid, hvalueAt, rfl⟩ := decodeCborScalar_eq_ok_iff.1 hvalue
        rw [hkeyAt.slice_eq] at horder hrest
        have hfresh' : key.bytes ∉ output.map Prod.fst := by
          intro hmem
          obtain ⟨other, hother, heq⟩ := List.mem_map.1 hmem
          rw [List.any_eq_false] at hfresh
          exact hfresh other hother (beq_iff_eq.2 heq)
        have hnodup' : ((output ++ [(key.bytes, value)]).map Prod.fst).Nodup := by
          rw [List.map_append, List.nodup_append]
          refine ⟨hnodup, List.nodup_singleton _, ?_⟩
          rintro a ha b hb rfl
          obtain rfl := List.mem_singleton.1 hb
          exact hfresh' ha
        obtain ⟨added, rfl, rfl, hat, rfl, hascend, hvalid, hdistinct⟩ := (ih hnodup').1 hrest
        refine ⟨(key.bytes, value) :: added, by simp, rfl, ?_, ?_, ?_, ?_, by simpa using hdistinct⟩
        · rw [List.flatMap_cons, at_append, fieldBytes, at_append, List.length_append,
            ← Nat.add_assoc]
          exact ⟨⟨hkeyAt, hvalueAt⟩, hat⟩
        · rw [List.flatMap_cons, List.length_append, fieldBytes, List.length_append]
          dsimp only
          omega
        · rw [KeysAscend, List.map_cons, List.isChain_cons_cons]
          refine ⟨?_, hascend⟩
          rcases previousKey with _ | ⟨byte, bytes⟩
          · exact .inl rfl
          · exact .inr (by simpa using horder)
        · exact List.forall_mem_cons.2 ⟨⟨key.size, hkeyValid, hvalueValid⟩, hvalid⟩
      · rintro ⟨added, rfl, hlength, hat, rfl, hascend, hvalid, hdistinct⟩
        cases added with
        | nil => cases hlength
        | cons field rest =>
            obtain ⟨key, value⟩ := field
            rw [List.forall_mem_cons] at hvalid
            obtain ⟨⟨hsize, hkeyValid, hvalueValid⟩, hvalid⟩ := hvalid
            dsimp only at hsize hkeyValid hvalueValid
            rw [List.flatMap_cons, at_append, fieldBytes, at_append, List.length_append,
              ← Nat.add_assoc] at hat
            obtain ⟨⟨hkeyAt, hvalueAt⟩, hat⟩ := hat
            rw [KeysAscend, List.map_cons, List.isChain_cons_cons] at hascend
            refine ⟨⟨key, hsize⟩, _, decodeCborKey_eq_ok_iff.2 ⟨hkeyValid, hkeyAt, rfl⟩, ?_, value, _,
              decodeCborScalar_eq_ok_iff.2 ⟨hvalueValid, hvalueAt, rfl⟩, ?_, ?_⟩
            · rw [hkeyAt.slice_eq]
              rcases hascend.1 with rfl | hless
              · rfl
              · dsimp only at hless
                rw [hless]
                simp
            · rw [List.map_append, List.map_cons, List.nodup_append] at hdistinct
              rw [List.any_eq_false]
              intro other hother heq
              exact hdistinct.2.2 other.1 (List.mem_map_of_mem hother) key List.mem_cons_self
                (beq_iff_eq.1 heq)
            · have hnodup' : ((output ++ [(key, value)]).map Prod.fst).Nodup := by
                refine List.Nodup.sublist ?_ hdistinct
                refine List.Sublist.map _ (List.Sublist.append_left ?_ _)
                exact List.singleton_sublist.2 List.mem_cons_self
              rw [hkeyAt.slice_eq, ih hnodup']
              refine ⟨rest, by simp, by simpa using hlength, hat, ?_, hascend.2, hvalid, hdistinct⟩
              rw [List.flatMap_cons, List.length_append, fieldBytes, List.length_append]
              dsimp only
              omega

/-- A map is decoded exactly from the encoding of valid fields with ascending keys. -/
theorem decodeCborMap_eq_ok_iff {input : Bytes} {entries : CborFields} :
    decodeCborMap input = .ok entries ↔ entries.length < 2 ^ 64 ∧ input = mapBytes entries ∧
      KeysAscend [] entries ∧ (∀ field ∈ entries, ValidField field) ∧
      (entries.map Prod.fst).Nodup := by
  simp only [decodeCborMap, bind_eq_ok_iff, Unique.exists_iff, PUnit.default_eq_unit,
    reject_eq_ok_iff, Prod.exists, Except.ok.injEq]
  constructor
  · rintro ⟨hmap, count, hcount, output, last, hentries, hlast, rfl⟩
    have hhead := decodeCborArgument_eq_ok_iff.1 hcount
    obtain ⟨hlt, hat, hnext⟩ := headAt_eq_ok_iff.1 hhead
    obtain ⟨added, houtput, hlength, hatEntries, rfl, hascend, hvalid, hnodup⟩ :=
      (decodeEntries_eq_ok_iff (by simp)).1 hentries
    obtain rfl : output = added := houtput
    have hkind : count.kind = .map := by
      cases input with
      | nil => simp at hmap
      | cons initial rest =>
          rw [← @head_kind _ _ initial _ rfl hhead]
          simpa using hmap
    rw [hkind, ← hlength] at hat hnext
    refine ⟨by omega, ?_, hascend, hvalid, hnodup⟩
    rw [hnext, Nat.zero_add] at hatEntries
    have hall : At input 0 (mapBytes output) := by
      rw [mapBytes, at_append, Nat.zero_add]
      exact ⟨hat, hatEntries⟩
    refine (hall.eq_self ?_).symm
    rw [mapBytes, List.length_append]
    simp only [bne_eq_false_iff_eq] at hlast
    omega
  · rintro ⟨hlt, rfl, hascend, hvalid, hnodup⟩
    have hall : At (mapBytes entries) 0 (mapBytes entries) := at_self _
    rw [mapBytes, at_append, Nat.zero_add, ← mapBytes] at hall
    have hhead : headAt true (mapBytes entries) 0 = .ok ⟨.map, entries.length,
        0 + (head .map entries.length).length⟩ := headAt_of_at true hlt hall.1
    obtain ⟨initial, hinitial⟩ := getElem_of_head hhead
    have hkind := head_kind hinitial hhead
    refine ⟨?_, _, decodeCborArgument_eq_ok_iff.2 hhead, entries, (mapBytes entries).length,
      (decodeEntries_eq_ok_iff (by simp)).2 ⟨entries, rfl, rfl, ?_, ?_, hascend, hvalid, hnodup⟩,
      by simp, rfl⟩
    · rw [List.head?_eq_getElem?, hinitial, Option.map_some, hkind]
      rfl
    · rw [Nat.zero_add]
      exact hall.2
    · rw [mapBytes, List.length_append, Nat.zero_add]

theorem checkFields_eq_ok_iff {fields : CborFields} : ∀ {keys : List Bytes},
    checkFields keys fields = .ok () ↔ (fields.map Prod.fst).Nodup ∧
      (∀ field ∈ fields, field.1 ∉ keys ∧ validUtf8 field.1 = true ∧ field.2.valid = true) := by
  induction fields with
  | nil =>
      intro keys
      simp [checkFields]
  | cons field rest ih =>
      intro keys
      obtain ⟨key, value⟩ := field
      rw [List.forall_mem_cons]
      simp only [checkFields, seq_eq_ok_iff, reject_eq_ok_iff, ih, Bool.or_eq_false_iff,
        List.map_cons, List.nodup_cons, List.mem_cons, not_or, Bool.not_eq_false',
        List.contains_eq_mem, decide_eq_false_iff_not, List.mem_map, not_exists, not_and]
      constructor
      · rintro ⟨⟨hfresh, hkey⟩, hvalue, hnodup, hrest⟩
        exact ⟨⟨fun other hother heq => (hrest other hother).1.1 heq, hnodup⟩, ⟨hfresh, hkey, hvalue⟩,
          fun other hother => ⟨(hrest other hother).1.2, (hrest other hother).2⟩⟩
      · rintro ⟨⟨hother, hnodup⟩, ⟨hfresh, hkey, hvalue⟩, hrest⟩
        exact ⟨⟨hfresh, hkey⟩, hvalue, hnodup, fun other hmem =>
          ⟨⟨fun heq => hother other hmem heq, (hrest other hmem).1⟩, (hrest other hmem).2⟩⟩

/-- The key `controlLess` compares. -/
def controlKey (field : Bytes × CborScalar) : Nat ×ₗ Bytes :=
  shortlexKey (encodedText field.1)

theorem controlLess_compares : Compares controlLess controlKey :=
  fun a b => shortlexLess_compares (encodedText a.1) (encodedText b.1)

theorem encodedText_ne_nil (text : Bytes) : encodedText text ≠ [] := by
  rw [encodedText]
  exact List.append_ne_nil_of_left_ne_nil (head_ne_nil _ _) _

theorem controlKey_injOn {fields : CborFields} (hsize : ∀ field ∈ fields, field.1.length < 2 ^ 64)
    (hnodup : (fields.map Prod.fst).Nodup) :
    ∀ a ∈ fields, ∀ b ∈ fields, controlKey a = controlKey b → a = b := by
  intro a ha b hb h
  have hkeys : a.1 = b.1 :=
    encodedText_injective (hsize a ha) (hsize b hb) (shortlexKey_injective h)
  exact List.inj_on_of_nodup_map hnodup ha hb hkeys

/-- Ascending keys are keys in the order of `encode_cbor_map`. -/
theorem keysAscend_iff {fields : CborFields} :
    KeysAscend [] fields ↔ fields.Pairwise fun a b => controlKey a < controlKey b := by
  have hchain : KeysAscend [] fields ↔
      List.IsChain (fun a b => shortlexLess a b = true) (fields.map fun field => encodedText field.1) := by
    rw [KeysAscend, List.isChain_cons]
    have himp : ∀ {keys : List Bytes}, (∀ key ∈ keys, key ≠ []) →
        (List.IsChain (fun a b => a = [] ∨ shortlexLess a b = true) keys ↔
          List.IsChain (fun a b => shortlexLess a b = true) keys) := by
      intro keys hkeys
      constructor
      · refine List.IsChain.imp_of_mem_imp ?_
        intro a b ha _ hab
        exact hab.resolve_left (hkeys a ha)
      · exact List.IsChain.imp fun a b => .inr
    rw [himp]
    · simp
    · intro key hkey
      obtain ⟨field, -, rfl⟩ := List.mem_map.1 hkey
      exact encodedText_ne_nil _
  have htrans : Trans (fun a b : Bytes => shortlexLess a b = true)
      (fun a b => shortlexLess a b = true) (fun a b => shortlexLess a b = true) :=
    ⟨shortlexLess_trans⟩
  rw [hchain, List.isChain_iff_pairwise, List.pairwise_map]
  exact ⟨fun h => h.imp fun hab => (controlLess_compares _ _).1 hab,
    fun h => h.imp fun hab => (controlLess_compares _ _).2 hab⟩

/-- Encoding gives the one input that decodes to the fields, in some order. -/
theorem encodeCborMap_eq_ok_iff {fields : CborFields} {output : Bytes}
    (hsize : ∀ field ∈ fields, field.1.length < 2 ^ 64) (hlength : fields.length < 2 ^ 64) :
    encodeCborMap fields = .ok output ↔
      ∃ entries, entries.Perm fields ∧ decodeCborMap output = .ok entries := by
  rw [encodeCborMap, seq_eq_ok_iff, checkFields_eq_ok_iff, Except.ok.injEq]
  constructor
  · rintro ⟨⟨hnodup, hvalid⟩, rfl⟩
    have hperm := sortBy_perm controlLess fields
    have hmap : ((sortBy controlLess fields).map Prod.fst).Nodup :=
      (hperm.map Prod.fst).nodup_iff.2 hnodup
    refine ⟨sortBy controlLess fields, hperm, decodeCborMap_eq_ok_iff.2 ⟨?_, rfl, ?_, ?_, hmap⟩⟩
    · rwa [length_sortBy]
    · rw [keysAscend_iff]
      refine sortBy_pairwise_lt controlLess_compares ?_
      have hfields : fields.Nodup := List.Nodup.of_map _ hnodup
      rw [List.nodup_map_iff_inj_on hfields]
      exact controlKey_injOn hsize hnodup
    · intro field hfield
      have hmem := hperm.mem_iff.1 hfield
      exact ⟨hsize field hmem, (hvalid field hmem).2.1, (hvalid field hmem).2.2⟩
  · rintro ⟨entries, hperm, hdecode⟩
    obtain ⟨-, rfl, hascend, hvalid, hnodup⟩ := decodeCborMap_eq_ok_iff.1 hdecode
    refine ⟨⟨(hperm.map Prod.fst).nodup_iff.1 hnodup, ?_⟩, ?_⟩
    · intro field hfield
      have hfield := hvalid field (hperm.mem_iff.2 hfield)
      exact ⟨by simp, hfield.key, hfield.value⟩
    · have hsorted : sortBy controlLess entries = entries :=
        sortBy_eq_self controlLess_compares ((keysAscend_iff.1 hascend).imp fun hlt => hlt.le)
      rw [← hsorted, sortBy_eq_of_perm controlLess_compares hperm
        (controlKey_injOn (fun field hfield => (hvalid field hfield).size) hnodup)]

/-! ## Looking up -/

theorem lookup_eq_some_iff_mem {α β : Type} [BEq α] [LawfulBEq α] {entries : List (α × β)} {key : α}
    {value : β} (hnodup : (entries.map Prod.fst).Nodup) :
    entries.lookup key = some value ↔ (key, value) ∈ entries := by
  induction entries with
  | nil => simp
  | cons entry rest ih =>
      obtain ⟨first, stored⟩ := entry
      simp only [List.map_cons, List.nodup_cons] at hnodup
      rw [List.lookup_cons, List.mem_cons, Prod.mk.injEq]
      by_cases h : key = first
      · -- a later field of this name would repeat the key
        have hlater : (key, value) ∉ rest :=
          fun hmem => hnodup.1 (h ▸ List.mem_map_of_mem (f := Prod.fst) hmem)
        subst h
        simp [hlater, eq_comm]
      · have hne : (key == first) = false := by simp [h]
        rw [hne]
        simp [h, ih hnodup.2]

/-- Fields are these, in some order, when they are as many and each is there. -/
theorem perm_iff_of_nodup {fields expected : CborFields} (hnodup : (expected.map Prod.fst).Nodup) :
    fields.Perm expected ↔ fields.length = expected.length ∧ ∀ field ∈ expected, field ∈ fields := by
  constructor
  · exact fun h => ⟨h.length_eq, fun field hfield => h.mem_iff.2 hfield⟩
  · rintro ⟨hlength, hmem⟩
    have hexpected : expected.Nodup := List.Nodup.of_map _ hnodup
    exact ((List.subperm_of_subset hexpected hmem).perm_of_length_le hlength.le).symm

end Cxxlens.Sdk
