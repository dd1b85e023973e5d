import Cxxlens.ProtocolV2.Closure.Token

set_option autoImplicit false

/-! # The schema of a control map

What the walk by offsets does, said about the entries of the map instead of the bytes: every entry
names a field, no field twice, and its value goes to the field's slot. The entries may come in any
order, so the result is described by what each slot holds in the end. -/

namespace Cxxlens.ProtocolV2.Closure

open Sdk (Error Result)
open Fallible

/-! ## Names of fields -/

/-- The name `identify_field` knows a field by. -/
def WireField.key : WireField → Bytes
  | .kind => "kind"
  | .sessionId => "session_id"
  | .taskId => "task_id"
  | .taskV4Digest => "task_v4_digest"
  | .closureId => "closure_id"
  | .closureDigest => "closure_digest"
  | .manifestDigest => "manifest_digest"
  | .totalBytes => "total_bytes"
  | .chunkBytes => "chunk_bytes"
  | .chunkCount => "chunk_count"
  | .chunkIndex => "chunk_index"
  | .offset => "offset"
  | .byteCount => "byte_count"
  | .blobOrdinal => "blob_ordinal"
  | .blobDigest => "blob_digest"
  | .blobReceiptsDigest => "blob_receipts_digest"
  | .blobCount => "blob_count"
  | .transferDigest => "transfer_digest"
  | .spoolReceipt => "spool_receipt"
  | .cleanupOwner => "cleanup_owner"
  | .failurePhase => "failure_phase"
  | .reasonCode => "reason_code"
  | .observedCounters => "observed_counters"
  | .cleanupReceipt => "cleanup_receipt"
  | .unknown => ""

theorem identifyField_key (field : WireField) : identifyField field.key = field := by
  cases field <;> decide

/-- A link of the chain of comparisons in `identify_field`. -/
theorem names_ite {key name : Bytes} {field rest : WireField} (hname : field.key = name)
    (hrest : rest ≠ .unknown → key = rest.key) :
    (if key = name then field else rest) ≠ .unknown →
      key = (if key = name then field else rest).key := by
  by_cases hkey : key = name
  · intro _
    rw [if_pos hkey, hname, hkey]
  · rw [if_neg hkey]
    exact hrest

/-- `identify_field` answers a known field for its name only. -/
theorem eq_key_of_identifyField {key : Bytes} :
    identifyField key ≠ .unknown → key = (identifyField key).key := by
  unfold identifyField
  iterate 24 refine names_ite rfl ?_
  exact fun h => absurd rfl h

/-- The field a shape belongs to. -/
def FieldShape.field : FieldShape → WireField
  | .kind => .kind
  | .text .sessionText => .sessionId
  | .text .taskText => .taskId
  | .text .taskV4Text => .taskV4Digest
  | .text .closureIdText => .closureId
  | .text .closureDigestText => .closureDigest
  | .text .manifestDigestText => .manifestDigest
  | .text .blobDigestText => .blobDigest
  | .text .blobReceiptsText => .blobReceiptsDigest
  | .text .transferDigestText => .transferDigest
  | .text .spoolReceiptText => .spoolReceipt
  | .text .cleanupOwnerText => .cleanupOwner
  | .text .failurePhaseText => .failurePhase
  | .text .reasonCodeText => .reasonCode
  | .text .cleanupReceiptText => .cleanupReceipt
  | .number .totalNumber => .totalBytes
  | .number .chunkBytesNumber => .chunkBytes
  | .number .chunkCountNumber => .chunkCount
  | .number .blobOrdinalNumber => .blobOrdinal
  | .number .chunkIndexNumber => .chunkIndex
  | .number .offsetNumber => .offset
  | .number .byteCountNumber => .byteCount
  | .number .blobCountNumber => .blobCount
  | .counters => .observedCounters
  | .unknown => .unknown

/-- No two fields share a slot. -/
theorem shape_injective : Function.Injective WireField.shape := by
  have hinverse : Function.LeftInverse FieldShape.field WireField.shape := by
    intro field
    cases field <;> rfl
  exact hinverse.injective

/-! ## Masks -/

theorem index_injective : Function.Injective WireField.index := by
  intro left right h
  cases left <;> cases right <;> first | rfl | exact absurd h (by decide)

theorem index_lt (field : WireField) : field.index < 32 := by
  cases field <;> decide

theorem getLsbD_mask_append (fields : List WireField) (start : BitVec 32) (field : WireField) :
    (fields.foldl (fun output field => output ||| fieldBit field) start).getLsbD field.index =
      (start.getLsbD field.index || decide (field ∈ fields)) := by
  induction fields generalizing start with
  | nil => simp
  | cons head rest ih =>
      have hbit : (fieldBit head).getLsbD field.index = decide (field = head) := by
        rw [fieldBit, BitVec.getLsbD_twoPow]
        have hiff : head.index = field.index ↔ field = head :=
          ⟨fun h => (index_injective h).symm, fun h => by rw [h]⟩
        simp [index_lt, hiff]
      rw [List.foldl_cons, ih, BitVec.getLsbD_or, hbit]
      simp [List.mem_cons, Bool.or_assoc]

/-- A mask holds the bits of its fields. -/
theorem getLsbD_mask (fields : List WireField) (field : WireField) :
    (mask fields).getLsbD field.index = decide (field ∈ fields) := by
  rw [mask, getLsbD_mask_append]
  simp

theorem mask_concat (fields : List WireField) (field : WireField) :
    mask (fields ++ [field]) = mask fields ||| fieldBit field := by
  rw [mask, List.foldl_append]
  rfl

/-- The test `(seen & field_bit(field)) != 0` of the parser. -/
theorem mask_and_fieldBit_ne_zero (fields : List WireField) (field : WireField) :
    mask fields &&& fieldBit field ≠ 0 ↔ field ∈ fields := by
  have hne : BitVec.twoPow 32 field.index ≠ 0 := by
    cases field <;> decide
  rw [fieldBit, BitVec.and_twoPow, getLsbD_mask]
  by_cases hmem : field ∈ fields
  · simpa [hmem] using hne
  · simp [hmem]

theorem mem_iff_of_mask_eq {left right : List WireField} (h : mask left = mask right)
    (field : WireField) : field ∈ left ↔ field ∈ right := by
  have hbit := congrArg (fun bits => bits.getLsbD field.index) h
  simp only [getLsbD_mask] at hbit
  exact decide_eq_decide.1 hbit

/-! ## Storing the value of an entry -/

/-- The text of a manifest kind on the wire. -/
def kindText : ManifestKind → Bytes
  | .descriptor => "descriptor"
  | .chunk => "chunk"

theorem kindText_injective : Function.Injective kindText := by
  intro left right h
  cases left <;> cases right <;> first | rfl | exact absurd h (by decide)

/-- A counter of a reject: a short text and an unsigned number. -/
def counterValid (counter : Bytes × Cbor.Value) : Bool :=
  (validText counter.1 "observed_counters.key" 128).toBool && isUnsigned counter.2

/-- The counters a reject may carry. -/
def countersValid (counters : Cbor.Fields) : Bool :=
  decide (counters.length ≤ 32) && counters.all counterValid

/-- `parse_field_value` on a value instead of its bytes. -/
def storeValue : FieldShape → Cbor.Value → Slots → Option Slots
  | .kind, .text text, slots =>
    if text = "descriptor" then some { slots with kind := .descriptor }
    else if text = "chunk" then some { slots with kind := .chunk }
    else none
  | .text slot, .text text, slots =>
    some { slots with text := Function.update slots.text slot text }
  | .number slot, .unsigned number, slots =>
    some { slots with number := Function.update slots.number slot number }
  | .counters, .map counters, slots =>
    if countersValid counters then some { slots with counters := Cbor.wire (.map counters) }
    else none
  | _, _, _ => none

/-- The loop of `parse_closure_control` on the entries of a map. -/
def storeFields : Cbor.Fields → BitVec 32 → Slots → Option (BitVec 32 × Slots)
  | [], seen, slots => some (seen, slots)
  | (key, value) :: rest, seen, slots =>
    let field := identifyField key
    if field = .unknown ∨ seen &&& fieldBit field ≠ 0 then none
    else do
      let slots ← storeValue field.shape value slots
      storeFields rest (seen ||| fieldBit field) slots

/-- A slot holds this value. -/
def Slots.Holds (slots : Slots) : FieldShape → Cbor.Value → Prop
  | .kind, value => value = .text (kindText slots.kind)
  | .text slot, value => value = .text (slots.text slot)
  | .number slot, value => value = .unsigned (slots.number slot)
  | .counters, value => ∃ counters, value = .map counters ∧ countersValid counters = true ∧
      slots.counters = Cbor.wire (.map counters)
  | .unknown, _ => False

theorem holds_of_storeValue {shape : FieldShape} {value : Cbor.Value} {slots slots' : Slots}
    (h : storeValue shape value slots = some slots') : slots'.Holds shape value := by
  unfold storeValue at h
  split at h
  · split_ifs at h with hdescriptor hchunk
    · obtain rfl := Option.some.inj h
      exact congrArg Cbor.Value.text hdescriptor
    · obtain rfl := Option.some.inj h
      exact congrArg Cbor.Value.text hchunk
  · obtain rfl := Option.some.inj h
    simp [Slots.Holds]
  · obtain rfl := Option.some.inj h
    simp [Slots.Holds]
  · split_ifs at h with hvalid
    obtain rfl := Option.some.inj h
    exact ⟨_, rfl, hvalid, rfl⟩
  · exact absurd h (by simp)

/-- Storing one value leaves the other slots alone. -/
theorem Slots.Holds.store {shape shape' : FieldShape} {value value' : Cbor.Value}
    {slots slots' : Slots} (hholds : slots.Holds shape value) (hne : shape ≠ shape')
    (h : storeValue shape' value' slots = some slots') : slots'.Holds shape value := by
  unfold storeValue at h
  split at h
  · -- the kind is stored, so `shape` is one of the others
    have hsame : ∀ kind, Slots.Holds { slots with kind := kind } shape value := by
      intro kind
      cases shape with
      | kind => exact absurd rfl hne
      | _ => exact hholds
    split_ifs at h
    · obtain rfl := Option.some.inj h
      exact hsame _
    · obtain rfl := Option.some.inj h
      exact hsame _
  · obtain rfl := Option.some.inj h
    cases shape with
    | text slot =>
        have hslot : slot ≠ _ := fun heq => hne (congrArg FieldShape.text heq)
        simpa [Slots.Holds, Function.update_of_ne hslot] using hholds
    | _ => exact hholds
  · obtain rfl := Option.some.inj h
    cases shape with
    | number slot =>
        have hslot : slot ≠ _ := fun heq => hne (congrArg FieldShape.number heq)
        simpa [Slots.Holds, Function.update_of_ne hslot] using hholds
    | _ => exact hholds
  · split_ifs at h
    obtain rfl := Option.some.inj h
    cases shape with
    | counters => exact absurd rfl hne
    | _ => exact hholds
  · exact absurd h (by simp)

/-- Whether a value can be stored does not depend on what the slots hold. -/
theorem exists_storeValue_of_holds {shape : FieldShape} {value : Cbor.Value} {slots : Slots}
    (h : slots.Holds shape value) (start : Slots) :
    ∃ slots', storeValue shape value start = some slots' := by
  cases shape with
  | kind =>
      obtain rfl := h
      rcases slots with ⟨_ | _, _, _, _⟩
      · exact ⟨_, rfl⟩
      · exact ⟨_, rfl⟩
  | text slot =>
      obtain rfl := h
      exact ⟨_, rfl⟩
  | number slot =>
      obtain rfl := h
      exact ⟨_, rfl⟩
  | counters =>
      obtain ⟨counters, rfl, hvalid, -⟩ := h
      exact ⟨_, if_pos hvalid⟩
  | unknown => exact absurd h id

/-- **What the slots hold after all entries are stored.** -/
theorem holds_of_storeFields {fields : Cbor.Fields} {done : List WireField} {start slots : Slots}
    {seen : BitVec 32} (h : storeFields fields (mask done) start = some (seen, slots)) :
    seen = mask (done ++ fields.map fun field => identifyField field.1) ∧
      (∀ field ∈ fields, identifyField field.1 ≠ .unknown ∧ identifyField field.1 ∉ done ∧
        slots.Holds (identifyField field.1).shape field.2) ∧
      (fields.map fun field => identifyField field.1).Nodup ∧
      ∀ field ∈ done, ∀ value, start.Holds field.shape value → slots.Holds field.shape value := by
  induction fields generalizing done start with
  | nil =>
      obtain ⟨rfl, rfl⟩ := Prod.mk.inj (Option.some.inj h)
      simp
  | cons field rest ih =>
      obtain ⟨key, value⟩ := field
      rw [storeFields] at h
      split_ifs at h with hguard
      obtain ⟨slots', hstore, hrest⟩ := Option.bind_eq_some_iff.1 h
      rw [← mask_concat] at hrest
      obtain ⟨hseen, hfields, hnodup, hkept⟩ := ih hrest
      rw [not_or, mask_and_fieldBit_ne_zero] at hguard
      -- the field stored first is among the fields done before the rest
      have hstays := hkept (identifyField key) (by simp) value (holds_of_storeValue hstore)
      refine ⟨by simpa using hseen, ?_, ?_, ?_⟩
      · intro field hfield
        rcases List.mem_cons.1 hfield with rfl | hmem
        · exact ⟨hguard.1, hguard.2, hstays⟩
        · obtain ⟨hknown, hfresh, hholds⟩ := hfields field hmem
          exact ⟨hknown, fun hdone => hfresh (List.mem_append_left _ hdone), hholds⟩
      · rw [List.map_cons, List.nodup_cons]
        refine ⟨fun hmem => ?_, hnodup⟩
        obtain ⟨field, hfield, heq⟩ := List.mem_map.1 hmem
        exact (hfields field hfield).2.1 (by simp [heq])
      · intro field hdone value' hholds
        have hne : field.shape ≠ (identifyField key).shape := by
          intro heq
          exact hguard.2 (shape_injective heq ▸ hdone)
        exact hkept field (List.mem_append_left _ hdone) value' (hholds.store hne hstore)

/-- Entries of distinct fields whose values some slot can hold are all stored. -/
theorem exists_storeFields {fields : Cbor.Fields} {done : List WireField} (start : Slots)
    (hfields : ∀ field ∈ fields, identifyField field.1 ≠ .unknown ∧ identifyField field.1 ∉ done ∧
      ∃ slots : Slots, slots.Holds (identifyField field.1).shape field.2)
    (hnodup : (fields.map fun field => identifyField field.1).Nodup) :
    ∃ seen slots, storeFields fields (mask done) start = some (seen, slots) := by
  induction fields generalizing done start with
  | nil => exact ⟨mask done, start, rfl⟩
  | cons field rest ih =>
      obtain ⟨key, value⟩ := field
      obtain ⟨hknown, hfresh, _, hholds⟩ := hfields _ (List.mem_cons_self ..)
      obtain ⟨slots', hstore⟩ := exists_storeValue_of_holds hholds start
      rw [List.map_cons, List.nodup_cons] at hnodup
      have hguard : ¬ (identifyField key = .unknown ∨ mask done &&& fieldBit (identifyField key) ≠ 0) := by
        rw [not_or, mask_and_fieldBit_ne_zero]
        exact ⟨hknown, hfresh⟩
      have hrest : ∀ field ∈ rest, identifyField field.1 ≠ .unknown ∧
          identifyField field.1 ∉ done ++ [identifyField key] ∧
          ∃ slots : Slots, slots.Holds (identifyField field.1).shape field.2 := by
        intro field hfield
        obtain ⟨hknown', hfresh', hexists⟩ := hfields field (List.mem_cons_of_mem _ hfield)
        refine ⟨hknown', fun hmem => ?_, hexists⟩
        rcases List.mem_append.1 hmem with hdone | hkey
        · exact hfresh' hdone
        · have heq := List.mem_singleton.1 hkey
          exact hnodup.1 (List.mem_map.2 ⟨field, hfield, heq⟩)
      obtain ⟨seen, slots, hrun⟩ := ih slots' hrest hnodup.2
      rw [mask_concat] at hrun
      refine ⟨seen, slots, ?_⟩
      rw [storeFields]
      simp only [if_neg hguard, hstore]
      exact hrun

end Cxxlens.ProtocolV2.Closure
