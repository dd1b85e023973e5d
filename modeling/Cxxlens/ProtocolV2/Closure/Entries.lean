import Cxxlens.ProtocolV2.Closure.ParseReads

set_option autoImplicit false

/-! # The entries of a control

`map_for` lists the fields of a control by hand, one list for each of the seven shapes. Here they
are one list: the fields the parser's mask expects, each with the value the control has for it. What
a map of the parser's slots owns has the same entries. -/

namespace Cxxlens.ProtocolV2.Closure

open Sdk (Error Result)
open Fallible
open Cbor (Value wire)
open Sorting (sortBy)

/-! ## A control as slots -/

/-- The manifest kind of a control; `descriptor` is the parser's default. -/
def ControlOf.kind {Counters : Type} : ControlOf Counters → ManifestKind
  | .manifest (.chunk _) => .chunk
  | _ => .descriptor

/-- The text a control has in a slot. -/
def ControlOf.text {Counters : Type} : ControlOf Counters → TextSlot → Bytes
  | .manifest (.descriptor item), slot =>
    match slot with
    | .sessionText => item.sessionId
    | .taskText => item.taskId
    | .taskV4Text => item.taskV4Digest
    | .closureIdText => item.closureId
    | .closureDigestText => item.closureDigest
    | .manifestDigestText => item.manifestDigest
    | _ => []
  | .manifest (.chunk item), slot =>
    match slot with
    | .sessionText => item.sessionId
    | .taskText => item.taskId
    | .manifestDigestText => item.manifestDigest
    | _ => []
  | .blob item, slot =>
    match slot with
    | .sessionText => item.sessionId
    | .taskText => item.taskId
    | .closureDigestText => item.closureDigest
    | .blobDigestText => item.blobDigest
    | _ => []
  | .chunk item, slot =>
    match slot with
    | .sessionText => item.sessionId
    | .taskText => item.taskId
    | .blobDigestText => item.blobDigest
    | _ => []
  | .sealed item, slot =>
    match slot with
    | .sessionText => item.sessionId
    | .taskText => item.taskId
    | .taskV4Text => item.taskV4Digest
    | .manifestDigestText => item.manifestDigest
    | .blobReceiptsText => item.blobReceiptsDigest
    | .closureDigestText => item.closureDigest
    | .transferDigestText => item.transferDigest
    | _ => []
  | .ack item, slot =>
    match slot with
    | .sessionText => item.sessionId
    | .taskText => item.taskId
    | .closureDigestText => item.closureDigest
    | .transferDigestText => item.transferDigest
    | .spoolReceiptText => item.spoolReceipt
    | .cleanupOwnerText => item.cleanupOwner
    | _ => []
  | .reject item, slot =>
    match slot with
    | .sessionText => item.sessionId
    | .taskText => item.taskId
    | .failurePhaseText => item.failurePhase
    | .reasonCodeText => item.reasonCode
    | .cleanupReceiptText => item.cleanupReceipt
    | _ => []

/-- The number a control has in a slot. -/
def ControlOf.number {Counters : Type} : ControlOf Counters → NumberSlot → UInt64
  | .manifest (.descriptor item), slot =>
    match slot with
    | .totalNumber => item.totalBytes
    | .chunkBytesNumber => item.chunkBytes
    | .chunkCountNumber => item.chunkCount
    | _ => 0
  | .manifest (.chunk item), slot =>
    match slot with
    | .chunkIndexNumber => item.chunkIndex
    | .offsetNumber => item.offset
    | .byteCountNumber => item.byteCount
    | _ => 0
  | .blob item, slot =>
    match slot with
    | .blobOrdinalNumber => item.blobOrdinal
    | .totalNumber => item.totalBytes
    | .chunkBytesNumber => item.chunkBytes
    | .chunkCountNumber => item.chunkCount
    | _ => 0
  | .chunk item, slot =>
    match slot with
    | .blobOrdinalNumber => item.blobOrdinal
    | .chunkIndexNumber => item.chunkIndex
    | .offsetNumber => item.offset
    | .byteCountNumber => item.byteCount
    | _ => 0
  | .sealed item, slot =>
    match slot with
    | .blobCountNumber => item.blobCount
    | .totalNumber => item.totalBytes
    | _ => 0
  | _, _ => 0

/-- The counters of a reject. -/
def ControlOf.counters : ClosureControl → Cbor.Fields
  | .reject item => item.observedCounters
  | _ => []

/-- The value a control has for the field of this shape. -/
def ControlOf.value (control : ClosureControl) : FieldShape → Value
  | .kind => .text (kindText control.kind)
  | .text slot => .text (control.text slot)
  | .number slot => .unsigned (control.number slot)
  | .counters => .map control.counters
  | .unknown => .null

/-- The entries of the map a control is written as. -/
def ControlOf.entries (control : ClosureControl) : Cbor.Fields :=
  (expectedFields control.type control.kind).map fun field => (field.key, control.value field.shape)

/-! ## The map of a control -/

/-- The checks of `validate_reject` on the counters. -/
def validateObserved : ClosureControl → Result Unit
  | .reject item =>
    if item.observedCounters.length > 32 then
      .error (failure "observed_counters" "limit-exceeded" limitExceeded)
    else validateCounters [] item.observedCounters
  | _ => .ok ()

theorem closureType_cases {type : MessageType} (h : isClosureMessage type = true) :
    type = .sourceClosureManifest ∨ type = .sourceClosureBlob ∨ type = .sourceClosureChunk ∨
      type = .sourceClosureSeal ∨ type = .sourceClosureAck ∨ type = .sourceClosureReject := by
  obtain ⟨id⟩ := type
  rw [isClosureMessage, Bool.and_eq_true, decide_eq_true_eq, decide_eq_true_eq,
    UInt16.le_iff_toNat_le, UInt16.le_iff_toNat_le] at h
  have hrange : 24 ≤ id.toNat ∧ id.toNat ≤ 29 := h
  simp only [MessageType.mk.injEq, MessageType.sourceClosureManifest, MessageType.sourceClosureBlob,
    MessageType.sourceClosureChunk, MessageType.sourceClosureSeal, MessageType.sourceClosureAck,
    MessageType.sourceClosureReject, ← UInt16.toNat_inj, UInt16.toNat_ofNat]
  omega

theorem mapFor_type (control : ClosureControl) (bound : ClosureLimits) :
    mapFor control.type control bound = (do
      validateView control bound
      validateObserved control
      .ok control.entries) := by
  rcases control with (item | item) | item | item | item | item | item
  · rfl
  · rfl
  · rfl
  · rfl
  · rfl
  · rfl
  · show (validateReject item >>= fun _ => .ok _) = _
    rw [validateReject, bind_assoc]
    rfl

theorem mapFor_ne_ok {type : MessageType} {control : ClosureControl} (h : control.type ≠ type)
    (bound : ClosureLimits) (fields : Cbor.Fields) : mapFor type control bound ≠ .ok fields := by
  unfold mapFor
  rcases control with (item | item) | item | item | item | item | item <;>
    simp only [ControlOf.type] at h <;> split_ifs with h1 h2 h3 h4 h5 h6 <;>
    first | exact absurd (Eq.symm ‹_›) h | simp

/-- **`map_for` writes the expected fields of a valid control of its own type.** -/
theorem mapFor_eq_ok_iff {type : MessageType} {control : ClosureControl} {bound : ClosureLimits}
    {fields : Cbor.Fields} :
    mapFor type control bound = .ok fields ↔
      control.type = type ∧ validateView control bound = .ok () ∧
        validateObserved control = .ok () ∧ fields = control.entries := by
  by_cases htype : control.type = type
  · rw [← htype, mapFor_type, seq_eq_ok_iff, seq_eq_ok_iff, Except.ok.injEq, eq_comm (a := fields)]
    simp
  · constructor
    · exact fun h => absurd h (mapFor_ne_ok htype bound fields)
    · exact fun h => absurd h.1 htype

/-! ## Counters -/

theorem validateCounters_eq_ok_iff (keys : List Bytes) (counters : Cbor.Fields) :
    validateCounters keys counters = .ok () ↔
      counters.all counterValid = true ∧ (counters.map (·.1)).Nodup ∧
        ∀ counter ∈ counters, counter.1 ∉ keys := by
  induction counters generalizing keys with
  | nil => simp [validateCounters]
  | cons counter rest ih =>
      obtain ⟨key, value⟩ := counter
      rw [validateCounters, guard_eq_ok_iff, guard_eq_ok_iff, ih, List.all_cons, Bool.and_eq_true,
        counterValid, Bool.and_eq_true, List.map_cons, List.nodup_cons]
      simp only [not_or, Bool.not_eq_false, List.mem_cons, forall_eq_or_imp, List.mem_map]
      constructor
      · rintro ⟨⟨hfresh, htext⟩, hunsigned, hall, hnodup, hkeys⟩
        refine ⟨⟨⟨htext, hunsigned⟩, hall⟩, ⟨?_, hnodup⟩, hfresh, ?_⟩
        · rintro ⟨counter, hcounter, heq⟩
          exact (hkeys counter hcounter).1 heq
        · exact fun counter hcounter => (hkeys counter hcounter).2
      · rintro ⟨⟨⟨htext, hunsigned⟩, hall⟩, ⟨hkey, hnodup⟩, hfresh, hkeys⟩
        refine ⟨⟨hfresh, htext⟩, hunsigned, hall, hnodup, ?_⟩
        intro counter hcounter
        exact ⟨fun heq => hkey ⟨counter, hcounter, heq⟩, hkeys counter hcounter⟩

theorem validateObserved_eq_ok_iff (control : ClosureControl) :
    validateObserved control = .ok () ↔
      countersValid control.counters = true ∧ (control.counters.map (·.1)).Nodup := by
  cases control with
  | reject item =>
      rw [validateObserved, guard_eq_ok_iff, validateCounters_eq_ok_iff, countersValid,
        Bool.and_eq_true, decide_eq_true_eq, and_assoc, not_lt]
      simp [ControlOf.counters]
  | _ => simp [validateObserved, ControlOf.counters, countersValid]

/-! ## Slots and controls -/

@[simp] theorem validateView_ownControlView (view : ClosureControlView) (bound : ClosureLimits) :
    validateView (ownControlView view) bound = validateView view bound := by
  rcases view with (item | item) | item | item | item | item | item <;> rfl

/-- The control a full set of slots stands for has the values the slots hold. -/
theorem value_of_holds {type : MessageType} (hclosure : isClosureMessage type = true)
    {slots : Slots} {field : WireField} (hfield : field ∈ expectedFields type slots.kind)
    {value : Value} (hholds : slots.Holds field.shape value)
    (hsize : (wire value).length ≤ rangeMax) :
    value = (ownControlView (slots.view type)).value field.shape := by
  have hcounters : slots.Holds .counters value →
      value = .map (ownObservedCounters slots.counters) := by
    rintro ⟨counters, rfl, hvalid, hwire⟩
    rw [hwire, ownObservedCounters_wire hvalid hsize]
  rcases slots with ⟨kind, text, number, counters⟩
  rcases closureType_cases hclosure with rfl | rfl | rfl | rfl | rfl | rfl
  · rcases kind with _ | _
    · fin_cases hfield <;> exact hholds
    · fin_cases hfield <;> exact hholds
  · fin_cases hfield <;> exact hholds
  · fin_cases hfield <;> exact hholds
  · fin_cases hfield <;> exact hholds
  · fin_cases hfield <;> exact hholds
  · fin_cases hfield <;> first | exact hcounters hholds | exact hholds

theorem expectedFields_ownControlView {type : MessageType} (hclosure : isClosureMessage type = true)
    (slots : Slots) :
    (ownControlView (slots.view type)).type = type ∧
      expectedFields type (ownControlView (slots.view type)).kind =
        expectedFields type slots.kind := by
  rcases slots with ⟨kind, text, number, counters⟩
  rcases closureType_cases hclosure with rfl | rfl | rfl | rfl | rfl | rfl <;>
    rcases kind with _ | _ <;> exact ⟨rfl, rfl⟩

/-- Slots that hold the values of a valid control stand for this control. -/
theorem ownControlView_of_holds {control : ClosureControl} {bound : ClosureLimits}
    (hvalid : validateView control bound = .ok ()) {slots : Slots}
    (hholds : ∀ field ∈ expectedFields control.type control.kind,
      slots.Holds field.shape (control.value field.shape))
    (hcounters : countersValid control.counters = true)
    (hsize : (wire (.map control.counters)).length ≤ rangeMax) :
    expectedFields control.type slots.kind = expectedFields control.type control.kind ∧
      ownControlView (slots.view control.type) = control := by
  rcases slots with ⟨kind, text, number, counters⟩
  rcases control with (item | item) | item | item | item | item | item
  · rcases item with ⟨itemKind, _, _, _, _, _, _, _, _, _⟩
    obtain ⟨rfl, -⟩ : itemKind = .descriptor ∧ _ := by
      rw [validateView, validateManifestDescriptor, guard_eq_ok_iff, not_not] at hvalid
      exact hvalid
    have hkind : kindText .descriptor = kindText kind :=
      Value.text.inj (hholds .kind (List.mem_cons_self ..))
    obtain rfl := kindText_injective hkind
    simp [ControlOf.type, ControlOf.kind, Slots.Holds, WireField.shape, ControlOf.value,
      ControlOf.text, ControlOf.number] at hholds
    obtain ⟨rfl, rfl, rfl, rfl, rfl, rfl, rfl, rfl, rfl⟩ := hholds
    exact ⟨rfl, rfl⟩
  · rcases item with ⟨itemKind, _, _, _, _, _, _⟩
    obtain ⟨rfl, -⟩ : itemKind = .chunk ∧ _ := by
      rw [validateView, validateManifestChunk, guard_eq_ok_iff, not_not] at hvalid
      exact hvalid
    have hkind : kindText .chunk = kindText kind :=
      Value.text.inj (hholds .kind (List.mem_cons_self ..))
    obtain rfl := kindText_injective hkind
    simp [ControlOf.type, ControlOf.kind, Slots.Holds, WireField.shape, ControlOf.value,
      ControlOf.text, ControlOf.number] at hholds
    obtain ⟨rfl, rfl, rfl, rfl, rfl, rfl⟩ := hholds
    exact ⟨rfl, rfl⟩
  · rcases item with ⟨_, _, _, _, _, _, _, _⟩
    simp [ControlOf.type, ControlOf.kind, Slots.Holds, WireField.shape, ControlOf.value,
      ControlOf.text, ControlOf.number] at hholds
    obtain ⟨rfl, rfl, rfl, rfl, rfl, rfl, rfl, rfl⟩ := hholds
    exact ⟨rfl, rfl⟩
  · rcases item with ⟨_, _, _, _, _, _, _⟩
    simp [ControlOf.type, ControlOf.kind, Slots.Holds, WireField.shape, ControlOf.value,
      ControlOf.text, ControlOf.number] at hholds
    obtain ⟨rfl, rfl, rfl, rfl, rfl, rfl, rfl⟩ := hholds
    exact ⟨rfl, rfl⟩
  · rcases item with ⟨_, _, _, _, _, _, _, _, _⟩
    simp [ControlOf.type, ControlOf.kind, Slots.Holds, WireField.shape, ControlOf.value,
      ControlOf.text, ControlOf.number] at hholds
    obtain ⟨rfl, rfl, rfl, rfl, rfl, rfl, rfl, rfl, rfl⟩ := hholds
    exact ⟨rfl, rfl⟩
  · rcases item with ⟨_, _, _, _, _, _⟩
    simp [ControlOf.type, ControlOf.kind, Slots.Holds, WireField.shape, ControlOf.value,
      ControlOf.text, ControlOf.number] at hholds
    obtain ⟨rfl, rfl, rfl, rfl, rfl, rfl⟩ := hholds
    exact ⟨rfl, rfl⟩
  · -- the counters are read back from their bytes
    rcases item with ⟨_, _, _, _, observed, _⟩
    have hown : ownObservedCounters counters = observed := by
      obtain ⟨observed', heq, -, hwire⟩ := hholds .observedCounters (by simp [ControlOf.type])
      obtain rfl := Value.map.inj heq
      rw [show counters = wire (.map observed) from hwire]
      exact ownObservedCounters_wire hcounters hsize
    simp [ControlOf.type, ControlOf.kind, Slots.Holds, WireField.shape, ControlOf.value,
      ControlOf.text, ControlOf.number] at hholds
    obtain ⟨rfl, rfl, rfl, rfl, -, rfl⟩ := hholds
    exact ⟨rfl, by rw [← hown]; rfl⟩

end Cxxlens.ProtocolV2.Closure
