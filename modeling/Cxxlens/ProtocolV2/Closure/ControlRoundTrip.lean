import Cxxlens.ProtocolV2.Closure.Entries

set_option autoImplicit false

/-! # Round trips of closure controls

A control is written as a map and read back by offsets. Both sides have been described by the
entries of the map: `mapFor_eq_ok_iff` for the writer and `exists_parseClosureControl_iff` for the
reader. Here they meet: the entries a valid control is written as are entries the schema stores, and
the entries the schema stored are those of the control it owns. -/

namespace Cxxlens.ProtocolV2.Closure

open Sdk (Error Result)
open Fallible
open Cbor (Value Fits wire fieldLess reorderFields)
open Sorting (sortBy)

/-! ## Reordered counters -/

/-- The control with the counters of a reject in the order of their encoded keys. -/
def ControlOf.reorderCounters : ClosureControl → ClosureControl
  | .reject item => .reject { item with observedCounters := sortBy fieldLess item.observedCounters }
  | control => control

@[simp] theorem type_reorderCounters (control : ClosureControl) :
    control.reorderCounters.type = control.type := by
  cases control <;> rfl

@[simp] theorem kind_reorderCounters (control : ClosureControl) :
    control.reorderCounters.kind = control.kind := by
  cases control <;> rfl

@[simp] theorem counters_reorderCounters (control : ClosureControl) :
    control.reorderCounters.counters = sortBy fieldLess control.counters := by
  cases control <;> rfl

@[simp] theorem validateView_reorderCounters (control : ClosureControl) (bound : ClosureLimits) :
    validateView control.reorderCounters bound = validateView control bound := by
  cases control <;> rfl

theorem countersValid_sortBy (counters : Cbor.Fields) :
    countersValid (sortBy fieldLess counters) = countersValid counters := by
  have hperm := Sorting.sortBy_perm fieldLess counters
  rw [countersValid, countersValid, hperm.length_eq, hperm.all_eq]

theorem isUnsigned_of_countersValid {counters : Cbor.Fields} (h : countersValid counters = true) :
    ∀ counter ∈ counters, isUnsigned counter.2 = true := by
  intro counter hcounter
  rw [countersValid, Bool.and_eq_true, List.all_eq_true] at h
  have hvalid := h.2 counter hcounter
  rw [counterValid, Bool.and_eq_true] at hvalid
  exact hvalid.2

/-- Numbers have nothing to reorder. -/
theorem reorderFields_eq_self {counters : Cbor.Fields}
    (h : ∀ counter ∈ counters, isUnsigned counter.2 = true) : reorderFields counters = counters := by
  rw [Cbor.reorderFields_eq_map]
  conv_rhs => rw [← List.map_id counters]
  refine List.map_congr_left fun counter hcounter => ?_
  obtain ⟨key, value⟩ := counter
  have hunsigned := h _ hcounter
  cases value with
  | unsigned number => rfl
  | _ => exact absurd hunsigned (by simp [isUnsigned])

theorem reorder_value {control : ClosureControl} (h : countersValid control.counters = true)
    (shape : FieldShape) :
    (control.value shape).reorder = control.reorderCounters.value shape := by
  cases shape with
  | kind => rw [ControlOf.value, ControlOf.value, kind_reorderCounters, Value.reorder]
  | text slot =>
      rcases control with (item | item) | item | item | item | item | item <;> rfl
  | number slot =>
      rcases control with (item | item) | item | item | item | item | item <;> rfl
  | counters =>
      rw [ControlOf.value, ControlOf.value, counters_reorderCounters, Value.reorder,
        reorderFields_eq_self (isUnsigned_of_countersValid h)]
  | unknown => rfl

theorem reorderFields_entries {control : ClosureControl}
    (h : countersValid control.counters = true) :
    reorderFields control.entries = control.reorderCounters.entries := by
  rw [Cbor.reorderFields_eq_map, ControlOf.entries, ControlOf.entries, List.map_map,
    type_reorderCounters, kind_reorderCounters]
  refine List.map_congr_left fun field _ => ?_
  exact Prod.ext rfl (reorder_value h field.shape)

/-! ## Bounds on the entries -/

theorem expectedFields_facts (type : MessageType) (kind : ManifestKind) :
    (expectedFields type kind).Nodup ∧ (expectedFields type kind).length ≤ 10 ∧
      .unknown ∉ expectedFields type kind := by
  unfold expectedFields
  split_ifs <;> decide

theorem itemCountFields_of_unsigned {counters : Cbor.Fields}
    (h : ∀ counter ∈ counters, isUnsigned counter.2 = true) :
    Cbor.itemCountFields counters = 2 * counters.length := by
  induction counters with
  | nil => rfl
  | cons counter rest ih =>
      obtain ⟨key, value⟩ := counter
      have hunsigned := h _ (List.mem_cons_self ..)
      have hrest := ih fun other hother => h other (List.mem_cons_of_mem _ hother)
      cases value with
      | unsigned number =>
          rw [Cbor.itemCountFields, Value.itemCount, hrest, List.length_cons]
          · omega
          all_goals simp
      | _ => exact absurd hunsigned (by simp [isUnsigned])

/-- A control is at most 77 items: a reject with 32 counters. -/
theorem itemCount_entries {control : ClosureControl} (h : countersValid control.counters = true) :
    (Value.map control.entries).itemCount ≤ 96 := by
  rw [Value.itemCount, Cbor.itemCountFields_eq_sum]
  rcases control with (item | item) | item | item | item | item | item
  all_goals simp [ControlOf.entries, ControlOf.type, ControlOf.kind, WireField.shape,
    ControlOf.value, Value.itemCount]
  have hcount := itemCountFields_of_unsigned (isUnsigned_of_countersValid h)
  rw [countersValid, Bool.and_eq_true, decide_eq_true_eq] at h
  have hlength := h.1
  omega

/-- A text the default encoder accepts is within the bounds of the parser. -/
theorem fits_text {levels levels' : Nat} {text : Bytes}
    (h : Fits ({} : Cbor.Limits).toScanLimits levels (.text text)) :
    Fits controlScanBound (levels' + 1) (.text text) := by
  cases h with
  | text _ hsize hutf8 => exact .text text hsize hutf8

/-- The value of an entry the default encoder accepts is within the bounds of the parser. -/
theorem fits_value {control : ClosureControl} (hcounters : countersValid control.counters = true)
    {shape : FieldShape} (hshape : shape ≠ .unknown) {levels : Nat}
    (h : Fits ({} : Cbor.Limits).toScanLimits levels (control.value shape)) :
    Fits controlScanBound 2 (control.value shape) := by
  cases shape with
  | kind => exact fits_text h
  | text slot => exact fits_text h
  | number slot => exact .unsigned _
  | counters =>
      have hunsigned := isUnsigned_of_countersValid hcounters
      rw [countersValid, Bool.and_eq_true, decide_eq_true_eq] at hcounters
      rw [ControlOf.value] at h ⊢
      cases h with
      | map _ hsize hkeys hascending hfields =>
          refine .map _ hcounters.1 (fun field hfield => fits_text (hkeys field hfield)) hascending ?_
          intro field hfield
          have hfield := hunsigned field hfield
          generalize field.2 = value at hfield ⊢
          cases value with
          | unsigned number => exact .unsigned number
          | _ => exact absurd hfield (by simp [isUnsigned])
  | unknown => exact absurd rfl hshape

/-- Slots that hold the values of a control. -/
def ControlOf.slots (control : ClosureControl) : Slots where
  kind := control.kind
  text := control.text
  number := control.number
  counters := wire (.map control.counters)

theorem slots_holds {control : ClosureControl} (hcounters : countersValid control.counters = true)
    {shape : FieldShape} (hshape : shape ≠ .unknown) :
    control.slots.Holds shape (control.value shape) := by
  cases shape with
  | kind => rfl
  | text slot => rfl
  | number slot => rfl
  | counters => exact ⟨_, rfl, hcounters, rfl⟩
  | unknown => exact absurd rfl hshape

theorem shape_ne_unknown {field : WireField} (h : field ≠ .unknown) : field.shape ≠ .unknown :=
  fun heq => h (shape_injective heq)

theorem mask_eq_of_perm {left right : List WireField} (h : left.Perm right) :
    mask left = mask right := by
  refine h.foldl_eq' ?_ 0
  intro a _ b _ bits
  rw [BitVec.or_assoc, BitVec.or_assoc, BitVec.or_comm (fieldBit a)]

/-- The keys of entries of a control name its expected fields. -/
theorem map_identifyField_entries (control : ClosureControl) :
    control.entries.map (fun field => identifyField field.1) =
      expectedFields control.type control.kind := by
  rw [ControlOf.entries, List.map_map]
  conv_rhs => rw [← List.map_id (expectedFields control.type control.kind)]
  exact List.map_congr_left fun field _ => identifyField_key field

/-! ## Reading what was written -/

theorem length_wire_le_of_mem {fields : Cbor.Fields} {field : Bytes × Value} (h : field ∈ fields) :
    (wire field.2).length ≤ (Cbor.wireFields fields).length := by
  induction fields with
  | nil => exact absurd h (by simp)
  | cons head rest ih =>
      rw [Cbor.wireFields, List.length_append, List.length_append]
      rcases List.mem_cons.1 h with rfl | hmem
      · omega
      · have hrest := ih hmem
        omega

theorem length_counters_le {control : ClosureControl} {fields : Cbor.Fields}
    (hperm : fields.Perm control.entries)
    (hsize : (wire (.map fields)).length ≤ maxControlBytes.toNat) :
    (wire (.map control.counters)).length ≤ rangeMax := by
  have hmax : maxControlBytes.toNat ≤ rangeMax := by decide
  cases control with
  | reject item =>
      have hmem : (WireField.observedCounters.key, Value.map item.observedCounters) ∈ fields := by
        refine hperm.mem_iff.2 (List.mem_map.2 ⟨.observedCounters, ?_, rfl⟩)
        simp [ControlOf.type]
      have hle : (wire (.map item.observedCounters)).length ≤ _ := length_wire_le_of_mem hmem
      rw [wire, List.length_append] at hsize
      show (wire (.map item.observedCounters)).length ≤ rangeMax
      omega
  | _ => exact show 1 ≤ rangeMax by decide

/-- **The entries of a valid control pass the schema, and the slots stand for the control.** -/
theorem exists_parses {control : ClosureControl} {bound : ClosureLimits} {fields : Cbor.Fields}
    {levels : Nat} (hvalid : validateView control bound = .ok ())
    (hcounters : countersValid control.counters = true) (hperm : fields.Perm control.entries)
    (hfits : Fits ({} : Cbor.Limits).toScanLimits levels (.map fields))
    (hsize : (wire (.map fields)).length ≤ maxControlBytes.toNat)
    (hitems : (Value.map fields).itemCount ≤ 96) :
    ∃ slots, Parses control.type (wire (.map fields)) bound fields slots ∧
      ownControlView (slots.view control.type) = control := by
  obtain ⟨hnodup, hlength, hknown⟩ := expectedFields_facts control.type control.kind
  have hentry : ∀ field ∈ fields, ∃ name ∈ expectedFields control.type control.kind,
      field = (name.key, control.value name.shape) := by
    intro field hfield
    obtain ⟨name, hname, rfl⟩ := List.mem_map.1 (hperm.mem_iff.1 hfield)
    exact ⟨name, hname, rfl⟩
  have hnames : (fields.map fun field => identifyField field.1).Perm
      (expectedFields control.type control.kind) := by
    rw [← map_identifyField_entries]
    exact hperm.map _
  have hstorable : ∀ field ∈ fields, identifyField field.1 ≠ .unknown ∧
      identifyField field.1 ∉ ([] : List WireField) ∧
      ∃ slots : Slots, slots.Holds (identifyField field.1).shape field.2 := by
    intro field hfield
    obtain ⟨name, hname, rfl⟩ := hentry field hfield
    have hne : name ≠ .unknown := fun heq => hknown (heq ▸ hname)
    rw [identifyField_key]
    exact ⟨hne, by simp, control.slots, slots_holds hcounters (shape_ne_unknown hne)⟩
  obtain ⟨seen, slots, hstored⟩ := exists_storeFields {} hstorable (hnames.nodup_iff.2 hnodup)
  obtain ⟨hseen, hholds, -, -⟩ := holds_of_storeFields hstored
  have hall : ∀ name ∈ expectedFields control.type control.kind,
      slots.Holds name.shape (control.value name.shape) := by
    intro name hname
    have hmem : (name.key, control.value name.shape) ∈ fields :=
      hperm.mem_iff.2 (List.mem_map.2 ⟨name, hname, rfl⟩)
    have hslot := (hholds _ hmem).2.2
    rwa [identifyField_key] at hslot
  obtain ⟨hexpected, hown⟩ :=
    ownControlView_of_holds hvalid hall hcounters (length_counters_le hperm hsize)
  have hmask : seen = expectedMask control.type slots.kind := by
    rw [hseen, List.nil_append, mask_eq_of_perm hnames, expectedMask, hexpected]
  have hview : validateView (slots.view control.type) bound = .ok () := by
    rw [← validateView_ownControlView, hown]
    exact hvalid
  refine ⟨slots, ⟨?_, ?_, rfl, hsize, hitems, ?_, hmask ▸ hstored, hview⟩, hown⟩
  · cases control <;> rfl
  · cases hfits with
    | map _ _ hkeys hascending hfields =>
        refine .map _ (le_trans ?_ (show 10 ≤ 32 by decide))
          (fun field hfield => fits_text (hkeys field hfield)) hascending ?_
        · rw [hperm.length_eq, ControlOf.entries, List.length_map]
          exact hlength
        · intro field hfield
          have hfits := hfields field hfield
          obtain ⟨name, hname, rfl⟩ := hentry field hfield
          have hne : name ≠ .unknown := fun heq => hknown (heq ▸ hname)
          exact fits_value hcounters (shape_ne_unknown hne) hfits
  · rw [hperm.length_eq, ControlOf.entries, List.length_map]
    exact hlength

/-- **What `encode_closure_control` writes, the parser accepts.** -/
theorem parses_of_encode {type : MessageType} {control : ClosureControl} {bound : ClosureLimits}
    {encoded : Bytes} (h : encodeClosureControl type control bound = .ok encoded) :
    ∃ fields slots, Parses type encoded bound fields slots ∧
      ownControlView (slots.view type) = control.reorderCounters := by
  obtain ⟨entries, hmap, hencode⟩ := bind_eq_ok_iff.1 h
  obtain ⟨rfl, hvalid, hobserved, rfl⟩ := mapFor_eq_ok_iff.1 hmap
  obtain ⟨hcounters, -⟩ := (validateObserved_eq_ok_iff control).1 hobserved
  obtain ⟨hencodable, -, rfl, hsize⟩ := Cbor.encode_eq_ok_iff.1 hencode
  have hfits := hencodable.fits_reorder
  have hitems := itemCount_entries hcounters
  rw [← Value.itemCount_reorder] at hitems
  rw [Value.reorder, reorderFields_entries hcounters] at hsize hfits hitems ⊢
  rw [← type_reorderCounters]
  refine ⟨_, exists_parses ?_ ?_ (Sorting.sortBy_perm _ _) hfits hsize hitems⟩
  · rwa [validateView_reorderCounters]
  · rwa [counters_reorderCounters, countersValid_sortBy]

/-! ## Writing what was read -/

/-- The fields of an accepted control are the entries of the control it owns. -/
theorem perm_entries_of_parses {type : MessageType} {control : Bytes} {bound : ClosureLimits}
    {fields : Cbor.Fields} {slots : Slots} (h : Parses type control bound fields slots) :
    fields.Perm (ownControlView (slots.view type)).entries := by
  obtain ⟨hseen, hholds, hnodup⟩ := h.holds
  obtain ⟨htype, hexpected⟩ := expectedFields_ownControlView h.closure slots
  have hnames : (fields.map fun field => identifyField field.1).Perm
      (expectedFields type slots.kind) := by
    refine (List.perm_ext_iff_of_nodup hnodup (expectedFields_facts _ _).1).2 fun name => ?_
    exact mem_iff_of_mask_eq hseen.symm name
  have hsize : ∀ field ∈ fields, (wire field.2).length ≤ rangeMax := by
    intro field hfield
    have hmax : maxControlBytes.toNat ≤ rangeMax := by decide
    have hle := length_wire_le_of_mem hfield
    have hcontrol := h.size
    rw [h.control_eq, wire, List.length_append] at hcontrol
    omega
  have hfields : fields = (fields.map fun field => identifyField field.1).map
      fun name => (name.key, (ownControlView (slots.view type)).value name.shape) := by
    rw [List.map_map]
    conv_lhs => rw [← List.map_id fields]
    refine List.map_congr_left fun field hfield => ?_
    obtain ⟨hknown, hslot⟩ := hholds field hfield
    have hname : identifyField field.1 ∈ expectedFields type slots.kind :=
      hnames.mem_iff.1 (List.mem_map_of_mem hfield)
    exact Prod.ext (eq_key_of_identifyField hknown)
      (value_of_holds h.closure hname hslot (hsize field hfield))
  rw [ControlOf.entries, htype, hexpected, hfields]
  exact hnames.map _

theorem validateObserved_of_parses {type : MessageType} {control : Bytes} {bound : ClosureLimits}
    {fields : Cbor.Fields} {slots : Slots} (h : Parses type control bound fields slots) :
    validateObserved (ownControlView (slots.view type)) = .ok () := by
  rw [validateObserved_eq_ok_iff]
  have hperm := perm_entries_of_parses h
  rcases closureType_cases h.closure with rfl | rfl | rfl | rfl | rfl | rfl
  · rcases slots with ⟨_ | _, _, _, _⟩
    · exact ⟨rfl, List.nodup_nil⟩
    · exact ⟨rfl, List.nodup_nil⟩
  · exact ⟨rfl, List.nodup_nil⟩
  · exact ⟨rfl, List.nodup_nil⟩
  · exact ⟨rfl, List.nodup_nil⟩
  · exact ⟨rfl, List.nodup_nil⟩
  · -- the counters of a reject were checked when they were stored
    have hmem : (WireField.observedCounters.key,
        (ownControlView (slots.view .sourceClosureReject)).value .counters) ∈ fields := by
      refine hperm.mem_iff.2 (List.mem_map.2 ⟨.observedCounters, ?_, rfl⟩)
      rw [(expectedFields_ownControlView h.closure slots).1, expectedFields_reject]
      simp
    obtain ⟨counters, heq, hvalid, -⟩ := (h.holds.2.1 _ hmem).2
    obtain rfl := Value.map.inj heq
    refine ⟨hvalid, ?_⟩
    cases h.fits with
    | map _ _ _ _ hfields =>
        have hcounters := hfields _ hmem
        rw [ControlOf.value] at hcounters
        cases hcounters with
        | map _ _ _ hascending _ => exact hascending.nodup

/-- **What the parser accepts is what its control is written as.** -/
theorem encode_of_parses {type : MessageType} {control : Bytes} {bound : ClosureLimits}
    {fields : Cbor.Fields} {slots : Slots} (h : Parses type control bound fields slots) :
    encodeClosureControl type (ownControlView (slots.view type)) bound = .ok control := by
  have hmap : mapFor type (ownControlView (slots.view type)) bound =
      .ok (ownControlView (slots.view type)).entries := by
    refine mapFor_eq_ok_iff.2 ⟨(expectedFields_ownControlView h.closure slots).1, ?_,
      validateObserved_of_parses h, rfl⟩
    rw [validateView_ownControlView]
    exact h.valid
  have hdecode : Cbor.decode control {} = .ok (.map fields) := by
    refine Cbor.decode_eq_ok_iff.2 ⟨h.fits.mono (by decide) (by decide) (by decide) (by decide)
      (by decide), h.control_eq, h.size, ?_⟩
    exact le_trans h.items (by decide)
  rw [encodeClosureControl, hmap, ok_bind]
  exact Cbor.encode_map_of_perm (perm_entries_of_parses h) (Cbor.encode_of_decode hdecode)

/-! ## The codec -/

/-- The resident accounting of `decode_closure_control` lets this control and its owned value
    pass. -/
structure ResidentAdmits (layout : Layout) (alloc : Allocation) (bound : ClosureLimits)
    (control : Bytes) (output : ClosureControl) : Prop where
  projected : admitResident bound (projectedResident layout control) = .ok ()
  peak : admitResident bound
    (peakResident layout alloc.adopted 0 (layout.frame + control.length)) = .ok ()
  decoded : admitResident bound (decodedResident layout alloc control
    ((tokenResident layout alloc.adopted).getD 0) output) = .ok ()

/-- **`decode_closure_control` owns exactly the controls the schema admits**, within the resident
    accounting. -/
theorem decodeClosureControl_eq_ok_iff {layout : Layout} {alloc : Allocation} {type : MessageType}
    {control : Bytes} {bound : ClosureLimits} {output : ClosureControl} :
    decodeClosureControl layout alloc type control bound = .ok output ↔
      (∃ fields slots, Parses type control bound fields slots ∧
        output = ownControlView (slots.view type)) ∧
      ResidentAdmits layout alloc bound control output := by
  constructor
  · intro h
    rw [decodeClosureControl, guard_eq_ok_iff, guard_eq_ok_iff, seq_eq_ok_iff, bind_eq_ok_iff] at h
    obtain ⟨-, hsized, hprojected, token, htoken, h⟩ := h
    obtain ⟨-, -, hpeak, hparse, rfl, rfl, hresident, -, hconsumed⟩ :=
      decodeClosureControlToken_eq_ok_iff.1 htoken
    rw [not_or, Bool.not_eq_true] at hsized
    rw [consume_eq_ok hconsumed hsized.1, ok_bind, seq_eq_ok_iff, hresident] at h
    obtain ⟨hdecoded, houtput⟩ := h
    obtain rfl := Except.ok.inj houtput
    obtain ⟨fields, hparses⟩ := exists_parseClosureControl_iff.1 ⟨_, hparse, rfl⟩
    exact ⟨⟨fields, _, hparses, rfl⟩, hprojected, hpeak, hdecoded⟩
  · rintro ⟨⟨fields, slots, hparses, rfl⟩, hprojected, hpeak, hdecoded⟩
    obtain ⟨parsed, hparse, rfl⟩ := exists_parseClosureControl_iff.2 ⟨fields, hparses⟩
    have hempty : control.isEmpty = false := by
      rw [hparses.control_eq, List.isEmpty_eq_false_iff]
      exact Cbor.wire_ne_nil _
    have hsized : ¬ (control.isEmpty = true ∨ control.length > maxControlBytes.toNat) := by
      have hsize := hparses.size
      simp only [hempty, Bool.false_eq_true, false_or]
      omega
    obtain ⟨token, htoken⟩ : ∃ token : ClosureControlToken,
        token.parsed = parsed ∧ token.type = type ∧ token.control = control ∧
          token.residentBytes = (tokenResident layout alloc.adopted).getD 0 ∧
          token.controlDigest = sha256 control ∧ token.consumed = false :=
      ⟨⟨type, control, parsed, _, sha256 control, false, fun _ => ⟨bound, hparse⟩, fun _ => rfl⟩,
        rfl, rfl, rfl, rfl, rfl, rfl⟩
    obtain ⟨rfl, rfl, rfl, hresident, hdigest, hconsumed⟩ := htoken
    rw [decodeClosureControl, guard_eq_ok_iff, guard_eq_ok_iff, seq_eq_ok_iff, bind_eq_ok_iff]
    refine ⟨by simp [hparses.closure], hsized, hprojected, token, ?_, ?_⟩
    · exact decodeClosureControlToken_eq_ok_iff.2 ⟨hsized, by simp, hpeak, hparse, rfl, rfl,
        hresident, hdigest, hconsumed⟩
    · rw [consume_eq_ok hconsumed hempty, ok_bind, seq_eq_ok_iff, hresident]
      exact ⟨hdecoded, rfl⟩

/-- **Closure controls round trip.** What is encoded decodes to the same control with its counters
    in order, and what is decoded encodes to the same bytes. -/
theorem closureControl_roundTrip (layout : Layout) (alloc : Allocation) (type : MessageType)
    (bound : ClosureLimits) :
    (∀ control encoded, encodeClosureControl type control bound = .ok encoded →
        ResidentAdmits layout alloc bound encoded control.reorderCounters →
        decodeClosureControl layout alloc type encoded bound = .ok control.reorderCounters) ∧
      ∀ encoded control, decodeClosureControl layout alloc type encoded bound = .ok control →
        encodeClosureControl type control bound = .ok encoded := by
  constructor
  · intro control encoded hencode hadmits
    obtain ⟨fields, slots, hparses, hown⟩ := parses_of_encode hencode
    exact decodeClosureControl_eq_ok_iff.2 ⟨⟨fields, slots, hparses, hown.symm⟩, hadmits⟩
  · intro encoded control hdecode
    obtain ⟨⟨fields, slots, hparses, rfl⟩, -⟩ := decodeClosureControl_eq_ok_iff.1 hdecode
    exact encode_of_parses hparses

/-- Buffers without spare capacity. -/
def tightAllocation (control : Bytes) (counters : Nat) : Allocation where
  adopted := control.length
  string := List.length
  counters := counters

/-- A reject whose counters are not in canonical order. -/
def sampleReject : ClosureControl :=
  .reject {
    sessionId := "s"
    taskId := "t"
    failurePhase := "local-only"
    reasonCode := "source-closure.cancelled"
    observedCounters := [(ascii "zz", .unsigned 7), (ascii "a", .unsigned 300)]
    cleanupReceipt := "r" }

/-- The bytes of `sampleReject`, keys by length and then by bytes. -/
def sampleRejectBytes : Bytes :=
  [0xa6] ++ Cbor.encodedText "task_id" ++ Cbor.encodedText "t" ++ Cbor.encodedText "session_id" ++
    Cbor.encodedText "s" ++ Cbor.encodedText "reason_code" ++
    Cbor.encodedText "source-closure.cancelled" ++ Cbor.encodedText "failure_phase" ++
    Cbor.encodedText "local-only" ++ Cbor.encodedText "cleanup_receipt" ++ Cbor.encodedText "r" ++
    Cbor.encodedText "observed_counters" ++ [0xa2] ++ Cbor.encodedText "a" ++ [0x19, 0x01, 0x2c] ++
    Cbor.encodedText "zz" ++ [0x07]

theorem encode_sampleReject :
    encodeClosureControl .sourceClosureReject sampleReject {} = .ok sampleRejectBytes := by
  decide_cbv

theorem closureControl_roundTrip_reject :
    decodeClosureControl sampleLayout (tightAllocation sampleRejectBytes 2) .sourceClosureReject
        sampleRejectBytes {} = .ok sampleReject.reorderCounters ∧
      encodeClosureControl .sourceClosureReject sampleReject.reorderCounters {} =
        .ok sampleRejectBytes := by
  have htrip := closureControl_roundTrip sampleLayout (tightAllocation sampleRejectBytes 2)
    .sourceClosureReject {}
  have hadmits : ResidentAdmits sampleLayout (tightAllocation sampleRejectBytes 2) {}
      sampleRejectBytes sampleReject.reorderCounters :=
    ⟨by decide_cbv, by decide_cbv, by decide_cbv⟩
  have hdecode := htrip.1 _ _ encode_sampleReject hadmits
  exact ⟨hdecode, htrip.2 _ _ hdecode⟩

end Cxxlens.ProtocolV2.Closure
