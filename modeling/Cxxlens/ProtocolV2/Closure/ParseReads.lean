import Cxxlens.ProtocolV2.Closure.Schema

set_option autoImplicit false

/-! # The parser reads the entries of the map

The walk by offsets stores what `storeFields` stores: where the bytes of a value stand, the parser
reads that value, and the ranges it keeps resolve to the value's own bytes. -/

namespace Cxxlens.ProtocolV2.Closure

open Sdk (Error Result)
open Fallible
open Cbor (Value Fits wire wireFields encodedText head headAt)

variable {bound : Cbor.ScanLimits} {levels : Nat} {input : Bytes}

/-! ## Heads -/

theorem exists_head {item : Value} (h : Fits bound levels item) :
    ∃ argument payload, argument < 2 ^ 64 ∧ wire item = head item.kind argument ++ payload := by
  cases h with
  | null => exact ⟨22, [], by decide, by simp [wire, Value.kind]⟩
  | bool item => exact ⟨if item then 21 else 20, [], by cases item <;> decide, by
      simp [wire, Value.kind]⟩
  | unsigned item => exact ⟨item.toNat, [], item.toNat_lt, by simp [wire, Value.kind]⟩
  | negative item hneg =>
      have hlt := (Cbor.negativeArgument_lt hneg).1
      exact ⟨Cbor.negativeArgument item, [], by omega, by simp [wire, Value.kind]⟩
  | bytes item hsize =>
      have hmax := bound.maxByteStringBytes.toNat_lt
      exact ⟨item.length, item, by omega, rfl⟩
  | text item hsize hutf8 =>
      have hmax := bound.maxTextBytes.toNat_lt
      exact ⟨item.length, item, by omega, rfl⟩
  | array items hsize hitems =>
      have hmax := bound.maxArrayItems.toNat_lt
      exact ⟨items.length, Cbor.wireItems items, by omega, rfl⟩
  | map fields hsize hkeys hascending hfields =>
      have hmax := bound.maxMapItems.toNat_lt
      exact ⟨fields.length, wireFields fields, by omega, rfl⟩

theorem headAt_wire {item : Value} (h : Fits bound levels item) {offset : Nat}
    (hat : Span.At input offset (wire item)) :
    ∃ argument next, headAt false input offset = .ok ⟨item.kind, argument, next⟩ := by
  obtain ⟨argument, payload, hlt, hwire⟩ := exists_head h
  rw [hwire, Span.at_append] at hat
  exact ⟨argument, _, Cbor.headAt_of_at false hlt hat.1⟩

/-! ## Texts and numbers -/

/-- A text is found where it stands. -/
theorem parseTextRange_of_at (hinput : input.length ≤ rangeMax) {offset : Nat} {text : Bytes}
    (hat : Span.At input offset (encodedText text)) :
    ∃ range, parseTextRange input offset = some (range, offset + (encodedText text).length) ∧
      textView input range = text := by
  have hend := hat.end_le (Cbor.encodedText_ne_nil text)
  rw [encodedText, Span.at_append] at hat
  rw [encodedText, List.length_append] at hend ⊢
  have hmax : rangeMax < 2 ^ 32 := by decide
  have hhead := Cbor.headAt_of_at false (show text.length < 2 ^ 64 by omega) hat.1
  have hguard : ¬ (Cbor.Major.text ≠ .text ∨
      text.length > input.length - (offset + (head .text text.length).length) ∨
      text.length > rangeMax ∨ offset + (head .text text.length).length > rangeMax) := by
    simp only [ne_eq, not_true_eq_false, false_or]
    omega
  refine ⟨⟨UInt32.ofNat (offset + (head .text text.length).length), UInt32.ofNat text.length⟩,
    ?_, ?_⟩
  · rw [parseTextRange, hhead]
    show (if _ then _ else _) = _
    rw [if_neg hguard, Nat.add_assoc]
  · rw [textView, UInt32.toNat_ofNat', UInt32.toNat_ofNat', Nat.mod_eq_of_lt (by omega),
      Nat.mod_eq_of_lt (by omega)]
    exact hat.2.slice_eq

theorem parseTextRange_eq_none {item : Value} (h : Fits bound levels item) {offset : Nat}
    (hat : Span.At input offset (wire item)) (hkind : item.kind ≠ .text) :
    parseTextRange input offset = none := by
  obtain ⟨argument, next, hhead⟩ := headAt_wire h hat
  rw [parseTextRange, hhead]
  exact if_pos (.inl hkind)

theorem parseUint_of_at {offset : Nat} {number : UInt64}
    (hat : Span.At input offset (wire (.unsigned number))) :
    parseUint input offset = some (number, offset + (wire (.unsigned number)).length) := by
  rw [wire] at hat ⊢
  rw [parseUint, Cbor.headAt_of_at false number.toNat_lt hat]
  show (if _ then _ else _) = _
  rw [if_neg (not_not.2 rfl), UInt64.ofNat_toNat]

theorem parseUint_eq_none {item : Value} (h : Fits bound levels item) {offset : Nat}
    (hat : Span.At input offset (wire item)) (hkind : item.kind ≠ .unsignedInteger) :
    parseUint input offset = none := by
  obtain ⟨argument, next, hhead⟩ := headAt_wire h hat
  rw [parseUint, hhead]
  exact if_pos hkind

theorem isUnsigned_eq_false_iff (item : Value) :
    isUnsigned item = false ↔ item.kind ≠ .unsignedInteger := by
  cases item <;> simp [isUnsigned, Value.kind]

/-! ## Counters -/

/-- The loop over the counters accepts the valid ones and steps over their bytes. -/
theorem parseCounters_of_at (hinput : input.length ≤ rangeMax) {counters : Cbor.Fields}
    {cursor : Nat} (hfits : ∀ counter ∈ counters, Fits bound levels counter.2)
    (hat : Span.At input cursor (wireFields counters)) :
    parseCounters input counters.length cursor =
      if counters.all counterValid then some (cursor + (wireFields counters).length) else none := by
  induction counters generalizing cursor with
  | nil => rfl
  | cons counter rest ih =>
      obtain ⟨key, value⟩ := counter
      rw [wireFields, Span.at_append, Span.at_append] at hat
      obtain ⟨range, hkey, hview⟩ := parseTextRange_of_at hinput hat.1
      have hvalue := hfits _ (List.mem_cons_self ..)
      rw [List.length_cons, parseCounters, hkey, List.all_cons, counterValid]
      simp only [Option.bind_eq_bind, Option.bind_some, hview]
      by_cases htext : (validText key "observed_counters.key" 128).toBool = true
      · by_cases hunsigned : isUnsigned value = true
        · obtain ⟨number, rfl⟩ : ∃ number, value = .unsigned number := by
            cases value with
            | unsigned number => exact ⟨number, rfl⟩
            | _ => exact absurd hunsigned (by simp [isUnsigned])
          have hrest := ih (fun counter hcounter => hfits counter (List.mem_cons_of_mem _ hcounter))
            hat.2.2
          rw [parseUint_of_at hat.2.1]
          simp only [htext, hunsigned, Bool.true_eq_false, if_false, Option.bind_some,
            Bool.and_self, Bool.true_and]
          rw [hrest, wireFields, List.length_append, List.length_append, ← Nat.add_assoc,
            ← Nat.add_assoc]
        · rw [Bool.not_eq_true] at hunsigned
          rw [parseUint_eq_none hvalue hat.2.1 ((isUnsigned_eq_false_iff value).1 hunsigned)]
          simp [htext, hunsigned]
      · simp [htext]

/-- The counters are kept as the bytes of their map. -/
theorem parseCounterMap_of_at (hinput : input.length ≤ rangeMax) {counters : Cbor.Fields}
    {offset : Nat} (hfits : Fits bound (levels + 1) (.map counters))
    (hat : Span.At input offset (wire (.map counters))) :
    (parseCounterMap input offset).map (fun parsed => (textView input parsed.1, parsed.2)) =
      if countersValid counters then
        some (wire (.map counters), offset + (wire (.map counters)).length)
      else none := by
  have hend := hat.end_le (Cbor.wire_ne_nil _)
  have hslice := hat.slice_eq
  have hmax : rangeMax < 2 ^ 32 := by decide
  cases hfits with
  | map _ hsize hkeys hascending hfields =>
      have hlimit := bound.maxMapItems.toNat_lt
      have hlength : (wire (.map counters)).length =
          (head .map counters.length).length + (wireFields counters).length := by
        rw [wire, List.length_append]
      rw [wire, Span.at_append] at hat
      have hcounters := parseCounters_of_at hinput hfields hat.2
      rw [parseCounterMap, Cbor.headAt_of_at false (show counters.length < 2 ^ 64 by omega) hat.1]
      by_cases hmany : counters.length ≤ 32
      · by_cases hall : counters.all counterValid = true
        · have hvalid : countersValid counters = true := by simp [countersValid, hmany, hall]
          have hsum : offset + (head .map counters.length).length + (wireFields counters).length =
              offset + (wire (.map counters)).length := by omega
          rw [if_pos hall, hsum] at hcounters
          have hrange : offset ≤ rangeMax ∧ (wire (.map counters)).length ≤ rangeMax := by omega
          have hview : textView input ⟨UInt32.ofNat offset,
              UInt32.ofNat (wire (.map counters)).length⟩ = wire (.map counters) := by
            rw [textView, UInt32.toNat_ofNat', UInt32.toNat_ofNat', Nat.mod_eq_of_lt (by omega),
              Nat.mod_eq_of_lt (by omega)]
            exact hslice
          simp [hmany, hcounters, hrange, hview, hvalid]
        · simp [countersValid, hcounters, hall]
      · simp [countersValid, hmany]

theorem parseCounterMap_eq_none {item : Value} (h : Fits bound levels item) {offset : Nat}
    (hat : Span.At input offset (wire item)) (hkind : item.kind ≠ .map) :
    parseCounterMap input offset = none := by
  obtain ⟨argument, next, hhead⟩ := headAt_wire h hat
  rw [parseCounterMap, hhead]
  exact if_pos (.inl hkind)

/-! ## Fields -/

theorem slots_update_text (output : ClosureParsedControl) (slot : TextSlot)
    (range : ClosureTextRange) :
    ClosureParsedControl.slots { output with text := Function.update output.text slot range } input
      = { output.slots input with
          text := Function.update (output.slots input).text slot (textView input range) } := by
  have htext : (fun other => textView input (Function.update output.text slot range other)) =
      Function.update (fun other => textView input (output.text other)) slot
        (textView input range) := by
    funext other
    exact Function.apply_update (fun _ => textView input) output.text slot range other
  show Slots.mk _ _ _ _ = _
  rw [htext]
  rfl

/-- **Parsing a field in place stores the value that stands there.** -/
theorem parseFieldValue_of_at (hinput : input.length ≤ rangeMax) (field : WireField) {item : Value}
    {offset : Nat} (hfits : Fits bound (levels + 1) item) (hat : Span.At input offset (wire item))
    (output : ClosureParsedControl) :
    (parseFieldValue field input offset output).map (fun parsed => (parsed.1.slots input, parsed.2))
      = (storeValue field.shape item (output.slots input)).map
          fun slots => (slots, offset + (wire item).length) := by
  unfold parseFieldValue
  cases field.shape with
  | kind =>
      by_cases hkind : item.kind = .text
      · obtain ⟨text, rfl⟩ := (Cbor.Value.kind_eq_text_iff item).1 hkind
        obtain ⟨range, hrange, hview⟩ := parseTextRange_of_at hinput hat
        simp only [hrange, hview, Option.bind_eq_bind, Option.bind_some, storeValue, wire]
        split_ifs
        · rfl
        · rfl
        · rfl
      · rw [parseTextRange_eq_none hfits hat hkind]
        cases item with
        | text text => exact absurd rfl hkind
        | _ => rfl
  | text slot =>
      by_cases hkind : item.kind = .text
      · obtain ⟨text, rfl⟩ := (Cbor.Value.kind_eq_text_iff item).1 hkind
        obtain ⟨range, hrange, hview⟩ := parseTextRange_of_at hinput hat
        simp only [hrange, Option.bind_eq_bind, Option.bind_some, Option.map_some, storeValue,
          slots_update_text, hview, wire]
      · rw [parseTextRange_eq_none hfits hat hkind]
        cases item with
        | text text => exact absurd rfl hkind
        | _ => rfl
  | number slot =>
      by_cases hkind : item.kind = .unsignedInteger
      · cases item with
        | unsigned number =>
            rw [parseUint_of_at hat]
            rfl
        | _ => exact absurd hkind (by simp [Value.kind])
      · rw [parseUint_eq_none hfits hat hkind]
        cases item with
        | unsigned number => exact absurd rfl hkind
        | _ => rfl
  | counters =>
      by_cases hkind : item.kind = .map
      · cases item with
        | map counters =>
            have hmap := parseCounterMap_of_at hinput hfits hat
            by_cases hvalid : countersValid counters = true
            · rw [if_pos hvalid] at hmap
              obtain ⟨⟨encoded, next⟩, hparse, heq⟩ := Option.map_eq_some_iff.1 hmap
              obtain ⟨hview, rfl⟩ := Prod.mk.inj heq
              rw [hparse, storeValue, if_pos hvalid, ← hview]
              rfl
            · rw [if_neg hvalid] at hmap
              rw [Option.map_eq_none_iff.1 hmap, storeValue, if_neg hvalid]
              rfl
        | _ => exact absurd hkind (by simp [Value.kind])
      · rw [parseCounterMap_eq_none hfits hat hkind]
        cases item with
        | map counters => exact absurd rfl hkind
        | _ => rfl
  | unknown =>
      cases item <;> rfl

/-- **The loop over the fields stores the entries that stand at the cursor.** -/
theorem parseFields_of_at (hinput : input.length ≤ rangeMax) {fields : Cbor.Fields}
    (hfits : ∀ field ∈ fields, Fits bound (levels + 1) field.2) {cursor : Nat}
    (hat : Span.At input cursor (wireFields fields)) (seen : BitVec 32)
    (output : ClosureParsedControl) :
    (parseFields input fields.length cursor seen output).toOption.map
        (fun parsed => (parsed.1, parsed.2.1, parsed.2.2.slots input)) =
      (storeFields fields seen (output.slots input)).map
        fun stored => (cursor + (wireFields fields).length, stored.1, stored.2) := by
  induction fields generalizing cursor seen output with
  | nil => rfl
  | cons field rest ih =>
      obtain ⟨key, value⟩ := field
      rw [wireFields, Span.at_append, Span.at_append] at hat
      obtain ⟨range, hkey, hview⟩ := parseTextRange_of_at hinput hat.1
      have hvalue := parseFieldValue_of_at hinput (identifyField key)
        (hfits _ (List.mem_cons_self ..)) hat.2.1 output
      rw [List.length_cons, parseFields, hkey, storeFields]
      simp only [hview]
      split_ifs with hguard
      · rfl
      · rcases hparse : parseFieldValue (identifyField key) input
          (cursor + (encodedText key).length) output with _ | ⟨output', next⟩
        · -- the value is refused on both sides
          rw [hparse] at hvalue
          rw [Option.map_eq_none_iff.1 hvalue.symm]
          rfl
        · rw [hparse] at hvalue
          obtain ⟨slots, hstore, heq⟩ := Option.map_eq_some_iff.1 hvalue.symm
          obtain ⟨hslots, hnext⟩ := Prod.mk.inj heq
          replace hnext : cursor + (encodedText key).length + (wire value).length = next := hnext
          have hrest := ih (fun other hother => hfits other (List.mem_cons_of_mem _ hother))
            hat.2.2 (seen ||| fieldBit (identifyField key)) output'
          rw [hnext] at hrest
          rw [hstore, hslots]
          have hend : next + (wireFields rest).length =
              cursor + (wireFields ((key, value) :: rest)).length := by
            rw [wireFields, List.length_append, List.length_append]
            omega
          simp only [Option.bind_eq_bind, Option.bind_some, hrest, hend]

/-! ## Owning the counters -/

theorem ownCounters_of_at (hinput : input.length ≤ rangeMax) {counters : Cbor.Fields} {cursor : Nat}
    (hunsigned : ∀ counter ∈ counters, isUnsigned counter.2 = true)
    (hat : Span.At input cursor (wireFields counters)) :
    ownCounters input counters.length cursor = counters := by
  induction counters generalizing cursor with
  | nil => rfl
  | cons counter rest ih =>
      obtain ⟨key, value⟩ := counter
      rw [wireFields, Span.at_append, Span.at_append] at hat
      obtain ⟨range, hkey, hview⟩ := parseTextRange_of_at hinput hat.1
      have hvalue := hunsigned _ (List.mem_cons_self ..)
      cases value with
      | unsigned number =>
          have hrest := ih (fun other hother => hunsigned other (List.mem_cons_of_mem _ hother))
            hat.2.2
          rw [List.length_cons, ownCounters, hkey]
          simp only [parseUint_of_at hat.2.1, hview, hrest]
      | _ => exact absurd hvalue (by simp [isUnsigned])

/-- **Owning the bytes of valid counters gives the counters back.** -/
theorem ownObservedCounters_wire {counters : Cbor.Fields} (hvalid : countersValid counters = true)
    (hsize : (wire (.map counters)).length ≤ rangeMax) :
    ownObservedCounters (wire (.map counters)) = counters := by
  rw [countersValid, Bool.and_eq_true, decide_eq_true_eq, List.all_eq_true] at hvalid
  have hat : Span.At (wire (.map counters)) 0 (head .map counters.length ++ wireFields counters) :=
    Span.at_self _
  rw [Span.at_append] at hat
  rw [ownObservedCounters, Cbor.headAt_of_at false (show counters.length < 2 ^ 64 by omega) hat.1]
  refine ownCounters_of_at hsize (fun counter hcounter => ?_) hat.2
  have hcounter := hvalid.2 counter hcounter
  rw [counterValid, Bool.and_eq_true] at hcounter
  exact hcounter.2

/-! ## Controls -/

theorem slots_default (control : Bytes) : ({} : ClosureParsedControl).slots control = {} := by
  simp [ClosureParsedControl.slots, textView, Span.slice]

/-- What the parser requires of a control and what its slots then hold. -/
structure Parses (type : MessageType) (control : Bytes) (bound : ClosureLimits)
    (fields : Cbor.Fields) (slots : Slots) : Prop where
  closure : isClosureMessage type = true
  fits : Fits controlScanBound 3 (.map fields)
  control_eq : control = wire (.map fields)
  size : control.length ≤ maxControlBytes.toNat
  items : (Value.map fields).itemCount ≤ 96
  count : fields.length ≤ 10
  stored : storeFields fields 0 {} = some (expectedMask type slots.kind, slots)
  valid : validateView (slots.view type) bound = .ok ()

/-- The fields of an accepted control, each with its slot. -/
theorem Parses.holds {type : MessageType} {control : Bytes} {limits : ClosureLimits}
    {fields : Cbor.Fields} {slots : Slots} (h : Parses type control limits fields slots) :
    expectedMask type slots.kind = mask (fields.map fun field => identifyField field.1) ∧
      (∀ field ∈ fields, identifyField field.1 ≠ .unknown ∧
        slots.Holds (identifyField field.1).shape field.2) ∧
      (fields.map fun field => identifyField field.1).Nodup := by
  have hstored : storeFields fields (mask []) {} = some (expectedMask type slots.kind, slots) :=
    h.stored
  obtain ⟨hseen, hholds, hnodup, -⟩ := holds_of_storeFields hstored
  exact ⟨hseen, fun field hfield => ⟨(hholds field hfield).1, (hholds field hfield).2.2⟩, hnodup⟩

theorem scanCanonical_control_iff (control : Bytes) :
    (Cbor.scanCanonical control controlScanBound).error = .none ↔
      ∃ fields, Fits controlScanBound 3 (.map fields) ∧ control = wire (.map fields) ∧
        control.length ≤ maxControlBytes.toNat ∧ (Value.map fields).itemCount ≤ 96 := by
  have hscan : (Cbor.scanCanonical control controlScanBound).error = .none ↔
      ∃ item, Cbor.readInput controlScanBound control 3 =
          some (item, (Cbor.scanCanonical control controlScanBound).itemCount) ∧
        (controlScanBound.requireRootMap = true → item.kind = .map) := by
    rw [← show controlScanBound.levels = 3 from rfl, ← Cbor.scanCanonical_eq_none_iff]
    simp
  constructor
  · intro h
    obtain ⟨item, hread, hroot⟩ := hscan.1 h
    obtain ⟨hfits, hcontrol, hsize, hitems, hmany⟩ := Cbor.readInput_eq_some_iff.1 hread
    cases item with
    | map fields => exact ⟨fields, hfits, hcontrol, hsize, hitems ▸ hmany⟩
    | _ => exact absurd (hroot rfl) (by simp [Value.kind])
  · rintro ⟨fields, hfits, hcontrol, hsize, hitems⟩
    have hread := Cbor.readInput_eq_some_iff.2 ⟨hfits, hcontrol, hsize, rfl, hitems⟩
    exact ((Cbor.scanCanonical_eq_none_iff).2 ⟨_, hread, fun _ => rfl⟩).1

/-- **`parse_closure_control` accepts exactly the controls that obey the schema.** -/
theorem exists_parseClosureControl_iff {type : MessageType} {control : Bytes}
    {limits : ClosureLimits} {slots : Slots} :
    (∃ parsed, parseClosureControl type control limits = .ok parsed ∧
        parsed.slots control = slots) ↔
      ∃ fields, Parses type control limits fields slots := by
  have hmax : maxControlBytes.toNat ≤ rangeMax := by decide
  -- both sides speak of a control that passed the scan
  by_cases hclosure : isClosureMessage type = true
  swap
  · constructor
    · rintro ⟨parsed, hparse, -⟩
      rw [parseClosureControl, if_pos (Bool.not_eq_true _ ▸ hclosure)] at hparse
      exact absurd hparse (by simp)
    · rintro ⟨fields, hparses⟩
      exact absurd hparses.closure hclosure
  by_cases hscan : (Cbor.scanCanonical control controlScanBound).error = .none
  swap
  · constructor
    · rintro ⟨parsed, hparse, -⟩
      rw [parseClosureControl, if_neg (by simp [hclosure]), if_pos hscan] at hparse
      exact absurd hparse (by simp)
    · rintro ⟨fields, hparses⟩
      exact absurd ((scanCanonical_control_iff control).2
        ⟨fields, hparses.fits, hparses.control_eq, hparses.size, hparses.items⟩) hscan
  obtain ⟨fields, hfits, hcontrol, hsize, hitems⟩ := (scanCanonical_control_iff control).1 hscan
  have hunique : ∀ fields' slots', Parses type control limits fields' slots' → fields' = fields := by
    intro fields' slots' hparses
    have hwire := hparses.control_eq.symm.trans hcontrol
    exact Value.map.inj (Cbor.wire_injective hparses.fits hfits hparses.items hitems hwire)
  have hvalues : ∀ field ∈ fields, Fits controlScanBound (1 + 1) field.2 := by
    cases hfits with
    | map _ hmany hkeys hascending hfields => exact hfields
  have hcount : fields.length ≤ 32 := by
    cases hfits with
    | map _ hmany hkeys hascending hfields => exact hmany
  have hat : Span.At control 0 (head .map fields.length ++ wireFields fields) := by
    rw [hcontrol]
    exact Span.at_self _
  have hlength : control.length = 0 + (head .map fields.length).length +
      (wireFields fields).length := by
    rw [hcontrol, wire, List.length_append, Nat.zero_add]
  rw [Span.at_append] at hat
  have hhead := Cbor.headAt_of_at false (show fields.length < 2 ^ 64 by omega) hat.1
  have hloop := parseFields_of_at (le_trans hsize hmax) hvalues hat.2 0 {}
  rw [slots_default, ← hlength] at hloop
  constructor
  · rintro ⟨parsed, hparse, rfl⟩
    rw [parseClosureControl, if_neg (by simp [hclosure]), if_neg (not_not.2 hscan), hhead] at hparse
    simp only [guard_eq_ok_iff, bind_eq_ok_iff] at hparse
    obtain ⟨hroot, ⟨cursor, seen, output⟩, hfields, hclosed, ⟨⟩, hvalid, hparsed⟩ := hparse
    obtain rfl := Except.ok.inj hparsed
    rw [hfields] at hloop
    obtain ⟨stored, hstored, heq⟩ := Option.map_eq_some_iff.1 hloop.symm
    obtain ⟨hcursor, hrest⟩ := Prod.mk.inj heq
    obtain ⟨hseen, hslots⟩ := Prod.mk.inj hrest
    rw [not_or, not_not, not_not] at hclosed
    refine ⟨fields, hclosure, hfits, hcontrol, hsize, hitems, by simp at hroot; omega, ?_, hvalid⟩
    rw [hstored]
    exact congrArg some (Prod.ext (hseen.trans hclosed.2) hslots)
  · rintro ⟨fields', hparses⟩
    obtain rfl := hunique fields' slots hparses
    rw [hparses.stored] at hloop
    obtain ⟨⟨cursor, seen, output⟩, hfields, heq⟩ := Option.map_eq_some_iff.1 hloop
    rw [toOption_eq_some_iff] at hfields
    obtain ⟨rfl, hrest⟩ := Prod.mk.inj heq
    obtain ⟨rfl, hslots⟩ := Prod.mk.inj hrest
    replace hslots : output.slots control = slots := hslots
    refine ⟨output, ?_, hslots⟩
    rw [parseClosureControl, if_neg (by simp [hclosure]), if_neg (not_not.2 hscan), hhead]
    have hkind : output.kind = slots.kind := congrArg Slots.kind hslots
    have hroot : ¬ (Cbor.Major.map ≠ .map ∨ fields'.length > 10) := by
      have := hparses.count
      simp
      omega
    simp only [guard_eq_ok_iff, bind_eq_ok_iff]
    refine ⟨hroot, _, hfields, ?_, (), ?_, rfl⟩
    · simp [hkind]
    · rw [makeControlView, hslots]
      exact hparses.valid

end Cxxlens.ProtocolV2.Closure
