import Cxxlens.Sdk.CanonicalCodec

set_option autoImplicit false

/-! # Structural limits for canonical tuples

`bounded_canonical_binary_internal.cpp`. Before the allocating decoder runs, `preflight` walks over
the same bytes and counts: how deep tuples nest, how many items each has, how many values there are.
It is a second reader of the format, and a looser one: it reads no boolean, sign or text. On the
encoding of a value it stops exactly when the value exceeds a limit (`preflight_eq_ok_iff`), so the
bounded decoder is the plain one with the limits as a filter. -/

namespace Cxxlens.Sdk

open CanonicalValue

/-- `bounded_canonical_binary_options`. The sums that are compared with a limit stop at it, so the
    numbers need no width. -/
structure BoundedCanonicalBinaryOptions where
  initialDepth : Nat := 0
  maximumNestingDepth : Nat := 0
  invalidErrorCode : Bytes := []
  limitErrorCode : Bytes := []
  maximumTupleItems : Nat := 2 ^ 64 - 1
  maximumTotalValues : Nat := 2 ^ 64 - 1
  deriving Repr

namespace BoundedCanonicalBinaryOptions

variable (options : BoundedCanonicalBinaryOptions)

/-! ## The preflight -/

/-- `decoder::invalid` -/
def invalid (detail : Bytes) : Error :=
  { code := options.invalidErrorCode, field := "binary", detail := detail }

/-- `decoder::limit` -/
def limit (detail : Bytes) : Error :=
  { code := options.limitErrorCode, field := "binary", detail := detail }

/-- `decoder::read_length` -/
def readLength (rest : Bytes) : Result (Nat × Bytes) :=
  if rest.length < 8 then .error (options.invalid "truncated-length")
  else .ok (BigEndian.decode (rest.take 8), rest.drop 8)

/-- The step over a payload behind its length; `detail` says what is wrong with a longer one. -/
def skipPayload (detail : Bytes) (rest : Bytes) : Result Bytes := do
  let (size, rest) ← options.readLength rest
  if size > rest.length then .error (options.invalid detail) else .ok (rest.drop size)

/-- The loop over the items of a tuple at `depth`, of which `count` are left: the bytes behind them
    and the number of values so far. -/
def preflightItems (preflight : Bytes → Nat → Nat → Result Nat) (depth : Nat) :
    Nat → Bytes → Nat → Result (Bytes × Nat)
  | 0, rest, totalValues => .ok (rest, totalValues)
  | count + 1, rest, totalValues => do
    let (size, rest) ← options.readLength rest
    if size = 0 ∨ size > rest.length then .error (options.invalid "tuple-item-size")
    else if depth = options.maximumNestingDepth then .error (options.limit "nesting-depth")
    else do
      let totalValues ← preflight (rest.take size) (depth + 1) totalValues
      preflightItems preflight depth count (rest.drop size) totalValues

/-- The branch for a tuple. -/
def preflightTuple (preflight : Bytes → Nat → Nat → Result Nat) (depth : Nat) (rest : Bytes)
    (totalValues : Nat) : Result (Bytes × Nat) := do
  let (count, rest) ← options.readLength rest
  if count > options.maximumTupleItems then .error (options.limit "tuple-items")
  else if count > rest.length / 9 then .error (options.invalid "tuple-count")
  else options.preflightItems preflight depth count rest totalValues

/-- The branches that hold no other value. -/
def preflightLeaf (tag : UInt8) (rest : Bytes) : Result Bytes :=
  if tag = 0x00 then .ok rest
  else if tag = 0x01 then
    if rest.length ≠ 1 then .error (options.invalid "boolean-size") else .ok (rest.drop 1)
  else if tag = 0x02 then
    if rest.isEmpty then .error (options.invalid "integer-sign")
    else options.skipPayload "integer-width" (rest.drop 1)
  else if tag = 0x03 ∨ tag = 0x04 then options.skipPayload "payload-size" rest
  else .error (options.invalid "unknown-tag")

/-- The switch over the tag. -/
def preflightTagged (preflight : Bytes → Nat → Nat → Result Nat) (depth : Nat) (tag : UInt8)
    (rest : Bytes) (totalValues : Nat) : Result (Bytes × Nat) :=
  if tag = 0x05 then options.preflightTuple preflight depth rest totalValues
  else do
    let rest ← options.preflightLeaf tag rest
    .ok (rest, totalValues)

/-- `decoder::preflight` for at most `levels` nested tuples; the number of values is returned. As in
    `decodeNested`, the length of the input is enough levels. -/
def preflight (levels : Nat) (input : Bytes) (depth totalValues : Nat) : Result Nat :=
  if depth > options.maximumNestingDepth then .error (options.limit "nesting-depth")
  else if totalValues = options.maximumTotalValues then .error (options.limit "total-values")
  else
    match levels, input with
    | 0, _ => .error (options.invalid "missing-tag")
    | _ + 1, [] => .error (options.invalid "missing-tag")
    | levels + 1, tag :: rest => do
      let (rest, totalValues) ←
        options.preflightTagged (preflight levels) depth tag rest (totalValues + 1)
      if rest.isEmpty = false then .error (options.invalid "trailing-bytes") else .ok totalValues

end BoundedCanonicalBinaryOptions

/-- `decode_bounded_canonical_binary` -/
def decodeBoundedCanonicalBinary (input : Bytes) (options : BoundedCanonicalBinaryOptions) :
    Result CanonicalValue := do
  let _totalValues ← options.preflight input.length input options.initialDepth 0
  match canonicalBinaryDecode input with
  | .error error => .error (options.invalid error.detail)
  | .ok value => .ok value

/-! ## The size of a value -/

namespace CanonicalValue

mutual

/-- How deep the tuples of a value nest: an item is one level below its tuple. -/
def nestingDepth : CanonicalValue → Nat
  | ⟨_, _, _, _, _, tuple⟩ => itemsDepth tuple

/-- The deepest of the items of a tuple, seen from the tuple. -/
def itemsDepth : List CanonicalValue → Nat
  | [] => 0
  | item :: rest => max (nestingDepth item + 1) (itemsDepth rest)

end

mutual

/-- The number of items of the largest tuple in a value. -/
def largestTuple : CanonicalValue → Nat
  | ⟨_, _, _, _, _, tuple⟩ => max tuple.length (itemsLargest tuple)

/-- The largest tuple in one of the items. -/
def itemsLargest : List CanonicalValue → Nat
  | [] => 0
  | item :: rest => max (largestTuple item) (itemsLargest rest)

end

mutual

/-- The number of values in a value, itself counted. -/
def totalValues : CanonicalValue → Nat
  | ⟨_, _, _, _, _, tuple⟩ => itemsTotal tuple + 1

/-- The number of values in the items. -/
def itemsTotal : List CanonicalValue → Nat
  | [] => 0
  | item :: rest => totalValues item + itemsTotal rest

end

@[simp] theorem nestingDepth_fromTuple (items : List CanonicalValue) :
    (fromTuple items).nestingDepth = itemsDepth items := by
  simp [fromTuple, nestingDepth]

@[simp] theorem largestTuple_fromTuple (items : List CanonicalValue) :
    (fromTuple items).largestTuple = max items.length (itemsLargest items) := by
  simp [fromTuple, largestTuple]

@[simp] theorem totalValues_fromTuple (items : List CanonicalValue) :
    (fromTuple items).totalValues = itemsTotal items + 1 := by
  simp [fromTuple, totalValues]

theorem itemsLargest_le_iff {items : List CanonicalValue} {bound : Nat} :
    itemsLargest items ≤ bound ↔ ∀ item ∈ items, item.largestTuple ≤ bound := by
  induction items with
  | nil => simp [itemsLargest]
  | cons item rest ih => simp [itemsLargest, ih]

/-- A value without items. -/
def IsLeaf (value : CanonicalValue) : Prop :=
  value.tuple = []

theorem IsLeaf.measures {value : CanonicalValue} (h : value.IsLeaf) :
    value.nestingDepth = 0 ∧ value.largestTuple = 0 ∧ value.totalValues = 1 := by
  obtain ⟨type, boolean, integer, byteString, text, tuple⟩ := value
  have hempty : tuple = [] := h
  subst hempty
  simp [nestingDepth, largestTuple, totalValues, itemsDepth, itemsLargest, itemsTotal]

end CanonicalValue

namespace BoundedCanonicalBinaryOptions

open Fallible Framing BigEndian

/-- A value at `depth`, with `before` values in front of it, stays within the limits. -/
def Within (options : BoundedCanonicalBinaryOptions) (value : CanonicalValue)
    (depth before : Nat) : Prop :=
  depth + value.nestingDepth ≤ options.maximumNestingDepth ∧
    value.largestTuple ≤ options.maximumTupleItems ∧
    before + value.totalValues ≤ options.maximumTotalValues

/-! ## The preflight on an encoding -/

variable {options : BoundedCanonicalBinaryOptions}

theorem readLength_encode {length : Nat} (h : length < 256 ^ 8) (rest : Bytes) :
    options.readLength (encode 8 length ++ rest) = .ok (length, rest) := by
  have hlength : (encode 8 length).length = 8 := length_encode 8 length
  have hread := readCanonicalLength_encode h rest
  rw [readCanonicalLength, if_neg (by simp [hlength])] at hread
  rw [readLength, if_neg (by simp [hlength])]
  simpa using hread

theorem skipPayload_framed {content : Bytes} (h : content.length < 256 ^ 8) (detail rest : Bytes) :
    options.skipPayload detail (framed content ++ rest) = .ok rest := by
  rw [framed, List.append_assoc, skipPayload, readLength_encode h]
  simp

theorem preflight_cons_eq_ok_iff {levels depth before after : Nat} {tag : UInt8} {rest : Bytes} :
    options.preflight (levels + 1) (tag :: rest) depth before = .ok after ↔
      depth ≤ options.maximumNestingDepth ∧ before ≠ options.maximumTotalValues ∧
        options.preflightTagged (options.preflight levels) depth tag rest (before + 1) =
          .ok ([], after) := by
  rw [preflight.eq_def, guard_eq_ok_iff, guard_eq_ok_iff, not_lt, bind_eq_ok_iff]
  refine and_congr_right fun _ => and_congr_right fun _ => ?_
  constructor
  · intro h
    obtain ⟨⟨left, counted⟩, htagged, h⟩ := h
    simp only [guard_eq_ok_iff, Except.ok.injEq] at h
    obtain ⟨hleft, rfl⟩ := h
    have hempty : left = [] := by simpa using hleft
    rw [htagged, hempty]
  · exact fun h => ⟨([], after), h, by simp⟩

/-- The preflight steps over the encoding of a leaf. -/
def SteppedOver (options : BoundedCanonicalBinaryOptions) (value : CanonicalValue) : Prop :=
  ∃ tag payload, appendCanonical value = tag :: payload ∧ tag ≠ 0x05 ∧
    options.preflightLeaf tag payload = .ok []

/-- What is proved of a value by induction: on its encoding the preflight says whether it is within
    the limits, and counts its values. -/
def Preflights (options : BoundedCanonicalBinaryOptions) (value : CanonicalValue) : Prop :=
  ∀ levels depth before after, (appendCanonical value).length ≤ levels →
    (appendCanonical value).length < 256 ^ 8 → before ≤ options.maximumTotalValues →
    (options.preflight levels (appendCanonical value) depth before = .ok after ↔
      options.Within value depth before ∧ after = before + value.totalValues)

theorem preflights_leaf {value : CanonicalValue} (hleaf : value.IsLeaf)
    (h : options.SteppedOver value) : options.Preflights value := by
  intro levels depth before after hlevels _ hbefore
  obtain ⟨tag, payload, hbytes, htag, hpayload⟩ := h
  obtain ⟨hdepth, hlargest, htotal⟩ := hleaf.measures
  rw [hbytes, List.length_cons] at hlevels
  obtain ⟨levels, rfl⟩ := Nat.exists_eq_add_one_of_ne_zero (show levels ≠ 0 by omega)
  rw [hbytes, preflight_cons_eq_ok_iff]
  simp only [preflightTagged, if_neg htag, hpayload, ok_bind, Within, hdepth, hlargest, htotal,
    Except.ok.injEq, Prod.mk.injEq, true_and]
  omega

/-- The loop over the encoded items of a tuple. -/
theorem preflightItems_eq_ok_iff {levels depth : Nat} {items : List CanonicalValue}
    (hitems : ∀ item ∈ items, options.Preflights item)
    (hne : ∀ item ∈ items, appendCanonical item ≠ [])
    (hlevels : ∀ item ∈ items, (appendCanonical item).length ≤ levels)
    (hfits : ∀ item ∈ items, (appendCanonical item).length < 256 ^ 8)
    (hdepth : depth ≤ options.maximumNestingDepth) (rest : Bytes) :
    ∀ {before : Nat}, before ≤ options.maximumTotalValues → ∀ outcome,
      (options.preflightItems (options.preflight levels) depth items.length
          ((items.map appendCanonical).flatMap framed ++ rest) before = .ok outcome ↔
        (depth + itemsDepth items ≤ options.maximumNestingDepth ∧
          itemsLargest items ≤ options.maximumTupleItems ∧
          before + itemsTotal items ≤ options.maximumTotalValues) ∧
        outcome = (rest, before + itemsTotal items)) := by
  induction items with
  | nil =>
      intro before hbefore outcome
      simp [preflightItems, itemsDepth, itemsLargest, itemsTotal, hdepth, hbefore, eq_comm]
  | cons item items ih =>
      intro before hbefore outcome
      rw [List.forall_mem_cons] at hitems hne hlevels hfits
      have hpos : (appendCanonical item).length ≠ 0 := fun hzero =>
        hne.1 (List.length_eq_zero_iff.1 hzero)
      rw [List.map_cons, List.flatMap_cons, List.append_assoc, framed, List.append_assoc,
        List.length_cons, preflightItems, readLength_encode hfits.1]
      simp only [ok_bind]
      rw [if_neg (by rw [List.length_append]; omega), List.take_left, List.drop_left,
        guard_eq_ok_iff, bind_eq_ok_iff]
      have hitem := hitems.1 levels (depth + 1) before
      simp only [itemsDepth, itemsLargest, itemsTotal]
      constructor
      · intro h
        obtain ⟨hroom, counted, hcounted, hrest⟩ := h
        obtain ⟨⟨hnest, hlarge, htotal⟩, rfl⟩ :=
          (hitem counted hlevels.1 hfits.1 hbefore).1 hcounted
        obtain ⟨⟨hnest', hlarge', htotal'⟩, rfl⟩ :=
          (ih hitems.2 hne.2 hlevels.2 hfits.2 htotal outcome).1 hrest
        exact ⟨⟨by omega, by omega, by omega⟩, by rw [Nat.add_assoc]⟩
      · intro h
        obtain ⟨⟨hnest, hlarge, htotal⟩, rfl⟩ := h
        refine ⟨by omega, before + item.totalValues, ?_, ?_⟩
        · exact (hitem _ hlevels.1 hfits.1 hbefore).2 ⟨⟨by omega, by omega, by omega⟩, rfl⟩
        · exact (ih hitems.2 hne.2 hlevels.2 hfits.2 (by omega) _).2
            ⟨⟨by omega, by omega, by omega⟩, by rw [Nat.add_assoc]⟩

theorem preflights_tuple {items : List CanonicalValue}
    (h : ∀ item ∈ items, item.validate = .ok () ∧ options.Preflights item) :
    options.Preflights (fromTuple items) := by
  intro levels depth before after hlevels hfits hbefore
  rw [appendCanonical_fromTuple, List.length_cons, List.length_append, length_encode]
    at hlevels hfits
  obtain ⟨levels, rfl⟩ := Nat.exists_eq_add_one_of_ne_zero (show levels ≠ 0 by omega)
  have hne : ∀ item ∈ items, appendCanonical item ≠ [] := by
    intro item hitem
    exact appendCanonical_ne_nil (h item hitem).1
  have hshort : ∀ item ∈ items, 8 + (appendCanonical item).length ≤
      ((items.map appendCanonical).flatMap framed).length := by
    intro item hitem
    exact length_le_of_mem_flatMap (List.mem_map_of_mem hitem)
  have hcount := nine_mul_length_le hne
  have hloop : ∀ outcome, depth ≤ options.maximumNestingDepth →
      before + 1 ≤ options.maximumTotalValues → _ := fun outcome hdepth hroom =>
    preflightItems_eq_ok_iff (fun item hitem => (h item hitem).2) hne
      (fun item hitem => show _ ≤ levels by have := hshort item hitem; omega)
      (fun item hitem => by have := hshort item hitem; omega) hdepth [] hroom outcome
  rw [appendCanonical_fromTuple, preflight_cons_eq_ok_iff, preflightTagged, if_pos rfl,
    preflightTuple, readLength_encode (by omega)]
  simp only [ok_bind, guard_eq_ok_iff, Within, nestingDepth_fromTuple, largestTuple_fromTuple,
    totalValues_fromTuple]
  rw [← List.append_nil ((items.map appendCanonical).flatMap framed)]
  constructor
  · intro h
    obtain ⟨hdepth, hroom, hcounted, -, hitems⟩ := h
    obtain ⟨⟨hnest, hlarge, htotal⟩, houtcome⟩ := (hloop _ hdepth (by omega)).1 hitems
    rw [Prod.mk.injEq] at houtcome
    exact ⟨⟨hnest, by omega, by omega⟩, by omega⟩
  · intro h
    obtain ⟨⟨hnest, hlarge, htotal⟩, rfl⟩ := h
    refine ⟨by omega, by omega, by omega, ?_, ?_⟩
    · rw [List.append_nil]
      omega
    · exact (hloop _ (by omega) (by omega)).2
        ⟨⟨hnest, by omega, by omega⟩, by rw [Prod.mk.injEq]; exact ⟨rfl, by omega⟩⟩

/-- **The preflight on the encoding of a value.** -/
theorem preflight_eq_ok_iff {value : CanonicalValue} (h : value.validate = .ok ()) :
    options.Preflights value := by
  refine validInduct ?_ ?_ ?_ ?_ ?_ ?_ value h
  · exact preflights_leaf rfl ⟨_, _, appendCanonical_null, by decide, rfl⟩
  · intro flag
    refine @preflights_leaf options (fromBoolean flag) rfl
      ⟨_, _, appendCanonical_fromBoolean flag, by decide, ?_⟩
    cases flag with
    | false => rfl
    | true => rfl
  · intro number
    have hwidth := (magnitudeBytes_spec number).2.1
    refine @preflights_leaf options (fromInteger number) rfl
      ⟨_, _, appendCanonical_fromInteger number, by decide, ?_⟩
    have hskip := @skipPayload_framed options (magnitudeBytes number)
      (by omega) "integer-width" []
    simpa [preflightLeaf] using hskip
  · intro content levels depth before after hlevels hfits
    have hsize := hfits
    rw [appendCanonical_fromBytes, List.length_cons, length_framed] at hsize
    have hskip := @skipPayload_framed options content
      (by omega) "payload-size" []
    have hleaf : options.Preflights (fromBytes content) :=
      @preflights_leaf options (fromBytes content) rfl
        ⟨_, _, appendCanonical_fromBytes content, by decide, by simpa [preflightLeaf] using hskip⟩
    exact hleaf levels depth before after hlevels hfits
  · intro text _ levels depth before after hlevels hfits
    have hsize := hfits
    rw [appendCanonical_fromString, List.length_cons, length_framed] at hsize
    have hskip := @skipPayload_framed options text
      (by omega) "payload-size" []
    have hleaf : options.Preflights (fromString text) :=
      @preflights_leaf options (fromString text) rfl
        ⟨_, _, appendCanonical_fromString text, by decide, by simpa [preflightLeaf] using hskip⟩
    exact hleaf levels depth before after hlevels hfits
  · intro items hitems
    exact preflights_tuple hitems

end BoundedCanonicalBinaryOptions

open Fallible BoundedCanonicalBinaryOptions

/-- **Bounded and plain decoding agree.** The bounded decoder returns what the plain one returns
    for the values within the limits, and fails on everything else. -/
theorem decodeBoundedCanonicalBinary_eq_ok_iff (input : Bytes)
    (options : BoundedCanonicalBinaryOptions) (value : CanonicalValue) :
    decodeBoundedCanonicalBinary input options = .ok value ↔
      canonicalBinaryDecode input = .ok value ∧
        options.initialDepth + value.nestingDepth ≤ options.maximumNestingDepth ∧
        value.largestTuple ≤ options.maximumTupleItems ∧
        value.totalValues ≤ options.maximumTotalValues := by
  have hagree : ∀ {value}, canonicalBinaryDecode input = .ok value → ∀ after,
      (options.preflight input.length input options.initialDepth 0 = .ok after ↔
        options.Within value options.initialDepth 0 ∧ after = 0 + value.totalValues) := by
    intro value hdecode after
    obtain ⟨hvalid, hsize, rfl⟩ :=
      canonicalBinary_eq_ok_iff.1 (canonicalBinary_of_canonicalBinaryDecode hdecode)
    rw [vectorMaxSize] at hsize
    exact preflight_eq_ok_iff hvalid _ _ _ _ le_rfl (by omega) (Nat.zero_le _)
  rw [decodeBoundedCanonicalBinary, bind_eq_ok_iff]
  constructor
  · intro h
    obtain ⟨after, hpreflight, h⟩ := h
    cases hdecode : canonicalBinaryDecode input with
    | error error => simp [hdecode] at h
    | ok decoded =>
        simp only [hdecode, Except.ok.injEq] at h
        subst h
        obtain ⟨⟨hdepth, hlargest, htotal⟩, -⟩ := (hagree hdecode after).1 hpreflight
        exact ⟨rfl, hdepth, hlargest, by omega⟩
  · intro h
    obtain ⟨hdecode, hdepth, hlargest, htotal⟩ := h
    refine ⟨0 + value.totalValues, ?_, by simp [hdecode]⟩
    exact (hagree hdecode _).2 ⟨⟨hdepth, hlargest, by omega⟩, rfl⟩

end Cxxlens.Sdk
