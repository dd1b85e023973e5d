import Cxxlens.ProtocolV2.Cbor.Reader

set_option autoImplicit false

/-! # The decoder

`decoder::visit` and `decode`. The source passes the depth down and refuses to visit an item deeper
than `max_depth`; the recursion here is on the levels that are left, `max_depth + 1 - depth`. The
offset and the decoder's item counter travel together as a cursor. -/

namespace Cxxlens.ProtocolV2.Cbor

open Sdk (Error Result)
open Sorting (shortlexLess shortlexLess_eq_false_iff)
open Fallible

/-! ## The source -/

/-- The test of a map key against the key before it, as the decoder and the scanner spell it: the
    encoded key is not above the previous one. -/
def notAbove (previousKey encodedKey : Bytes) : Bool :=
  decide (previousKey.length ≥ encodedKey.length)
    && (decide (previousKey.length ≠ encodedKey.length) || !decide (previousKey < encodedKey))

/-- The loop over the members of an array. -/
def Decoder.visitItems (visit : Cursor → Result (Value × Cursor)) :
    Nat → Cursor → Result (List Value × Cursor)
  | 0, cursor => .ok ([], cursor)
  | count + 1, cursor => do
    let (child, cursor) ← visit cursor
    let (rest, cursor) ← Decoder.visitItems visit count cursor
    .ok (child :: rest, cursor)

/-- The loop over the entries of a map: `previousKey` is the encoding of the key before, `item` the
    entries so far. -/
def Decoder.visitFields (input : Bytes) (visit : Cursor → Result (Value × Cursor)) :
    Nat → Bytes → Fields → Cursor → Result (Fields × Cursor)
  | 0, _, item, cursor => .ok (item, cursor)
  | count + 1, previousKey, item, cursor =>
    match visit cursor with
    | .ok (.text keyText, keyEnd) =>
      let encodedKey := Span.slice input cursor.next keyEnd.next
      if !previousKey.isEmpty && notAbove previousKey encodedKey then
        .error (failure "map" "order-or-duplicate")
      else if (find item keyText).isSome then .error (failure "map" "duplicate-key")
      else do
        let (child, cursor) ← visit keyEnd
        Decoder.visitFields input visit count encodedKey (item ++ [(keyText, child)]) cursor
    | _ => .error (failure "map-key" "text-required")

/-- `decoder::visit` -/
def Decoder.visit (input : Bytes) (bound : Limits) : Nat → Cursor → Result (Value × Cursor)
  | 0, _ => .error (failure "depth" "limit-exceeded")
  | levels + 1, cursor =>
    if cursor.itemCount ≥ bound.maxItems.toNat then .error (failure "items" "limit-exceeded")
    else do
      let parsed ← readHead input cursor.next
      let count := parsed.argument
      let cursor : Cursor := ⟨parsed.next, cursor.itemCount + 1⟩
      match parsed.kind with
      | .unsignedInteger => .ok (.unsigned (UInt64.ofNat count), cursor)
      | .negativeInteger =>
        if count > 2 ^ 63 - 1 then .error (failure "integer" "negative-overflow")
        else .ok (.negative (Int64.ofInt (-1 - count)), cursor)
      | .byteString =>
        if count > bound.maxByteStringBytes.toNat ∨ count > input.length - cursor.next then
          .error (failure "bytes" "limit-or-truncation")
        else
          .ok (.bytes (Span.slice input cursor.next (cursor.next + count)),
            { cursor with next := cursor.next + count })
      | .text =>
        if count > bound.maxTextBytes.toNat ∨ count > input.length - cursor.next then
          .error (failure "text" "limit-or-truncation")
        else
          let item := Span.slice input cursor.next (cursor.next + count)
          if !validUtf8 item then .error (failure "text" "invalid-utf8")
          else .ok (.text item, { cursor with next := cursor.next + count })
      | .array =>
        if count > bound.maxItems.toNat then .error (failure "array" "limit-exceeded")
        else do
          let (item, cursor) ← Decoder.visitItems (Decoder.visit input bound levels) count cursor
          .ok (.array item, cursor)
      | .map =>
        if count > bound.maxItems.toNat then .error (failure "map" "limit-exceeded")
        else do
          let (item, cursor) ←
            Decoder.visitFields input (Decoder.visit input bound levels) count [] [] cursor
          .ok (.map item, cursor)
      | .simple =>
        if count = 20 then .ok (.bool false, cursor)
        else if count = 21 then .ok (.bool true, cursor)
        else if count = 22 then .ok (.null, cursor)
        else .error (failure "simple" "unsupported")
      | .unnamed6 => .error (failure "cbor" "unsupported-major")

/-- The levels of nesting a depth limit allows: the depths `0` to `max_depth`. -/
def Limits.levels (bound : Limits) : Nat :=
  bound.maxDepth.toNat + 1

/-- The decoder's run over a whole input, with the number of items it visited. -/
def decodeCounting (input : Bytes) (bound : Limits) : Result (Value × Nat) :=
  if input.isEmpty ∨ input.length > bound.maxBytes.toNat then
    .error (failure "bytes" "empty-or-limit-exceeded")
  else do
    let (output, cursor) ← Decoder.visit input bound bound.levels ⟨0, 0⟩
    if cursor.next ≠ input.length then .error (failure "cbor" "trailing-bytes")
    else .ok (output, cursor.itemCount)

/-- `decode` -/
def decode (input : Bytes) (bound : Limits) : Result Value := do
  let (output, _) ← decodeCounting input bound
  .ok output

example : decode [0xa1, 0x61, 0x61, 0x82, 0x00, 0x20] {} =
    .ok (.map [(ascii "a", .array [.unsigned 0, .negative (-1)])]) := by rfl

/-! ## The decoder computes the reader -/

theorem notAbove_eq (previousKey encodedKey : Bytes) :
    notAbove previousKey encodedKey = !shortlexLess previousKey encodedKey := by
  rw [Bool.eq_iff_iff, Bool.not_eq_true', shortlexLess_eq_false_iff]
  simp [notAbove]

/-- The first key has no key before it, and every key is above the empty byte string. -/
theorem isEmpty_or_notAbove (previousKey : Bytes) {encodedKey : Bytes} (h : encodedKey ≠ []) :
    (!previousKey.isEmpty && notAbove previousKey encodedKey)
      = !shortlexLess previousKey encodedKey := by
  rw [notAbove_eq]
  cases previousKey with
  | nil => simp [shortlexLess_nil h]
  | cons first rest => simp

theorem Decoder.visitItems_toOption {visit : Cursor → Result (Value × Cursor)}
    {child : Cursor → Option (Value × Cursor)}
    (hvisit : ∀ cursor, (visit cursor).toOption = child cursor)
    (count : Nat) (cursor : Cursor) :
    (Decoder.visitItems visit count cursor).toOption = readItems child count cursor := by
  induction count generalizing cursor with
  | zero => rfl
  | succ count ih =>
      simp only [Decoder.visitItems, readItems, toOption_bind, hvisit, ih, toOption_ok]

theorem find_isSome_iff (fields : Fields) (key : Bytes) :
    (find fields key).isSome = true ↔ ∃ field ∈ fields, field.1 = key := by
  simp [find, List.find?_isSome]

/-- The entries read so far, none of them above the key read last. -/
def BelowKey (previousKey : Bytes) (item : Fields) : Prop :=
  ∀ field ∈ item, encodedText field.1 = previousKey ∨
    shortlexLess (encodedText field.1) previousKey = true

theorem BelowKey.not_mem {previousKey key : Bytes} {item : Fields} (h : BelowKey previousKey item)
    (hless : shortlexLess previousKey (encodedText key) = true) :
    (find item key).isSome = false := by
  rw [Bool.eq_false_iff, Ne, find_isSome_iff]
  rintro ⟨field, hfield, rfl⟩
  rcases h field hfield with heq | hbelow
  · rw [← heq] at hless
    exact shortlexLess_irrefl _ hless
  · exact shortlexLess_irrefl _ (shortlexLess_trans hbelow hless)

theorem BelowKey.append {previousKey key : Bytes} {item : Fields} (h : BelowKey previousKey item)
    (hless : shortlexLess previousKey (encodedText key) = true) (child : Value) :
    BelowKey (encodedText key) (item ++ [(key, child)]) := by
  intro field hfield
  rcases List.mem_append.1 hfield with hmem | hmem
  · rcases h field hmem with heq | hbelow
    · exact Or.inr (heq ▸ hless)
    · exact Or.inr (shortlexLess_trans hbelow hless)
  · rw [List.mem_singleton.1 hmem]
    exact Or.inl rfl

/-- The duplicate test of the decoder never fires: the order test rejects a repeated key before
    it. -/
theorem Decoder.visitFields_toOption {bound : ScanLimits} {input : Bytes} {levels : Nat}
    {visit : Cursor → Result (Value × Cursor)} {child : Cursor → Option (Value × Cursor)}
    (hchild : ReadsExactly bound input levels child)
    (hvisit : ∀ cursor, (visit cursor).toOption = child cursor) (count : Nat) (previousKey : Bytes)
    (item : Fields) (hitem : BelowKey previousKey item) (cursor : Cursor) :
    (Decoder.visitFields input visit count previousKey item cursor).toOption =
      (readFields child count previousKey cursor).map
        fun (fields, after) => (item ++ fields, after) := by
  induction count generalizing previousKey item cursor with
  | zero => simp [Decoder.visitFields, readFields]
  | succ count ih =>
      rw [Decoder.visitFields, readFields, readField, ← hvisit]
      rcases hkey : visit cursor with fault | ⟨keyItem, keyEnd⟩
      · rfl
      · have hread : Reads bound input levels cursor keyItem keyEnd := by
          rw [← hchild, ← hvisit, hkey, toOption_ok]
        cases keyItem with
        | text key =>
            simp only [toOption_ok, Option.bind_eq_bind, Option.bind_some, hread.slice_key,
              isEmpty_or_notAbove _ (encodedText_ne_nil key)]
            cases hless : shortlexLess previousKey (encodedText key) with
            | false => rfl
            | true =>
                simp only [Bool.not_true, Bool.false_eq_true, if_false, hitem.not_mem hless,
                  Bool.true_eq_false]
                rw [toOption_bind, hvisit]
                rcases child keyEnd with _ | ⟨value, mid⟩
                · rfl
                · simp only [Option.bind_eq_bind, Option.bind_some]
                  rw [ih _ _ (hitem.append hless value)]
                  rcases readFields child count (encodedText key) mid with _ | ⟨rest, last⟩
                  · rfl
                  · simp
        | _ => rfl

/-- **The recursive decoder computes the reader**, with the item limit for both shape limits. -/
theorem Decoder.visit_toOption (input : Bytes) (bound : Limits) (levels : Nat) (cursor : Cursor) :
    (Decoder.visit input bound levels cursor).toOption =
      readItem bound.toScanLimits input levels cursor := by
  induction levels generalizing cursor with
  | zero => rfl
  | succ levels ih =>
      have hchild := readItem_readsExactly bound.toScanLimits input levels
      rw [Decoder.visit, readItem]
      show _ = if cursor.itemCount ≥ bound.maxItems.toNat then none else _
      rw [toOption_ite, readHead]
      split_ifs with hitems
      · rfl
      · rcases headAt true input cursor.next with fault | ⟨kind, count, next⟩
        · cases fault <;> rfl
        · simp only [Except.mapError, ok_bind]
          cases kind with
          | unsignedInteger => rfl
          | negativeInteger =>
              simp only [readBody, toOption_ite, toOption_ok, negativeOf]
              congr 1
          | byteString => exact toOption_ite ..
          | text =>
              simp only [readBody, toOption_ite, toOption_ok, Bool.not_eq_true']
              rfl
          | array =>
              simp only [readBody, toOption_ite, toOption_bind, toOption_ok,
                Decoder.visitItems_toOption ih, Option.map_eq_bind]
              rfl
          | map =>
              have hbelow : BelowKey [] [] := fun field hfield => absurd hfield (by simp)
              simp only [readBody, toOption_ite, toOption_bind, toOption_ok,
                Decoder.visitFields_toOption hchild ih count [] [] hbelow, List.nil_append,
                Option.map_eq_bind, Option.bind_eq_bind, Option.bind_assoc]
              rfl
          | unnamed6 => rfl
          | simple =>
              simp only [readBody]
              split_ifs <;> rfl

/-- An empty input is refused before the visit, and there is no head in it to read. -/
theorem readItem_nil (bound : ScanLimits) (levels : Nat) :
    readItem bound [] levels ⟨0, 0⟩ = none := by
  cases levels with
  | zero => rfl
  | succ levels =>
      rw [readItem]
      split_ifs <;> rfl

theorem decodeCounting_toOption (input : Bytes) (bound : Limits) :
    (decodeCounting input bound).toOption = readInput bound.toScanLimits input bound.levels := by
  unfold decodeCounting readInput
  rw [toOption_ite, toOption_bind, Decoder.visit_toOption]
  rcases input with _ | ⟨first, rest⟩
  · rw [readItem_nil]
    simp
  · simp only [List.isEmpty_cons, Bool.false_eq_true, false_or, toOption_ite, toOption_ok]
    rfl

/-- **What the decoder accepts**: the wire bytes of a value that fits the bounds, with its items,
    map keys included, within the item limit. -/
theorem decodeCounting_eq_ok_iff {input : Bytes} {bound : Limits} {item : Value} {items : Nat} :
    decodeCounting input bound = .ok (item, items) ↔
      Fits bound.toScanLimits bound.levels item ∧ input = wire item ∧
        input.length ≤ bound.maxBytes.toNat ∧ items = item.itemCount ∧
        items ≤ bound.maxItems.toNat := by
  rw [← toOption_eq_some_iff, decodeCounting_toOption, readInput_eq_some_iff]
  rfl

theorem decode_eq_ok_iff {input : Bytes} {bound : Limits} {item : Value} :
    decode input bound = .ok item ↔
      Fits bound.toScanLimits bound.levels item ∧ input = wire item ∧
        input.length ≤ bound.maxBytes.toNat ∧ item.itemCount ≤ bound.maxItems.toNat := by
  unfold decode
  rw [bind_eq_ok_iff]
  constructor
  · rintro ⟨⟨output, items⟩, hrun, hout⟩
    obtain rfl := Except.ok.inj hout
    obtain ⟨hfits, hinput, hbytes, rfl, hitems⟩ := decodeCounting_eq_ok_iff.1 hrun
    exact ⟨hfits, hinput, hbytes, hitems⟩
  · rintro ⟨hfits, hinput, hbytes, hitems⟩
    exact ⟨(item, item.itemCount),
      decodeCounting_eq_ok_iff.2 ⟨hfits, hinput, hbytes, rfl, hitems⟩, rfl⟩

end Cxxlens.ProtocolV2.Cbor
