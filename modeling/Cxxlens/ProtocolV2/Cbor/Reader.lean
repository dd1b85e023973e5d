import Cxxlens.ProtocolV2.Cbor.Wire

set_option autoImplicit false

/-! # A reader for the wire grammar

One function that reads an item at a cursor within a set of bounds, with no error values and no
stack. It reads exactly the values that fit the bounds, from exactly their wire bytes
(`readItem_eq_some_iff`). The recursive decoder and the iterative scanner both compute it. -/

namespace Cxxlens.ProtocolV2.Cbor

open Sorting (shortlexLess)

/-- An offset in the input together with the number of items begun so far. -/
structure Cursor where
  next : Nat
  itemCount : Nat
  deriving DecidableEq, Repr

/-- The members of an array, each read by `child`. -/
def readItems (child : Cursor → Option (Value × Cursor)) :
    Nat → Cursor → Option (List Value × Cursor)
  | 0, cursor => some ([], cursor)
  | count + 1, cursor => do
    let (item, cursor) ← child cursor
    let (rest, cursor) ← readItems child count cursor
    some (item :: rest, cursor)

/-- One entry of a map: a text above the key before, then an item. -/
def readField (child : Cursor → Option (Value × Cursor)) (previous : Bytes) (cursor : Cursor) :
    Option ((Bytes × Value) × Cursor) := do
  let (keyItem, keyEnd) ← child cursor
  match keyItem with
  | .text key =>
    if shortlexLess previous (encodedText key) = false then none
    else do
      let (item, cursor) ← child keyEnd
      some ((key, item), cursor)
  | _ => none

/-- The entries of a map, each key above the one before. -/
def readFields (child : Cursor → Option (Value × Cursor)) :
    Nat → Bytes → Cursor → Option (Fields × Cursor)
  | 0, _, cursor => some ([], cursor)
  | count + 1, previous, cursor => do
    let (field, cursor) ← readField child previous cursor
    let (rest, cursor) ← readFields child count (encodedText field.1) cursor
    some (field :: rest, cursor)

/-- What follows a head: the item whose head is `kind` with argument `count`. -/
def readBody (bound : ScanLimits) (input : Bytes) (child : Cursor → Option (Value × Cursor))
    (kind : Major) (count : Nat) (cursor : Cursor) : Option (Value × Cursor) :=
  match kind with
  | .unsignedInteger => some (.unsigned (UInt64.ofNat count), cursor)
  | .negativeInteger =>
    if count ≥ 2 ^ 63 then none else some (.negative (negativeOf count), cursor)
  | .byteString =>
    if count > bound.maxByteStringBytes.toNat ∨ count > input.length - cursor.next then none
    else some (.bytes (Span.slice input cursor.next (cursor.next + count)),
      { cursor with next := cursor.next + count })
  | .text =>
    if count > bound.maxTextBytes.toNat ∨ count > input.length - cursor.next then none
    else
      let item := Span.slice input cursor.next (cursor.next + count)
      if validUtf8 item = false then none
      else some (.text item, { cursor with next := cursor.next + count })
  | .array =>
    if count > bound.maxArrayItems.toNat then none
    else (readItems child count cursor).map fun (items, cursor) => (.array items, cursor)
  | .map =>
    if count > bound.maxMapItems.toNat then none
    else (readFields child count [] cursor).map fun (fields, cursor) => (.map fields, cursor)
  | .simple =>
    if count = 20 then some (.bool false, cursor)
    else if count = 21 then some (.bool true, cursor)
    else if count = 22 then some (.null, cursor)
    else none
  | .unnamed6 => none

/-- The item at a cursor, with at most `levels` levels of nesting left. -/
def readItem (bound : ScanLimits) (input : Bytes) : Nat → Cursor → Option (Value × Cursor)
  | 0, _ => none
  | levels + 1, cursor =>
    if cursor.itemCount ≥ bound.maxItems.toNat then none
    else
      match headAt true input cursor.next with
      | .error _ => none
      | .ok ⟨kind, count, next⟩ =>
        readBody bound input (readItem bound input levels) kind count
          ⟨next, cursor.itemCount + 1⟩

/-! ## What it reads -/

/-- `item` fits the bounds and stands at `cursor`; `after` is the cursor behind it. -/
structure Reads (bound : ScanLimits) (input : Bytes) (levels : Nat) (cursor : Cursor)
    (item : Value) (after : Cursor) : Prop where
  fits : Fits bound levels item
  stands : Span.At input cursor.next (wire item)
  next : after.next = cursor.next + (wire item).length
  count : after.itemCount = cursor.itemCount + item.itemCount
  within : after.itemCount ≤ bound.maxItems.toNat

/-- `Reads` for the members of an array. -/
structure ReadsItems (bound : ScanLimits) (input : Bytes) (levels : Nat) (cursor : Cursor)
    (items : List Value) (after : Cursor) : Prop where
  fits : ∀ child ∈ items, Fits bound levels child
  stands : Span.At input cursor.next (wireItems items)
  next : after.next = cursor.next + (wireItems items).length
  count : after.itemCount = cursor.itemCount + itemCountItems items
  within : after.itemCount ≤ bound.maxItems.toNat

/-- `Reads` for the entries of a map whose keys follow `previous`. -/
structure ReadsFields (bound : ScanLimits) (input : Bytes) (levels : Nat) (previous : Bytes)
    (cursor : Cursor) (fields : Fields) (after : Cursor) : Prop where
  keys : ∀ field ∈ fields, Fits bound levels (.text field.1)
  fits : ∀ field ∈ fields, Fits bound levels field.2
  ascending : List.IsChain (fun a b => shortlexLess a b = true)
    (previous :: fields.map fun field => encodedText field.1)
  stands : Span.At input cursor.next (wireFields fields)
  next : after.next = cursor.next + (wireFields fields).length
  count : after.itemCount = cursor.itemCount + itemCountFields fields
  within : after.itemCount ≤ bound.maxItems.toNat

/-- A reader of children that reads exactly what fits `levels` levels. -/
def ReadsExactly (bound : ScanLimits) (input : Bytes) (levels : Nat)
    (child : Cursor → Option (Value × Cursor)) : Prop :=
  ∀ cursor item after, child cursor = some (item, after) ↔
    Reads bound input levels cursor item after

theorem readItems_eq_some_iff {bound : ScanLimits} {input : Bytes} {levels : Nat}
    {child : Cursor → Option (Value × Cursor)} (hchild : ReadsExactly bound input levels child)
    (count : Nat) (cursor : Cursor) (hcursor : cursor.itemCount ≤ bound.maxItems.toNat)
    (items : List Value) (after : Cursor) :
    readItems child count cursor = some (items, after) ↔
      items.length = count ∧ ReadsItems bound input levels cursor items after := by
  induction count generalizing cursor items with
  | zero =>
      rw [readItems, Option.some.injEq, Prod.mk.injEq]
      constructor
      · rintro ⟨rfl, rfl⟩
        exact ⟨rfl, ⟨by simp, Span.at_nil _ _, rfl, rfl, hcursor⟩⟩
      · rintro ⟨hlen, hreads⟩
        obtain rfl := List.length_eq_zero_iff.1 hlen
        refine ⟨rfl, ?_⟩
        have hnext := hreads.next
        have hcount := hreads.count
        cases cursor
        cases after
        simp only [wireItems, itemCountItems, List.length_nil, Nat.add_zero] at hnext hcount
        subst hnext hcount
        rfl
  | succ count ih =>
      constructor
      · intro h
        simp only [readItems, Option.bind_eq_bind, Option.bind_eq_some_iff, Prod.exists] at h
        obtain ⟨item, mid, hitem, rest, last, hrest, hout⟩ := h
        obtain ⟨rfl, rfl⟩ := Prod.mk.inj (Option.some.inj hout)
        have hfirst := (hchild _ _ _).1 hitem
        obtain ⟨hlen, hreads⟩ := (ih mid hfirst.within rest).1 hrest
        refine ⟨by rw [List.length_cons, hlen], ⟨?_, ?_, ?_, ?_, hreads.within⟩⟩
        · intro other hother
          rcases List.mem_cons.1 hother with rfl | hmem
          · exact hfirst.fits
          · exact hreads.fits other hmem
        · rw [wireItems, Span.at_append, ← hfirst.next]
          exact ⟨hfirst.stands, hreads.stands⟩
        · rw [hreads.next, hfirst.next, wireItems, List.length_append, Nat.add_assoc]
        · rw [hreads.count, hfirst.count, itemCountItems, Nat.add_assoc]
      · rintro ⟨hlen, hreads⟩
        obtain _ | ⟨item, rest⟩ := items
        · exact absurd hlen (by simp)
        · have hstands := hreads.stands
          have hnext := hreads.next
          have hcount := hreads.count
          have hwithin := hreads.within
          rw [wireItems, Span.at_append] at hstands
          rw [wireItems, List.length_append] at hnext
          rw [itemCountItems] at hcount
          have hfirst : Reads bound input levels cursor item
              ⟨cursor.next + (wire item).length, cursor.itemCount + item.itemCount⟩ :=
            ⟨hreads.fits item (List.mem_cons_self ..), hstands.1, rfl, rfl, by
              simp only
              omega⟩
          have hrest : ReadsItems bound input levels
              ⟨cursor.next + (wire item).length, cursor.itemCount + item.itemCount⟩ rest after :=
            ⟨fun other hother => hreads.fits other (List.mem_cons_of_mem _ hother), hstands.2,
              by rw [hnext, Nat.add_assoc], by rw [hcount, Nat.add_assoc], hwithin⟩
          have hlen' : rest.length = count := by simpa using hlen
          simp only [readItems, (hchild _ _ _).2 hfirst, (ih _ hfirst.within rest).2 ⟨hlen', hrest⟩,
            Option.bind_eq_bind, Option.bind_some]

/-- A key read at a cursor is a text, and the bytes it was read from are its encoding. -/
theorem Reads.slice_key {bound : ScanLimits} {input : Bytes} {levels : Nat} {cursor after : Cursor}
    {key : Bytes} (h : Reads bound input levels cursor (.text key) after) :
    Span.slice input cursor.next after.next = encodedText key := by
  have hslice := h.stands.slice_eq
  rwa [← h.next, wire] at hslice

/-- The chain of keys that starts with no key says that the keys ascend. -/
theorem isChain_keys_iff (fields : Fields) :
    List.IsChain (fun a b => shortlexLess a b = true)
        ([] :: fields.map fun field => encodedText field.1) ↔ KeysAscending fields := by
  have htrans : Trans (fun a b : Bytes => shortlexLess a b = true)
      (fun a b => shortlexLess a b = true) (fun a b => shortlexLess a b = true) :=
    ⟨shortlexLess_trans⟩
  rw [List.isChain_iff_pairwise, List.pairwise_cons, List.pairwise_map, KeysAscending]
  constructor
  · exact fun h => h.2
  · intro h
    refine ⟨fun encoded hencoded => ?_, h⟩
    obtain ⟨field, -, rfl⟩ := List.mem_map.1 hencoded
    exact shortlexLess_nil (encodedText_ne_nil _)

theorem readField_eq_some_iff {bound : ScanLimits} {input : Bytes} {levels : Nat}
    {child : Cursor → Option (Value × Cursor)} (hchild : ReadsExactly bound input levels child)
    (previous : Bytes) (cursor : Cursor) (key : Bytes) (item : Value) (after : Cursor) :
    readField child previous cursor = some ((key, item), after) ↔
      shortlexLess previous (encodedText key) = true ∧
        ∃ keyEnd, Reads bound input levels cursor (.text key) keyEnd ∧
          Reads bound input levels keyEnd item after := by
  constructor
  · intro h
    simp only [readField, Option.bind_eq_bind, Option.bind_eq_some_iff, Prod.exists] at h
    obtain ⟨keyItem, keyEnd, hkey, h⟩ := h
    split at h
    next key' =>
      split at h
      · exact absurd h (by simp)
      next hless =>
        simp only [Option.bind_eq_some_iff, Prod.exists] at h
        obtain ⟨item', last, hitem, hout⟩ := h
        obtain ⟨hfield, rfl⟩ := Prod.mk.inj (Option.some.inj hout)
        obtain ⟨rfl, rfl⟩ := Prod.mk.inj hfield
        exact ⟨by simpa using hless, keyEnd, (hchild _ _ _).1 hkey, (hchild _ _ _).1 hitem⟩
    · exact absurd h (by simp)
  · rintro ⟨hless, keyEnd, hkey, hitem⟩
    rw [readField, (hchild _ _ _).2 hkey]
    simp only [Option.bind_eq_bind, Option.bind_some, hless, Bool.true_eq_false, if_false,
      (hchild _ _ _).2 hitem]

theorem readFields_eq_some_iff {bound : ScanLimits} {input : Bytes} {levels : Nat}
    {child : Cursor → Option (Value × Cursor)} (hchild : ReadsExactly bound input levels child)
    (count : Nat) (previous : Bytes) (cursor : Cursor)
    (hcursor : cursor.itemCount ≤ bound.maxItems.toNat) (fields : Fields) (after : Cursor) :
    readFields child count previous cursor = some (fields, after) ↔
      fields.length = count ∧ ReadsFields bound input levels previous cursor fields after := by
  induction count generalizing cursor previous fields with
  | zero =>
      rw [readFields, Option.some.injEq, Prod.mk.injEq]
      constructor
      · rintro ⟨rfl, rfl⟩
        exact ⟨rfl, ⟨by simp, by simp, by simp, Span.at_nil _ _, rfl, rfl, hcursor⟩⟩
      · rintro ⟨hlen, hreads⟩
        obtain rfl := List.length_eq_zero_iff.1 hlen
        refine ⟨rfl, ?_⟩
        have hnext := hreads.next
        have hcount := hreads.count
        cases cursor
        cases after
        simp only [wireFields, itemCountFields, List.length_nil, Nat.add_zero] at hnext hcount
        subst hnext hcount
        rfl
  | succ count ih =>
      constructor
      · intro h
        simp only [readFields, Option.bind_eq_bind, Option.bind_eq_some_iff, Prod.exists] at h
        obtain ⟨key, item, mid, hfield, rest, last, hrest, hout⟩ := h
        obtain ⟨rfl, rfl⟩ := Prod.mk.inj (Option.some.inj hout)
        obtain ⟨hless, keyEnd, hfirst, hsecond⟩ := (readField_eq_some_iff hchild _ _ _ _ _).1 hfield
        obtain ⟨hlen, hreads⟩ := (ih _ mid hsecond.within rest).1 hrest
        have hkeyNext : keyEnd.next = cursor.next + (encodedText key).length := hfirst.next
        have hkeyCount : keyEnd.itemCount = cursor.itemCount + 1 := hfirst.count
        refine ⟨by rw [List.length_cons, hlen], ⟨?_, ?_, ?_, ?_, ?_, ?_, hreads.within⟩⟩
        · intro other hother
          rcases List.mem_cons.1 hother with rfl | hmem
          · exact hfirst.fits
          · exact hreads.keys other hmem
        · intro other hother
          rcases List.mem_cons.1 hother with rfl | hmem
          · exact hsecond.fits
          · exact hreads.fits other hmem
        · rw [List.map_cons, List.isChain_cons_cons]
          exact ⟨hless, hreads.ascending⟩
        · rw [wireFields, Span.at_append, Span.at_append, ← hkeyNext, ← hsecond.next]
          exact ⟨hfirst.stands, hsecond.stands, hreads.stands⟩
        · rw [hreads.next, hsecond.next, hkeyNext, wireFields, List.length_append,
            List.length_append, Nat.add_assoc, Nat.add_assoc]
        · rw [hreads.count, hsecond.count, hkeyCount, itemCountFields, Nat.add_assoc,
            Nat.add_assoc, Nat.add_assoc]
      · rintro ⟨hlen, hreads⟩
        obtain _ | ⟨⟨key, item⟩, rest⟩ := fields
        · exact absurd hlen (by simp)
        · have hstands := hreads.stands
          have hnext := hreads.next
          have hcount := hreads.count
          have hwithin := hreads.within
          have hascending := hreads.ascending
          rw [wireFields, Span.at_append, Span.at_append] at hstands
          rw [wireFields, List.length_append, List.length_append] at hnext
          rw [itemCountFields] at hcount
          rw [List.map_cons, List.isChain_cons_cons] at hascending
          have hlen' : rest.length = count := by simpa using hlen
          have hfirst : Reads bound input levels cursor (.text key)
              ⟨cursor.next + (encodedText key).length, cursor.itemCount + 1⟩ :=
            ⟨hreads.keys (key, item) (List.mem_cons_self ..), hstands.1, by rw [wire], rfl, by
              simp only
              omega⟩
          have hsecond : Reads bound input levels
              ⟨cursor.next + (encodedText key).length, cursor.itemCount + 1⟩ item
              ⟨cursor.next + (encodedText key).length + (wire item).length,
                cursor.itemCount + 1 + item.itemCount⟩ :=
            ⟨hreads.fits (key, item) (List.mem_cons_self ..), hstands.2.1, rfl, rfl, by
              simp only
              omega⟩
          have hrest : ReadsFields bound input levels (encodedText key)
              ⟨cursor.next + (encodedText key).length + (wire item).length,
                cursor.itemCount + 1 + item.itemCount⟩ rest after :=
            ⟨fun other hother => hreads.keys other (List.mem_cons_of_mem _ hother),
              fun other hother => hreads.fits other (List.mem_cons_of_mem _ hother),
              hascending.2, hstands.2.2, by simp only; omega, by simp only; omega, hwithin⟩
          have hfield := (readField_eq_some_iff hchild previous cursor key item _).2
            ⟨hascending.1, _, hfirst, hsecond⟩
          rw [readFields, hfield]
          simp only [Option.bind_eq_bind, Option.bind_some,
            (ih _ _ hsecond.within rest).2 ⟨hlen', hrest⟩]

/-! ## One item -/

/-- Where the parts of an item without members lie: behind its head stands its payload. -/
theorem Reads.of_leaf {bound : ScanLimits} {input : Bytes} {levels : Nat} {cursor : Cursor}
    {item : Value} {kind : Major} {count : Nat} {payload : Bytes} (hfits : Fits bound levels item)
    (hwire : wire item = head kind count ++ payload) (hone : item.itemCount = 1)
    (hhead : Span.At input cursor.next (head kind count))
    (hpayload : Span.At input (cursor.next + (head kind count).length) payload)
    (hitems : cursor.itemCount < bound.maxItems.toNat) :
    Reads bound input levels cursor item
      ⟨cursor.next + (head kind count).length + payload.length, cursor.itemCount + 1⟩ := by
  refine ⟨hfits, ?_, ?_, by rw [hone], hitems⟩
  · rw [hwire, Span.at_append]
    exact ⟨hhead, hpayload⟩
  · rw [hwire, List.length_append, Nat.add_assoc]

theorem length_slice_from {input : Bytes} {offset count : Nat} (hoffset : offset ≤ input.length)
    (hcount : ¬ count > input.length - offset) :
    (Span.slice input offset (offset + count)).length = count := by
  rw [Span.length_slice (by omega)]
  omega

/-- What is read behind a head, with its head, is an item that fits. -/
theorem reads_of_readBody {bound : ScanLimits} {input : Bytes} {levels : Nat}
    {child : Cursor → Option (Value × Cursor)} (hchild : ReadsExactly bound input levels child)
    {kind : Major} {count : Nat} {cursor : Cursor} (hcount : count < 2 ^ 64)
    (hhead : Span.At input cursor.next (head kind count))
    (hitems : cursor.itemCount < bound.maxItems.toNat) {item : Value} {after : Cursor}
    (h : readBody bound input child kind count
      ⟨cursor.next + (head kind count).length, cursor.itemCount + 1⟩ = some (item, after)) :
    Reads bound input (levels + 1) cursor item after := by
  have hend := hhead.end_le (head_ne_nil _ _)
  cases kind with
  | unsignedInteger =>
      obtain ⟨rfl, rfl⟩ := Prod.mk.inj (Option.some.inj h)
      have hwire : wire (.unsigned (UInt64.ofNat count)) = head .unsignedInteger count ++ [] := by
        rw [wire, UInt64.toNat_ofNat', Nat.mod_eq_of_lt hcount, List.append_nil]
      exact .of_leaf (.unsigned _) hwire rfl hhead (Span.at_nil _ _) hitems
  | negativeInteger =>
      simp only [readBody] at h
      split at h
      · exact absurd h (by simp)
      next hlow =>
        obtain ⟨rfl, rfl⟩ := Prod.mk.inj (Option.some.inj h)
        have hlt : count < 2 ^ 63 := not_le.1 hlow
        have hwire : wire (.negative (negativeOf count)) = head .negativeInteger count ++ [] := by
          rw [wire, negativeArgument_negativeOf hlt, List.append_nil]
        have hneg : (negativeOf count).toInt < 0 := by
          rw [toInt_negativeOf hlt]
          omega
        exact .of_leaf (.negative _ hneg) hwire rfl hhead (Span.at_nil _ _) hitems
  | byteString =>
      simp only [readBody] at h
      split at h
      · exact absurd h (by simp)
      next hroom =>
        rw [not_or] at hroom
        obtain ⟨rfl, rfl⟩ := Prod.mk.inj (Option.some.inj h)
        have hlen := length_slice_from hend hroom.2
        have hfits : Fits bound (levels + 1)
            (.bytes (Span.slice input (cursor.next + (head .byteString count).length)
              (cursor.next + (head .byteString count).length + count))) :=
          .bytes _ (hlen.trans_le (not_lt.1 hroom.1))
        have hreads := Reads.of_leaf hfits (by rw [wire, hlen]) rfl hhead (Span.at_slice _ _ _) hitems
        rwa [hlen] at hreads
  | text =>
      simp only [readBody] at h
      split at h
      · exact absurd h (by simp)
      next hroom =>
        rw [not_or] at hroom
        split at h
        · exact absurd h (by simp)
        next hutf8 =>
          obtain ⟨rfl, rfl⟩ := Prod.mk.inj (Option.some.inj h)
          have hlen := length_slice_from hend hroom.2
          have hfits : Fits bound (levels + 1)
              (.text (Span.slice input (cursor.next + (head .text count).length)
                (cursor.next + (head .text count).length + count))) :=
            .text _ (hlen.trans_le (not_lt.1 hroom.1)) (by simpa using hutf8)
          have hreads := Reads.of_leaf hfits (by rw [wire, encodedText, hlen]) rfl hhead
            (Span.at_slice _ _ _) hitems
          rwa [hlen] at hreads
  | array =>
      simp only [readBody] at h
      split at h
      · exact absurd h (by simp)
      next hsize =>
        obtain ⟨⟨items, last⟩, hread, hout⟩ := Option.map_eq_some_iff.1 h
        obtain ⟨rfl, rfl⟩ := Prod.mk.inj hout
        obtain ⟨rfl, hreads⟩ := (readItems_eq_some_iff hchild _ ⟨_, _ + 1⟩ hitems _ _).1 hread
        refine ⟨.array items (not_lt.1 hsize) hreads.fits, ?_, ?_, ?_, hreads.within⟩
        · rw [wire, Span.at_append]
          exact ⟨hhead, hreads.stands⟩
        · rw [hreads.next, wire, List.length_append, Nat.add_assoc]
        · rw [hreads.count, Value.itemCount, Nat.add_assoc]
  | map =>
      simp only [readBody] at h
      split at h
      · exact absurd h (by simp)
      next hsize =>
        obtain ⟨⟨fields, last⟩, hread, hout⟩ := Option.map_eq_some_iff.1 h
        obtain ⟨rfl, rfl⟩ := Prod.mk.inj hout
        obtain ⟨rfl, hreads⟩ := (readFields_eq_some_iff hchild _ _ ⟨_, _ + 1⟩ hitems _ _).1 hread
        refine ⟨.map fields (not_lt.1 hsize) hreads.keys ?_ hreads.fits, ?_, ?_, ?_,
          hreads.within⟩
        · exact (isChain_keys_iff fields).1 hreads.ascending
        · rw [wire, Span.at_append]
          exact ⟨hhead, hreads.stands⟩
        · rw [hreads.next, wire, List.length_append, Nat.add_assoc]
        · rw [hreads.count, Value.itemCount, Nat.add_assoc]
  | unnamed6 => exact absurd h (by simp [readBody])
  | simple =>
      simp only [readBody] at h
      split at h
      next hfalse =>
        obtain ⟨rfl, rfl⟩ := Prod.mk.inj (Option.some.inj h)
        subst hfalse
        exact .of_leaf (.bool false) (List.append_nil _).symm rfl hhead (Span.at_nil _ _) hitems
      · split at h
        next htrue =>
          obtain ⟨rfl, rfl⟩ := Prod.mk.inj (Option.some.inj h)
          subst htrue
          exact .of_leaf (.bool true) (List.append_nil _).symm rfl hhead (Span.at_nil _ _) hitems
        · split at h
          next hnull =>
            obtain ⟨rfl, rfl⟩ := Prod.mk.inj (Option.some.inj h)
            subst hnull
            exact .of_leaf .null (List.append_nil _).symm rfl hhead (Span.at_nil _ _) hitems
          · exact absurd h (by simp)

/-- The reader meets a head it was written with. -/
theorem readItem_of_head {bound : ScanLimits} {input : Bytes} {levels : Nat} {cursor : Cursor}
    {kind : Major} {count : Nat} (hcount : count < 2 ^ 64)
    (hhead : Span.At input cursor.next (head kind count))
    (hitems : cursor.itemCount < bound.maxItems.toNat) :
    readItem bound input (levels + 1) cursor = readBody bound input (readItem bound input levels)
      kind count ⟨cursor.next + (head kind count).length, cursor.itemCount + 1⟩ := by
  rw [readItem, if_neg (not_le.2 hitems), headAt_of_at true hcount hhead]

/-- An item that fits is read from where it stands. -/
theorem readItem_of_reads {bound : ScanLimits} {input : Bytes} {levels : Nat} {cursor : Cursor}
    (hchild : ReadsExactly bound input levels (readItem bound input levels)) {item : Value}
    {after : Cursor} (h : Reads bound input (levels + 1) cursor item after) :
    readItem bound input (levels + 1) cursor = some (item, after) := by
  obtain ⟨hfits, hstands, hnext, hcount, hwithin⟩ := h
  have hitems : cursor.itemCount < bound.maxItems.toNat := by
    have hpos := item.itemCount_pos
    omega
  have hafter : after = ⟨cursor.next + (wire item).length, cursor.itemCount + item.itemCount⟩ := by
    cases after
    simp only at hnext hcount
    rw [hnext, hcount]
  subst hafter
  cases hfits with
  | null =>
      rw [readItem_of_head (by decide) hstands hitems]
      rfl
  | bool flag =>
      cases flag
      · rw [readItem_of_head (by decide) hstands hitems]
        rfl
      · rw [readItem_of_head (by decide) hstands hitems]
        rfl
  | unsigned integer =>
      rw [wire] at hstands
      rw [readItem_of_head integer.toNat_lt hstands hitems, readBody, UInt64.ofNat_toNat]
      rfl
  | negative integer hneg =>
      have hlt := (negativeArgument_lt hneg).1
      rw [wire] at hstands
      rw [readItem_of_head (by omega) hstands hitems, readBody, if_neg (by omega),
        negativeOf_negativeArgument hneg]
      rfl
  | bytes content hsize =>
      have hlt := bound.maxByteStringBytes.toNat_lt
      rw [wire, Span.at_append] at hstands
      have hroom := hstands.2.length_le
      rw [readItem_of_head (by omega) hstands.1 hitems, readBody, if_neg (by simp only; omega),
        hstands.2.slice_eq, wire, List.length_append, Nat.add_assoc]
      rfl
  | text content hsize hutf8 =>
      have hlt := bound.maxTextBytes.toNat_lt
      rw [wire, encodedText, Span.at_append] at hstands
      have hroom := hstands.2.length_le
      rw [readItem_of_head (by omega) hstands.1 hitems, readBody, if_neg (by simp only; omega),
        hstands.2.slice_eq]
      simp only [hutf8, Bool.true_eq_false, if_false, wire, encodedText, List.length_append,
        Nat.add_assoc]
      rfl
  | array items hsize hfit =>
      have hlt := bound.maxArrayItems.toNat_lt
      rw [wire, Span.at_append] at hstands
      have hread := (readItems_eq_some_iff hchild items.length
        ⟨cursor.next + (head .array items.length).length, cursor.itemCount + 1⟩ hitems items
        ⟨cursor.next + (wire (.array items)).length,
          cursor.itemCount + (Value.array items).itemCount⟩).2
        ⟨rfl, ⟨hfit, hstands.2, by simp only [wire, List.length_append]; omega,
          by simp only [Value.itemCount]; omega, hwithin⟩⟩
      rw [readItem_of_head (by omega) hstands.1 hitems, readBody, if_neg (by omega), hread]
      rfl
  | map fields hsize hkeys hascending hfit =>
      have hlt := bound.maxMapItems.toNat_lt
      rw [wire, Span.at_append] at hstands
      have hread := (readFields_eq_some_iff hchild fields.length []
        ⟨cursor.next + (head .map fields.length).length, cursor.itemCount + 1⟩ hitems fields
        ⟨cursor.next + (wire (.map fields)).length,
          cursor.itemCount + (Value.map fields).itemCount⟩).2
        ⟨rfl, ⟨hkeys, hfit, (isChain_keys_iff fields).2 hascending, hstands.2,
          by simp only [wire, List.length_append]; omega,
          by simp only [Value.itemCount]; omega, hwithin⟩⟩
      rw [readItem_of_head (by omega) hstands.1 hitems, readBody, if_neg (by omega), hread]
      rfl

/-- **The reader reads exactly the items that fit the bounds, from exactly their wire bytes.** -/
theorem readItem_readsExactly (bound : ScanLimits) (input : Bytes) (levels : Nat) :
    ReadsExactly bound input levels (readItem bound input levels) := by
  induction levels with
  | zero =>
      intro cursor item after
      constructor
      · intro h
        exact absurd h (by simp [readItem])
      · intro h
        cases h.fits
  | succ levels ih =>
      intro cursor item after
      constructor
      · intro h
        rw [readItem] at h
        split at h
        · exact absurd h (by simp)
        next hitems =>
          split at h
          · exact absurd h (by simp)
          next kind count next hhead =>
            obtain ⟨hcount, hat, rfl⟩ := headAt_eq_ok_iff.1 hhead
            exact reads_of_readBody ih hcount hat (not_le.1 hitems) h
      · exact readItem_of_reads ih

/-- At one cursor there is one item to read. -/
theorem Reads.unique {bound : ScanLimits} {input : Bytes} {levels : Nat} {cursor : Cursor}
    {item item' : Value} {after after' : Cursor} (h : Reads bound input levels cursor item after)
    (h' : Reads bound input levels cursor item' after') : item = item' ∧ after = after' := by
  have hread := (readItem_readsExactly bound input levels cursor item after).2 h
  have hread' := (readItem_readsExactly bound input levels cursor item' after').2 h'
  rw [hread] at hread'
  exact Prod.mk.inj (Option.some.inj hread')

/-! ## A whole input -/

/-- The value a whole input stands for, with its number of items. -/
def readInput (bound : ScanLimits) (input : Bytes) (levels : Nat) : Option (Value × Nat) := do
  if input.length > bound.maxBytes.toNat then none
  else
    let (item, after) ← readItem bound input levels ⟨0, 0⟩
    if after.next ≠ input.length then none else some (item, after.itemCount)

/-- A whole input is read as the one value that fits the bounds and has these bytes. -/
theorem readInput_eq_some_iff {bound : ScanLimits} {input : Bytes} {levels : Nat} {item : Value}
    {items : Nat} : readInput bound input levels = some (item, items) ↔
      Fits bound levels item ∧ input = wire item ∧ input.length ≤ bound.maxBytes.toNat ∧
        items = item.itemCount ∧ items ≤ bound.maxItems.toNat := by
  constructor
  · intro h
    unfold readInput at h
    split at h
    · exact absurd h (by simp)
    next hbytes =>
      simp only [Option.bind_eq_bind, Option.bind_eq_some_iff, Prod.exists] at h
      obtain ⟨item', after, hread, h⟩ := h
      split at h
      · exact absurd h (by simp)
      next hnext =>
        obtain ⟨rfl, rfl⟩ := Prod.mk.inj (Option.some.inj h)
        obtain ⟨hfits, hstands, hafter, hcount, hwithin⟩ :=
          (readItem_readsExactly _ _ _ _ _ _).1 hread
        simp only [Nat.zero_add] at hafter hcount
        have hself := hstands.eq_self (by omega)
        exact ⟨hfits, hself.symm, not_lt.1 hbytes, hcount, hwithin⟩
  · rintro ⟨hfits, rfl, hbytes, rfl, hwithin⟩
    have hreads : Reads bound (wire item) levels ⟨0, 0⟩ item
        ⟨(wire item).length, item.itemCount⟩ :=
      ⟨hfits, Span.at_self _, (Nat.zero_add _).symm, (Nat.zero_add _).symm, hwithin⟩
    have hread := (readItem_readsExactly _ _ _ _ _ _).2 hreads
    rw [readInput, if_neg (not_lt.2 hbytes), hread]
    simp

/-- **Values within the same bounds are told apart by their bytes.** -/
theorem wire_injective {bound : ScanLimits} {levels : Nat} {item item' : Value}
    (hfits : Fits bound levels item) (hfits' : Fits bound levels item')
    (hwithin : item.itemCount ≤ bound.maxItems.toNat)
    (hwithin' : item'.itemCount ≤ bound.maxItems.toNat) (h : wire item = wire item') :
    item = item' := by
  have hreads : Reads bound (wire item) levels ⟨0, 0⟩ item ⟨(wire item).length, item.itemCount⟩ :=
    ⟨hfits, Span.at_self _, (Nat.zero_add _).symm, (Nat.zero_add _).symm, hwithin⟩
  have hreads' : Reads bound (wire item) levels ⟨0, 0⟩ item'
      ⟨(wire item').length, item'.itemCount⟩ :=
    ⟨hfits', h ▸ Span.at_self _, (Nat.zero_add _).symm, (Nat.zero_add _).symm, hwithin'⟩
  exact (hreads.unique hreads').1

end Cxxlens.ProtocolV2.Cbor
