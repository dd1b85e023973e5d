import Cxxlens.ProtocolV2.Cbor.Head

set_option autoImplicit false

/-! # The encoder

`validate_value`, `encoder::visit` and `encode`. The encoder walks a value depth first with one
output buffer and one item counter; a map's keys are checked in the order the map holds them and
its entries are written in the order of their encoded keys. -/

namespace Cxxlens.ProtocolV2.Cbor

open Sdk (Error Result)
open Sorting (sortBy shortlexLess)

/-! ## Validation before encoding -/

/-- The check of one text or key: its size and its UTF-8. -/
def validText (bound : Limits) (text : Bytes) : Bool :=
  decide (text.length ≤ bound.maxTextBytes.toNat) && validUtf8 text

mutual

/-- `validate_value`: the new item count, or the first fault. -/
def validateValue (bound : Limits) : Value → Nat → Nat → Result Nat
  | item, depth, count => do
    if depth > bound.maxDepth.toNat ∨ count ≥ bound.maxItems.toNat then
      .error (failure "value" "limit-exceeded")
    else
      let count := count + 1
      match item with
      | .text text =>
        if !validText bound text then .error (failure "text" "invalid-or-too-large") else .ok count
      | .bytes byteString =>
        if byteString.length > bound.maxByteStringBytes.toNat then
          .error (failure "bytes" "limit-exceeded")
        else .ok count
      | .negative integer =>
        if integer.toInt ≥ 0 then .error (failure "integer" "negative-kind-mismatch") else .ok count
      | .array items =>
        if items.length > bound.maxItems.toNat then .error (failure "array" "limit-exceeded")
        else validateItems bound items (depth + 1) count
      | .map fields =>
        if fields.length > bound.maxItems.toNat then .error (failure "map" "limit-exceeded")
        else validateFields bound fields (depth + 1) [] count
      | _ => .ok count

/-- The loop over the children of an array. -/
def validateItems (bound : Limits) : List Value → Nat → Nat → Result Nat
  | [], _, count => .ok count
  | child :: rest, depth, count => do
    let count ← validateValue bound child depth count
    validateItems bound rest depth count

/-- The loop over the entries of a map; `keys` are the keys met so far. -/
def validateFields (bound : Limits) : List (Bytes × Value) → Nat → List Bytes → Nat → Result Nat
  | [], _, _, count => .ok count
  | (key, child) :: rest, depth, keys, count =>
    if key ∈ keys then .error (failure "map" "duplicate-key")
    else if !validText bound key then .error (failure "map-key" "invalid-or-too-large")
    else do
      let count ← validateValue bound child depth count
      validateFields bound rest depth (key :: keys) count

end

/-- `validate` -/
def validate (item : Value) (bound : Limits) : Result Unit := do
  let _ ← validateValue bound item 0 0
  .ok ()

/-! ## Encoding -/

/-- `encoder`: the bytes written and the items counted. -/
structure Encoder where
  output : Bytes
  itemCount : Nat

/-- `output.insert(output.end(), ...)` -/
def Encoder.append (writer : Encoder) (bytes : Bytes) : Encoder :=
  { writer with output := writer.output ++ bytes }

/-- `encoder::check_size` -/
def Encoder.checkSize (bound : Limits) (writer : Encoder) : Result Encoder :=
  if writer.output.length > bound.maxBytes.toNat then .error (failure "bytes" "limit-exceeded")
  else .ok writer

/-- `entry`: an encoded key with the visit of the item the entry points to. -/
structure Entry where
  key : Bytes
  item : Encoder → Result Encoder

/-- The comparator the entries of a map are sorted by. -/
def Entry.less (left right : Entry) : Bool :=
  shortlexLess left.key right.key

/-- The loop that writes the sorted entries of a map. -/
def writeEntries : List Entry → Encoder → Result Encoder
  | [], writer => .ok writer
  | field :: rest, writer => do
    let writer ← field.item (writer.append field.key)
    writeEntries rest writer

/-- `-(item + 1)`, the argument of a negative integer, computed as the source does. -/
def negativeArgument (item : Int64) : Nat :=
  let magnitude := (-(item.toInt + 1)).toNat + 1
  magnitude - 1

mutual

/-- `encoder::visit` -/
def Encoder.visit (bound : Limits) : Value → Nat → Encoder → Result Encoder
  | item, depth, writer =>
    if depth > bound.maxDepth.toNat then .error (failure "depth" "limit-exceeded")
    else if writer.itemCount ≥ bound.maxItems.toNat then .error (failure "items" "limit-exceeded")
    else
      let writer : Encoder := { writer with itemCount := writer.itemCount + 1 }
      match item with
      | .null => (writer.append [0xf6]).checkSize bound
      | .bool item => (writer.append [if item then 0xf5 else 0xf4]).checkSize bound
      | .unsigned item =>
        (writer.append (head .unsignedInteger item.toNat)).checkSize bound
      | .negative item =>
        if item.toInt ≥ 0 then .error (failure "integer" "negative-kind-mismatch")
        else (writer.append (head .negativeInteger (negativeArgument item))).checkSize bound
      | .bytes item =>
        if item.length > bound.maxByteStringBytes.toNat then
          .error (failure "bytes" "limit-exceeded")
        else (writer.append (head .byteString item.length ++ item)).checkSize bound
      | .text item =>
        if !validText bound item then .error (failure "text" "invalid-or-too-large")
        else (writer.append (encodedText item)).checkSize bound
      | .array items =>
        if items.length > bound.maxItems.toNat then .error (failure "array" "limit-exceeded")
        else do
          let writer ← Encoder.visitItems bound items (depth + 1)
            (writer.append (head .array items.length))
          writer.checkSize bound
      | .map fields =>
        if fields.length > bound.maxItems.toNat then .error (failure "map" "limit-exceeded")
        else do
          let ordered ← Encoder.entries bound fields (depth + 1) []
          let writer ← writeEntries (sortBy Entry.less ordered)
            (writer.append (head .map ordered.length))
          writer.checkSize bound

/-- The loop over the children of an array. -/
def Encoder.visitItems (bound : Limits) : List Value → Nat → Encoder → Result Encoder
  | [], _, writer => .ok writer
  | child :: rest, depth, writer => do
    let writer ← Encoder.visit bound child depth writer
    Encoder.visitItems bound rest depth writer

/-- The loop that checks and encodes the keys of a map; `keys` is `unique_keys`. -/
def Encoder.entries (bound : Limits) :
    List (Bytes × Value) → Nat → List Bytes → Result (List Entry)
  | [], _, _ => .ok []
  | (key, child) :: rest, depth, keys =>
    if key ∈ keys then .error (failure "map" "duplicate-key")
    else if !validText bound key then .error (failure "map-key" "invalid-or-too-large")
    else do
      let ordered ← Encoder.entries bound rest depth (key :: keys)
      .ok (⟨encodedText key, Encoder.visit bound child depth⟩ :: ordered)

end

/-- `encode` -/
def encode (item : Value) (bound : Limits) : Result Bytes := do
  validate item bound
  let writer ← Encoder.visit bound item 0 ⟨[], 0⟩
  .ok writer.output

end Cxxlens.ProtocolV2.Cbor
