import Cxxlens.Sdk.Result

set_option autoImplicit false

/-! # The closed CBOR subset: values, limits, UTF-8

The value type and the bounds of the protocol-2 deterministic-CBOR codec (`cbor.hpp`), and the
strict UTF-8 check that the encoder, the decoder and the scanner share. -/

namespace Cxxlens.ProtocolV2.Cbor

open Sdk (Error Result)

/-- `cbor::value`. A map keeps its entries in the order they were added. -/
inductive Value where
  | null
  | bool (item : Bool)
  | unsigned (item : UInt64)
  /-- The `std::int64_t` alternative; the codec admits it for negative numbers only. -/
  | negative (item : Int64)
  | bytes (item : Bytes)
  | text (item : Bytes)
  | array (items : List Value)
  | map (fields : List (Bytes × Value))
  deriving Repr

/-- `cbor::map` -/
abbrev Fields := List (Bytes × Value)

/-- `cbor::limits`: "Allocation and nesting limits applied before decoder growth." -/
structure Limits where
  maxBytes : SizeT := 65536
  maxDepth : SizeT := 32
  maxItems : SizeT := 4096
  maxTextBytes : SizeT := 4096
  maxByteStringBytes : SizeT := 1048576
  deriving DecidableEq, Repr

/-- `cbor::scan_limits` -/
structure ScanLimits where
  maxBytes : SizeT := 65536
  maxDepth : SizeT := 32
  maxItems : SizeT := 4096
  maxArrayItems : SizeT := 4096
  maxMapItems : SizeT := 4096
  maxTextBytes : SizeT := 4096
  maxByteStringBytes : SizeT := 1048576
  requireRootMap : Bool := false
  deriving DecidableEq, Repr

/-- The scanner bounds a decoder bound stands for: both shape limits are the item limit. -/
def Limits.toScanLimits (bound : Limits) : ScanLimits where
  maxBytes := bound.maxBytes
  maxDepth := bound.maxDepth
  maxItems := bound.maxItems
  maxArrayItems := bound.maxItems
  maxMapItems := bound.maxItems
  maxTextBytes := bound.maxTextBytes
  maxByteStringBytes := bound.maxByteStringBytes
  requireRootMap := false

/-- `major`. The enumeration has no name for 6 (tags); the switches reach their default there. -/
inductive Major where
  | unsignedInteger
  | negativeInteger
  | byteString
  | text
  | array
  | map
  | unnamed6
  | simple
  deriving DecidableEq, Repr

/-- `static_cast<std::uint8_t>(kind)` -/
def Major.toByte : Major → UInt8
  | .unsignedInteger => 0
  | .negativeInteger => 1
  | .byteString => 2
  | .text => 3
  | .array => 4
  | .map => 5
  | .unnamed6 => 6
  | .simple => 7

/-- `static_cast<major>(initial >> 5U)` -/
def Major.ofInitial (initial : UInt8) : Major :=
  match initial.toNat / 32 with
  | 0 => .unsignedInteger
  | 1 => .negativeInteger
  | 2 => .byteString
  | 3 => .text
  | 4 => .array
  | 5 => .map
  | 6 => .unnamed6
  | _ => .simple

/-- `failure(field, detail)` of `cbor.cpp` -/
def failure (field detail : Bytes) : Error :=
  { code := "protocol-v2.cbor-invalid", field := field, detail := detail }

/-- `80..bf`, the range of a UTF-8 continuation byte. -/
def continuation (byte : UInt8) : Bool :=
  decide (0x80 ≤ byte) && decide (byte ≤ 0xbf)

/-- `valid_utf8`: a strict UTF-8 scalar sequence, without normalizing bytes. -/
def validUtf8 : Bytes → Bool
  | [] => true
  | first :: rest =>
    if first ≤ 0x7f then validUtf8 rest
    else if 0xc2 ≤ first ∧ first ≤ 0xdf then
      match rest with
      | second :: rest => if continuation second then validUtf8 rest else false
      | _ => false
    else if 0xe0 ≤ first ∧ first ≤ 0xef then
      match rest with
      | second :: third :: rest =>
        if !continuation third || !continuation second then false
        else if (first = 0xe0 ∧ second < 0xa0) ∨ (first = 0xed ∧ second > 0x9f) then false
        else validUtf8 rest
      | _ => false
    else if 0xf0 ≤ first ∧ first ≤ 0xf4 then
      match rest with
      | second :: third :: fourth :: rest =>
        if !continuation second || !continuation third || !continuation fourth then false
        else if (first = 0xf0 ∧ second < 0x90) ∨ (first = 0xf4 ∧ second > 0x8f) then false
        else validUtf8 rest
      | _ => false
    else false

example : validUtf8 (ascii "kind") = true := by decide

example : validUtf8 [0xed, 0xa0, 0x80] = false := by decide

/-- `find`: the first entry with this key. -/
def find (fields : Fields) (key : Bytes) : Option Value :=
  (fields.find? fun field => field.1 == key).map (·.2)

/-! ## Induction on values -/

/-- Induction on a value through the members of its arrays and maps. -/
theorem Value.induct {P : Value → Prop} (null : P .null) (bool : ∀ item, P (.bool item))
    (unsigned : ∀ item, P (.unsigned item)) (negative : ∀ item, P (.negative item))
    (bytes : ∀ item, P (.bytes item)) (text : ∀ item, P (.text item))
    (array : ∀ items : List Value, (∀ child ∈ items, P child) → P (.array items))
    (map : ∀ fields : Fields, (∀ field ∈ fields, P field.2) → P (.map fields)) :
    ∀ item, P item := by
  intro item
  refine @Value.rec P (fun items => ∀ child ∈ items, P child)
    (fun fields => ∀ field ∈ fields, P field.2) (fun field => P field.2)
    null bool unsigned negative bytes text array map ?_ ?_ ?_ ?_ ?_ item
  · intro child hchild
    exact absurd hchild (by simp)
  · intro head tail hhead htail child hchild
    rcases List.mem_cons.1 hchild with rfl | hmem
    · exact hhead
    · exact htail child hmem
  · intro field hfield
    exact absurd hfield (by simp)
  · intro head tail hhead htail field hfield
    rcases List.mem_cons.1 hfield with rfl | hmem
    · exact hhead
    · exact htail field hmem
  · intro key item hitem
    exact hitem

end Cxxlens.ProtocolV2.Cbor
