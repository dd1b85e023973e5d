import Cxxlens.Foundation.BigEndian
import Cxxlens.Foundation.Fallible
import Cxxlens.Sdk.Utf8

set_option autoImplicit false

/-! # Canonical tuples

`canonical_value` and its binary form, `cxxlens-canonical-tuple-v1` (`common.cpp`). Every identity
digest of the SDK is taken over such a form. A value keeps a field for each of its kinds, and the
ones its kind does not use must be empty. -/

namespace Cxxlens.Sdk

/-- `canonical_value::kind`. An enumeration of bytes can hold a byte that has no name. -/
inductive CanonicalValue.Kind where
  | nullValue
  | boolean
  | signedInteger
  | bytes
  | utf8String
  | orderedTuple
  | unnamed (value : UInt8)
  deriving DecidableEq, Repr

/-- `canonical_value` -/
structure CanonicalValue where
  type : CanonicalValue.Kind := .nullValue
  boolean : Bool := false
  integer : Int64 := 0
  byteString : Bytes := []
  text : Bytes := []
  tuple : List CanonicalValue := []
  deriving Repr

namespace CanonicalValue

/-- `canonical_value::null` -/
def null : CanonicalValue := {}

/-- `canonical_value::from_boolean` -/
def fromBoolean (value : Bool) : CanonicalValue :=
  { type := .boolean, boolean := value }

/-- `canonical_value::from_integer` -/
def fromInteger (value : Int64) : CanonicalValue :=
  { type := .signedInteger, integer := value }

/-- `canonical_value::from_bytes` -/
def fromBytes (value : Bytes) : CanonicalValue :=
  { type := .bytes, byteString := value }

/-- `canonical_value::from_string` -/
def fromString (value : Bytes) : CanonicalValue :=
  { type := .utf8String, text := value }

/-- `canonical_value::from_tuple` -/
def fromTuple (value : List CanonicalValue) : CanonicalValue :=
  { type := .orderedTuple, tuple := value }

/-! ## Validation -/

/-- `canonical_error` -/
def failure (field detail : Bytes) : Error :=
  { code := "sdk.canonical-value-invalid", field := field, detail := detail }

/-- `std::to_string` of a size -/
def decimal (value : Nat) : Bytes :=
  ascii (toString value)

mutual

/-- `canonical_value::validate` -/
def validate : CanonicalValue → Result Unit
  | ⟨type, boolean, integer, byteString, text, tuple⟩ =>
    match type with
    | .unnamed _ => .error (failure "type" "closed-enum")
    | .nullValue =>
      if boolean = true ∨ integer ≠ 0 ∨ byteString ≠ [] ∨ text ≠ [] ∨ tuple.isEmpty = false then
        .error (failure "payload" "inactive-field")
      else .ok ()
    | .boolean =>
      if integer ≠ 0 ∨ byteString ≠ [] ∨ text ≠ [] ∨ tuple.isEmpty = false then
        .error (failure "payload" "inactive-field")
      else .ok ()
    | .signedInteger =>
      if boolean = true ∨ byteString ≠ [] ∨ text ≠ [] ∨ tuple.isEmpty = false then
        .error (failure "payload" "inactive-field")
      else .ok ()
    | .bytes =>
      if boolean = true ∨ integer ≠ 0 ∨ text ≠ [] ∨ tuple.isEmpty = false then
        .error (failure "payload" "inactive-field")
      else .ok ()
    | .utf8String =>
      if boolean = true ∨ integer ≠ 0 ∨ byteString ≠ [] ∨ tuple.isEmpty = false then
        .error (failure "payload" "inactive-field")
      else if validUtf8 text = false then .error (failure "text" "invalid-utf8")
      else .ok ()
    | .orderedTuple =>
      if boolean = true ∨ integer ≠ 0 ∨ byteString ≠ [] ∨ text ≠ [] then
        .error (failure "payload" "inactive-field")
      else validateItems 0 tuple

/-- The loop over the items of a tuple, from the item at `index` on. -/
def validateItems (index : Nat) : List CanonicalValue → Result Unit
  | [] => .ok ()
  | item :: rest =>
    match validate item with
    | .error error => .error (failure ("tuple[" ++ decimal index ++ "]") error.detail)
    | .ok () => validateItems (index + 1) rest

end

/-! ## Encoding -/

/-- `append_length`, a `std::uint64_t` -/
def appendLength (value : Nat) : Bytes :=
  BigEndian.encode 8 value

/-- The magnitude of an integer; the detour over `value + 1` keeps the negation in range. -/
def magnitude (value : Int64) : Nat :=
  if value.toInt < 0 then (-(value.toInt + 1)).toNat + 1 else value.toInt.toNat

/-- `for (remaining = magnitude; remaining > 0xff; remaining >>= 8) ++width`, in at most `rounds`
    rounds. -/
def magnitudeWidth : Nat → Nat → Nat → Nat
  | 0, _, width => width
  | rounds + 1, remaining, width =>
    if remaining > 0xff then magnitudeWidth rounds (remaining / 256) (width + 1) else width

/-- The bytes of a magnitude, most significant first; a 64-bit magnitude has at most eight. -/
def magnitudeBytes (value : Int64) : Bytes :=
  BigEndian.encode (magnitudeWidth 8 (magnitude value) 1) (magnitude value)

mutual

/-- `append_canonical`: the bytes it appends. -/
def appendCanonical : CanonicalValue → Bytes
  | ⟨type, boolean, integer, byteString, text, tuple⟩ =>
    match type with
    | .nullValue => [0x00]
    | .boolean => [0x01, if boolean = true then 0x01 else 0x00]
    | .signedInteger =>
      [0x02, if integer.toInt < 0 then 0x01 else 0x00] ++
        (appendLength (magnitudeBytes integer).length ++ magnitudeBytes integer)
    | .bytes => 0x03 :: (appendLength byteString.length ++ byteString)
    | .utf8String => 0x04 :: (appendLength text.length ++ text)
    | .orderedTuple => 0x05 :: (appendLength tuple.length ++ appendItems tuple)
    | .unnamed _ => []

/-- The items of a tuple, each behind its length. -/
def appendItems : List CanonicalValue → Bytes
  | [] => []
  | item :: rest =>
    let encoded := appendCanonical item
    appendLength encoded.length ++ encoded ++ appendItems rest

end

/-- `std::vector<std::byte>::max_size` -/
def vectorMaxSize : Nat := 2 ^ 63 - 1

/-- The exception of a vector that would outgrow `max_size`. -/
def lengthError : Error :=
  { code := "std::length_error", field := [], detail := [] }

/-- `canonical_binary` -/
def canonicalBinary (value : CanonicalValue) : Result Bytes := do
  value.validate
  let output := appendCanonical value
  if output.length > vectorMaxSize then .error lengthError else .ok output

/-! ## Decoding

The source walks a span with an offset; here a step returns the bytes it has not read. -/

/-- `read_canonical_length` -/
def readCanonicalLength (rest : Bytes) : Result (Nat × Bytes) :=
  if rest.length < 8 then .error (failure "binary" "truncated-length")
  else .ok (BigEndian.decode (rest.take 8), rest.drop 8)

/-- The branch of `decode_canonical_value` for an integer. -/
def decodeInteger : Bytes → Result (CanonicalValue × Bytes)
  | [] => .error (failure "binary" "invalid-integer-sign")
  | sign :: rest =>
    if sign > 1 then .error (failure "binary" "invalid-integer-sign")
    else do
      let (width, rest) ← readCanonicalLength rest
      if width = 0 ∨ width > 8 ∨ width > rest.length then
        .error (failure "binary" "invalid-integer-width")
      else if width > 1 ∧ rest.head? = some 0 then
        .error (failure "binary" "noncanonical-integer")
      else
        let magnitude := BigEndian.decode (rest.take width)
        let signedMax := 2 ^ 63 - 1
        if (sign ≠ 1 ∧ magnitude > signedMax) ∨
            (sign = 1 ∧ (magnitude = 0 ∨ magnitude > signedMax + 1)) then
          .error (failure "binary" "integer-out-of-range")
        else
          let value : Int64 :=
            if sign = 1 then
              if magnitude = signedMax + 1 then Int64.minValue else -Int64.ofNat magnitude
            else Int64.ofNat magnitude
          .ok (fromInteger value, rest.drop width)

/-- The branch for byte strings and texts. -/
def decodeString (make : Bytes → CanonicalValue) (rest : Bytes) :
    Result (CanonicalValue × Bytes) := do
  let (length, rest) ← readCanonicalLength rest
  if length > rest.length then .error (failure "binary" "truncated-payload")
  else .ok (make (rest.take length), rest.drop length)

/-- The loop over the items of a tuple, of which `count` are left. -/
def decodeItems (decodeItem : Bytes → Result CanonicalValue) :
    Nat → Bytes → Result (List CanonicalValue × Bytes)
  | 0, rest => .ok ([], rest)
  | count + 1, rest => do
    let (length, rest) ← readCanonicalLength rest
    if length = 0 ∨ length > rest.length then
      .error (failure "binary" "invalid-tuple-item-length")
    else do
      let item ← decodeItem (rest.take length)
      let (values, rest) ← decodeItems decodeItem count (rest.drop length)
      .ok (item :: values, rest)

/-- The branch for a tuple. -/
def decodeTuple (decodeItem : Bytes → Result CanonicalValue) (rest : Bytes) :
    Result (CanonicalValue × Bytes) := do
  let (count, rest) ← readCanonicalLength rest
  if count > rest.length / 9 then .error (failure "binary" "invalid-tuple-count")
  else do
    let (values, rest) ← decodeItems decodeItem count rest
    .ok (fromTuple values, rest)

/-- The switch over the tag. -/
def decodeTagged (decodeItem : Bytes → Result CanonicalValue) (tag : UInt8) (rest : Bytes) :
    Result (CanonicalValue × Bytes) :=
  if tag = 0x00 then .ok (null, rest)
  else if tag = 0x01 then
    match rest with
    | [] => .error (failure "binary" "invalid-boolean")
    | flag :: rest =>
      if flag > 1 then .error (failure "binary" "invalid-boolean")
      else .ok (fromBoolean (flag = 1), rest)
  else if tag = 0x02 then decodeInteger rest
  else if tag = 0x03 then decodeString fromBytes rest
  else if tag = 0x04 then decodeString fromString rest
  else if tag = 0x05 then decodeTuple decodeItem rest
  else .error (failure "binary" "unknown-tag")

/-- `decode_canonical_value` for at most `levels` nested tuples. An item is shorter than its tuple,
    so the length of the input is always enough; with no level left the input is empty. -/
def decodeNested : Nat → Bytes → Result CanonicalValue
  | 0, _ => .error (failure "binary" "missing-tag")
  | _ + 1, [] => .error (failure "binary" "missing-tag")
  | levels + 1, tag :: rest => do
    let (output, rest) ← decodeTagged (decodeNested levels) tag rest
    if rest.isEmpty = false then .error (failure "binary" "trailing-bytes")
    else do
      output.validate
      .ok output

/-- `decode_canonical_value` -/
def decodeCanonicalValue (bytes : Bytes) : Result CanonicalValue :=
  decodeNested bytes.length bytes

/-- `canonical_binary_decode` -/
def canonicalBinaryDecode (bytes : Bytes) : Result CanonicalValue := do
  let decoded ← decodeCanonicalValue bytes
  let encoded ← canonicalBinary decoded
  if encoded ≠ bytes then .error (failure "binary" "noncanonical-encoding") else .ok decoded

end CanonicalValue

end Cxxlens.Sdk
