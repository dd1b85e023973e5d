import Cxxlens.Sdk.CanonicalValue

set_option autoImplicit false

/-! # Texts

The checks on identifiers (`common.cpp`, and the anonymous helpers of `relation.cpp` that look at
text only) and the escape of `json_internal.hpp`. -/

namespace Cxxlens.Sdk

/-! ## Characters -/

/-- `'a' .. 'z'` -/
def isLower (byte : UInt8) : Bool :=
  decide (0x61 ≤ byte ∧ byte ≤ 0x7a)

/-- `'0' .. '9'` -/
def isDecimal (byte : UInt8) : Bool :=
  decide (0x30 ≤ byte ∧ byte ≤ 0x39)

/-- `'0' .. '9'` and `'a' .. 'f'` -/
def isLowerHex (byte : UInt8) : Bool :=
  isDecimal byte || decide (0x61 ≤ byte ∧ byte ≤ 0x66)

/-- Lower case letters, digits, and `_`, `.`, `-`. -/
def isSymbolByte (byte : UInt8) : Bool :=
  isLower byte || isDecimal byte || byte == 0x5f || byte == 0x2e || byte == 0x2d

/-- A control character. -/
def isControl (byte : UInt8) : Bool :=
  decide (byte < 0x20) || byte == 0x7f

theorem isSymbolByte_ascii {byte : UInt8} (h : isSymbolByte byte = true) : byte.toNat < 0x80 := by
  simp only [isSymbolByte, isLower, isDecimal, Bool.or_eq_true, decide_eq_true_eq, beq_iff_eq,
    UInt8.le_iff_toNat_le] at h
  rcases h with (((h | h) | rfl) | rfl) | rfl
  · exact lt_of_le_of_lt h.2 (by decide)
  · exact lt_of_le_of_lt h.2 (by decide)
  all_goals decide

theorem isLowerHex_ascii {byte : UInt8} (h : isLowerHex byte = true) : byte.toNat < 0x80 := by
  simp only [isLowerHex, isDecimal, Bool.or_eq_true, decide_eq_true_eq,
    UInt8.le_iff_toNat_le] at h
  rcases h with h | h
  · exact lt_of_le_of_lt h.2 (by decide)
  · exact lt_of_le_of_lt h.2 (by decide)

/-! ## Identifiers -/

def textInvalid (detail : Bytes) : Error :=
  { code := "sdk.text-invalid", field := "value", detail := detail }

/-- `validate_utf8_text` -/
def validateUtf8Text (value : Bytes) : Result Unit :=
  if validUtf8 value = false then .error (textInvalid "invalid-utf8") else .ok ()

/-- The loop of `validate_strong_id` over the scalars of a valid text, in at most `fuel` rounds:
    how many there are. -/
def strongIdScalars : Nat → Nat → Bytes → Result Nat
  | _, count, [] => .ok count
  | 0, count, _ => .ok count
  | fuel + 1, count, first :: rest =>
    if isControl first = true then .error (textInvalid "control-character")
    else
      strongIdScalars fuel (count + 1)
        (if first ≤ 0x7f then rest
        else if first ≤ 0xdf then rest.drop 1
        else if first ≤ 0xef then rest.drop 2
        else rest.drop 3)

/-- `validate_strong_id` -/
def validateStrongId (value : Bytes) : Result Unit := do
  if value = [] then .error (textInvalid "empty")
  else do
    validateUtf8Text value
    let scalarCount ← strongIdScalars value.length 0 value
    if scalarCount > 512 then .error (textInvalid "max-length") else .ok ()

/-- `validate_registered_symbol` -/
def validateRegisteredSymbol (value : Bytes) : Result Unit := do
  validateStrongId value
  if value.length < 2 ∨ (value.head?.any isLower) = false ∨
      (value.drop 1).all isSymbolByte = false then
    .error (textInvalid "registered-symbol")
  else .ok ()

/-- `lower_identifier` -/
def lowerIdentifier : Bytes → Bool
  | [] => false
  | first :: rest =>
    isLower first && rest.all fun byte => isLower byte || isDecimal byte || byte == 0x5f

/-- `typed_identity_parameter` -/
def typedIdentityParameter (value : Bytes) : Bool :=
  lowerIdentifier value && (ascii "_id" <:+ value || value == ascii "stable_unit_key")

/-- `relation_name`: at least two segments between dots. -/
def relationName (value : Bytes) : Bool :=
  (value.splitOn 0x2e).all lowerIdentifier && decide (1 < (value.splitOn 0x2e).length)

/-- `stable_id` -/
def stableId : Bytes → Bool
  | [] => false
  | first :: rest => isLower first && rest.all isSymbolByte

/-- `semantics_id`: a stable identifier, one slash, digits. -/
def semanticsId (value : Bytes) : Bool :=
  match value.splitOn 0x2f with
  | [name, version] =>
    decide (2 ≤ name.length) && decide (version ≠ []) && stableId name && version.all isDecimal
  | _ => false

/-- `control_free_text` -/
def controlFreeText (value : Bytes) : Bool :=
  decide (value ≠ []) && validUtf8 value && value.all fun byte => !isControl byte

/-- `unique_strings` -/
def uniqueStrings (values : List Bytes) : Bool :=
  decide values.Nodup

/-- `sorted_unique` -/
def sortedUnique (values : List Bytes) : Bool :=
  decide (values.Pairwise (· < ·))

/-! ## Digests as text -/

/-- `canonical_digest_value`, and `sha256_digest` of `claim.cpp`: a marker and 64 digits. -/
def canonicalDigestValue (value : Bytes) : Bool :=
  let hex :=
    if (ascii "sha256:").isPrefixOf value = true then value.drop 7
    else if (ascii "semantic-v2:sha256:").isPrefixOf value = true then value.drop 19
    else []
  decide (hex.length = 64) && hex.all isLowerHex

/-- What stands before and behind the first occurrence of a text. -/
def splitFirst (pattern : Bytes) : Bytes → Option (Bytes × Bytes)
  | [] => if pattern = [] then some ([], []) else none
  | byte :: rest =>
    if pattern.isPrefixOf (byte :: rest) = true then
      some ([], (byte :: rest).drop pattern.length)
    else (splitFirst pattern rest).map fun (before, behind) => (byte :: before, behind)

/-- `canonical_content_digest_value` -/
def canonicalContentDigestValue (value : Bytes) : Bool :=
  canonicalDigestValue value ||
    match splitFirst ":sha256:" value with
    | none => false
    | some (domain, hex) =>
      (domain.head?.any isLower) && domain.all isSymbolByte && decide (hex.length = 64) &&
        hex.all isLowerHex

/-- The number a string of digits denotes. -/
def decimalDigits (digits : Bytes) : Nat :=
  digits.foldl (fun value digit => value * 10 + (digit.toNat - 0x30)) 0

/-- One component of a version, a `std::uint32_t` that `std::from_chars` reads in full. -/
def versionComponent (component : Bytes) : Bool :=
  decide (component ≠ []) && !(decide (1 < component.length) && component.head? == some 0x30) &&
    component.all isDecimal && decide (decimalDigits component < 2 ^ 32)

/-- `canonical_semantic_version`: three components between dots. -/
def canonicalSemanticVersion (value : Bytes) : Bool :=
  (value.splitOn 0x2e).all versionComponent && decide ((value.splitOn 0x2e).length = 3)

/-! ## JSON -/

/-- One hexadecimal digit, in lower case. -/
def hexDigit (value : Nat) : UInt8 :=
  if value < 10 then UInt8.ofNat (0x30 + value) else UInt8.ofNat (0x61 + (value - 10))

/-- A byte as two hexadecimal digits. -/
def hexByte (byte : UInt8) : Bytes :=
  [hexDigit (byte.toNat / 16), hexDigit (byte.toNat % 16)]

/-- `std::hex` over all bytes -/
def hex (bytes : Bytes) : Bytes :=
  bytes.flatMap hexByte

/-- One byte in `canonical_json_escape`. -/
def escapeByte (byte : UInt8) : Bytes :=
  if byte = 0x5c then "\\\\"
  else if byte = 0x22 then "\\\""
  else if byte = 0x08 then "\\b"
  else if byte = 0x0c then "\\f"
  else if byte = 0x0a then "\\n"
  else if byte = 0x0d then "\\r"
  else if byte = 0x09 then "\\t"
  else if byte < 0x20 then ascii "\\u00" ++ hexByte byte
  else [byte]

/-- `canonical_json_escape` -/
def canonicalJsonEscape (input : Bytes) : Bytes :=
  if validUtf8 input = false then [] else input.flatMap escapeByte

/-- `canonical_json_string` -/
def canonicalJsonString (value : Bytes) : Bytes :=
  ascii "\"" ++ canonicalJsonEscape value ++ ascii "\""

end Cxxlens.Sdk
