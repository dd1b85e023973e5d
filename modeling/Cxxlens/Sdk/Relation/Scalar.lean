import Cxxlens.Sdk.Digest

set_option autoImplicit false

/-! # Scalars of relations

The types and values of columns, and the checks of `relation.cpp` that tie the one to the other. The
enumerations are stored in a byte, which can hold a value without a name. -/

namespace Cxxlens.Sdk

/-- `scalar_kind` -/
inductive ScalarKind where
  | boolean
  | signedInteger
  | unsignedInteger
  | utf8String
  | bytes
  | digest
  | semanticVersion
  | typedId
  | openSymbol
  | conditionRef
  | sourceSpanId
  | evidenceId
  | closedSymbol
  | set
  | relationName
  | semanticKeyId
  | assertionId
  | contentDigest
  | interpretationDomainId
  | unnamed (value : UInt8)
  deriving DecidableEq, Repr

/-- `is_valid(scalar_kind)` -/
def ScalarKind.isValid : ScalarKind → Bool
  | .unnamed _ => false
  | _ => true

/-- `static_cast<std::uint8_t>(kind)` -/
def ScalarKind.code : ScalarKind → UInt8
  | .boolean => 0
  | .signedInteger => 1
  | .unsignedInteger => 2
  | .utf8String => 3
  | .bytes => 4
  | .digest => 5
  | .semanticVersion => 6
  | .typedId => 7
  | .openSymbol => 8
  | .conditionRef => 9
  | .sourceSpanId => 10
  | .evidenceId => 11
  | .closedSymbol => 12
  | .set => 13
  | .relationName => 14
  | .semanticKeyId => 15
  | .assertionId => 16
  | .contentDigest => 17
  | .interpretationDomainId => 18
  | .unnamed value => value

/-- `value_type` -/
structure ValueType where
  scalar : ScalarKind := .utf8String
  parameter : Bytes := []
  optional : Bool := false
  deriving DecidableEq, Repr

/-- `scalar_value` -/
inductive ScalarValue where
  | boolean (value : Bool)
  | signedInteger (value : Int64)
  | unsignedInteger (value : UInt64)
  | string (value : Bytes)
  | bytes (value : Bytes)
  deriving DecidableEq, Repr

/-- The name of a kind in `value_type::canonical_name`. -/
def ScalarKind.name : ScalarKind → Bytes
  | .boolean => "bool"
  | .signedInteger => "int64"
  | .unsignedInteger => "uint64"
  | .utf8String => "utf8_string"
  | .bytes => "bytes"
  | .digest => "digest"
  | .semanticVersion => "semantic_version"
  | .typedId => "typed_id"
  | .openSymbol => "open_symbol"
  | .conditionRef => "condition_ref"
  | .sourceSpanId => "source_span_id"
  | .evidenceId => "evidence_id"
  | .relationName => "relation_name"
  | .semanticKeyId => "semantic_key_id"
  | .assertionId => "assertion_id"
  | .contentDigest => "content_digest"
  | .interpretationDomainId => "interpretation_domain_id"
  | .closedSymbol => "closed_symbol"
  | .set => "set"
  | .unnamed value => ascii "invalid-scalar-kind:" ++ CanonicalValue.decimal value.toNat

/-- `value_type::canonical_name` -/
def ValueType.canonicalName (type : ValueType) : Bytes :=
  let output := type.scalar.name
  let output :=
    if type.parameter ≠ [] then output ++ ascii "<" ++ type.parameter ++ ascii ">" else output
  if type.optional = true then ascii "optional<" ++ output ++ ascii ">" else output

/-! ## Symbols -/

/-- `closed_symbol_contracts` -/
def closedSymbolContracts : List (Bytes × List Bytes) :=
  [("claim-stage/1", ["assertion", "canonical_claim", "derived_claim"]),
    ("cc.canonicalization-state/1",
      ["canonicalized", "provider_local", "ambiguous_equivalence_set"]),
    ("core.claim-conflict-kind/1", ["authoritative_payload_mismatch"])]

/-- `closed_symbol_contracts().contains(contract)` -/
def closedSymbolContract (contract : Bytes) : Bool :=
  closedSymbolContracts.any fun entry => entry.1 == contract

/-- `closed_symbol_value` -/
def closedSymbolValue (contract value : Bytes) : Bool :=
  closedSymbolContracts.any fun entry => entry.1 == contract && entry.2.contains value

/-- The inside of `open_symbol<…>` or `closed_symbol<…>`. -/
def symbolParameter (marker type : Bytes) : Option Bytes :=
  if marker.isPrefixOf type = true ∧ type.getLast? = some 0x3e then
    some ((type.drop marker.length).dropLast)
  else none

/-! ## Sets -/

/-- The types of set elements that are plain identities. -/
def identityElement (type : Bytes) : Bool :=
  ([("assertion_id" : Bytes), "source_span_id", "evidence_id", "condition_ref"].contains type) ||
    (ascii "_id").isSuffixOf type

/-- `supported_set_element_type` -/
def supportedSetElementType (type : Bytes) : Bool :=
  if type = "content_digest" ∨ type = "digest" ∨ identityElement type = true then true
  else
    match symbolParameter "open_symbol<" type with
    | some contract => semanticsId contract
    | none =>
      match symbolParameter "closed_symbol<" type with
      | some contract => semanticsId contract && closedSymbolContract contract
      | none => false

/-- `set_element_value` -/
def setElementValue (type value : Bytes) : Bool :=
  if type = "content_digest" then canonicalContentDigestValue value
  else if type = "digest" then canonicalDigestValue value
  else if identityElement type = true then controlFreeText value
  else
    match symbolParameter "open_symbol<" type with
    | some contract => semanticsId contract && controlFreeText value
    | none =>
      match symbolParameter "closed_symbol<" type with
      | some contract => semanticsId contract && closedSymbolValue contract value
      | none => false

/-- The loop over the elements of an encoded set, each behind its length in four bytes, least
    significant first; none is empty. -/
def setElements : Nat → Bytes → Option (List Bytes)
  | _, [] => some []
  | 0, _ => none
  | fuel + 1, encoded =>
    if encoded.length < 4 then none
    else
      let length := BigEndian.decode (encoded.take 4).reverse
      let rest := encoded.drop 4
      if length = 0 ∨ length > rest.length then none
      else (setElements fuel (rest.drop length)).map (rest.take length :: ·)

/-- `canonical_set_bytes`: the elements are values of their type and strictly ascending. -/
def canonicalSetBytes (elementType encoded : Bytes) : Bool :=
  supportedSetElementType elementType &&
    match setElements encoded.length encoded with
    | none => false
    | some elements => elements.all (setElementValue elementType) && sortedUnique elements

/-! ## Values of a type -/

/-- `matches_scalar` -/
def matchesScalar (kind : ScalarKind) (value : ScalarValue) : Bool :=
  match kind, value with
  | .unnamed _, _ => false
  | .boolean, .boolean _ => true
  | .signedInteger, .signedInteger _ => true
  | .unsignedInteger, .unsignedInteger _ => true
  | .bytes, .bytes _ => true
  | .set, .bytes _ => true
  | .boolean, _ => false
  | .signedInteger, _ => false
  | .unsignedInteger, _ => false
  | .bytes, _ => false
  | .set, _ => false
  | _, .string _ => true
  | _, _ => false

/-- `valid_scalar_type` -/
def validScalarType (type : ValueType) : Bool :=
  match type.scalar with
  | .typedId => typedIdentityParameter type.parameter
  | .openSymbol => semanticsId type.parameter
  | .closedSymbol => semanticsId type.parameter && closedSymbolContract type.parameter
  | .set => supportedSetElementType type.parameter
  | .unnamed _ => false
  | _ => type.parameter.isEmpty

/-- The text of a scalar, `[]` where it has none. -/
def ScalarValue.text : ScalarValue → Bytes
  | .string value => value
  | _ => []

/-- The bytes of a scalar, `[]` where it has none. -/
def ScalarValue.byteString : ScalarValue → Bytes
  | .bytes value => value
  | _ => []

/-- The detail for a check that was not passed. -/
def detailUnless (passed : Bool) (detail : Bytes) : Option Bytes :=
  if passed = true then none else some detail

/-- The last switch of `invalid_scalar_detail`. -/
def invalidKindDetail (type : ValueType) (value : ScalarValue) : Option Bytes :=
  let text := value.text
  let plain := type.parameter.isEmpty
  match type.scalar with
  | .digest => detailUnless (plain && canonicalDigestValue text) "digest"
  | .semanticVersion => detailUnless (plain && canonicalSemanticVersion text) "semantic-version"
  | .typedId =>
    if typedIdentityParameter type.parameter = false then some "typed-id-parameter"
    else detailUnless (controlFreeText text) "identity"
  | .conditionRef | .sourceSpanId | .evidenceId | .semanticKeyId | .assertionId
  | .interpretationDomainId => detailUnless (plain && controlFreeText text) "identity"
  | .relationName => detailUnless (plain && relationName text) "relation-name"
  | .contentDigest => detailUnless (plain && canonicalContentDigestValue text) "digest"
  | .openSymbol => detailUnless (semanticsId type.parameter && controlFreeText text) "open-symbol"
  | .closedSymbol =>
    detailUnless (semanticsId type.parameter && closedSymbolValue type.parameter text) "closed-symbol"
  | .set => detailUnless (!plain && canonicalSetBytes type.parameter value.byteString) "set-encoding"
  | .boolean | .signedInteger | .unsignedInteger | .utf8String | .bytes =>
    detailUnless plain "unexpected-parameter"
  | .unnamed _ => some "scalar-kind"

/-- `invalid_scalar_detail` -/
def invalidScalarDetail (type : ValueType) (value : ScalarValue) : Option Bytes :=
  if validScalarType type = false then some "type-parameter"
  else if matchesScalar type.scalar value = false then some "type-shape"
  else if validUtf8 value.text = false then some "invalid-utf8"
  else invalidKindDetail type value

/-- `std::to_string` of a signed integer -/
def signedDecimal (value : Int64) : Bytes :=
  ascii (toString value.toInt)

/-- `scalar_text` -/
def scalarText : ScalarValue → Bytes
  | .boolean value => if value = true then "true" else "false"
  | .signedInteger value => signedDecimal value
  | .unsignedInteger value => CanonicalValue.decimal value.toNat
  | .string value => canonicalJsonString value
  | .bytes value => ascii "\"" ++ hex value ++ ascii "\""

end Cxxlens.Sdk
