import Cxxlens.Foundation.OrderedMap
import Cxxlens.Sdk.Claim.Model
import Cxxlens.Sdk.Store.BinaryCodec

set_option autoImplicit false

/-! # The claim codec

Cells, rows, conditions, guarantees and claims as the store writes them
(`snapshot_store_v5_codec_internal.cpp`), and the codec of one claim, `encode_store_claim` and
`decode_store_claim`. -/

namespace Cxxlens.Sdk

/-- The kinds in the order of their bytes. -/
def ScalarKind.all : List ScalarKind :=
  [.boolean, .signedInteger, .unsignedInteger, .utf8String, .bytes, .digest, .semanticVersion,
    .typedId, .openSymbol, .conditionRef, .sourceSpanId, .evidenceId, .closedSymbol, .set,
    .relationName, .semanticKeyId, .assertionId, .contentDigest, .interpretationDomainId]

/-- `static_cast<std::uint8_t>(state)` -/
def CellState.code : CellState → UInt8
  | .present => 0
  | .absent => 1
  | .unknown => 2
  | .unnamed value => value

/-- The states in the order of their bytes. -/
def CellState.all : List CellState := [.present, .absent, .unknown]

/-- The stages in the order of their bytes. -/
def ClaimStage.all : List ClaimStage := [.assertion, .canonicalClaim, .derivedClaim]

namespace Store

open Fallible BigEndian Framing

/-! ## Encoding -/

section Encoding

open BinaryWriter

/-- The number in front of a value in `encode_cell`. -/
def valueTag : ScalarValue → Nat
  | .boolean _ => 0
  | .signedInteger _ => 1
  | .unsignedInteger _ => 2
  | .string _ => 3
  | .bytes _ => 4

/-- The value in `encode_cell` behind its number. -/
def encodeAlternative : ScalarValue → Spans
  | .boolean value => boolean value
  | .signedInteger value => unsignedValue value.toUInt64.toNat
  | .unsignedInteger value => unsignedValue value.toNat
  | .string value => string value
  | .bytes value => string value

/-- The value in `encode_cell`. -/
def encodeValue (value : ScalarValue) : Spans :=
  unsignedValue (valueTag value) ++ encodeAlternative value

/-- `encode_cell` -/
def encodeCell (cell : DetachedCell) : Spans :=
  unsignedValue cell.type.scalar.code.toNat ++ string cell.type.parameter ++
    boolean cell.type.optional ++ unsignedValue cell.state.code.toNat ++
    boolean cell.value.isSome ++ cell.value.elim [] encodeValue ++
    boolean cell.unknownReason.isSome ++ cell.unknownReason.elim [] string

/-- One column of a row. -/
def encodeEntry (entry : Bytes × DetachedCell) : Spans :=
  string entry.1 ++ encodeCell entry.2

/-- A row whose cells stand in some order. -/
def encodeRowAs (descriptorId : Bytes) (cells : List (Bytes × DetachedCell)) : Spans :=
  string descriptorId ++ range encodeEntry cells

/-- `encode_row` -/
def encodeRow (row : DetachedRow) : Spans :=
  encodeRowAs row.descriptorId row.cells

/-- `encode_strings` -/
def encodeStrings (values : List Bytes) : Spans :=
  range string values

/-- `encode_condition` -/
def encodeCondition (condition : ClaimCondition) : Spans :=
  string condition.universe ++ encodeStrings condition.fragments

/-- `encode_guarantee` -/
def encodeGuarantee (guarantee : ClaimGuarantee) : Spans :=
  string guarantee.approximation ++ string guarantee.scope ++ string guarantee.assumptions ++
    encodeStrings guarantee.verificationModalities

/-- Whether the basis holds a `direct_claim_basis`. -/
def isDirect : ClaimInputBasis → Bool
  | .direct _ => true
  | .derived _ _ _ => false

/-- The basis in `encode_claim` behind the flag. -/
def encodeBasis : ClaimInputBasis → Spans
  | .direct basisDigest => string basisDigest
  | .derived inputSnapshot consumed transformSemantics =>
    string inputSnapshot ++ encodeStrings consumed ++ string transformSemantics

/-- What `encode_claim` writes behind the row. -/
def encodeBehindRow (value : Claim) : Spans :=
  string value.descriptor ++ string value.semanticKey ++ string value.assertion ++
    string value.content ++ encodeCondition value.presence ++ string value.interpretation ++
    unsignedValue value.stage.code.toUInt64.toNat ++ string value.producer.id ++
    string value.producer.semanticContract ++ boolean (isDirect value.inputBasis) ++
    encodeBasis value.inputBasis ++
    string value.provenanceRoot ++ encodeGuarantee value.guarantee

/-- `encode_claim` -/
def encodeClaim (value : Claim) : Spans :=
  encodeRow value.row ++ encodeBehindRow value

/-- `encode_store_claim` -/
def encodeStoreClaim (value : Claim) : Bytes :=
  (encodeClaim value).flatten

end Encoding

/-! ## Decoding -/

section Decoding

open BinaryReader

/-- The error of a decoder. -/
def corrupt (field detail : Bytes) : Error :=
  storeError "store.corrupt" field detail

/-- A check whose error is reported with its code as the detail. -/
def checked {α : Type} (field : Bytes) (check : Result α) : Reading Error α :=
  .lift (check.mapError fun error => corrupt field error.code)

/-- A number that is the place of a value. -/
def enumerator {α : Type} (values : List α) (error : Error) : Reading Error α := do
  let code ← unsignedValue
  match values[code.toNat]? with
  | some value => .done value
  | none => .failed error

/-- The value in `decode_cell`. -/
def decodeValue : Reading Error ScalarValue := do
  let tag ← unsignedValue
  match tag.toNat with
  | 0 => do
    let value ← boolean
    .done (.boolean value)
  | 1 => do
    let value ← unsignedValue
    .done (.signedInteger value.toInt64)
  | 2 => do
    let value ← unsignedValue
    .done (.unsignedInteger value)
  | 3 => do
    let value ← string
    .done (.string value)
  | 4 => do
    let value ← raw
    .done (.bytes value)
  | _ => .failed (corrupt "cell" "invalid-value-tag")

/-- A part that a flag announces. -/
def announced {α : Type} (present : Bool) (part : Reading Error α) : Reading Error (Option α) :=
  if present then do
    let value ← part
    .done (some value)
  else .done none

/-- `decode_cell` -/
def decodeCell : Reading Error DetachedCell := do
  let header := corrupt "cell" "invalid-header"
  let scalar ← (enumerator ScalarKind.all header).orError header
  let parameter ← string.orError header
  let optional ← boolean.orError header
  let state ← (enumerator CellState.all header).orError header
  let hasValue ← boolean.orError header
  let value ← announced hasValue decodeValue
  let hasReason ← boolean
  let unknownReason ← announced hasReason string
  let cell : DetachedCell := ⟨⟨scalar, parameter, optional⟩, state, value, unknownReason⟩
  checked "cell" cell.validate
  .done cell

/-- One column of a row. -/
def decodeEntry : Reading Error (Bytes × DetachedCell) := do
  let column ← string
  let cell ← decodeCell
  .done (column, cell)

/-- `decode_row` -/
def decodeRow : Reading Error DetachedRow := do
  let descriptor ← string.orError (corrupt "row" "invalid-header")
  let count ← countUpTo 1000000 (corrupt "row" "invalid-header")
  let cells ← (decodeEntry.gather (OrderedMap.emplaceNew (corrupt "row" "duplicate-cell")) count
    .empty).orError (corrupt "row" "duplicate-cell")
  .done ⟨descriptor, cells.entries, cells.ordered⟩

/-- `decode_strings` -/
def decodeStrings (field : Bytes) : Reading Error (List Bytes) :=
  range 1000000 (corrupt field "count") string

/-- `decode_condition` -/
def decodeCondition : Reading Error ClaimCondition := do
  let «universe» ← string.orError (corrupt "condition" "payload")
  let fragments ← (decodeStrings "condition-fragments").orError (corrupt "condition" "payload")
  let condition : ClaimCondition := ⟨«universe», fragments⟩
  checked "condition" condition.validate
  .done condition

/-- `decode_guarantee` -/
def decodeGuarantee : Reading Error ClaimGuarantee := do
  let payload := corrupt "guarantee" "payload"
  let approximation ← string.orError payload
  let scope ← string.orError payload
  let assumptions ← string.orError payload
  let modalities ← (decodeStrings "guarantee-modalities").orError payload
  let guarantee : ClaimGuarantee := ⟨approximation, scope, assumptions, modalities⟩
  checked "guarantee" guarantee.validate
  .done guarantee

/-- The basis in `decode_claim`. -/
def decodeBasis (direct : Bool) : Reading Error ClaimInputBasis :=
  if direct then do
    let basisDigest ← string.orError (corrupt "partition-envelope" "direct-basis")
    .done (.direct basisDigest)
  else do
    let derived := corrupt "partition-envelope" "derived-basis"
    let inputSnapshot ← string.orError derived
    let consumed ← (decodeStrings "partition-envelope-derived-basis").orError derived
    let transform ← string.orError derived
    .done (.derived inputSnapshot consumed transform)

variable {hash : Bytes → Bytes}

/-- `decode_claim` -/
def decodeClaim (engine : RelationEngine hash) : Reading Error Claim := do
  let header := corrupt "partition-envelope" "claim"
  let row ← decodeRow.orError header
  let descriptor ← string.orError header
  let semanticKey ← string.orError header
  let assertion ← string.orError header
  let content ← string.orError header
  let condition ← decodeCondition.orError header
  let interpretation ← string.orError header
  let stage ← (enumerator ClaimStage.all header).orError header
  let producerId ← string.orError header
  let producerSemantics ← string.orError header
  let direct ← boolean.orError header
  let basis ← decodeBasis direct
  let provenance ← string.orError (corrupt "partition-envelope" "claim-tail")
  let guarantee ← decodeGuarantee.orError (corrupt "partition-envelope" "claim-tail")
  let value : Claim :=
    { row, descriptor, semanticKey, assertion, content, presence := condition, interpretation,
      stage, producer := ⟨producerId, producerSemantics⟩, inputBasis := basis,
      provenanceRoot := provenance, guarantee }
  checked "partition-envelope" (validateClaim engine value)
  .done value

/-- `decode_store_claim` -/
def decodeStoreClaim (engine : RelationEngine hash) (bytes : Bytes) : Result Claim := do
  let (value, rest) ← (decodeClaim engine).run bytes
  if rest = [] then .ok value else .error (corrupt "claim-codec" "trailing")

end Decoding

end Store

end Cxxlens.Sdk
