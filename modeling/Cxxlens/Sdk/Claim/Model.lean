import Cxxlens.Sdk.Relation.Row

set_option autoImplicit false

/-! # Claims

A claim is a row with the condition under which it holds, where it comes from, and three identities
that `encode_claim` derives from the rest (`claim.hpp`, `claim.cpp`). -/

namespace Cxxlens.Sdk

/-- `claim_condition` -/
structure ClaimCondition where
  «universe» : Bytes
  fragments : List Bytes
  deriving DecidableEq, Repr

/-- `claim_stage` -/
inductive ClaimStage where
  | assertion
  | canonicalClaim
  | derivedClaim
  | unnamed (value : UInt8)
  deriving DecidableEq, Repr

/-- `is_valid(claim_stage)` -/
def ClaimStage.isValid : ClaimStage → Bool
  | .unnamed _ => false
  | _ => true

/-- The byte of a stage. -/
def ClaimStage.code : ClaimStage → Int64
  | .assertion => 0
  | .canonicalClaim => 1
  | .derivedClaim => 2
  | .unnamed value => Int64.ofNat value.toNat

/-- `claim_producer` -/
structure ClaimProducer where
  id : Bytes
  semanticContract : Bytes
  deriving DecidableEq, Repr

/-- `claim_input_basis` -/
inductive ClaimInputBasis where
  | direct (basisDigest : Bytes)
  | derived (inputSnapshot : Bytes) (consumedPartitionContentDigests : List Bytes)
      (transformSemantics : Bytes)
  deriving DecidableEq, Repr

/-- `claim_guarantee` -/
structure ClaimGuarantee where
  approximation : Bytes
  scope : Bytes
  assumptions : Bytes
  verificationModalities : List Bytes
  deriving DecidableEq, Repr

/-- `claim` -/
structure Claim where
  row : DetachedRow
  descriptor : Bytes
  semanticKey : Bytes
  assertion : Bytes
  content : Bytes
  presence : ClaimCondition
  interpretation : Bytes
  stage : ClaimStage := .assertion
  producer : ClaimProducer
  inputBasis : ClaimInputBasis
  provenanceRoot : Bytes
  guarantee : ClaimGuarantee
  deriving DecidableEq, Repr

/-- `claim_error` -/
def claimError (code field : Bytes) (detail : Bytes := []) : Error :=
  { code := code, field := field, detail := detail }

/-- `claim_strong_id` -/
def claimStrongId (value field : Bytes) : Result Unit :=
  match validateStrongId value with
  | .error error => .error { code := "sdk.text-invalid", field := field, detail := error.detail }
  | .ok () => .ok ()

/-- `claim_registered_symbol` -/
def claimRegisteredSymbol (value field : Bytes) : Result Unit :=
  match validateRegisteredSymbol value with
  | .error error => .error { code := "sdk.text-invalid", field := field, detail := error.detail }
  | .ok () => .ok ()

/-! ## Conditions -/

/-- `claim_condition::validate` -/
def ClaimCondition.validate (condition : ClaimCondition) : Result Unit := do
  reject (condition.fragments.isEmpty || !sortedUnique condition.fragments)
    (claimError "sdk.claim-condition-invalid" "condition")
  claimStrongId condition.universe "condition.universe"
  firstError (fun fragment => claimStrongId fragment "condition.fragment") condition.fragments

/-- A text behind its length, as `canonical_form` prints it. -/
def sized (text : Bytes) : Bytes :=
  CanonicalValue.decimal text.length ++ 0x3a :: text

/-- `claim_condition::canonical_form` -/
def ClaimCondition.canonicalForm (condition : ClaimCondition) : Bytes :=
  sized condition.universe ++ condition.fragments.flatMap fun fragment => 0x3b :: sized fragment

/-- `std::ranges::set_intersection` of sorted ranges -/
def setIntersection : List Bytes → List Bytes → List Bytes
  | [], _ => []
  | item :: rest, others =>
    match others.dropWhile fun other => decide (other < item) with
    | [] => []
    | other :: others =>
      if item < other then setIntersection rest (other :: others)
      else item :: setIntersection rest others

/-- `std::ranges::includes` of sorted ranges: the first has every element of the second. -/
def includes : List Bytes → List Bytes → Bool
  | _, [] => true
  | [], _ :: _ => false
  | item :: rest, wanted :: others =>
    if wanted < item then false
    else if item < wanted then includes rest (wanted :: others)
    else includes rest others

/-- `claim_condition::overlap` -/
def ClaimCondition.overlap (condition other : ClaimCondition) : Result (List Bytes) := do
  condition.validate
  other.validate
  if condition.universe ≠ other.universe then
    .error (claimError "sdk.condition-universe-mismatch" condition.universe other.universe)
  else .ok (setIntersection condition.fragments other.fragments)

/-! ## Guarantees and bases -/

/-- `claim_guarantee::validate` -/
def ClaimGuarantee.validate (guarantee : ClaimGuarantee) : Result Unit := do
  claimRegisteredSymbol guarantee.approximation "guarantee.approximation"
  reject (!([("unknown" : Bytes), "under_approximation", "over_approximation", "exact"].contains
      guarantee.approximation) || !sortedUnique guarantee.verificationModalities)
    (claimError "sdk.claim-guarantee-invalid" "guarantee")
  claimStrongId guarantee.scope "guarantee.scope"
  claimStrongId guarantee.assumptions "guarantee.assumptions"
  firstError (fun modality => claimRegisteredSymbol modality "guarantee.verification_modality")
    guarantee.verificationModalities

/-- `typed_sha256_digest` -/
def typedSha256Digest (value : Bytes) : Bool :=
  match splitFirst [0x3a] value with
  | none => false
  | some (kind, digest) =>
    decide (kind ≠ []) && (ascii "sha256:").isPrefixOf digest && canonicalDigestValue digest

/-- `partition_content_digest` -/
def partitionContentDigest (value : Bytes) : Bool :=
  (ascii "partition-content:").isPrefixOf value && typedSha256Digest value

/-- `validate_basis` -/
def validateBasis (basis : ClaimInputBasis) (stage : ClaimStage) : Result Unit := do
  reject (!stage.isValid) (claimError "sdk.claim-basis-invalid" "stage" "closed-enum")
  match basis with
  | .direct basisDigest => do
    claimStrongId basisDigest "basis_digest"
    reject (stage == .derivedClaim || !canonicalDigestValue basisDigest)
      (claimError "sdk.claim-basis-invalid" "direct")
  | .derived inputSnapshot consumed transformSemantics => do
    reject (stage == .assertion) (claimError "sdk.claim-basis-invalid" "derived")
    claimStrongId inputSnapshot "input_snapshot"
    firstError (fun digest => claimStrongId digest "consumed_partition_content_digest") consumed
    claimStrongId transformSemantics "transform_semantics"
    reject (consumed.isEmpty || !sortedUnique consumed || !consumed.all partitionContentDigest ||
        !canonicalDigestValue transformSemantics)
      (claimError "sdk.claim-basis-invalid" "derived")

/-! ## Identities -/

/-- `cell_value` -/
def cellValue (cell : DetachedCell) : CanonicalValue :=
  if cell.state = .absent then .null
  else if cell.state = .unknown then
    .fromTuple [.fromString "unknown", .fromString (cell.unknownReason.getD "unspecified")]
  else
    match cell.value with
    | none => .null
    | some (.boolean value) => .fromBoolean value
    | some (.signedInteger value) => .fromInteger value
    | some (.unsignedInteger value) =>
      .fromTuple [.fromString "unsigned", .fromString (CanonicalValue.decimal value.toNat)]
    | some (.string value) => .fromString value
    | some (.bytes value) => .fromBytes value

/-- The value of a column in `row_tuple`; a missing cell counts as null. -/
def columnValue (row : DetachedRow) (column : Bytes) : CanonicalValue :=
  (row.find column).elim .null cellValue

/-- `row_tuple` -/
def rowTuple (row : DetachedRow) (columns : List Bytes) : CanonicalValue :=
  .fromTuple (columns.map (columnValue row))

section Identity

variable (hash : Bytes → Bytes)

/-- The fields of a semantic key. -/
def semanticKeyFields (descriptor : RelationDescriptor) (row : DetachedRow) :
    List CanonicalValue :=
  [.fromString descriptor.id, .fromInteger (Int64.ofNat descriptor.semanticMajor.toNat),
    rowTuple row descriptor.keyColumns]

/-- The fields of an assertion. -/
def assertionFields (semanticKey : Bytes) (presence : ClaimCondition) (interpretation : Bytes)
    (producer : ClaimProducer) : List CanonicalValue :=
  [.fromString semanticKey, .fromString presence.universe, .fromString presence.canonicalForm,
    .fromString interpretation, .fromString producer.semanticContract]

/-- The columns of the payload, in order. -/
def payloadColumns (descriptor : RelationDescriptor) : List Bytes :=
  Sorting.sortBy bytesLess (descriptor.columnsOf .authoritativePayload)

/-- The fields of a content. -/
def contentFields (descriptor : RelationDescriptor) (assertion : Bytes) (row : DetachedRow) :
    List CanonicalValue :=
  [.fromString assertion, rowTuple row (payloadColumns descriptor)]

/-- `encode_claim` -/
def encodeClaim (descriptor : RelationDescriptor) (row : DetachedRow) (presence : ClaimCondition)
    (interpretation : Bytes) (stage : ClaimStage) (producer : ClaimProducer)
    (basis : ClaimInputBasis) (provenance : Bytes) (guarantee : ClaimGuarantee) :
    Result Claim := do
  validateRow descriptor row
  presence.validate
  claimStrongId producer.id "producer.id"
  claimStrongId producer.semanticContract "producer.semantic_contract"
  claimStrongId interpretation "interpretation"
  claimStrongId provenance "provenance_root"
  guarantee.validate
  validateBasis basis stage
  let semanticKey ← canonicalIdentityDigest hash "semantic-key" (semanticKeyFields descriptor row)
  let assertion ← canonicalIdentityDigest hash "assertion"
    (assertionFields semanticKey presence interpretation producer)
  let content ← canonicalIdentityDigest hash "claim-content"
    (contentFields descriptor assertion row)
  .ok { row, descriptor := descriptor.id, semanticKey, assertion, content, presence,
        interpretation, stage, producer, inputBasis := basis, provenanceRoot := provenance,
        guarantee }

variable {hash}

/-- `validate_claim` -/
def validateClaim (engine : RelationEngine hash) (value : Claim) : Result Unit := do
  let descriptor ← engine.requireId value.descriptor
  let rebuilt ← encodeClaim hash descriptor value.row value.presence value.interpretation
    value.stage value.producer value.inputBasis value.provenanceRoot value.guarantee
  reject (rebuilt.semanticKey != value.semanticKey || rebuilt.assertion != value.assertion ||
      rebuilt.content != value.content || value.descriptor != value.row.descriptorId)
    (claimError "sdk.claim-identity-mismatch" "claim")

end Identity

/-! ## Occurrences -/

/-- The basis in `claim_occurrence_projection`. -/
def ClaimInputBasis.values : ClaimInputBasis → List CanonicalValue
  | .direct basisDigest => [.fromString "direct", .fromString basisDigest]
  | .derived inputSnapshot consumed transformSemantics =>
    [.fromString "derived", .fromString inputSnapshot,
      .fromTuple (consumed.map .fromString), .fromString transformSemantics]

/-- What `claim_occurrence_projection` encodes: everything a claim has. -/
def Claim.occurrence (value : Claim) : CanonicalValue :=
  .fromTuple [.fromString value.descriptor, .fromString value.semanticKey,
    .fromString value.interpretation, .fromString value.assertion, .fromString value.content,
    .fromString value.row.canonicalForm, .fromString value.presence.canonicalForm,
    .fromInteger value.stage.code, .fromString value.producer.id,
    .fromString value.producer.semanticContract, .fromTuple value.inputBasis.values,
    .fromString value.provenanceRoot, .fromString value.guarantee.approximation,
    .fromString value.guarantee.scope, .fromString value.guarantee.assumptions,
    .fromTuple (value.guarantee.verificationModalities.map .fromString)]

/-- `claim_occurrence_projection`. The source dereferences the encoding; a claim without one throws,
    which is an error here. -/
def claimOccurrenceProjection (value : Claim) : Result Bytes :=
  CanonicalValue.canonicalBinary value.occurrence

/-- `claim_occurrence_less` -/
def claimOccurrenceLess (left right : Claim) : Result Bool := do
  let first ← claimOccurrenceProjection left
  let second ← claimOccurrenceProjection right
  .ok (bytesLess first second)

/-- `same_claim_occurrence` -/
def sameClaimOccurrence (left right : Claim) : Result Bool := do
  let first ← claimOccurrenceProjection left
  let second ← claimOccurrenceProjection right
  .ok (first == second)

end Cxxlens.Sdk
