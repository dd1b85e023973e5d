import Cxxlens.Sdk.BoundedStore.Publication
import Cxxlens.Sdk.Query.Snapshot
import Cxxlens.Sdk.Store.AuthenticatedCursor

set_option autoImplicit false

/-! # Snapshot graphs

The complete graph of a snapshot (`snapshot_handle::data` of
`snapshot_store_v5_codec_internal.hpp`), and the identities of its parts (`store.cpp`,
`store_identity_internal.hpp`). An exception on its way through a function is the error `thrown`. -/

namespace Cxxlens.Sdk.Store

open Fallible Sorting
open BoundedStore (PublicationState publicationRecordIdentity)
open Query (SnapshotCoverageUnit SnapshotQueryCoverage SnapshotClaimAnnotation
  SnapshotPartitionBinding ClosureCandidate ClosureCertificate)

/-! ## The graph -/

/-- `partition_draft` -/
structure PartitionDraft where
  relationDescriptorId : Bytes
  scope : Bytes
  condition : ClaimCondition
  interpretation : Bytes
  producerSemantics : Bytes
  producerInputBasisDigest : Bytes
  precisionProfile : Bytes
  assumptionSetId : Bytes
  claims : List Claim := []
  coverage : List SnapshotCoverageUnit := []
  unresolved : List UnresolvedReference := []
  deriving DecidableEq, Repr

/-- `partition_manifest` -/
structure PartitionManifest where
  partitionId : Bytes
  relationDescriptorId : Bytes
  inputBasisDigest : Bytes
  claimSetDigest : Bytes
  coverageDigest : Bytes
  contentDigest : Bytes
  claimCount : UInt64
  complete : Bool
  deriving DecidableEq, Repr

/-- `snapshot_manifest` -/
structure SnapshotManifest where
  schema : Bytes := "cxxlens.snapshot-manifest.v1"
  id : Bytes := []
  snapshotSemanticsVersion : SemanticVersion := ⟨1, 0, 0⟩
  catalogSemanticDigest : Bytes
  conditionUniverseId : Bytes
  relationRegistryDigest : Bytes
  interpretationPolicyDigest : Bytes
  partitions : List PartitionManifest := []
  closureIds : List Bytes := []
  deriving DecidableEq, Repr

/-- `static_cast<std::uint8_t>(state)` -/
def publicationStateCode : PublicationState → UInt8
  | .created => 0
  | .staged => 1
  | .validating => 2
  | .committed => 3
  | .rejected => 4
  | .rolledBack => 5
  | .unnamed value => value

/-- `publication_record` -/
structure PublicationRecord where
  publicationId : Bytes := []
  seriesId : Bytes := []
  snapshotId : Bytes := []
  sequence : UInt64 := 0
  physicalGeneration : UInt64 := 0
  parentPublication : Option Bytes := none
  state : PublicationState := .created
  corrupt : Bool := false
  deriving DecidableEq, Repr

/-- `snapshot_handle::data` -/
structure SnapshotData where
  semanticManifest : SnapshotManifest
  publicationRecord : PublicationRecord := {}
  descriptors : OrderedMap Bytes RelationDescriptor := .empty
  rows : OrderedMap Bytes (List DetachedRow) := .empty
  annotations : OrderedMap Bytes (List SnapshotClaimAnnotation) := .empty
  coverage : List SnapshotQueryCoverage := []
  partitionBindings : List SnapshotPartitionBinding := []
  partitionEnvelopes : OrderedMap Bytes PartitionDraft := .empty
  closureCertificates : List ClosureCertificate := []
  claimContents : List Bytes := []
  unresolved : List UnresolvedReference := []
  physicalBackend : Bytes := []
  queryAnnotationsAvailable : Bool := false
  generationPin : Option UInt64 := none
  deriving DecidableEq

/-! ## Exceptions -/

/-- An exception. No function returns an error without a code. -/
def thrown : Error :=
  { code := [], field := [], detail := [] }

/-- `std::bad_alloc` -/
def thrownBadAlloc : Error :=
  { code := [], field := [], detail := "bad_alloc" }

/-- `*value`, which throws when there is none. -/
def dereferenced {α : Type} (value : Result α) : Result α :=
  value.mapError fun _ => thrown

/-- `error` for every error of a call, but not for an exception. -/
def replaced {α : Type} (error : Error) (value : Result α) : Result α :=
  value.mapError fun found => if found.code = [] then found else error

/-- What the handlers of a function of the codec make of an exception. -/
def caught {α : Type} (field : Bytes) (value : Result α) : Result α :=
  value.mapError fun found =>
    if found = thrownBadAlloc then storeError "store.allocation-failure" field "allocation"
    else if found.code = [] then storeError "store.invariant-breach" field "exception"
    else found

@[simp] theorem caught_eq_ok_iff {α : Type} {field : Bytes} {value : Result α} {found : α} :
    caught field value = .ok found ↔ value = .ok found := by
  cases value with
  | error error => simp [caught, Except.mapError]
  | ok found => simp [caught, Except.mapError]

@[simp] theorem dereferenced_eq_ok_iff {α : Type} {value : Result α} {found : α} :
    dereferenced value = .ok found ↔ value = .ok found := by
  cases value with
  | error error => simp [dereferenced, Except.mapError]
  | ok found => simp [dereferenced, Except.mapError]

@[simp] theorem replaced_eq_ok_iff {α : Type} {error : Error} {value : Result α} {found : α} :
    replaced error value = .ok found ↔ value = .ok found := by
  cases value with
  | error error => simp [replaced, Except.mapError]
  | ok found => simp [replaced, Except.mapError]

/-! ## Coverage -/

/-- `snapshot_coverage_unit::validate` -/
def validateCoverageUnit (unit : SnapshotCoverageUnit) : Result Unit :=
  reject (unit.domain.isEmpty || unit.key.isEmpty ||
      !([("covered" : Bytes), "not_covered", "unknown", "unresolved"].contains unit.state) ||
      (unit.state == ascii "covered" && !unit.reason.isEmpty) ||
      (unit.state != ascii "covered" && unit.reason.isEmpty))
    (storeError "store.coverage-invalid" "coverage" unit.state)

section Identities

variable (hash : Bytes → Bytes)

/-- `snapshot_coverage_unit::canonical_form` -/
def coverageCanonicalForm (unit : SnapshotCoverageUnit) : Result Bytes :=
  dereferenced (canonicalIdentityDigest hash "coverage-unit"
    [.fromString unit.domain, .fromString unit.key, .fromString unit.state,
      .fromString unit.reason])

/-! ## Partitions -/

/-- `partition_identity` -/
def partitionIdentity (draft : PartitionDraft) : Result Bytes :=
  dereferenced (canonicalIdentityDigest hash "partition"
    [.fromString draft.relationDescriptorId, .fromString draft.scope,
      .fromString draft.condition.canonicalForm, .fromString draft.interpretation,
      .fromString draft.producerSemantics, .fromString draft.producerInputBasisDigest,
      .fromString draft.precisionProfile, .fromString draft.assumptionSetId])

/-- `partition_binding` -/
def partitionBinding (partitionId : Bytes) (draft : PartitionDraft) : SnapshotPartitionBinding where
  partitionId := partitionId
  relationDescriptorId := draft.relationDescriptorId
  scope := draft.scope
  condition := draft.condition
  interpretation := draft.interpretation
  producerSemantics := draft.producerSemantics
  producerInputBasisDigest := draft.producerInputBasisDigest
  precisionProfile := draft.precisionProfile
  assumptionSetId := draft.assumptionSetId

/-- `identity_draft` -/
def identityDraft (binding : SnapshotPartitionBinding) : PartitionDraft where
  relationDescriptorId := binding.relationDescriptorId
  scope := binding.scope
  condition := binding.condition
  interpretation := binding.interpretation
  producerSemantics := binding.producerSemantics
  producerInputBasisDigest := binding.producerInputBasisDigest
  precisionProfile := binding.precisionProfile
  assumptionSetId := binding.assumptionSetId

/-- What follows the first colon. -/
def behindColon (text : Bytes) : Bytes :=
  (text.dropWhile (· != 0x3a)).drop 1

/-- `claim_input_basis_digest` -/
def claimInputBasisDigest (basis : ClaimInputBasis) : Result Bytes :=
  match basis with
  | .direct basisDigest => do
    claimStrongId basisDigest "basis_digest"
    reject (!canonicalDigestValue basisDigest) (claimError "sdk.claim-basis-invalid" "direct")
    let typed ← canonicalIdentityDigest hash "producer-input-direct" [.fromString basisDigest]
    .ok (behindColon typed)
  | .derived inputSnapshot consumed transformSemantics => do
    claimStrongId inputSnapshot "input_snapshot"
    firstError (fun digest => claimStrongId digest "consumed_partition_content_digest") consumed
    claimStrongId transformSemantics "transform_semantics"
    reject (consumed.isEmpty || !sortedUnique consumed || !consumed.all partitionContentDigest ||
        !canonicalDigestValue transformSemantics)
      (claimError "sdk.claim-basis-invalid" "derived")
    let typed ← canonicalIdentityDigest hash "producer-input-derived"
      [.fromString inputSnapshot, .fromTuple (consumed.map .fromString),
        .fromString transformSemantics]
    .ok (behindColon typed)

/-- `claim_content_ids` -/
def claimContentIds (draft : PartitionDraft) : List Bytes :=
  canonicalStrings (draft.claims.map Claim.content)

/-- The canonical forms of units, one after another. -/
def coverageForms (units : List SnapshotCoverageUnit) : Result (List Bytes) :=
  units.mapM (coverageCanonicalForm hash)

/-- `coverage_values` -/
def coverageValues (draft : PartitionDraft) : Result (List Bytes) := do
  let forms ← coverageForms hash draft.coverage
  .ok (sortBy bytesLess forms)

/-- `partition_complete` -/
def partitionComplete (draft : PartitionDraft) : Bool :=
  !draft.coverage.isEmpty && draft.unresolved.isEmpty &&
    draft.coverage.all fun unit => unit.state == ascii "covered"

/-- The loop of `make_partition_manifest` over the coverage. -/
def checkCoverage (seen : List Bytes) : List SnapshotCoverageUnit → Result Unit
  | [] => .ok ()
  | unit :: rest => do
    validateCoverageUnit unit
    let form ← coverageCanonicalForm hash unit
    if form ∈ seen then .error (storeError "store.coverage-duplicate" unit.key [])
    else checkCoverage (form :: seen) rest

/-- The digest of the content of a partition. -/
def partitionContent (partitionId claimSetDigest coverageDigest : Bytes) : Result Bytes :=
  dereferenced (canonicalIdentityDigest hash "partition-content"
    [.fromString partitionId, .fromString claimSetDigest, .fromString coverageDigest])

end Identities

section Engine

variable {hash : Bytes → Bytes} (engine : RelationEngine hash)

/-- The loop of `make_partition_manifest` over the claims. -/
def checkPartitionClaim (draft : PartitionDraft) (value : Claim) : Result Unit := do
  (validateClaim engine value).mapError fun error =>
    storeError "store.claim-invalid" value.content error.code
  reject (value.descriptor != draft.relationDescriptorId || value.presence != draft.condition ||
      value.interpretation != draft.interpretation ||
      value.producer.semanticContract != draft.producerSemantics)
    (storeError "store.partition-claim-mismatch" value.content [])
  let mismatch := storeError "store.partition-basis-mismatch" value.content []
  let basis ← (claimInputBasisDigest hash value.inputBasis).mapError fun _ => mismatch
  reject (basis != draft.producerInputBasisDigest) mismatch

/-- `make_partition_manifest` -/
def makePartitionManifest (draft : PartitionDraft) : Result PartitionManifest := do
  reject (draft.relationDescriptorId.isEmpty || draft.scope.isEmpty ||
      draft.interpretation.isEmpty || !canonicalDigestValue draft.producerSemantics ||
      !canonicalDigestValue draft.producerInputBasisDigest || draft.precisionProfile.isEmpty ||
      draft.assumptionSetId.isEmpty)
    (storeError "store.partition-invalid" "identity" [])
  draft.condition.validate.mapError fun error =>
    storeError "store.partition-invalid" "condition" error.code
  let _ ← (engine.requireId draft.relationDescriptorId).mapError fun _ =>
    storeError "store.partition-relation-unknown" draft.relationDescriptorId []
  firstError (checkPartitionClaim engine draft) draft.claims
  checkCoverage hash [] draft.coverage
  let claims := claimContentIds draft
  let coverage ← coverageValues hash draft
  let partitionId ← partitionIdentity hash draft
  let claimSetDigest ← dereferenced (canonicalIdentityDigest hash "claim-set"
    (claims.map .fromString))
  let coverageDigest ← dereferenced (canonicalIdentityDigest hash "coverage"
    (coverage.map .fromString))
  let contentDigest ← partitionContent hash partitionId claimSetDigest coverageDigest
  .ok { partitionId, relationDescriptorId := draft.relationDescriptorId,
        inputBasisDigest := draft.producerInputBasisDigest, claimSetDigest, coverageDigest,
        contentDigest, claimCount := UInt64.ofNat claims.length,
        complete := partitionComplete draft }

end Engine

/-! ## Closures -/

/-- `partition_certificate_subject` -/
structure PartitionCertificateSubject where
  partition : PartitionManifest
  binding : SnapshotPartitionBinding
  deriving DecidableEq, Repr

/-- `identity_digest`: 64 digits behind the last marker, and something in front of it. -/
def isIdentityDigest (value : Bytes) : Bool :=
  let marker := ascii ":sha256:"
  let digits := value.drop (value.length - 64)
  let before := value.take (value.length - 64)
  decide (64 ≤ value.length) && marker.isSuffixOf before && decide (marker.length < before.length) &&
    digits.all isLowerHex

section Closures

variable (hash : Bytes → Bytes)

/-- `closure_identity` -/
def closureIdentity (value : ClosureCandidate) : Result Bytes :=
  dereferenced (canonicalIdentityDigest hash "closure-certificate"
    [.fromString value.relationDescriptorId, .fromString value.subjectPartitionId,
      .fromString value.partitionContentDigest, .fromString value.coverageDigest,
      .fromString value.keyDomainDigest, .fromString value.condition.canonicalForm,
      .fromString value.interpretation, .fromString value.assumptionSetId,
      .fromString value.closureKind, .fromString value.producerSemantics,
      .fromString value.evidenceDigest])

/-- `make_partition_certificate_subject`. The comparisons of the source stop at the first that
    fails, so an identity is computed only behind those in front of it. -/
def makePartitionCertificateSubject (partition : PartitionManifest)
    (binding : SnapshotPartitionBinding) : Result PartitionCertificateSubject := do
  let invalid := storeError "store.closure-subject-invalid" partition.partitionId []
  reject (partition.partitionId != binding.partitionId ||
      partition.relationDescriptorId != binding.relationDescriptorId ||
      partition.inputBasisDigest != binding.producerInputBasisDigest) invalid
  let identity ← partitionIdentity hash (identityDraft binding)
  reject (identity != partition.partitionId) invalid
  let content ← partitionContent hash partition.partitionId partition.claimSetDigest
    partition.coverageDigest
  reject (partition.contentDigest != content ||
      !canonicalDigestValue partition.inputBasisDigest ||
      !isIdentityDigest partition.claimSetDigest || !isIdentityDigest partition.coverageDigest ||
      !isIdentityDigest partition.contentDigest || binding.scope.isEmpty ||
      binding.interpretation.isEmpty || !canonicalDigestValue binding.producerSemantics ||
      binding.precisionProfile.isEmpty || binding.assumptionSetId.isEmpty ||
      !binding.condition.validate.isOk) invalid
  .ok { partition, binding }

/-- `make_closure_certificate` -/
def makeClosureCertificate (subject : PartitionCertificateSubject) (candidate : ClosureCandidate) :
    Result ClosureCertificate := do
  let partition := subject.partition
  let binding := subject.binding
  reject (!partition.complete)
    (storeError "store.partial-partition-closure" partition.partitionId [])
  reject (candidate.relationDescriptorId != partition.relationDescriptorId ||
      candidate.subjectPartitionId != partition.partitionId ||
      candidate.partitionContentDigest != partition.contentDigest ||
      candidate.coverageDigest != partition.coverageDigest ||
      candidate.condition != binding.condition ||
      candidate.interpretation != binding.interpretation ||
      candidate.assumptionSetId != binding.assumptionSetId ||
      candidate.producerSemantics != binding.producerSemantics)
    (storeError "store.closure-binding-mismatch" partition.partitionId [])
  reject (!canonicalDigestValue candidate.keyDomainDigest ||
      !canonicalDigestValue candidate.producerSemantics ||
      !canonicalDigestValue candidate.evidenceDigest || candidate.interpretation.isEmpty ||
      candidate.assumptionSetId.isEmpty ||
      candidate.closureKind != ascii "relation-key-enumeration" ||
      !candidate.condition.validate.isOk)
    (storeError "store.closure-invalid" partition.partitionId [])
  let id ← closureIdentity hash candidate
  .ok { id, subject := candidate }

/-! ## Snapshots and publications -/

/-- `snapshot_manifest_identity` -/
def snapshotManifestIdentity (value : SnapshotManifest) : Result Bytes :=
  canonicalIdentityDigest hash "snapshot"
    [.fromString value.snapshotSemanticsVersion.string, .fromString value.catalogSemanticDigest,
      .fromString value.conditionUniverseId, .fromString value.relationRegistryDigest,
      .fromString value.interpretationPolicyDigest,
      .fromTuple ((sortBy (fun left right => bytesLess left.partitionId right.partitionId)
        value.partitions).map fun partition => .fromTuple [.fromString partition.partitionId,
          .fromString partition.contentDigest, .fromString partition.coverageDigest]),
      .fromTuple ((sortBy bytesLess value.closureIds).map .fromString)]

/-- `validate_publication_identity` -/
def validatePublicationIdentity (value : PublicationRecord) : Result Unit := do
  let identity ← dereferenced (publicationRecordIdentity hash value.seriesId value.snapshotId
    value.sequence value.parentPublication)
  reject (value.publicationId != identity) (storeError "store.corrupt" "publication" "identity")

end Closures

end Cxxlens.Sdk.Store
