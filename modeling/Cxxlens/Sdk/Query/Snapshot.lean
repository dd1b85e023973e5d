import Cxxlens.Sdk.Query.Guarantee

set_option autoImplicit false

/-! # Snapshots

What a query reads of a snapshot (`snapshot_handle` of `store.hpp`, `store.cpp`). A handle that the
engine is bound to is not empty, and has annotations. -/

namespace Cxxlens.Sdk.Query

/-- `snapshot_claim_annotation` -/
structure SnapshotClaimAnnotation where
  row : DetachedRow
  presence : ClaimCondition
  interpretation : Bytes
  semanticKey : Bytes
  assertion : Bytes
  content : Bytes
  producer : ClaimProducer
  provenanceRoot : Bytes
  guarantee : ClaimGuarantee
  deriving DecidableEq, Repr

/-- `snapshot_partition_binding` -/
structure SnapshotPartitionBinding where
  partitionId : Bytes
  relationDescriptorId : Bytes
  scope : Bytes := []
  condition : ClaimCondition
  interpretation : Bytes
  producerSemantics : Bytes
  producerInputBasisDigest : Bytes := []
  precisionProfile : Bytes := []
  assumptionSetId : Bytes
  deriving DecidableEq, Repr

/-- `closure_candidate` -/
structure ClosureCandidate where
  relationDescriptorId : Bytes
  subjectPartitionId : Bytes
  partitionContentDigest : Bytes := []
  coverageDigest : Bytes := []
  keyDomainDigest : Bytes := []
  condition : ClaimCondition
  interpretation : Bytes
  assumptionSetId : Bytes
  closureKind : Bytes
  producerSemantics : Bytes
  evidenceDigest : Bytes := []
  deriving DecidableEq, Repr

/-- `closure_certificate` -/
structure ClosureCertificate where
  id : Bytes
  subject : ClosureCandidate
  deriving DecidableEq, Repr

/-- `snapshot_handle::data`, as far as a query reads it -/
structure Snapshot where
  id : Bytes
  publicationId : Bytes
  descriptors : OrderedMap Bytes RelationDescriptor
  annotations : OrderedMap Bytes (List SnapshotClaimAnnotation)
  coverage : List SnapshotQueryCoverage := []
  partitionBindings : List SnapshotPartitionBinding := []
  closureCertificates : List ClosureCertificate := []
  unresolved : List UnresolvedReference := []
  physicalBackend : Bytes := []
  deriving DecidableEq

/-- `store_error` -/
def storeError (code field : Bytes) (detail : Bytes := []) : Error :=
  { code := code, field := field, detail := detail }

/-- `snapshot_handle::descriptor` -/
def Snapshot.descriptor (snapshot : Snapshot) (relation : Bytes) : Result RelationDescriptor :=
  match snapshot.descriptors.find relation with
  | some descriptor => .ok descriptor
  | none => .error (storeError "sdk.snapshot-relation-mismatch" relation)

/-- `snapshot_handle::open_claims`: what its cursor goes over -/
def Snapshot.openClaims (snapshot : Snapshot) (relation : Bytes) :
    Result (List SnapshotClaimAnnotation) :=
  if snapshot.descriptors.contains relation = false then
    .error (storeError "sdk.snapshot-relation-mismatch" relation)
  else .ok ((snapshot.annotations.find relation).getD [])

end Cxxlens.Sdk.Query
