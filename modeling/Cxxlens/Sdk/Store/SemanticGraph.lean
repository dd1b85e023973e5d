import Cxxlens.Sdk.Store.Payload

set_option autoImplicit false

/-! # Semantic graphs

What a snapshot says besides its envelopes follows from them: rows, annotations, coverage and
bindings are projections of the claims in the envelopes, in a canonical order
(`sort_semantic_projections`, `validate_semantic_graph` of
`snapshot_store_v5_codec_internal.cpp`). A graph that is valid in this sense can be sealed. -/

namespace Cxxlens.Sdk.Store

open Fallible Sorting Collections
open Query (SnapshotCoverageUnit SnapshotQueryCoverage SnapshotClaimAnnotation
  SnapshotPartitionBinding ClosureCertificate)

/-! ## Canonical order -/

/-- `sort_canonical_projection`, with the values themselves in place of their indexes -/
def sortCanonicalProjection {α : Type} (projection : α → Bytes) (values : List α) : List α :=
  sortBy (fun left right => bytesLess (projection left) (projection right)) values

/-- `annotation_projection` -/
def annotationProjection (value : SnapshotClaimAnnotation) : Bytes :=
  ( encodeAnnotation true value).flatten

/-- What `std::tie` compares of coverage. -/
def coverageTie (value : SnapshotQueryCoverage) : Bytes ×ₗ Bytes ×ₗ Bytes ×ₗ Bytes ×ₗ Bytes :=
  toLex (value.relationDescriptorId, toLex (value.unit.domain, toLex (value.unit.key,
    toLex (value.unit.state, value.unit.reason))))

/-- The rows of a relation in their order. Only a multiset keeps equal rows. -/
def sortRows (relation : Option RelationDescriptor) (rows : List DetachedRow) : List DetachedRow :=
  let sorted := sortCanonicalProjection DetachedRow.canonicalForm rows
  match relation with
  | none => sorted
  | some descriptor =>
    if descriptor.merge ≠ .multiset then
      unique (fun left right => left.canonicalForm == right.canonicalForm) sorted
    else sorted

/-- `sort_semantic_projections` -/
def sortSemanticProjections (value : SnapshotData) : SnapshotData :=
  { value with
    claimContents := canonicalStrings value.claimContents
    coverage := sortBy (fun left right => decide (coverageTie left < coverageTie right))
      value.coverage
    unresolved := sortBy (fun left right => decide (left.tie < right.tie)) value.unresolved
    partitionBindings := sortBy (fun left right => bytesLess left.partitionId right.partitionId)
      value.partitionBindings
    rows := value.rows.mapValues fun descriptor rows =>
      sortRows (value.descriptors.find descriptor) rows
    annotations := value.annotations.mapValues fun _ annotations =>
      sortCanonicalProjection annotationProjection annotations }

/-- `semantic_projection_bytes` -/
def semanticProjectionBytes (value : SnapshotData) : Bytes :=
  (encodeByDescriptor encodeRow value.rows ++ encodeStrings value.claimContents ++
    BinaryWriter.range encodeUnresolved value.unresolved ++
    encodeByDescriptor ( encodeAnnotation true) value.annotations ++
    BinaryWriter.range encodeQueryCoverage value.coverage ++
    BinaryWriter.range encodeBinding value.partitionBindings).flatten

/-! ## Projections of envelopes -/

/-- The annotation of a claim. -/
def annotationOf (value : Claim) : SnapshotClaimAnnotation where
  row := value.row
  presence := value.presence
  interpretation := value.interpretation
  semanticKey := value.semanticKey
  assertion := value.assertion
  content := value.content
  producer := value.producer
  provenanceRoot := value.provenanceRoot
  guarantee := value.guarantee

/-- What `expected` starts from. -/
def noProjections : SnapshotData where
  semanticManifest :=
    { catalogSemanticDigest := [], conditionUniverseId := [], relationRegistryDigest := []
      interpretationPolicyDigest := [] }
  queryAnnotationsAvailable := true

/-- What a claim adds to `expected`. -/
def projectClaim (expected : SnapshotData) (value : Claim) : SnapshotData :=
  { expected with
    rows := expected.rows.push value.descriptor value.row
    annotations := expected.annotations.push value.descriptor (annotationOf value)
    claimContents := expected.claimContents ++ [value.content] }

/-- What an envelope adds to `expected`. -/
def projectEnvelope (partition : PartitionManifest) (descriptor : RelationDescriptor)
    (envelope : PartitionDraft) (expected : SnapshotData) : SnapshotData :=
  let id := partition.relationDescriptorId
  let opened : SnapshotData :=
    { expected with
      partitionBindings := expected.partitionBindings ++
        [partitionBinding partition.partitionId envelope]
      descriptors := expected.descriptors.emplace id descriptor
      rows := expected.rows.emplace id []
      annotations := expected.annotations.emplace id []
      coverage := expected.coverage ++ envelope.coverage.map fun unit => ⟨id, unit⟩ }
  let projected := envelope.claims.foldl projectClaim opened
  { projected with unresolved := projected.unresolved ++ envelope.unresolved }

section Engine

variable {hash : Bytes → Bytes} (engine : RelationEngine hash)

/-- The loop of `validate_semantic_graph` over the partitions of the manifest. -/
def projectPartition (envelopes : OrderedMap Bytes PartitionDraft) (expected : SnapshotData)
    (partition : PartitionManifest) : Result SnapshotData :=
  match envelopes.find partition.partitionId with
  | none => .error (corrupt "partition-envelope" "manifest-key")
  | some envelope => do
    let mismatch := corrupt "partition-envelope" "manifest"
    let rebuilt ← replaced mismatch (makePartitionManifest engine envelope)
    reject (rebuilt != partition) mismatch
    let descriptor ← engine.requireId partition.relationDescriptorId
    .ok (projectEnvelope partition descriptor envelope expected)

/-- `expected` in `validate_semantic_graph` -/
def expectedProjections (value : SnapshotData) : Result SnapshotData :=
  value.semanticManifest.partitions.foldlM (projectPartition engine value.partitionEnvelopes)
    noProjections

/-- `validate_semantic_graph` in front of its handlers: the graph as it has been sorted. -/
def validateSemanticGraphPrivate (value : SnapshotData) : Result SnapshotData := do
  reject (value.partitionEnvelopes.entries.length != value.semanticManifest.partitions.length)
    (corrupt "partition-envelope" "manifest-count")
  let expected ← expectedProjections engine value
  reject (semanticProjectionBytes (sortSemanticProjections expected) !=
      semanticProjectionBytes (sortSemanticProjections value))
    (corrupt "partition-envelope" "projection")
  .ok (sortSemanticProjections value)

/-- `validate_semantic_graph` -/
def validateSemanticGraph (value : SnapshotData) : Result SnapshotData :=
  caught "snapshot-v5-validation" (validateSemanticGraphPrivate engine value)

end Engine

end Cxxlens.Sdk.Store
