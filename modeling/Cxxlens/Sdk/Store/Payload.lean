import Cxxlens.Sdk.Store.ClaimCodec
import Cxxlens.Sdk.Store.Graph

set_option autoImplicit false

/-! # Snapshot payloads

The encoding of a snapshot graph (`encode_snapshot_private` of
`snapshot_store_v5_codec_internal.cpp`), as the spans that a writer is asked to append. The
envelopes of the partitions are written as they stand when the writer measures or the graph has been
sealed, and in their canonical order otherwise. -/

namespace Cxxlens.Sdk.Store

open Sorting
open Query (SnapshotCoverageUnit SnapshotQueryCoverage SnapshotClaimAnnotation
  SnapshotPartitionBinding ClosureCertificate)

/-! ## Schemas -/

/-- `snapshot_payload_schema` -/
inductive PayloadSchema where
  | v1
  | v2
  | v3
  | v4
  | v5
  deriving DecidableEq, Repr

/-- The number of a schema. -/
def PayloadSchema.number : PayloadSchema → Nat
  | .v1 => 1
  | .v2 => 2
  | .v3 => 3
  | .v4 => 4
  | .v5 => 5

/-- `payload_schema_magic` -/
def PayloadSchema.magic : PayloadSchema → Bytes
  | .v1 => "cxxlens.ng-snapshot-payload.v1"
  | .v2 => "cxxlens.ng-snapshot-payload.v2"
  | .v3 => "cxxlens.ng-snapshot-payload.v3"
  | .v4 => "cxxlens.ng-snapshot-payload.v4"
  | .v5 => "cxxlens.ng-snapshot-payload.v5"

/-! ## Records -/

section Records

open BinaryWriter

/-- `encode_annotation`; before v3 without the producer -/
def encodeAnnotation (includeProducer : Bool) (value : SnapshotClaimAnnotation) : Spans :=
  encodeRow value.row ++ encodeCondition value.presence ++ string value.interpretation ++
    string value.semanticKey ++ string value.assertion ++ string value.content ++
    (if includeProducer then string value.producer.id ++ string value.producer.semanticContract
     else []) ++
    string value.provenanceRoot ++ encodeGuarantee value.guarantee

/-- A unit of coverage. -/
def encodeCoverageUnit (unit : SnapshotCoverageUnit) : Spans :=
  string unit.domain ++ string unit.key ++ string unit.state ++ string unit.reason

/-- An unresolved reference. -/
def encodeUnresolved (unresolved : UnresolvedReference) : Spans :=
  string unresolved.sourceAssertion ++ string unresolved.sourceRelation ++
    string unresolved.targetRelation ++ encodeStrings unresolved.sourceColumns ++
    string unresolved.reason

/-- The envelope of one partition, as it stands. -/
def encodeEnvelope (entry : Bytes × PartitionDraft) : Spans :=
  string entry.1 ++ range encodeClaim entry.2.claims ++
    range encodeCoverageUnit entry.2.coverage ++
    range encodeUnresolved entry.2.unresolved

/-- A partition of the manifest. -/
def encodePartition (partition : PartitionManifest) : Spans :=
  string partition.partitionId ++ string partition.relationDescriptorId ++
    string partition.inputBasisDigest ++ string partition.claimSetDigest ++
    string partition.coverageDigest ++ string partition.contentDigest ++
    unsignedValue partition.claimCount.toNat ++ boolean partition.complete

/-- The manifest in `encode_snapshot`. -/
def encodeManifest (manifest : SnapshotManifest) : Spans :=
  string manifest.schema ++ string manifest.id ++
    unsignedValue manifest.snapshotSemanticsVersion.major.toNat ++
    unsignedValue manifest.snapshotSemanticsVersion.minor.toNat ++
    unsignedValue manifest.snapshotSemanticsVersion.patch.toNat ++
    string manifest.catalogSemanticDigest ++ string manifest.conditionUniverseId ++
    string manifest.relationRegistryDigest ++ string manifest.interpretationPolicyDigest ++
    range encodePartition manifest.partitions ++ range string manifest.closureIds

/-- The publication in front of its generation. -/
def encodePublicationHead (publication : PublicationRecord) : Spans :=
  string publication.publicationId ++ string publication.seriesId ++
    string publication.snapshotId ++ unsignedValue publication.sequence.toNat

/-- The publication behind its generation. -/
def encodePublicationTail (publication : PublicationRecord) : Spans :=
  boolean publication.parentPublication.isSome ++ publication.parentPublication.elim [] string ++
    unsignedValue (publicationStateCode publication.state).toNat ++ boolean publication.corrupt

/-- A map from descriptors to ranges. -/
def encodeByDescriptor {α : Type} (encode : α → Spans) (map : OrderedMap Bytes (List α)) : Spans :=
  range (fun entry : Bytes × List α => string entry.1 ++ range encode entry.2)
    map.entries

/-- A unit of coverage behind its relation. -/
def encodeQueryCoverage (coverage : SnapshotQueryCoverage) : Spans :=
  string coverage.relationDescriptorId ++ encodeCoverageUnit coverage.unit

/-- The binding of a partition. -/
def encodeBinding (binding : SnapshotPartitionBinding) : Spans :=
  string binding.partitionId ++ string binding.relationDescriptorId ++ string binding.scope ++
    encodeCondition binding.condition ++ string binding.interpretation ++
    string binding.producerSemantics ++ string binding.producerInputBasisDigest ++
    string binding.precisionProfile ++ string binding.assumptionSetId

/-- A closure certificate. -/
def encodeCertificate (certificate : ClosureCertificate) : Spans :=
  string certificate.id ++ string certificate.subject.relationDescriptorId ++
    string certificate.subject.subjectPartitionId ++
    string certificate.subject.partitionContentDigest ++
    string certificate.subject.coverageDigest ++ string certificate.subject.keyDomainDigest ++
    encodeCondition certificate.subject.condition ++ string certificate.subject.interpretation ++
    string certificate.subject.assumptionSetId ++ string certificate.subject.closureKind ++
    string certificate.subject.producerSemantics ++ string certificate.subject.evidenceDigest

/-! ## Payloads -/

/-- What `encode_snapshot_private` writes in front of the generation. -/
def encodeSnapshotHead (schema : PayloadSchema) (value : SnapshotData) : Spans :=
  string schema.magic ++ encodeManifest value.semanticManifest ++
    encodePublicationHead value.publicationRecord

/-- What `encode_snapshot_private` writes behind the publication, up to the envelopes. -/
def encodeProjections (schema : PayloadSchema) (value : SnapshotData) : Spans :=
  encodeByDescriptor encodeRow value.rows ++ range string value.claimContents ++
    range encodeUnresolved value.unresolved ++
    (if 2 ≤ schema.number then
      boolean value.queryAnnotationsAvailable ++
        encodeByDescriptor ( encodeAnnotation (decide (3 ≤ schema.number))) value.annotations ++
        range encodeQueryCoverage value.coverage
     else []) ++
    (if 4 ≤ schema.number then
      range encodeBinding value.partitionBindings ++
        range encodeCertificate value.closureCertificates
     else [])

/-- `encode_snapshot_private` over the envelopes in the order in which they are to be written -/
def encodeSnapshotWith (envelopes : List (Bytes × PartitionDraft)) (schema : PayloadSchema)
    (value : SnapshotData) : Spans :=
  encodeSnapshotHead schema value ++
    unsignedValue value.publicationRecord.physicalGeneration.toNat ++
    encodePublicationTail value.publicationRecord ++ encodeProjections schema value ++
    (if schema = .v5 then range encodeEnvelope envelopes else [])

end Records

/-! ## Envelopes in their canonical order -/

section Envelopes

variable (hash : Bytes → Bytes)

/-- The sort by canonical form. A comparison computes both forms, but a single unit is compared with
    none. -/
def sortCoverageUnits (units : List SnapshotCoverageUnit) : Result (List SnapshotCoverageUnit) :=
  if units.length < 2 then .ok units
  else do
    let forms ← coverageForms hash units
    .ok ((sortBy (fun left right => bytesLess left.1 right.1) (forms.zip units)).map Prod.snd)

/-- `canonicalize_partition_envelope` -/
def canonicalizePartitionEnvelope (draft : PartitionDraft) : Result PartitionDraft := do
  let claims ← dereferenced (sortExisting draft.claims)
  let coverage ← sortCoverageUnits hash draft.coverage
  let unresolved := sortBy (fun left right => decide (left.tie < right.tie)) draft.unresolved
  .ok { draft with claims, coverage, unresolved }

/-- The envelopes in the order in which a writer that neither measures nor is sealed writes them. -/
def canonicalEnvelopes (envelopes : List (Bytes × PartitionDraft)) :
    Result (List (Bytes × PartitionDraft)) :=
  OrderedMap.traverseEntries (canonicalizePartitionEnvelope hash) envelopes

/-- `encode_snapshot_private` to a writer that measures or is sealed -/
def plainSpans (schema : PayloadSchema) (value : SnapshotData) : Spans :=
  encodeSnapshotWith value.partitionEnvelopes.entries schema value

/-- `encode_snapshot_private` to any other writer -/
def sortedSpans (schema : PayloadSchema) (value : SnapshotData) : Result Spans :=
  if schema = .v5 then do
    let envelopes ← canonicalEnvelopes hash value.partitionEnvelopes.entries
    .ok (encodeSnapshotWith envelopes schema value)
  else .ok (plainSpans schema value)

end Envelopes

end Cxxlens.Sdk.Store
