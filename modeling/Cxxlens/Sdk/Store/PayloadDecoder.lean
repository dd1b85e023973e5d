import Cxxlens.Sdk.Store.Sealing

set_option autoImplicit false

/-! # Decoding snapshot payloads

`decode_snapshot_private` of `snapshot_store_v5_codec_internal.cpp`: one pass that reads a graph and
checks every part of it against the parts in front, for every schema of a payload. -/

namespace Cxxlens.Sdk.Store

open Fallible Sorting Collections BinaryReader
open BoundedStore (PublicationState)
open Query (SnapshotCoverageUnit SnapshotQueryCoverage SnapshotClaimAnnotation
  SnapshotPartitionBinding ClosureCandidate ClosureCertificate)

/-! ## Manifest and publication -/

/-- Every schema. -/
def PayloadSchema.all : List PayloadSchema := [.v1, .v2, .v3, .v4, .v5]

/-- The schema whose magic a payload starts with. -/
def decodeSchema : Reading Error PayloadSchema := do
  let format := corrupt "payload" "format"
  let magic ← string.orError format
  match PayloadSchema.all.find? fun schema => schema.magic == magic with
  | some schema => .done schema
  | none => .failed format

/-- A partition of the manifest. -/
def decodePartition : Reading Error PartitionManifest :=
  .orError (corrupt "partition" "header") do
    let partitionId ← string
    let relationDescriptorId ← string
    let inputBasisDigest ← string
    let claimSetDigest ← string
    let coverageDigest ← string
    let contentDigest ← string
    let claimCount ← unsignedValue
    let complete ← boolean
    .done { partitionId, relationDescriptorId, inputBasisDigest, claimSetDigest, coverageDigest
            contentDigest, claimCount, complete }

/-- The manifest. Only in a payload with envelopes is its order checked. -/
def decodeManifest (schema : PayloadSchema) : Reading Error SnapshotManifest := do
  let header := corrupt "manifest" "header"
  let schemaName ← string.orError header
  let id ← string.orError header
  let major ← (unsigned32 "snapshot-version-major").orError header
  let minor ← (unsigned32 "snapshot-version-minor").orError header
  let patch ← (unsigned32 "snapshot-version-patch").orError header
  let catalogSemanticDigest ← string.orError header
  let conditionUniverseId ← string.orError header
  let relationRegistryDigest ← string.orError header
  let interpretationPolicyDigest ← string.orError header
  let partitions ← range 1000000 header decodePartition
  let closureIds ← range 1000000 (corrupt "closures" "count") string
  let manifest : SnapshotManifest :=
    { schema := schemaName, id, snapshotSemanticsVersion := ⟨major, minor, patch⟩
      catalogSemanticDigest, conditionUniverseId, relationRegistryDigest
      interpretationPolicyDigest, partitions, closureIds }
  .lift (reject (schema == .v5 && !manifestOrdered manifest)
    (corrupt "manifest" "noncanonical-order"))
  .done manifest

/-- The states of a publication. -/
def publicationStates : List PublicationState :=
  [.created, .staged, .validating, .committed, .rejected, .rolledBack]

/-- The publication. -/
def decodePublication (hash : Bytes → Bytes) : Reading Error PublicationRecord := do
  let header := corrupt "publication" "header"
  let publicationId ← string.orError header
  let seriesId ← string.orError header
  let snapshotId ← string.orError header
  let sequence ← unsignedValue.orError header
  let physicalGeneration ← unsignedValue.orError header
  let hasParent ← boolean.orError header
  let parentPublication ← announced hasParent string
  let state ← (enumerator publicationStates (corrupt "publication" "state")).orError
    (corrupt "publication" "state")
  let corruptFlag ← boolean.orError (corrupt "publication" "state")
  let publication : PublicationRecord :=
    { publicationId, seriesId, snapshotId, sequence, physicalGeneration, parentPublication, state
      corrupt := corruptFlag }
  .lift (validatePublicationIdentity hash publication)
  .done publication

/-! ## Rows -/

/-- A row that is valid for its relation. -/
def decodeValidRow (descriptor : RelationDescriptor) : Reading Error DetachedRow :=
  .orError (corrupt "row" "validation") do
    let row ← decodeRow
    .lift (validateRow descriptor row)
    .done row

/-- The rows of one relation, as they stand in a payload. -/
structure RelationBlock where
  descriptorId : Bytes
  descriptor : RelationDescriptor
  rows : List DetachedRow

/-- Descriptors, and the rows of each. -/
abbrev RelationRows := OrderedMap Bytes RelationDescriptor × OrderedMap Bytes (List DetachedRow)

/-- `descriptors.emplace`, and the rows behind those that are there. -/
def addRelation (state : RelationRows) (block : RelationBlock) : Result RelationRows :=
  .ok (state.1.emplace block.descriptorId block.descriptor,
    state.2.extend block.descriptorId block.rows)

section Engine

variable {hash : Bytes → Bytes} (engine : RelationEngine hash)

/-- The rows of one relation. -/
def decodeRelation : Reading Error RelationBlock := do
  let descriptorId ← string.orError (corrupt "rows" "header")
  let count ← countUpTo 10000000 (corrupt "rows" "header")
  let descriptor ← .lift ((engine.requireId descriptorId).mapError fun _ =>
    storeError "store.registry-mismatch" descriptorId [])
  let rows ← (decodeValidRow descriptor).times count
  .done { descriptorId, descriptor, rows }

/-- All rows. -/
def decodeRelations : Reading Error RelationRows := do
  let count ← countUpTo 1000000 (corrupt "rows" "relation-count")
  (decodeRelation engine).gather addRelation count (.empty, .empty)

end Engine

/-- An unresolved reference outside of the envelopes. -/
def decodeUnresolved : Reading Error UnresolvedReference := do
  let header := corrupt "unresolved" "header"
  let sourceAssertion ← string.orError header
  let sourceRelation ← string.orError header
  let targetRelation ← string.orError header
  let sourceColumns ← range 1000000 header string
  let reason ← string
  .done { sourceAssertion, sourceRelation, targetRelation, sourceColumns, reason }

/-! ## Annotations and coverage -/

/-- The producer of an annotation in a payload that names none. -/
def legacyProducer : ClaimProducer where
  id := "cxxlens.snapshot-legacy-unknown"
  semanticContract := "sha256:0000000000000000000000000000000000000000000000000000000000000000"

/-- The producer in `decode_annotation`. -/
def decodeProducer (hasProducer : Bool) : Reading Error ClaimProducer :=
  if hasProducer then
    .orError (corrupt "claim-annotation" "producer") do
      let id ← string
      let semanticContract ← string
      .lift (reject (id.isEmpty || semanticContract.isEmpty)
        (corrupt "claim-annotation" "producer"))
      .done { id, semanticContract }
  else .done legacyProducer

/-- `decode_annotation` -/
def decodeAnnotation (descriptor : RelationDescriptor) (hasProducer : Bool) :
    Reading Error SnapshotClaimAnnotation := do
  let invalid := corrupt "claim-annotation" "validation"
  let row ← decodeRow.orError invalid
  let presence ← decodeCondition.orError invalid
  let interpretation ← string.orError invalid
  let semanticKey ← string.orError invalid
  let assertion ← string.orError invalid
  let content ← string.orError invalid
  let producer ← decodeProducer hasProducer
  let provenanceRoot ← string.orError invalid
  let guarantee ← decodeGuarantee.orError invalid
  .orError invalid (.lift (validateRow descriptor row))
  .lift (reject (interpretation.isEmpty || semanticKey.isEmpty || assertion.isEmpty ||
    content.isEmpty || provenanceRoot.isEmpty) invalid)
  .done { row, presence, interpretation, semanticKey, assertion, content, producer
          provenanceRoot, guarantee }

/-- An annotation whose row is of the relation. -/
def decodeBlockAnnotation (descriptor : RelationDescriptor) (hasProducer : Bool)
    (descriptorId : Bytes) : Reading Error SnapshotClaimAnnotation :=
  .orError (corrupt "claim-annotations" "value") do
    let annotation ← decodeAnnotation descriptor hasProducer
    .lift (reject ( annotation.row.descriptorId != descriptorId)
      (corrupt "claim-annotations" "value"))
    .done annotation

/-- The annotations of one relation. -/
def decodeAnnotationBlock (descriptors : OrderedMap Bytes RelationDescriptor) (hasProducer : Bool) :
    Reading Error (Bytes × List SnapshotClaimAnnotation) := do
  let descriptorId ← string.orError (corrupt "claim-annotations" "relation")
  let count ← countUpTo 10000000 (corrupt "claim-annotations" "relation")
  match descriptors.find descriptorId with
  | none => .failed (storeError "store.registry-mismatch" descriptorId [])
  | some descriptor => do
    let annotations ← ( decodeBlockAnnotation descriptor hasProducer descriptorId).times count
    .done (descriptorId, annotations)

/-- Annotations, and the contents of all of them. -/
abbrev Annotations := OrderedMap Bytes (List SnapshotClaimAnnotation) × List Bytes

/-- The annotations behind those that are there. -/
def addAnnotations (state : Annotations) (block : Bytes × List SnapshotClaimAnnotation) :
    Result Annotations :=
  .ok (state.1.extend block.1 block.2,
    state.2 ++ block.2.map SnapshotClaimAnnotation.content)

/-- A unit of coverage. -/
def decodeQueryCoverage (descriptors : OrderedMap Bytes RelationDescriptor) :
    Reading Error SnapshotQueryCoverage := do
  let invalid := corrupt "coverage" "value"
  let relationDescriptorId ← string.orError invalid
  let domain ← string.orError invalid
  let key ← string.orError invalid
  let state ← string.orError invalid
  let reason ← string.orError invalid
  .lift (reject (!descriptors.contains relationDescriptorId) invalid)
  let coverage : SnapshotQueryCoverage := ⟨relationDescriptorId, ⟨domain, key, state, reason⟩⟩
  checked "coverage" (validateCoverageUnit coverage.unit)
  .done coverage

/-- What a payload says for queries. -/
structure QueryPart where
  available : Bool := false
  annotations : OrderedMap Bytes (List SnapshotClaimAnnotation) := .empty
  coverage : List SnapshotQueryCoverage := []

/-- The part of a payload that starts with the availability of annotations. -/
def decodeQueryPart (schema : PayloadSchema) (descriptors : OrderedMap Bytes RelationDescriptor)
    (claimContents : List Bytes) : Reading Error QueryPart := do
  let available ← boolean.orError (corrupt "claim-annotations" "header")
  let count ← countUpTo 1000000 (corrupt "claim-annotations" "header")
  let (annotations, contents) ← (decodeAnnotationBlock descriptors
    (decide (3 ≤ schema.number))).gather addAnnotations count (.empty, [])
  let coverage ← range 10000000 (corrupt "coverage" "count") (decodeQueryCoverage descriptors)
  .lift (reject ((!available && !contents.isEmpty) ||
      (available && canonicalStrings contents != claimContents))
    (corrupt "claim-annotations" "content-set"))
  .done { available, annotations, coverage }

/-! ## Bindings and certificates -/

/-- A count that is the number of other elements. -/
def expectCount (size : Nat) (error : Error) : Reading Error Unit := do
  let count ← unsignedValue.orError error
  .lift (reject (count.toNat != size) error)

section Closures

variable (hash : Bytes → Bytes) (manifest : SnapshotManifest)

/-- The checks of a binding. -/
def checkBinding (binding : SnapshotPartitionBinding) : Result Unit :=
  let invalid := corrupt "partition-bindings" "identity"
  match findPartition manifest binding.partitionId with
  | none => .error invalid
  | some partition => do
    reject (partition.relationDescriptorId != binding.relationDescriptorId) invalid
    let identity ← partitionIdentity hash (identityDraft binding)
    reject (identity != binding.partitionId || binding.scope.isEmpty ||
      binding.interpretation.isEmpty || !canonicalDigestValue binding.producerSemantics ||
      !canonicalDigestValue binding.producerInputBasisDigest ||
      binding.precisionProfile.isEmpty || binding.assumptionSetId.isEmpty) invalid

/-- The binding of a partition. -/
def decodeBinding : Reading Error SnapshotPartitionBinding := do
  let invalid := corrupt "partition-bindings" "value"
  let partitionId ← string.orError invalid
  let relationDescriptorId ← string.orError invalid
  let scope ← string.orError invalid
  let condition ← decodeCondition.orError invalid
  let interpretation ← string.orError invalid
  let producerSemantics ← string.orError invalid
  let producerInputBasisDigest ← string.orError invalid
  let precisionProfile ← string.orError invalid
  let assumptionSetId ← string.orError invalid
  let binding : SnapshotPartitionBinding :=
    { partitionId, relationDescriptorId, scope, condition, interpretation, producerSemantics
      producerInputBasisDigest, precisionProfile, assumptionSetId }
  .lift (checkBinding hash manifest binding)
  .done binding

/-- The bindings in their order. -/
def decodeBindings : Reading Error (List SnapshotPartitionBinding) := do
  expectCount manifest.partitions.length (corrupt "partition-bindings" "count")
  let read ← (decodeBinding hash manifest).times manifest.partitions.length
  let bindings := sortBy (fun left right => bytesLess left.partitionId right.partitionId) read
  .lift (reject (!sortedUnique (bindings.map SnapshotPartitionBinding.partitionId))
    (corrupt "partition-bindings" "duplicate"))
  .done bindings

/-- The checks of a certificate, which is made once more. -/
def checkCertificate (bindings : List SnapshotPartitionBinding) (certificate : ClosureCertificate) :
    Result Unit :=
  let subject := certificate.subject
  match findPartition manifest subject.subjectPartitionId,
    findBinding bindings subject.subjectPartitionId with
  | some partition, some binding => do
    reject (subject.condition != binding.condition ||
        subject.interpretation != binding.interpretation ||
        subject.assumptionSetId != binding.assumptionSetId ||
        subject.producerSemantics != binding.producerSemantics)
      (corrupt "closure-certificates" "binding")
    let validation ← replaced (corrupt "closure-certificates" "subject")
      (makePartitionCertificateSubject hash partition binding)
    let identity := corrupt "closure-certificates" "identity"
    let made ← replaced identity (makeClosureCertificate hash validation subject)
    reject (made.id != certificate.id) identity
  | _, _ => .error (corrupt "closure-certificates" "binding")

/-- A certificate. -/
def decodeCertificate (bindings : List SnapshotPartitionBinding) :
    Reading Error ClosureCertificate := do
  let invalid := corrupt "closure-certificates" "value"
  let id ← string.orError invalid
  let relationDescriptorId ← string.orError invalid
  let subjectPartitionId ← string.orError invalid
  let partitionContentDigest ← string.orError invalid
  let coverageDigest ← string.orError invalid
  let keyDomainDigest ← string.orError invalid
  let condition ← decodeCondition.orError invalid
  let interpretation ← string.orError invalid
  let assumptionSetId ← string.orError invalid
  let closureKind ← string.orError invalid
  let producerSemantics ← string.orError invalid
  let evidenceDigest ← string.orError invalid
  let subject : ClosureCandidate :=
    { relationDescriptorId, subjectPartitionId, partitionContentDigest, coverageDigest
      keyDomainDigest, condition, interpretation, assumptionSetId, closureKind, producerSemantics
      evidenceDigest }
  .lift (checkCertificate hash manifest bindings { id, subject })
  .done { id, subject }

/-- The certificates in their order. -/
def decodeCertificates (bindings : List SnapshotPartitionBinding) :
    Reading Error (List ClosureCertificate) := do
  expectCount manifest.closureIds.length (corrupt "closure-certificates" "count")
  let read ← (decodeCertificate hash manifest bindings).times manifest.closureIds.length
  let certificates := sortBy (fun left right => bytesLess left.id right.id) read
  let ids := certificates.map ClosureCertificate.id
  .lift (reject (!sortedUnique ids || ids != manifest.closureIds)
    (corrupt "closure-certificates" "manifest"))
  .done certificates

end Closures

/-! ## Envelopes -/

/-- A unit of coverage in an envelope. -/
def decodeCoverageUnit : Reading Error SnapshotCoverageUnit :=
  .orError (corrupt "partition-envelope" "coverage") do
    let domain ← string
    let key ← string
    let state ← string
    let reason ← string
    .done { domain, key, state, reason }

/-- An unresolved reference in an envelope. -/
def decodeEnvelopeUnresolved : Reading Error UnresolvedReference :=
  .orError (corrupt "partition-envelope" "unresolved") do
    let sourceAssertion ← string
    let sourceRelation ← string
    let targetRelation ← string
    let sourceColumns ← decodeStrings "partition-envelope-unresolved"
    let reason ← string
    .done { sourceAssertion, sourceRelation, targetRelation, sourceColumns, reason }

section Payload

variable {hash : Bytes → Bytes} (engine : RelationEngine hash)

/-- The envelope of one partition. -/
def decodeEnvelope (bindings : List SnapshotPartitionBinding) :
    Reading Error (Bytes × PartitionDraft) := do
  let partitionId ← string.orError (corrupt "partition-envelope" "header")
  let count ← countUpTo 10000000 (corrupt "partition-envelope" "header")
  match findBinding bindings partitionId with
  | none => .failed (corrupt "partition-envelope" "binding")
  | some binding => do
    let claims ← (decodeClaim engine).times count
    let coverage ← range 10000000 (corrupt "partition-envelope" "coverage-count") decodeCoverageUnit
    let unresolved ← range 10000000 (corrupt "partition-envelope" "unresolved-count")
      decodeEnvelopeUnresolved
    .done (partitionId, { identityDraft binding with claims, coverage, unresolved })

/-- The envelopes. -/
def decodeEnvelopes (manifest : SnapshotManifest) (bindings : List SnapshotPartitionBinding) :
    Reading Error (OrderedMap Bytes PartitionDraft) := do
  expectCount manifest.partitions.length (corrupt "partition-envelope" "count")
  (decodeEnvelope engine bindings).gather
    (OrderedMap.emplaceNew (corrupt "partition-envelope" "duplicate"))
    manifest.partitions.length .empty

/-- What `decode_snapshot_private` reads behind the magic. -/
def decodeParts (schema : PayloadSchema) : Reading Error SnapshotData := do
  let semanticManifest ← decodeManifest schema
  let publicationRecord ← decodePublication hash
  let (descriptors, rows) ← decodeRelations engine
  let claimContents ← range 10000000 (corrupt "claims" "count") string
  let unresolved ← range 10000000 (corrupt "unresolved" "count") decodeUnresolved
  let query ← if 2 ≤ schema.number then decodeQueryPart schema descriptors claimContents
    else .done {}
  let partitionBindings ← if 4 ≤ schema.number then decodeBindings hash semanticManifest
    else .done []
  let closureCertificates ← if 4 ≤ schema.number then
      decodeCertificates hash semanticManifest partitionBindings
    else .done []
  let partitionEnvelopes ← if schema = .v5 then
      decodeEnvelopes engine semanticManifest partitionBindings
    else .done .empty
  .done
    { semanticManifest, publicationRecord, descriptors, rows, annotations := query.annotations
      coverage := query.coverage, partitionBindings, partitionEnvelopes, closureCertificates
      claimContents, unresolved, queryAnnotationsAvailable := query.available }

/-- `decode_snapshot_private` up to the end of the input: the schema, and the graph. -/
def decodePayload : Reading Error (PayloadSchema × SnapshotData) := do
  let schema ← decodeSchema
  let value ← decodeParts engine schema
  if schema = .v5 then do
    let value ← .lift (validateSemanticGraphPrivate engine value)
    .done (schema, value)
  else .done (schema, value)

end Payload

end Cxxlens.Sdk.Store
