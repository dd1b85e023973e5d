import Cxxlens.Sdk.Claim.Reported
import Cxxlens.Sdk.Store.EnvelopeOrder
import Cxxlens.Sdk.Store.SemanticGraph
import Cxxlens.Sdk.Store.WriterModes

set_option autoImplicit false

/-! # Sealed graphs

`seal_reference` of `snapshot_store_v5_codec_internal.cpp`, and what it is for: the writer of a
sealed graph does not sort, because the seal has sorted the envelopes, and still writes what every
other writer writes. -/

namespace Cxxlens.Sdk.Store

open Fallible Sorting
open BoundedStore (PublicationState publicationRecordIdentity)
open Query (SnapshotCoverageUnit SnapshotPartitionBinding ClosureCertificate)

/-! ## Sealing -/

/-- `snapshot_store_v5_reference_generation_binding::seal` -/
def ReferenceGenerationBinding.seal (lifetimePin : Option UInt64) (expected : UInt64) :
    Result ReferenceGenerationBinding := do
  reject (lifetimePin.isNone || expected == 0 || lifetimePin != some expected)
    (corrupt "snapshot-v5-binding" "generation-custody")
  .ok { lifetimePin, generation := expected }

/-- `snapshot_store_v5_graph_binding::state` -/
structure GraphBinding where
  graph : SnapshotData
  authority : ReferenceAuthority

/-- `std::ranges::find` by the identity of a partition -/
def findPartition (manifest : SnapshotManifest) (partitionId : Bytes) : Option PartitionManifest :=
  manifest.partitions.find? fun partition => partition.partitionId == partitionId

/-- `std::ranges::find` by the partition of a binding -/
def findBinding (bindings : List SnapshotPartitionBinding) (partitionId : Bytes) :
    Option SnapshotPartitionBinding :=
  bindings.find? fun binding => binding.partitionId == partitionId

/-- Every list of a manifest in strict order. -/
def manifestOrdered (manifest : SnapshotManifest) : Bool :=
  sortedUnique (manifest.partitions.map PartitionManifest.partitionId) &&
    sortedUnique manifest.closureIds

section Checks

variable (hash : Bytes → Bytes)

/-- The identities that a seal checks. -/
def checkSealedIdentities (graph : SnapshotData) : Result Unit := do
  let manifest := graph.semanticManifest
  let publication := graph.publicationRecord
  let snapshotIdentity := corrupt "snapshot-v5-binding" "snapshot-identity"
  reject (manifest.schema != ascii "cxxlens.snapshot-manifest.v1")
    (corrupt "snapshot-v5-binding" "manifest-schema")
  let snapshot ← replaced snapshotIdentity (snapshotManifestIdentity hash manifest)
  reject (snapshot != manifest.id) snapshotIdentity
  let publicationIdentity := corrupt "snapshot-v5-binding" "publication-identity"
  let publicationId ← replaced publicationIdentity (publicationRecordIdentity hash
    publication.seriesId publication.snapshotId publication.sequence publication.parentPublication)
  reject (publication.publicationId != publicationId || publication.snapshotId != manifest.id ||
    publication.state != .committed || publication.corrupt) publicationIdentity
  reject (publication.sequence == 0 || publication.physicalGeneration == 0)
    (corrupt "snapshot-v5-binding" "generation-custody")

/-- The loop of a seal over the certificates. -/
def checkSealedCertificate (graph : SnapshotData) (certificate : ClosureCertificate) :
    Result Unit :=
  let invalid := corrupt "snapshot-v5-binding" "closure-subject"
  match findPartition graph.semanticManifest certificate.subject.subjectPartitionId,
    findBinding graph.partitionBindings certificate.subject.subjectPartitionId with
  | some partition, some binding => do
    let subject ← replaced invalid (makePartitionCertificateSubject hash partition binding)
    let identity := corrupt "snapshot-v5-binding" "closure-identity"
    let rebuilt ← replaced identity (makeClosureCertificate hash subject certificate.subject)
    reject (rebuilt != certificate) identity
  | _, _ => .error invalid

end Checks

section Engine

variable {hash : Bytes → Bytes} (engine : RelationEngine hash)

/-- `snapshot_store_v5_graph_binding::seal_reference`, which owns the graph -/
def sealReference (graph : Option SnapshotData) : Result GraphBinding :=
  caught "snapshot-v5-binding" (match graph with
  | none => .error (storeError "store.invariant-breach" "snapshot-v5-binding" "null-graph")
  | some graph => do
    checkSealedIdentities hash graph
    let generation ← ReferenceGenerationBinding.seal graph.generationPin
      graph.publicationRecord.physicalGeneration
    reject (!graph.queryAnnotationsAvailable) (corrupt "snapshot-v5-binding" "query-annotations")
    reject (!manifestOrdered graph.semanticManifest ||
        !sortedUnique (graph.closureCertificates.map ClosureCertificate.id))
      (corrupt "snapshot-v5-binding" "noncanonical-order")
    let graph ← validateSemanticGraphPrivate engine graph
    reject (graph.closureCertificates.map ClosureCertificate.id !=
        graph.semanticManifest.closureIds)
      (corrupt "snapshot-v5-binding" "closure-manifest")
    firstError (checkSealedCertificate hash graph) graph.closureCertificates
    let envelopes ← graph.partitionEnvelopes.traverse (canonicalizePartitionEnvelope hash)
    .ok { graph := { graph with partitionEnvelopes := envelopes }
          authority :=
            { generation, snapshotId := graph.semanticManifest.id
              publicationId := graph.publicationRecord.publicationId
              seriesId := graph.publicationRecord.seriesId
              sequence := graph.publicationRecord.sequence
              physicalGeneration := graph.publicationRecord.physicalGeneration } })

/-- The graph of a binding is the one that was sealed, sorted, with its envelopes in order. -/
theorem graph_of_sealReference {graph : SnapshotData} {binding : GraphBinding}
    (h : sealReference engine (some graph) = .ok binding) :
    ∃ sorted, validateSemanticGraphPrivate engine graph = .ok sorted ∧
      ∃ envelopes, sorted.partitionEnvelopes.traverse (canonicalizePartitionEnvelope hash) =
          .ok envelopes ∧
        binding.graph = { sorted with partitionEnvelopes := envelopes } := by
  rw [sealReference, caught_eq_ok_iff] at h
  simp only [seq_eq_ok_iff] at h
  obtain ⟨-, h⟩ := h
  rw [bind_eq_ok_iff] at h
  obtain ⟨generation, -, h⟩ := h
  simp only [seq_eq_ok_iff] at h
  obtain ⟨-, -, h⟩ := h
  rw [bind_eq_ok_iff] at h
  obtain ⟨sorted, hsorted, h⟩ := h
  simp only [seq_eq_ok_iff] at h
  obtain ⟨-, -, h⟩ := h
  rw [bind_eq_ok_iff] at h
  obtain ⟨envelopes, henvelopes, h⟩ := h
  exact ⟨sorted, hsorted, envelopes, henvelopes,
    (congrArg GraphBinding.graph (Except.ok.inj h)).symm⟩

end Engine

/-! ## Every writer writes the same -/

section Agreement

variable {hash : Bytes → Bytes}

/-- What `encode_snapshot` returns is what a writer that sorts is asked to append. -/
theorem encodeSnapshot_eq_ok_iff {value : SnapshotData} {bytes : Bytes} :
    encodeSnapshot hash value = .ok bytes ↔
      (∃ size, measureSnapshot value snapshotStoreV5MaximumPayloadBytes = .ok size) ∧
        ∃ spans, sortedSpans hash .v5 value = .ok spans ∧ bytes = spans.flatten := by
  rw [encodeSnapshot, encodeSnapshotAs, caught_eq_ok_iff, bind_eq_ok_iff]
  simp only [bind_eq_ok_iff, measureSnapshot, Except.ok.injEq]
  constructor
  · rintro ⟨size, hsize, spans, hspans, rfl⟩
    refine ⟨?_, spans, hspans, rfl⟩
    cases hmeasured : measureSpans snapshotStoreV5MaximumPayloadBytes (plainSpans .v5 value) with
    | error error =>
        rw [hmeasured] at hsize
        cases hsize
    | ok size => exact ⟨size, rfl⟩
  · rintro ⟨⟨size, hsize⟩, spans, hspans, rfl⟩
    exact ⟨size, by rw [hsize]; rfl, spans, hspans, rfl⟩

theorem plainSpans_of_sorted {value : SnapshotData} {spans : Spans}
    (h : sortedSpans hash .v5 value = .ok spans) {envelopes : OrderedMap Bytes PartitionDraft}
    (henvelopes : value.partitionEnvelopes.traverse (canonicalizePartitionEnvelope hash) =
      .ok envelopes) :
    plainSpans .v5 { value with partitionEnvelopes := envelopes } = spans ∧
      sortedSpans hash .v5 { value with partitionEnvelopes := envelopes } = .ok spans := by
  rw [OrderedMap.traverse_eq_ok_iff, ← canonicalEnvelopes] at henvelopes
  rw [sortedSpans, if_pos rfl, henvelopes, ok_bind, Except.ok.injEq] at h
  refine ⟨h, ?_⟩
  obtain ⟨hall, hfound⟩ := canonicalEnvelopes_eq_ok_iff.1 henvelopes
  -- envelopes in their order are sorted once more, to themselves
  have hagain : canonicalEnvelopes hash envelopes.entries = .ok envelopes.entries := by
    rw [canonicalEnvelopes_eq_ok_iff, hfound]
    refine ⟨?_, ?_⟩
    · intro entry hentry
      obtain ⟨other, hother, rfl⟩ := List.mem_map.1 hentry
      exact (hall other hother).inOrder
    · rw [List.map_map]
      refine List.map_congr_left fun entry _ => ?_
      rw [Function.comp_apply, envelopeInOrder_idem]
  rw [sortedSpans, if_pos rfl, hagain, ok_bind, ← h]
  rfl

/-- What became of the bytes that `plain` was to give to `take`, as a recording shows it. -/
structure Delivered {σ : Type} (take : BoundedByteSink σ) (outcome : Result Unit × σ × Bytes)
    (plain : Result Unit × σ) (bytes : Bytes) : Prop where
  result : outcome.1 = plain.1
  sink : outcome.2.1 = plain.2
  complete : plain.1 = .ok () → outcome.2.2 = bytes
  accepted : outcome.2.2 <+: bytes
  failure : ∀ error, plain.1 = .error error → ∃ state span found, (take state span).1 = .error found

theorem delivered_streamSpans {σ : Type} (take : BoundedByteSink σ) (spans : Spans) (sink : σ) :
    Delivered take (streamSpans (recording take) spans (sink, [])) (streamSpans take spans sink)
      spans.flatten := by
  obtain ⟨hresult, hsink, hcomplete, hprefix⟩ := streamSpans_recording take spans sink []
  refine ⟨hresult, hsink, hcomplete, hprefix, ?_⟩
  intro error herror
  clear hresult hsink hcomplete hprefix
  induction spans generalizing sink with
  | nil => exact absurd herror (by simp)
  | cons span rest ih =>
      rw [streamSpans_cons] at herror
      cases htake : take sink span with
      | mk answer next =>
          rw [htake] at herror
          cases answer with
          | ok _ => exact ih next herror
          | error other =>
              exact ⟨sink, span, other, by rw [htake]⟩

theorem Delivered.caught {σ : Type} {take : BoundedByteSink σ} {outcome : Result Unit × σ × Bytes}
    {plain : Result Unit × σ} {bytes : Bytes} (h : Delivered take outcome plain bytes)
    (field : Bytes) :
    Delivered take (Store.caught field outcome.1, outcome.2) (Store.caught field plain.1, plain.2)
      bytes where
  result := by rw [h.result]
  sink := h.sink
  complete := fun hok => h.complete (caught_eq_ok_iff.1 hok)
  accepted := h.accepted
  failure := by
    intro error herror
    cases hplain : plain.1 with
    | ok value =>
        rw [hplain] at herror
        exact absurd herror (by simp [Store.caught, Except.mapError])
    | error found => exact h.failure found hplain

/-- **All writers write the same bytes.** What is measured is their number, a sink is given them in
    their order, and the writer of a sealed graph, which does not sort, is no exception: the seal
    has sorted the envelopes, and a seal is what a sort leaves alone. -/
theorem encodeSnapshot_agrees {value : SnapshotData} {bytes : Bytes}
    (hspans : ∀ span ∈ plainSpans .v5 value, span.length < addressable)
    (h : encodeSnapshot hash value = .ok bytes) :
    (∀ maximumBytes < addressable, measureSnapshot value maximumBytes =
        if bytes.length ≤ maximumBytes then .ok bytes.length
        else .error (storeError "store.resource-limit" "snapshot-payload" "maximum-bytes")) ∧
      (∀ (σ : Type) (take : BoundedByteSink σ) (sink : σ),
        Delivered take (encodeSnapshotTo hash (recording take) value (sink, []))
          (encodeSnapshotTo hash take value sink) bytes) ∧
      ∀ (engine : RelationEngine hash) (graph : SnapshotData) (binding : GraphBinding),
        sealReference engine (some graph) = .ok binding →
        validateSemanticGraphPrivate engine graph = .ok value →
          encodeSnapshot hash binding.graph = .ok bytes ∧
          ∀ (σ : Type) (take : BoundedByteSink σ) (sink : σ),
            Delivered take (encodeSealedSnapshot (recording take) binding.graph (sink, []))
              (encodeSealedSnapshot take binding.graph sink) bytes := by
  obtain ⟨⟨size, hsize⟩, spans, hsorted, rfl⟩ := encodeSnapshot_eq_ok_iff.1 h
  have hperm := sortedSpans_perm hsorted
  have hlength : (plainSpans .v5 value).flatten.length = spans.flatten.length :=
    hperm.flatten.length_eq.symm
  refine ⟨?_, ?_, ?_⟩
  · intro maximumBytes hmaximum
    rw [measureSnapshot, measureSpans_eq hmaximum hspans, hlength]
  · intro σ take sink
    have hdelivered := (delivered_streamSpans take spans sink).caught "snapshot-v5-encode"
    simp only [encodeSnapshotTo, encodeSnapshotToPrivate, hsize, hsorted]
    exact hdelivered
  · intro engine graph binding hsealed hvalid
    obtain ⟨sorted, hsame, envelopes, henvelopes, hgraph⟩ := graph_of_sealReference engine hsealed
    obtain rfl := Except.ok.inj (hvalid.symm.trans hsame)
    obtain ⟨hplain, hagain⟩ := plainSpans_of_sorted hsorted henvelopes
    rw [hgraph]
    refine ⟨?_, ?_⟩
    · -- the spans of the sealed graph are those of the graph in another order
      have hmeasured : measureSnapshot { value with partitionEnvelopes := envelopes }
          snapshotStoreV5MaximumPayloadBytes = .ok size := by
        rw [measureSnapshot, measureSpans_eq (by decide) hspans, ← hperm.flatten.length_eq] at hsize
        rw [measureSnapshot, hplain, measureSpans_eq (by decide) fun span hspan =>
          hspans span (hperm.mem_iff.1 hspan), hsize]
      exact encodeSnapshot_eq_ok_iff.2 ⟨⟨size, hmeasured⟩, spans, hagain, rfl⟩
    · intro σ take sink
      rw [encodeSealedSnapshot, encodeSealedSnapshot, hplain]
      exact delivered_streamSpans take spans sink

end Agreement

/-! ## A small graph

One partition without claims, of which one part is known to be covered and another one is not. -/

def sampleDigest : Bytes :=
  "sha256:0000000000000000000000000000000000000000000000000000000000000000"

def sampleEnvelope : PartitionDraft where
  relationDescriptorId := "a.b.v1"
  scope := "s"
  condition := { «universe» := "u", fragments := ["f", "g"] }
  interpretation := "i"
  producerSemantics := sampleDigest
  producerInputBasisDigest := sampleDigest
  precisionProfile := "p"
  assumptionSetId := "as"
  coverage := [⟨"d", "k", "covered", []⟩, ⟨"d", "l", "unknown", "r"⟩]
  unresolved := [⟨"a", "a.b.v1", "t", ["c"], "r"⟩]

def samplePartition : PartitionManifest where
  partitionId := "partition:sha256:09"
  relationDescriptorId := "a.b.v1"
  inputBasisDigest := sampleDigest
  claimSetDigest := "claim-set:sha256:2b"
  coverageDigest := "coverage:sha256:0a"
  contentDigest := "partition-content:sha256:9b"
  claimCount := 0
  complete := false

/-- A map with one relation. -/
def underSample {α : Type} (value : α) : OrderedMap Bytes α where
  entries := [("a.b.v1", value)]
  ordered := List.pairwise_singleton _ _

def sampleSnapshot : SnapshotData where
  semanticManifest :=
    { id := "snapshot:sha256:b3", catalogSemanticDigest := "c", conditionUniverseId := "u"
      relationRegistryDigest := "r", interpretationPolicyDigest := "ip"
      partitions := [samplePartition] }
  publicationRecord :=
    { publicationId := "publication:sha256:09", seriesId := "se", sequence := 1
      snapshotId := "snapshot:sha256:b3", physicalGeneration := 1, state := .committed }
  descriptors := underSample sampleDescriptor
  rows := underSample []
  annotations := underSample []
  coverage := sampleEnvelope.coverage.map fun unit => ⟨"a.b.v1", unit⟩
  partitionBindings := [partitionBinding "partition:sha256:09" sampleEnvelope]
  partitionEnvelopes :=
    { entries := [("partition:sha256:09", sampleEnvelope)]
      ordered := List.pairwise_singleton _ _ }
  unresolved := sampleEnvelope.unresolved
  queryAnnotationsAvailable := true

theorem sampleSnapshot_encoded :
    (encodeSnapshot sampleHash sampleSnapshot).toOption.map List.length = some 1226 := by
  decide +kernel

theorem sampleSnapshot_agrees :
    ∃ bytes, encodeSnapshot sampleHash sampleSnapshot = .ok bytes ∧
      measureSnapshot sampleSnapshot snapshotStoreV5MaximumPayloadBytes = .ok 1226 := by
  have hencoded := sampleSnapshot_encoded
  cases hbytes : encodeSnapshot sampleHash sampleSnapshot with
  | error error =>
      rw [hbytes] at hencoded
      cases hencoded
  | ok bytes =>
      rw [hbytes] at hencoded
      have hlength : bytes.length = 1226 := Option.some.inj hencoded
      have hspans : ∀ span ∈ plainSpans .v5 sampleSnapshot, span.length < addressable := by
        decide +kernel
      have hmeasured := (encodeSnapshot_agrees hspans hbytes).1
        snapshotStoreV5MaximumPayloadBytes (by decide)
      rw [hlength, if_pos (by decide)] at hmeasured
      exact ⟨bytes, rfl, hmeasured⟩

end Cxxlens.Sdk.Store
