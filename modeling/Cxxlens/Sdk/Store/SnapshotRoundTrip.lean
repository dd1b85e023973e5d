import Cxxlens.Sdk.Store.ReadableGraph

set_option autoImplicit false

/-! # Snapshots are read as they were written

`decode_snapshot` accepts a payload with envelopes exactly when it is what `encode_snapshot` writes
of a well-formed graph, and returns that graph, however the source serves the payload. -/

namespace Cxxlens.Sdk.Store

open Fallible BigEndian Framing BinaryReader Sorting Collections
open Query (SnapshotCoverageUnit SnapshotQueryCoverage SnapshotClaimAnnotation
  SnapshotPartitionBinding ClosureCertificate)

section Engine

variable {hash : Bytes → Bytes} {engine : RelationEngine hash}

/-! ## The texts of a graph -/

/-- What is taken for the bindings. -/
def BindingsSpelling (hash : Bytes → Bytes) (manifest : SnapshotManifest)
    (bindings : List SnapshotPartitionBinding) (text : Bytes) : Prop :=
  manifest.partitions.length < addressable ∧ ∃ read, read.length = manifest.partitions.length ∧
    (∀ binding ∈ read, BindingReadable hash manifest binding) ∧
    bindings = bindingsInOrder read ∧
    sortedUnique (bindings.map SnapshotPartitionBinding.partitionId) = true ∧
    text = (BinaryWriter.range encodeBinding read).flatten

/-- What is taken for the certificates. -/
def CertificatesSpelling (hash : Bytes → Bytes) (manifest : SnapshotManifest)
    (bindings : List SnapshotPartitionBinding) (certificates : List ClosureCertificate)
    (text : Bytes) : Prop :=
  manifest.closureIds.length < addressable ∧ ∃ read, read.length = manifest.closureIds.length ∧
    (∀ certificate ∈ read, CertificateReadable hash manifest bindings certificate) ∧
    certificates = certificatesInOrder read ∧
    sortedUnique (certificates.map ClosureCertificate.id) = true ∧
    certificates.map ClosureCertificate.id = manifest.closureIds ∧
    text = (BinaryWriter.range encodeCertificate read).flatten

/-- What is taken for the envelopes. -/
def EnvelopesSpelling (engine : RelationEngine hash) (manifest : SnapshotManifest)
    (bindings : List SnapshotPartitionBinding) (envelopes : OrderedMap Bytes PartitionDraft)
    (text : Bytes) : Prop :=
  manifest.partitions.length < addressable ∧ ∃ read, read.length = manifest.partitions.length ∧
    (∀ entry ∈ read, EnvelopeReadable engine bindings entry) ∧ envelopes.entries.Perm read ∧
    ∃ back, Reading.Spelled EnvelopeSpelling read back ∧ text = encode 8 read.length ++ back

/-- The part for queries of a graph. -/
def queryPart (value : SnapshotData) : QueryPart :=
  ⟨value.queryAnnotationsAvailable, value.annotations, value.coverage⟩

/-- The texts of the parts that can be spelled in more than one way. -/
structure PartsSpelled (engine : RelationEngine hash) (value : SnapshotData)
    (rows query bindings certificates envelopes : Bytes) : Prop where
  manifest : ManifestReadable .v5 value.semanticManifest
  publication : PublicationReadable hash value.publicationRecord
  relations : RelationsSpelling engine (value.descriptors, value.rows) rows
  contentCount : value.claimContents.length ≤ 10000000
  unresolvedCount : value.unresolved.length ≤ 10000000
  columnCount : ∀ unresolved ∈ value.unresolved, unresolved.sourceColumns.length ≤ 1000000
  query : QuerySpelling .v5 value.descriptors value.claimContents (queryPart value) query
  bindings : BindingsSpelling hash value.semanticManifest value.partitionBindings bindings
  certificates : CertificatesSpelling hash value.semanticManifest value.partitionBindings
    value.closureCertificates certificates
  envelopes : EnvelopesSpelling engine value.semanticManifest value.partitionBindings
    value.partitionEnvelopes envelopes
  backend : value.physicalBackend = []
  pin : value.generationPin = none

/-- The text of a graph with the texts of some of its parts. -/
def partsText (value : SnapshotData) (rows query bindings certificates envelopes : Bytes) : Bytes :=
  (encodeManifest value.semanticManifest).flatten ++
    ((encodePublication value.publicationRecord).flatten ++ (rows ++
      ((BinaryWriter.range BinaryWriter.string value.claimContents).flatten ++
        ((BinaryWriter.range encodeUnresolved value.unresolved).flatten ++ (query ++ (bindings ++
          (certificates ++ envelopes)))))))

theorem accepts_decodeParts :
    (decodeParts engine .v5).Accepts addressable fun value text =>
      ∃ rows query bindings certificates envelopes,
        PartsSpelled engine value rows query bindings certificates envelopes ∧
          text = partsText value rows query bindings certificates envelopes := by
  refine ((accepts_decodeManifest .v5).bind fun manifest =>
    (accepts_decodePublication hash).bind fun publication =>
    (accepts_decodeRelations engine).bind fun relations =>
    (accepts_range_unchecked (show 10000000 < addressable by decide) _ accepts_written_string).bind
      fun claimContents =>
    (accepts_range (show 10000000 < addressable by decide) _ accepts_decodeUnresolved).bind
      fun unresolved =>
    (accepts_decodeQueryPart relations.1 .v5 claimContents).bind fun query =>
    (accepts_decodeBindings hash manifest).bind fun bindings =>
    (accepts_decodeCertificates hash manifest bindings).bind fun certificates =>
    (accepts_decodeEnvelopes engine manifest bindings).bind fun envelopes =>
    Reading.Accepts.done _).congr fun value text => ?_
  constructor
  · rintro ⟨manifest, _, _, ⟨hmanifest, rfl⟩, ⟨publication, _, _, ⟨hpublication, rfl⟩,
      ⟨⟨descriptors, rows⟩, rowsText, _, hrelations, ⟨contents, _, _, ⟨hcontents, rfl⟩,
      ⟨unresolved, _, _, ⟨⟨hunresolved, hcolumns⟩, rfl⟩, ⟨query, queryText, _, hquery,
      ⟨bindings, bindingsText, _, hbindings, ⟨certificates, certificatesText, _, hcertificates,
      ⟨envelopes, envelopesText, _, henvelopes, ⟨rfl, rfl⟩, rfl⟩, rfl⟩, rfl⟩, rfl⟩, rfl⟩, rfl⟩,
      rfl⟩, rfl⟩, rfl⟩
    refine ⟨rowsText, queryText, bindingsText, certificatesText, envelopesText,
      ⟨hmanifest, hpublication, hrelations, hcontents, hunresolved, hcolumns, hquery, hbindings,
        hcertificates, henvelopes, rfl, rfl⟩, ?_⟩
    rw [partsText, List.append_nil]
  · rintro ⟨rowsText, queryText, bindingsText, certificatesText, envelopesText, h, rfl⟩
    obtain ⟨manifest, publication, descriptors, rows, annotations, coverage, bindings, envelopes,
      certificates, contents, unresolved, backend, available, pin⟩ := value
    obtain rfl := h.backend
    obtain rfl := h.pin
    refine ⟨manifest, _, _, ⟨h.manifest, rfl⟩, ⟨publication, _, _, ⟨h.publication, rfl⟩,
      ⟨(descriptors, rows), rowsText, _, h.relations, ⟨contents, _, _, ⟨h.contentCount, rfl⟩,
      ⟨unresolved, _, _, ⟨⟨h.unresolvedCount, h.columnCount⟩, rfl⟩,
      ⟨⟨available, annotations, coverage⟩, queryText, _, h.query, ⟨bindings, bindingsText, _,
      h.bindings, ⟨certificates, certificatesText, _, h.certificates, ⟨envelopes, envelopesText, _,
      h.envelopes, ⟨rfl, rfl⟩, rfl⟩, rfl⟩, rfl⟩, rfl⟩, rfl⟩, rfl⟩, rfl⟩, rfl⟩, ?_⟩
    rw [partsText, List.append_nil]

/-! ## Bindings, certificates and envelopes in their order -/

section Ordered

variable {manifest : SnapshotManifest} {bindings : List SnapshotPartitionBinding}
  {certificates : List ClosureCertificate} {envelopes : OrderedMap Bytes PartitionDraft}
  {text : Bytes}

theorem sortBy_eq_self_of_sortedUnique {α : Type} {key : α → Bytes} {values : List α}
    (h : sortedUnique (values.map key) = true) :
    sortBy (fun left right => bytesLess (key left) (key right)) values = values := by
  rw [sortedUnique_iff, List.pairwise_map] at h
  exact sortBy_eq_self (compares_bytes key) (h.imp le_of_lt)

/-- What is spelled is read in its order, with all its elements readable. -/
theorem BindingsSpelling.ordered (h : BindingsSpelling hash manifest bindings text) :
    bindings.length = manifest.partitions.length ∧
      (∀ binding ∈ bindings, BindingReadable hash manifest binding) ∧
      sortedUnique (bindings.map SnapshotPartitionBinding.partitionId) = true := by
  obtain ⟨-, read, hcount, hread, rfl, hunique, -⟩ := h
  exact ⟨by rw [bindingsInOrder, length_sortBy, hcount],
    fun binding hbinding => hread binding ((mem_sortBy _ _ _).1 hbinding), hunique⟩

theorem bindingsSpelling_of_ordered (hsize : manifest.partitions.length ≤ 1000000)
    (hcount : bindings.length = manifest.partitions.length)
    (hread : ∀ binding ∈ bindings, BindingReadable hash manifest binding)
    (hunique : sortedUnique (bindings.map SnapshotPartitionBinding.partitionId) = true) :
    BindingsSpelling hash manifest bindings (BinaryWriter.range encodeBinding bindings).flatten :=
  ⟨hsize.trans_lt (by decide), bindings, hcount, hread,
    (sortBy_eq_self_of_sortedUnique hunique).symm, hunique, rfl⟩

theorem CertificatesSpelling.ordered
    (h : CertificatesSpelling hash manifest bindings certificates text) :
    (∀ certificate ∈ certificates, CertificateReadable hash manifest bindings certificate) ∧
      certificates.map ClosureCertificate.id = manifest.closureIds := by
  obtain ⟨-, read, -, hread, rfl, -, hids, -⟩ := h
  exact ⟨fun certificate hcertificate =>
    hread certificate ((mem_sortBy _ _ _).1 hcertificate), hids⟩

theorem certificatesSpelling_of_ordered (hsize : manifest.closureIds.length ≤ 1000000)
    (hunique : sortedUnique manifest.closureIds = true)
    (hread : ∀ certificate ∈ certificates, CertificateReadable hash manifest bindings certificate)
    (hids : certificates.map ClosureCertificate.id = manifest.closureIds) :
    CertificatesSpelling hash manifest bindings certificates
      (BinaryWriter.range encodeCertificate certificates).flatten := by
  have hcount : certificates.length = manifest.closureIds.length := by rw [← hids, List.length_map]
  rw [← hids] at hunique
  exact ⟨hsize.trans_lt (by decide), certificates, hcount, hread,
    (sortBy_eq_self_of_sortedUnique hunique).symm, hunique, hids, rfl⟩

theorem envelopeSpelling_encodeEnvelope (entry : Bytes × PartitionDraft) :
    EnvelopeSpelling entry (encodeEnvelope entry).flatten := by
  have hclaims : Reading.Spelled ClaimSpelling entry.2.claims
      (entry.2.claims.flatMap fun value => (encodeClaim value).flatten) :=
    Reading.spelled_flatMap fun value _ => ⟨value.row.cells, List.Perm.refl _, rfl⟩
  refine ⟨_, hclaims, ?_⟩
  rw [encodeEnvelope]
  simp only [List.flatten_append, BinaryWriter.flatten_string, BinaryWriter.flatten_range,
    List.append_assoc]

theorem EnvelopesSpelling.readable (h : EnvelopesSpelling engine manifest bindings envelopes text) :
    envelopes.entries.length = manifest.partitions.length ∧
      ∀ entry ∈ envelopes.entries, EnvelopeReadable engine bindings entry := by
  obtain ⟨-, read, hcount, hread, hperm, -⟩ := h
  exact ⟨hperm.length_eq.trans hcount, fun entry hentry => hread entry (hperm.mem_iff.1 hentry)⟩

theorem envelopesSpelling_of_readable (hsize : manifest.partitions.length ≤ 1000000)
    (hcount : envelopes.entries.length = manifest.partitions.length)
    (hread : ∀ entry ∈ envelopes.entries, EnvelopeReadable engine bindings entry) :
    EnvelopesSpelling engine manifest bindings envelopes
      (BinaryWriter.range encodeEnvelope envelopes.entries).flatten := by
  refine ⟨hsize.trans_lt (by decide), envelopes.entries, hcount, hread, List.Perm.refl _,
    envelopes.entries.flatMap fun entry => (encodeEnvelope entry).flatten,
    Reading.spelled_flatMap fun entry _ => envelopeSpelling_encodeEnvelope entry, ?_⟩
  rw [BinaryWriter.flatten_range]

/-- An envelope in its canonical order is as readable. -/
theorem EnvelopeReadable.inOrder {entry : Bytes × PartitionDraft}
    (h : EnvelopeReadable engine bindings entry) :
    EnvelopeReadable engine bindings (entry.1, envelopeInOrder hash entry.2) := by
  obtain ⟨⟨binding, hfound, hdraft⟩, hclaimCount, hclaims, hcoverage, hunresolved, hcolumns⟩ := h
  refine ⟨⟨binding, hfound, ?_⟩, ?_, ?_, ?_, ?_, ?_⟩
  · rw [hdraft]
    rfl
  · rwa [envelopeInOrder, claimsInOrder, length_sortBy]
  · intro value hvalue
    exact hclaims value ((mem_sortBy _ _ _).1 hvalue)
  · rwa [envelopeInOrder, coverageInOrder, length_sortBy]
  · rwa [envelopeInOrder, length_sortBy]
  · intro unresolved hmem
    exact hcolumns unresolved ((mem_sortBy _ _ _).1 hmem)

end Ordered

/-! ## Readable graphs -/

/-- A graph that passes the checks of the decoder. -/
structure SnapshotReadable (engine : RelationEngine hash) (value : SnapshotData) : Prop where
  manifest : ManifestReadable .v5 value.semanticManifest
  publication : PublicationReadable hash value.publicationRecord
  relations : RelationsReadable engine (value.descriptors, value.rows)
  contentCount : value.claimContents.length ≤ 10000000
  unresolvedCount : value.unresolved.length ≤ 10000000
  columnCount : ∀ unresolved ∈ value.unresolved, unresolved.sourceColumns.length ≤ 1000000
  query : QueryPartReadable value.descriptors true value.claimContents (queryPart value)
  bindingCount : value.partitionBindings.length = value.semanticManifest.partitions.length
  bindings : ∀ binding ∈ value.partitionBindings,
    BindingReadable hash value.semanticManifest binding
  bindingOrder :
    sortedUnique (value.partitionBindings.map SnapshotPartitionBinding.partitionId) = true
  certificates : ∀ certificate ∈ value.closureCertificates,
    CertificateReadable hash value.semanticManifest value.partitionBindings certificate
  certificateIds :
    value.closureCertificates.map ClosureCertificate.id = value.semanticManifest.closureIds
  envelopeCount :
    value.partitionEnvelopes.entries.length = value.semanticManifest.partitions.length
  envelopes : ∀ entry ∈ value.partitionEnvelopes.entries,
    EnvelopeReadable engine value.partitionBindings entry
  backend : value.physicalBackend = []
  pin : value.generationPin = none

/-- The text of a graph as it stands. -/
def graphText (value : SnapshotData) : Bytes :=
  partsText value (encodeByDescriptor encodeRow value.rows).flatten
    (queryPartBytes true (queryPart value))
    (BinaryWriter.range encodeBinding value.partitionBindings).flatten
    (BinaryWriter.range encodeCertificate value.closureCertificates).flatten
    (BinaryWriter.range encodeEnvelope value.partitionEnvelopes.entries).flatten

theorem flatten_plainSpans (value : SnapshotData) :
    (plainSpans .v5 value).flatten = framed PayloadSchema.v5.magic ++ graphText value := by
  have hprojections : (encodeProjections .v5 value).flatten =
      (encodeByDescriptor encodeRow value.rows).flatten ++
        (BinaryWriter.range BinaryWriter.string value.claimContents).flatten ++
        (BinaryWriter.range encodeUnresolved value.unresolved).flatten ++
        queryPartBytes true (queryPart value) ++
        ((BinaryWriter.range encodeBinding value.partitionBindings).flatten ++
          (BinaryWriter.range encodeCertificate value.closureCertificates).flatten) := by
    rw [encodeProjections, if_pos (by decide), if_pos (by decide)]
    simp only [List.flatten_append, BinaryWriter.flatten_boolean]
    rfl
  rw [plainSpans, encodeSnapshotWith, if_pos rfl, encodeSnapshotHead, graphText, partsText,
    encodePublication]
  simp only [List.flatten_append, hprojections, BinaryWriter.flatten_string, List.append_assoc]

theorem partsSpelled_of_readable {value : SnapshotData} (h : SnapshotReadable engine value) :
    PartsSpelled engine value (encodeByDescriptor encodeRow value.rows).flatten
      (queryPartBytes true (queryPart value))
      (BinaryWriter.range encodeBinding value.partitionBindings).flatten
      (BinaryWriter.range encodeCertificate value.closureCertificates).flatten
      (BinaryWriter.range encodeEnvelope value.partitionEnvelopes.entries).flatten := by
  have hordered := h.manifest.ordered rfl
  rw [manifestOrdered, Bool.and_eq_true] at hordered
  exact
    { manifest := h.manifest
      publication := h.publication
      relations := relationsSpelling_of_readable h.relations
      contentCount := h.contentCount
      unresolvedCount := h.unresolvedCount
      columnCount := h.columnCount
      query := querySpelling_of_readable h.query
      bindings := bindingsSpelling_of_ordered h.manifest.partitionCount h.bindingCount h.bindings
        h.bindingOrder
      certificates := certificatesSpelling_of_ordered h.manifest.closureCount hordered.2
        h.certificates h.certificateIds
      envelopes := envelopesSpelling_of_readable h.manifest.partitionCount h.envelopeCount
        h.envelopes
      backend := h.backend
      pin := h.pin }

/-! ## One text for one graph -/

/-- A graph with its projections sorted and its envelopes in their order. -/
def arranged (hash : Bytes → Bytes) (value : SnapshotData) : SnapshotData :=
  { sortSemanticProjections value with
    partitionEnvelopes := value.partitionEnvelopes.mapValues fun _ => envelopeInOrder hash }

section Arranged

variable {value : SnapshotData} {rows query bindings certificates envelopes rest rest' : Bytes}

/-- The rows of a graph that is spelled as it is arranged come in one block for each relation. -/
theorem relationsReadable_of_spelling
    (h : RelationsSpelling engine (value.descriptors, value.rows) rows)
    (htext : rows ++ rest =
      (encodeByDescriptor encodeRow (arranged hash value).rows).flatten ++ rest')
    (hlimit : (rows ++ rest).length < addressable) :
    RelationsReadable engine ((arranged hash value).descriptors, (arranged hash value).rows) ∧
      rest = rest' := by
  have hspelled := h
  obtain ⟨blocks, hcount, hblocks, hstate, back, -, rfl⟩ := h
  have hfew : value.rows.entries.length ≤ blocks.length := by
    have hrows : value.rows = OrderedMap.gatherAll
        (blocks.map fun block => (block.descriptorId, block.rows)) :=
      congrArg Prod.snd (state_of_blocks hstate)
    have hle := OrderedMap.length_gatherAll_le
      (blocks.map fun block => (block.descriptorId, block.rows))
    rwa [List.length_map, ← hrows] at hle
  -- the counts in front of both texts are those of the blocks and of the relations
  have hlength : value.rows.entries.length = blocks.length := by
    have hfront := htext
    rw [flatten_encodeByDescriptor, List.append_assoc, List.append_assoc] at hfront
    have hsame := (encode_append_inj (hcount.trans_lt (by decide))
      ((List.length_map _).trans_le (hfew.trans hcount) |>.trans_lt (by decide)) hfront).1
    exact (hsame.trans (List.length_map _)).symm
  have hsorted := (relationsReadable_of_blocks hcount hblocks hstate hlength).sorted
  exact ⟨hsorted, ((accepts_decodeRelations engine).unique hspelled
    (relationsSpelling_of_readable hsorted) htext hlimit).2⟩

/-- So do its annotations. -/
theorem queryPartReadable_of_spelling
    (h : QuerySpelling .v5 value.descriptors value.claimContents (queryPart value) query)
    (htext : query ++ rest = queryPartBytes true (queryPart (arranged hash value)) ++ rest') :
    QueryPartReadable (arranged hash value).descriptors true (arranged hash value).claimContents
      (queryPart (arranged hash value)) := by
  obtain ⟨blocks, contents, hreadable, back, -, rfl⟩ := h
  have hgathered := hreadable.gathered
  rw [foldlM_addAnnotations, Except.ok.injEq, Prod.mk.injEq] at hgathered
  have hfew : value.annotations.entries.length ≤ blocks.length := by
    have hle := OrderedMap.length_gatherAll_le blocks
    rwa [OrderedMap.gatherAll, hgathered.1] at hle
  have hlength : value.annotations.entries.length = blocks.length := by
    have hfront := htext
    rw [queryPartBytes, flatten_encodeByDescriptor] at hfront
    simp only [List.append_assoc] at hfront
    have hbehind := List.append_cancel_left hfront
    have hsame := (encode_append_inj (hreadable.blockCount.trans_lt (by decide))
      ((List.length_map _).trans_le (hfew.trans hreadable.blockCount) |>.trans_lt (by decide))
      hbehind).1
    exact (hsame.trans (List.length_map _)).symm
  have hsorted := (queryPartReadable_of_blocks hreadable hlength).sorted
  refine { hsorted with contents := fun hyes => ?_ }
  -- contents that are compared are canonical already
  have hcontents := hsorted.contents hyes
  have hcanonical : canonicalStrings value.claimContents = value.claimContents := by
    rw [← hcontents]
    exact canonicalStrings_of_pairwise (canonicalStrings_pairwise _)
  exact hcontents.trans hcanonical.symm

theorem sortBindings_of_spelling {manifest : SnapshotManifest} {text : Bytes}
    {bindings : List SnapshotPartitionBinding} (h : BindingsSpelling hash manifest bindings text) :
    sortBy (fun left right => bytesLess left.partitionId right.partitionId) bindings = bindings :=
  sortBy_eq_self_of_sortedUnique h.ordered.2.2

/-- A graph whose text is the text of the arranged graph is arranged. -/
theorem readable_arranged
    (h : PartsSpelled engine value rows query bindings certificates envelopes)
    (htext : partsText value rows query bindings certificates envelopes =
      graphText (arranged hash value))
    (hlimit : (partsText value rows query bindings certificates envelopes).length < addressable) :
    SnapshotReadable engine (arranged hash value) := by
  have hbindings := h.bindings.ordered
  have hsortedBindings := sortBindings_of_spelling h.bindings
  have hcertificates := h.certificates.ordered
  have henvelopes := h.envelopes.readable
  have hcontents : (arranged hash value).claimContents.length ≤ 10000000 :=
    ((unique_sublist _ _).length_le.trans (length_sortBy _ _).le).trans h.contentCount
  have hunresolved : (arranged hash value).unresolved.length ≤ 10000000 :=
    (length_sortBy _ _).trans_le h.unresolvedCount
  have hcolumns : ∀ unresolved ∈ (arranged hash value).unresolved,
      unresolved.sourceColumns.length ≤ 1000000 :=
    fun unresolved hmem => h.columnCount unresolved ((mem_sortBy _ _ _).1 hmem)
  rw [partsText, graphText, partsText] at htext
  rw [partsText] at hlimit
  -- the parts in front of the rows are the same, and each part fixes where the next one starts
  replace htext := List.append_cancel_left (List.append_cancel_left htext)
  simp only [List.length_append] at hlimit
  obtain ⟨hrelations, htext⟩ := relationsReadable_of_spelling h.relations htext
    (by simp only [List.length_append]; omega)
  obtain ⟨-, htext⟩ := (accepts_range_unchecked (show 10000000 < addressable by decide)
    (corrupt "claims" "count") accepts_written_string).unique ⟨h.contentCount, rfl⟩
    ⟨hcontents, rfl⟩ htext (by simp only [List.length_append]; omega)
  obtain ⟨-, htext⟩ := (accepts_range (show 10000000 < addressable by decide)
    (corrupt "unresolved" "count") accepts_decodeUnresolved).unique
    ⟨⟨h.unresolvedCount, h.columnCount⟩, rfl⟩ ⟨⟨hunresolved, hcolumns⟩, rfl⟩ htext
    (by simp only [List.length_append]; omega)
  have hquery := queryPartReadable_of_spelling h.query htext
  exact
    { manifest := h.manifest
      publication := h.publication
      relations := hrelations
      contentCount := hcontents
      unresolvedCount := hunresolved
      columnCount := hcolumns
      query := hquery
      bindingCount := (length_sortBy _ _).trans hbindings.1
      bindings := fun binding hbinding => hbindings.2.1 binding ((mem_sortBy _ _ _).1 hbinding)
      bindingOrder := (congrArg (fun bindings => sortedUnique
        (bindings.map SnapshotPartitionBinding.partitionId)) hsortedBindings).trans hbindings.2.2
      certificates := by
        show ∀ certificate ∈ value.closureCertificates, CertificateReadable hash
          value.semanticManifest (sortBy _ value.partitionBindings) certificate
        rw [hsortedBindings]
        exact hcertificates.1
      certificateIds := hcertificates.2
      envelopeCount := (List.length_map _).trans henvelopes.1
      envelopes := by
        show ∀ entry ∈ value.partitionEnvelopes.entries.map _, EnvelopeReadable engine
          (sortBy _ value.partitionBindings) entry
        rw [hsortedBindings]
        intro entry hentry
        obtain ⟨other, hother, rfl⟩ := List.mem_map.1 hentry
        exact (henvelopes.2 other hother).inOrder
      backend := h.backend
      pin := h.pin }

theorem eq_arranged (h : PartsSpelled engine value rows query bindings certificates envelopes)
    (htext : partsText value rows query bindings certificates envelopes =
      graphText (arranged hash value))
    (hlimit : (partsText value rows query bindings certificates envelopes).length < addressable) :
    value = arranged hash value := by
  have hreadable := readable_arranged h htext hlimit
  have hsame := accepts_decodeParts.unique ⟨rows, query, bindings, certificates, envelopes, h, rfl⟩
    ⟨_, _, _, _, _, partsSpelled_of_readable hreadable, rfl⟩
    (congrArg (fun text => text ++ []) htext) (by rwa [List.append_nil])
  exact hsame.1

/-- The arranged graphs are those whose projections and envelopes are sorted. -/
theorem sorted_of_eq_arranged (h : value = arranged hash value) :
    sortSemanticProjections value = value ∧
      (value.partitionEnvelopes.mapValues fun _ => envelopeInOrder hash) =
        value.partitionEnvelopes := by
  have henvelopes : (value.partitionEnvelopes.mapValues fun _ => envelopeInOrder hash) =
      value.partitionEnvelopes := (congrArg SnapshotData.partitionEnvelopes h).symm
  refine ⟨?_, henvelopes⟩
  conv_rhs => rw [h, arranged, henvelopes]
  rfl

end Arranged

/-! ## Well-formed graphs -/

/-- A graph that can come out of the decoder. -/
structure WellFormed (engine : RelationEngine hash) (value : SnapshotData) : Prop where
  readable : SnapshotReadable engine value
  schema : value.semanticManifest.schema = ascii "cxxlens.snapshot-manifest.v1"
  identity : snapshotManifestIdentity hash value.semanticManifest = .ok value.semanticManifest.id
  publication : value.publicationRecord.snapshotId = value.semanticManifest.id
  semantic : validateSemanticGraphPrivate engine value = .ok value
  ordered : canonicalEnvelopes hash value.partitionEnvelopes.entries =
    .ok value.partitionEnvelopes.entries

theorem validateSemanticGraphPrivate_ok {value found : SnapshotData}
    (h : validateSemanticGraphPrivate engine value = .ok found) :
    found = sortSemanticProjections value := by
  rw [validateSemanticGraphPrivate, seq_eq_ok_iff] at h
  obtain ⟨-, h⟩ := h
  rw [bind_eq_ok_iff] at h
  obtain ⟨expected, -, h⟩ := h
  rw [seq_eq_ok_iff] at h
  exact (Except.ok.inj h.2).symm

/-- The spans of a graph that can be written are those of the graph arranged. -/
theorem sortedSpans_eq_ok_iff {value : SnapshotData} {spans : Spans} :
    sortedSpans hash .v5 value = .ok spans ↔
      (∀ entry ∈ value.partitionEnvelopes.entries, Orderable hash entry.2) ∧
        spans = plainSpans .v5 { value with
          partitionEnvelopes := value.partitionEnvelopes.mapValues fun _ =>
            envelopeInOrder hash } := by
  rw [sortedSpans, if_pos rfl, bind_eq_ok_iff]
  constructor
  · rintro ⟨envelopes, henvelopes, h⟩
    obtain ⟨hall, rfl⟩ := canonicalEnvelopes_eq_ok_iff.1 henvelopes
    exact ⟨hall, (Except.ok.inj h).symm⟩
  · rintro ⟨hall, rfl⟩
    exact ⟨_, canonicalEnvelopes_eq_ok_iff.2 ⟨hall, rfl⟩, rfl⟩

/-! ## The decoder -/

section Decoder

variable {ρ σ : Type} {source : ReplayableByteSource ρ σ} {serving : σ → Bytes → Prop}

/-- Every pass over a source serves the same text. -/
structure Replays (source : ReplayableByteSource ρ σ) (serving : σ → Bytes → Prop) (replay : ρ)
    (text : Bytes) : Prop where
  serves : Serves source.answers serving
  pass : ∃ pass, source.openPass replay = .ok (some pass) ∧ serving pass text

theorem Replays.requirePass {replay : ρ} {text : Bytes} (h : Replays source serving replay text)
    (field : Bytes) :
    ∃ pass, Store.requirePass source field replay = .ok pass ∧ serving pass text := by
  obtain ⟨pass, hopen, hserving⟩ := h.pass
  exact ⟨pass, by rw [Store.requirePass, hopen]; rfl, hserving⟩

theorem run_decodePayload {text rest : Bytes} (hlimit : text.length < addressable)
    (hmagic : framed PayloadSchema.v5.magic <+: text) {schema : PayloadSchema}
    {value : SnapshotData} :
    (decodePayload engine).run text = .ok ((schema, value), rest) ↔
      schema = .v5 ∧ ∃ read rows query bindings certificates envelopes,
        PartsSpelled engine read rows query bindings certificates envelopes ∧
        text = framed PayloadSchema.v5.magic ++
          (partsText read rows query bindings certificates envelopes ++ rest) ∧
        validateSemanticGraphPrivate engine read = .ok value := by
  obtain ⟨behind, rfl⟩ := hmagic
  have hschema : decodeSchema.run (framed PayloadSchema.v5.magic ++ behind) =
      .ok (.v5, behind) := (accepts_decodeSchema _ _ _ hlimit).2 ⟨_, rfl, rfl⟩
  have hbehind : behind.length < addressable := by
    rw [List.length_append] at hlimit
    omega
  rw [decodePayload, Reading.run_bind, hschema, Fallible.ok_bind, Reading.run_bind_eq_ok_iff]
  simp only [if_true, Reading.run_bind_eq_ok_iff, Reading.run_lift_eq_ok_iff, Reading.run_done,
    Except.ok.injEq, Prod.mk.injEq]
  constructor
  · rintro ⟨read, between, hread, _, _, ⟨hvalid, rfl⟩, ⟨rfl, rfl⟩, rfl⟩
    obtain ⟨_, ⟨rows, query, bindings, certificates, envelopes, hspelled, rfl⟩, rfl⟩ :=
      (accepts_decodeParts _ _ _ hbehind).1 hread
    exact ⟨rfl, read, rows, query, bindings, certificates, envelopes, hspelled, rfl, hvalid⟩
  · rintro ⟨rfl, read, rows, query, bindings, certificates, envelopes, hspelled, htext, hvalid⟩
    exact ⟨read, rest, (accepts_decodeParts _ _ _ hbehind).2
      ⟨_, ⟨rows, query, bindings, certificates, envelopes, hspelled, rfl⟩,
        List.append_cancel_left htext⟩, value, rest, ⟨hvalid, rfl⟩, ⟨rfl, rfl⟩, rfl⟩

theorem checkDecoded_eq_ok_iff {atEnd : Result Bool} {value : SnapshotData} :
    checkDecoded hash atEnd value = .ok () ↔
      atEnd = .ok true ∧
        value.semanticManifest.schema = ascii "cxxlens.snapshot-manifest.v1" ∧
        snapshotManifestIdentity hash value.semanticManifest =
          .ok value.semanticManifest.id ∧
        value.publicationRecord.snapshotId = value.semanticManifest.id := by
  rw [checkDecoded, bind_eq_ok_iff]
  constructor
  · rintro ⟨found, hend, h⟩
    rw [replaced_eq_ok_iff] at hend
    rw [seq_eq_ok_iff, reject_eq_ok_iff, Bool.or_eq_false_iff, Bool.not_eq_false',
      bne_eq_false_iff_eq] at h
    obtain ⟨⟨rfl, hschema⟩, h⟩ := h
    rw [bind_eq_ok_iff] at h
    obtain ⟨identity, hidentity, h⟩ := h
    rw [dereferenced_eq_ok_iff] at hidentity
    rw [reject_eq_ok_iff, Bool.or_eq_false_iff, bne_eq_false_iff_eq, bne_eq_false_iff_eq] at h
    exact ⟨hend, hschema, h.1 ▸ hidentity, h.2⟩
  · rintro ⟨hend, hschema, hidentity, hpublication⟩
    refine ⟨true, by rw [replaced_eq_ok_iff, hend], ?_⟩
    rw [seq_eq_ok_iff, reject_eq_ok_iff, bind_eq_ok_iff]
    refine ⟨by simp [hschema], _, dereferenced_eq_ok_iff.2 hidentity, ?_⟩
    rw [reject_eq_ok_iff]
    simp [hpublication]

/-- A reader over a source that serves a text is at its end when nothing of the text is left. -/
theorem finished_serving (h : Serves source.answers serving) (reader : SourceReader σ)
    {rest : Bytes} (hserving : serving reader.source rest)
    (hlength : rest.length ≤ reader.expectedSize)
    (hoffset : reader.offset = reader.expectedSize - rest.length) :
    reader.finished source.answers = .ok true ↔ rest = [] := by
  obtain ⟨count, output, next, hanswer, -, hleft, -, -, -⟩ :=
    h.read reader.source rest 1 hserving Nat.one_pos
  rw [SourceReader.finished]
  by_cases hat : reader.offset = reader.expectedSize
  · -- all of the text was read, and the probe for one more byte finds none
    rw [if_neg (not_not.2 hat), hanswer]
    have hrest : reader.expectedSize = 0 ∨ rest.length = 0 := by omega
    have hnothing : rest = [] := by
      rw [← List.length_eq_zero_iff]
      omega
    subst hnothing
    have hcount : count = 0 := Nat.le_zero.1 hleft
    simp [hcount]
  · rw [if_pos hat]
    refine iff_of_false (by simp) fun hnothing => hat ?_
    rw [hoffset, hnothing, List.length_nil, Nat.sub_zero]

theorem decodeSnapshotPass_eq_ok_iff (h : Serves source.answers serving) {pass : σ} {text : Bytes}
    (hserving : serving pass text) {schema : PayloadSchema} {value : SnapshotData} :
    decodeSnapshotPass source engine pass text.length = .ok (schema, value) ↔
      (decodePayload engine).run text = .ok ((schema, value), []) ∧
        value.semanticManifest.schema = ascii "cxxlens.snapshot-manifest.v1" ∧
        snapshotManifestIdentity hash value.semanticManifest =
          .ok value.semanticManifest.id ∧
        value.publicationRecord.snapshotId = value.semanticManifest.id := by
  obtain ⟨herror, hok⟩ := runSource_serving h (decodePayload engine) text
    { source := pass, expectedSize := text.length } hserving (Nat.zero_add _).symm
  rw [decodeSnapshotPass]
  cases hrun : (decodePayload engine).run text with
  | error error =>
      rw [herror error hrun]
      simp [bind, Except.bind]
  | ok read =>
      obtain ⟨⟨foundSchema, found⟩, rest⟩ := read
      obtain ⟨last, hlast, hserved, hle⟩ := hok _ rest hrun
      have hend := finished_serving h
        { source := last, offset := text.length - rest.length, expectedSize := text.length }
        hserved hle rfl
      rw [hlast, Fallible.ok_bind]
      simp only [seq_eq_ok_iff, checkDecoded_eq_ok_iff, Except.ok.injEq, Prod.mk.injEq]
      rw [hend]
      constructor
      · rintro ⟨⟨hrest, hmanifest⟩, rfl, rfl⟩
        exact ⟨⟨⟨rfl, rfl⟩, hrest⟩, hmanifest⟩
      · rintro ⟨⟨⟨rfl, rfl⟩, hrest⟩, hmanifest⟩
        exact ⟨⟨hrest, hmanifest⟩, rfl, rfl⟩

/-- A graph is compared successfully with the text that it is written as, and with no other. -/
theorem compared_iff (h : Serves source.answers serving) {pass : σ} {text : Bytes}
    (hserving : serving pass text) (value : SnapshotData) :
    ((encodeSnapshotToPrivate hash (ByteComparisonSink.append source.answers) value
        { source := some pass, expectedSize := text.length }).1 = .ok () ∧
      (encodeSnapshotToPrivate hash (ByteComparisonSink.append source.answers) value
        { source := some pass, expectedSize := text.length }).2.finish source.answers = .ok ()) ↔
      encodeSnapshot hash value = .ok text := by
  have hat : ByteComparisonSink.At serving { source := some pass, expectedSize := text.length }
      text := ⟨(Nat.zero_add _).symm, pass, rfl, hserving⟩
  rw [encodeSnapshot_eq_ok_iff, encodeSnapshotToPrivate]
  cases hmeasured : measureSnapshot value snapshotStoreV5MaximumPayloadBytes with
  | error error => simp
  | ok size =>
      cases hsorted : sortedSpans hash .v5 value with
      | error error => simp
      | ok spans =>
          simp only [Except.ok.injEq, exists_eq', true_and, exists_eq_left']
          obtain ⟨haccepted, hother⟩ := streamSpans_comparing h hat
          constructor
          · rintro ⟨hstreamed, hfinished⟩
            -- a text that goes on behind the spans is refused by `finish`, any other by `append`
            by_cases hspans : spans.flatten <+: text
            · obtain ⟨last, hlast, hlastAt⟩ := haccepted hspans
              rw [hlast, finish_comparing h hlastAt, List.drop_eq_nil_iff] at hfinished
              exact (hspans.eq_of_length_le hfinished).symm
            · obtain ⟨error, herror⟩ := hother hspans
              rw [herror] at hstreamed
              cases hstreamed
          · rintro rfl
            obtain ⟨last, hlast, hlastAt⟩ := haccepted (List.prefix_refl _)
            rw [hlast, finish_comparing h hlastAt, List.drop_length]
            exact ⟨rfl, rfl⟩

theorem decodeSnapshot_eq_ok_iff_of_passes {replay : ρ} {text : Bytes}
    (h : Replays source serving replay text) (hmagic : framed PayloadSchema.v5.magic <+: text)
    (hlimit : text.length < addressable) {value : SnapshotData} :
    decodeSnapshot source engine replay text.length = .ok value ↔
      text.length ≤ snapshotStoreV5MaximumPayloadBytes ∧
        ((decodePayload engine).run text = .ok ((.v5, value), []) ∧
          value.semanticManifest.schema = ascii "cxxlens.snapshot-manifest.v1" ∧
          snapshotManifestIdentity hash value.semanticManifest =
            .ok value.semanticManifest.id ∧
          value.publicationRecord.snapshotId = value.semanticManifest.id) ∧
        encodeSnapshot hash value = .ok text := by
  obtain ⟨pass, hpass, hserving⟩ := h.requirePass "snapshot-v5-decode"
  rw [decodeSnapshot]
  by_cases hsize : text.length > snapshotStoreV5MaximumPayloadBytes
  · rw [if_pos hsize]
    exact iff_of_false (by simp) fun hall => absurd hall.1 (by omega)
  · rw [if_neg hsize, caught_eq_ok_iff, decodeSnapshotPrivate, hpass, Fallible.ok_bind,
      bind_eq_ok_iff]
    simp only [Prod.exists]
    constructor
    · rintro ⟨schema, read, hread, hrest⟩
      obtain ⟨hrun, hmanifest⟩ := (decodeSnapshotPass_eq_ok_iff h.serves hserving).1 hread
      obtain ⟨rfl, -⟩ := (run_decodePayload hlimit hmagic).1 hrun
      rw [if_neg (not_not.2 rfl), Fallible.ok_bind, seq_eq_ok_iff, seq_eq_ok_iff] at hrest
      obtain ⟨hencoded, hfinished, hvalue⟩ := hrest
      obtain rfl := Except.ok.inj hvalue
      exact ⟨Nat.le_of_not_lt hsize, ⟨hrun, hmanifest⟩,
        (compared_iff h.serves hserving read).1 ⟨hencoded, hfinished⟩⟩
    · rintro ⟨-, hread, hencoded⟩
      refine ⟨.v5, value, (decodeSnapshotPass_eq_ok_iff h.serves hserving).2 hread, ?_⟩
      obtain ⟨hstreamed, hfinished⟩ := (compared_iff h.serves hserving value).2 hencoded
      rw [if_neg (not_not.2 rfl), Fallible.ok_bind, seq_eq_ok_iff, seq_eq_ok_iff]
      exact ⟨hstreamed, hfinished, rfl⟩

/-- What a graph in its order is written as is its text. -/
theorem encodeSnapshot_ordered {value : SnapshotData} {text : Bytes}
    (hordered : canonicalEnvelopes hash value.partitionEnvelopes.entries =
      .ok value.partitionEnvelopes.entries) (hlimit : text.length < addressable) :
    encodeSnapshot hash value = .ok text ↔
      text = framed PayloadSchema.v5.magic ++ graphText value ∧
        text.length ≤ snapshotStoreV5MaximumPayloadBytes := by
  obtain ⟨hall, hsame⟩ := canonicalEnvelopes_eq_ok_iff.1 hordered
  have henvelopes : (value.partitionEnvelopes.mapValues fun _ => envelopeInOrder hash) =
      value.partitionEnvelopes := OrderedMap.ext_entries hsame.symm
  have hspans : sortedSpans hash .v5 value = .ok (plainSpans .v5 value) :=
    sortedSpans_eq_ok_iff.2 ⟨hall, by rw [henvelopes]⟩
  have hmeasured : (plainSpans .v5 value).flatten.length < addressable →
      measureSnapshot value snapshotStoreV5MaximumPayloadBytes =
        if (plainSpans .v5 value).flatten.length ≤ snapshotStoreV5MaximumPayloadBytes then
          .ok (plainSpans .v5 value).flatten.length
        else .error (storeError "store.resource-limit" "snapshot-payload" "maximum-bytes") := by
    intro hshort
    -- no span is longer than all of them
    refine measureSpans_eq (by decide) fun span hspan => lt_of_le_of_lt ?_ hshort
    exact (List.sublist_flatten_of_mem hspan).length_le
  rw [encodeSnapshot_eq_ok_iff, hspans, ← flatten_plainSpans]
  constructor
  · rintro ⟨⟨size, hsize⟩, spans, hsorted, rfl⟩
    obtain rfl := Except.ok.inj hsorted
    rw [hmeasured hlimit] at hsize
    split_ifs at hsize with hfits
    exact ⟨rfl, hfits⟩
  · rintro ⟨rfl, hfits⟩
    exact ⟨⟨_, by rw [hmeasured hlimit, if_pos hfits]⟩, _, rfl, rfl⟩

/-- What is written starts with the magic of its schema. -/
theorem magic_of_encoded {value : SnapshotData} {text : Bytes}
    (h : encodeSnapshot hash value = .ok text) : framed PayloadSchema.v5.magic <+: text := by
  obtain ⟨-, spans, hspans, rfl⟩ := encodeSnapshot_eq_ok_iff.1 h
  obtain ⟨-, rfl⟩ := sortedSpans_eq_ok_iff.1 hspans
  rw [flatten_plainSpans]
  exact List.prefix_append _ _

/-- What is read is well-formed, and is written as it was read. -/
theorem wellFormed_of_decodeSnapshot {replay : ρ} {text : Bytes}
    (h : Replays source serving replay text) (hmagic : framed PayloadSchema.v5.magic <+: text)
    (hlimit : text.length < addressable) {value : SnapshotData}
    (hdecoded : decodeSnapshot source engine replay text.length = .ok value) :
    WellFormed engine value ∧ encodeSnapshot hash value = .ok text := by
  rw [decodeSnapshot_eq_ok_iff_of_passes h hmagic hlimit] at hdecoded
  obtain ⟨-, ⟨hrun, hschema, hidentity, hpublication⟩, hencoded⟩ := hdecoded
  refine ⟨?_, hencoded⟩
  obtain ⟨-, read, rows, query, bindings, certificates, envelopes, hspelled, htext, hvalid⟩ :=
    (run_decodePayload hlimit hmagic).1 hrun
  -- the parts that were read and the graph as it is written have one text, so they are the same
  obtain rfl := validateSemanticGraphPrivate_ok hvalid
  obtain ⟨-, spans, hspans, rfl⟩ := encodeSnapshot_eq_ok_iff.1 hencoded
  obtain ⟨horderable, rfl⟩ := sortedSpans_eq_ok_iff.1 hspans
  rw [List.append_nil] at htext
  have hparts : partsText read rows query bindings certificates envelopes =
      graphText (arranged hash read) := by
    rw [flatten_plainSpans] at htext
    exact (List.append_cancel_left htext).symm
  have hshort : (partsText read rows query bindings certificates envelopes).length <
      addressable := by
    rw [htext, List.length_append] at hlimit
    omega
  have harranged := eq_arranged hspelled hparts hshort
  have hreadable := readable_arranged hspelled hparts hshort
  obtain ⟨hsorted, henvelopes⟩ := sorted_of_eq_arranged harranged
  rw [← harranged] at hreadable
  rw [hsorted] at hvalid hschema hidentity hpublication ⊢
  exact
    { readable := hreadable
      schema := hschema
      identity := hidentity
      publication := hpublication
      semantic := hvalid
      ordered := canonicalEnvelopes_eq_ok_iff.2
        ⟨horderable, (congrArg OrderedMap.entries henvelopes).symm⟩ }

/-- What is written of a well-formed graph is read as the graph. -/
theorem decodeSnapshot_of_wellFormed {replay : ρ} {text : Bytes}
    (h : Replays source serving replay text) (hlimit : text.length < addressable)
    {value : SnapshotData} (hwell : WellFormed engine value)
    (hencoded : encodeSnapshot hash value = .ok text) :
    decodeSnapshot source engine replay text.length = .ok value := by
  have hmagic := magic_of_encoded hencoded
  rw [decodeSnapshot_eq_ok_iff_of_passes h hmagic hlimit]
  obtain ⟨rfl, hsize⟩ := (encodeSnapshot_ordered hwell.ordered hlimit).1 hencoded
  refine ⟨hsize, ⟨(run_decodePayload hlimit hmagic).2 ⟨rfl, value, _, _, _, _, _,
    partsSpelled_of_readable hwell.readable, ?_, hwell.semantic⟩, hwell.schema, hwell.identity,
    hwell.publication⟩, hencoded⟩
  rw [List.append_nil]
  rfl

/-- **What is read is what was written.** A payload of the current schema is accepted exactly when
    it is what some well-formed graph is written as, and then that graph is returned: whatever the
    windows of the source, no graph has two payloads and no payload stands for two graphs. -/
theorem decodeSnapshot_eq_ok_iff {replay : ρ} {text : Bytes}
    (h : Replays source serving replay text) (hmagic : framed PayloadSchema.v5.magic <+: text)
    (hlimit : text.length < addressable) {value : SnapshotData} :
    decodeSnapshot source engine replay text.length = .ok value ↔
      WellFormed engine value ∧ encodeSnapshot hash value = .ok text := by
  constructor
  · intro hdecoded
    exact wellFormed_of_decodeSnapshot h hmagic hlimit hdecoded
  · rintro ⟨hwell, hencoded⟩
    exact decodeSnapshot_of_wellFormed h hlimit hwell hencoded

end Decoder

end Engine

/-! ## A source that is a text -/

/-- A pass over a text in memory. -/
def textSource : ReplayableByteSource Bytes Bytes where
  openPass text := .ok (some text)
  answers text window :=
    (.returned (min window text.length) (Vector.ofFn fun place => text.getD place 0),
      text.drop window)

theorem textSource_replays (text : Bytes) :
    Replays textSource (fun source served => source = served) text text where
  serves :=
    { read := by
        rintro source _ window rfl hwindow
        refine ⟨_, _, _, rfl, min_le_left _ _, min_le_right _ _, ?_, ?_, ?_⟩
        · intro hnothing
          rw [← List.length_eq_zero_iff]
          omega
        · refine List.ext_getElem ?_ fun place hplace hplace' => ?_
          · simp
          · simp only [List.length_take] at hplace'
            have hlt : place < source.length := by omega
            simp [hlt]
        · rw [List.drop_eq_drop_iff]
          omega }
  pass := ⟨text, rfl, rfl⟩

theorem sampleSnapshot_decoded :
    ((encodeSnapshot sampleHash sampleSnapshot).toOption.map fun text => decide
      (decodeSnapshot textSource sampleEngine text text.length = .ok sampleSnapshot)) =
        some true := by
  decide +kernel

/-- What is written of the sample, which is read as it. -/
theorem sampleSnapshot_text :
    ∃ text, encodeSnapshot sampleHash sampleSnapshot = .ok text ∧ text.length < addressable ∧
      decodeSnapshot textSource sampleEngine text text.length = .ok sampleSnapshot := by
  have hencoded := sampleSnapshot_encoded
  have hdecoded := sampleSnapshot_decoded
  cases htext : encodeSnapshot sampleHash sampleSnapshot with
  | error error =>
      rw [htext] at hencoded
      cases hencoded
  | ok text =>
      rw [htext] at hencoded hdecoded
      have hlength : text.length = 1226 := Option.some.inj hencoded
      exact ⟨text, rfl, by rw [hlength]; decide, of_decide_eq_true (Option.some.inj hdecoded)⟩

theorem wellFormed_sampleSnapshot : WellFormed sampleEngine sampleSnapshot := by
  obtain ⟨text, hencoded, hlimit, hdecoded⟩ := sampleSnapshot_text
  exact ((decodeSnapshot_eq_ok_iff (textSource_replays text) (magic_of_encoded hencoded)
    hlimit).1 hdecoded).1

end Cxxlens.Sdk.Store
