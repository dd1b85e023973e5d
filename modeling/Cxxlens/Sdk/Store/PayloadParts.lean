import Cxxlens.Sdk.Store.ClaimRoundTrip
import Cxxlens.Sdk.Store.PayloadDecoder

set_option autoImplicit false

/-! # What the parts of a payload accept

Every part of `decode_snapshot_private` accepts what the encoder writes of a value that passes the
checks of the part. Rows are accepted with their cells in any order, and maps in whatever pieces
their entries come. -/

namespace Cxxlens.Sdk.Store

open Fallible BigEndian Framing BinaryReader Sorting
open BoundedStore (PublicationState)
open Query (SnapshotCoverageUnit SnapshotQueryCoverage SnapshotClaimAnnotation
  SnapshotPartitionBinding ClosureCandidate ClosureCertificate)

/-! ## Ranges -/

section Ranges

variable {α : Type} {element : Reading Error α} {spells : α → Bytes → Prop}

theorem accepts_range_spelled {limit : Nat} (hlimit : limit < addressable) (error : Error)
    (h : element.Accepts addressable spells) :
    (range limit error element).Accepts addressable fun values text =>
      values.length ≤ limit ∧ ∃ back, Reading.Spelled spells values back ∧
        text = encode 8 values.length ++ back := by
  refine ((accepts_countUpTo hlimit error).bind fun count => h.times count).congr
    fun values text => ?_
  constructor
  · rintro ⟨_, _, _, ⟨hle, rfl⟩, ⟨rfl, hspelled⟩, rfl⟩
    exact ⟨hle, _, hspelled, rfl⟩
  · rintro ⟨hle, _, hspelled, rfl⟩
    exact ⟨_, _, _, ⟨hle, rfl⟩, ⟨rfl, hspelled⟩, rfl⟩

theorem accepts_lift_check (check : Result Unit) :
    (Reading.lift check).Accepts addressable fun _ text => check = .ok () ∧ text = [] :=
  Reading.Accepts.lift check

theorem accepts_lift_reject {p : Bool} (error : Error) :
    (Reading.lift (reject p error) : Reading Error Unit).Accepts addressable fun _ text =>
      p = false ∧ text = [] :=
  (accepts_lift_check _).congr fun _ _ => and_congr_left fun _ => reject_eq_ok_iff p error

theorem accepts_expectCount (size : Nat) (error : Error) :
    (expectCount size error).Accepts addressable fun _ text =>
      size < addressable ∧ text = encode 8 size := by
  refine ((accepts_unsignedValue.orError error).bind fun count => accepts_lift_reject error).congr
    fun _ text => ?_
  constructor
  · rintro ⟨count, _, _, rfl, ⟨hcount, rfl⟩, rfl⟩
    rw [bne_eq_false_iff_eq] at hcount
    exact ⟨hcount ▸ count.toNat_lt, by rw [hcount, List.append_nil]⟩
  · rintro ⟨hsize, rfl⟩
    have hnumber : (UInt64.ofNat size).toNat = size := UInt64.toNat_ofNat_of_lt' hsize
    exact ⟨UInt64.ofNat size, _, [], rfl, ⟨by rw [bne_eq_false_iff_eq, hnumber], rfl⟩,
      by rw [hnumber, List.append_nil]⟩

end Ranges

/-! ## Manifest and publication -/

theorem PayloadSchema.find_magic {schema : PayloadSchema} {magic : Bytes} :
    PayloadSchema.all.find? (fun schema => schema.magic == magic) = some schema ↔
      magic = schema.magic := by
  constructor
  · intro h
    have hfound := List.find?_some h
    exact (beq_iff_eq.1 hfound).symm
  · rintro rfl
    cases schema <;> decide

theorem accepts_decodeSchema :
    decodeSchema.Accepts addressable fun schema text => text = framed schema.magic := by
  refine ((accepts_string.orError _).bind_as (fun magic schema back =>
    magic = schema.magic ∧ back = []) fun magic => ?_).congr fun schema text => ?_
  · cases hfound : PayloadSchema.all.find? fun schema => schema.magic == magic with
    | some found =>
        refine (Reading.Accepts.done found).congr fun schema back => and_congr_left fun _ => ?_
        rw [← PayloadSchema.find_magic, hfound, Option.some.injEq, eq_comm]
    | none =>
        refine (Reading.Accepts.failed _).congr fun schema back => ?_
        rw [← PayloadSchema.find_magic, hfound]
        simp
  · constructor
    · rintro ⟨_, _, _, rfl, ⟨rfl, rfl⟩, rfl⟩
      exact List.append_nil _
    · rintro rfl
      exact ⟨_, _, [], rfl, ⟨rfl, rfl⟩, (List.append_nil _).symm⟩

theorem accepts_decodePartition :
    decodePartition.Accepts addressable fun partition text =>
      text = (encodePartition partition).flatten := by
  refine ((accepts_string.bind fun partitionId => accepts_string.bind fun relationDescriptorId =>
    accepts_string.bind fun inputBasisDigest => accepts_string.bind fun claimSetDigest =>
    accepts_string.bind fun coverageDigest => accepts_string.bind fun contentDigest =>
    accepts_unsignedValue.bind fun claimCount => accepts_boolean.bind fun complete =>
    Reading.Accepts.done _).orError _).congr fun partition text => ?_
  obtain ⟨partitionId, relationDescriptorId, inputBasisDigest, claimSetDigest, coverageDigest,
    contentDigest, claimCount, complete⟩ := partition
  simp only [↓existsAndEq, and_true, true_and, encodePartition, PartitionManifest.mk.injEq,
    List.append_nil, List.append_assoc, List.flatten_append, BinaryWriter.flatten_string,
    BinaryWriter.flatten_unsignedValue, BinaryWriter.flatten_boolean]

/-- What the decoder checks of a manifest. -/
structure ManifestReadable (schema : PayloadSchema) (manifest : SnapshotManifest) : Prop where
  partitionCount : manifest.partitions.length ≤ 1000000
  closureCount : manifest.closureIds.length ≤ 1000000
  ordered : schema = .v5 → manifestOrdered manifest = true

theorem accepts_decodeManifest (schema : PayloadSchema) :
    (decodeManifest schema).Accepts addressable fun manifest text =>
      ManifestReadable schema manifest ∧ text = (encodeManifest manifest).flatten := by
  refine ((accepts_string.orError _).bind fun schemaName =>
    (accepts_string.orError _).bind fun id =>
    ((accepts_unsigned32 _).orError _).bind fun major =>
    ((accepts_unsigned32 _).orError _).bind fun minor =>
    ((accepts_unsigned32 _).orError _).bind fun patch =>
    (accepts_string.orError _).bind fun catalog => (accepts_string.orError _).bind fun «universe» =>
    (accepts_string.orError _).bind fun registry => (accepts_string.orError _).bind fun policy =>
    (accepts_range_unchecked (by decide) _ accepts_decodePartition).bind fun partitions =>
    (accepts_range_unchecked (by decide) _ accepts_written_string).bind fun closureIds =>
    (accepts_lift_reject _).bind fun _ => Reading.Accepts.done _).congr fun manifest text => ?_
  obtain ⟨schemaName, id, ⟨major, minor, patch⟩, catalog, «universe», registry, policy, partitions,
    closureIds⟩ := manifest
  simp only [↓existsAndEq, and_true, true_and, exists_const, encodeManifest,
    SnapshotManifest.mk.injEq, SemanticVersion.mk.injEq,
    List.append_nil, List.append_assoc, List.flatten_append, BinaryWriter.flatten_string,
    BinaryWriter.flatten_unsignedValue]
  constructor
  · rintro ⟨⟨hpartitions, hclosures, hordered⟩, rfl⟩
    exact ⟨⟨hpartitions, hclosures, fun hschema => by simpa [hschema] using hordered⟩, rfl⟩
  · rintro ⟨⟨hpartitions, hclosures, hordered⟩, rfl⟩
    refine ⟨⟨hpartitions, hclosures, ?_⟩, rfl⟩
    by_cases hschema : schema = .v5
    · rw [hordered hschema, Bool.not_true, Bool.and_false]
    · rw [beq_false_of_ne hschema, Bool.false_and]

theorem publicationStates_getElem? {n : Nat} {state : PublicationState} :
    publicationStates[n]? = some state ↔
      state ∈ publicationStates ∧ n = (publicationStateCode state).toNat := by
  constructor
  · intro h
    obtain ⟨hlt, rfl⟩ := List.getElem?_eq_some_iff.1 h
    have hbound : n < 6 := hlt
    interval_cases n <;> exact ⟨List.getElem_mem _, rfl⟩
  · rintro ⟨hmem, rfl⟩
    simp only [publicationStates, List.mem_cons, List.not_mem_nil, or_false] at hmem
    rcases hmem with rfl | rfl | rfl | rfl | rfl | rfl <;> rfl

/-- What the decoder checks of a publication. -/
structure PublicationReadable (hash : Bytes → Bytes) (publication : PublicationRecord) : Prop where
  state : publication.state ∈ publicationStates
  identity : validatePublicationIdentity hash publication = .ok ()

/-- The publication in front of its generation, the generation, and what is behind it. -/
def encodePublication (publication : PublicationRecord) : Spans :=
  encodePublicationHead publication ++
    BinaryWriter.unsignedValue publication.physicalGeneration.toNat ++
    encodePublicationTail publication

theorem accepts_decodePublication (hash : Bytes → Bytes) :
    (decodePublication hash).Accepts addressable fun publication text =>
      PublicationReadable hash publication ∧ text = (encodePublication publication).flatten := by
  refine ((accepts_string.orError _).bind fun publicationId =>
    (accepts_string.orError _).bind fun seriesId =>
    (accepts_string.orError _).bind fun snapshotId =>
    (accepts_unsignedValue.orError _).bind fun sequence =>
    (accepts_unsignedValue.orError _).bind fun generation =>
    (accepts_boolean.orError _).bind fun hasParent =>
    (accepts_announced accepts_written_string hasParent).bind fun parent =>
    ((accepts_enumerator publicationStates_getElem? (fun state =>
      (publicationStateCode state).toUInt64.toNat_lt) _).orError _).bind fun state =>
    (accepts_boolean.orError _).bind fun corruptFlag =>
    (accepts_lift_check _).bind fun _ => Reading.Accepts.done _).congr fun publication text => ?_
  obtain ⟨publicationId, seriesId, snapshotId, sequence, generation, parent, state, corruptFlag⟩ :=
    publication
  simp only [↓existsAndEq, and_true, true_and, exists_const, encodePublication,
    encodePublicationHead, encodePublicationTail, PublicationRecord.mk.injEq,
    List.append_nil, List.append_assoc, List.flatten_append, BinaryWriter.flatten_string,
    BinaryWriter.flatten_unsignedValue, BinaryWriter.flatten_boolean]
  constructor
  · rintro ⟨⟨hstate, hidentity⟩, rfl⟩
    exact ⟨⟨hstate, hidentity⟩, rfl⟩
  · rintro ⟨⟨hstate, hidentity⟩, rfl⟩
    exact ⟨⟨hstate, hidentity⟩, rfl⟩

/-! ## Rows -/

/-- What `decode_row` checks of a row. -/
structure RowReadable (row : DetachedRow) : Prop where
  cellCount : row.cells.length ≤ 1000000
  cells : ∀ entry ∈ row.cells, entry.2.validate = .ok ()

/-- A row with its cells in some order. -/
def RowSpelling (row : DetachedRow) (text : Bytes) : Prop :=
  ∃ cells, cells.Perm row.cells ∧ text = (encodeRowAs row.descriptorId cells).flatten

theorem rowSpelling_encodeRow (row : DetachedRow) : RowSpelling row (encodeRow row).flatten :=
  ⟨row.cells, List.Perm.refl _, rfl⟩

theorem accepts_decodeRow_spelled :
    decodeRow.Accepts addressable fun row text => RowReadable row ∧ RowSpelling row text :=
  accepts_decodeRow.congr fun _ _ => and_congr_left fun _ =>
    ⟨fun h => ⟨h.1, h.2⟩, fun h => ⟨h.1, h.2⟩⟩

/-- What the decoder checks of a row of a relation. -/
structure RowValid (descriptor : RelationDescriptor) (row : DetachedRow) : Prop where
  readable : RowReadable row
  valid : validateRow descriptor row = .ok ()

theorem accepts_decodeValidRow (descriptor : RelationDescriptor) :
    (decodeValidRow descriptor).Accepts addressable fun row text =>
      RowValid descriptor row ∧ RowSpelling row text := by
  refine ((accepts_decodeRow_spelled.bind fun row => (accepts_lift_check _).bind fun _ =>
    Reading.Accepts.done row).orError _).congr fun row text => ?_
  simp only [↓existsAndEq, and_true, exists_const, List.append_nil]
  constructor
  · rintro ⟨⟨hreadable, hspelling⟩, hvalid⟩
    exact ⟨⟨hreadable, hvalid⟩, hspelling⟩
  · rintro ⟨⟨hreadable, hvalid⟩, hspelling⟩
    exact ⟨⟨hreadable, hspelling⟩, hvalid⟩

section Engine

variable {hash : Bytes → Bytes} (engine : RelationEngine hash)

/-- What the decoder checks of the rows of one relation. -/
structure BlockReadable (block : RelationBlock) : Prop where
  descriptor : engine.requireId block.descriptorId = .ok block.descriptor
  rowCount : block.rows.length ≤ 10000000
  rows : ∀ row ∈ block.rows, RowValid block.descriptor row

/-- The rows of one relation, in some spelling. -/
def BlockSpelling (block : RelationBlock) (text : Bytes) : Prop :=
  ∃ back, Reading.Spelled RowSpelling block.rows back ∧
    text = framed block.descriptorId ++ encode 8 block.rows.length ++ back

theorem accepts_decodeRelation :
    (decodeRelation engine).Accepts addressable fun block text =>
      BlockReadable engine block ∧ BlockSpelling block text := by
  refine ((accepts_string.orError _).bind fun descriptorId =>
    (accepts_countUpTo (by decide) _).bind fun count =>
    (Reading.Accepts.lift _).bind fun descriptor =>
    ((accepts_decodeValidRow descriptor).times_spelled count).bind fun rows =>
    Reading.Accepts.done _).congr fun block text => ?_
  obtain ⟨descriptorId, descriptor, rows⟩ := block
  simp only [↓existsAndEq, and_true, true_and, RelationBlock.mk.injEq, List.append_nil,
    List.nil_append, mapError_eq_ok_iff]
  constructor
  · rintro ⟨back, ⟨hcount, hdescriptor, hrows, hspelled⟩, rfl⟩
    exact ⟨⟨hdescriptor, hcount, hrows⟩, back, hspelled, (List.append_assoc _ _ _).symm⟩
  · rintro ⟨⟨hdescriptor, hcount, hrows⟩, back, hspelled, rfl⟩
    exact ⟨back, ⟨hcount, hdescriptor, hrows, hspelled⟩, List.append_assoc _ _ _⟩

theorem accepts_decodeRelations :
    (decodeRelations engine).Accepts addressable fun state text =>
      ∃ blocks, blocks.length ≤ 1000000 ∧ (∀ block ∈ blocks, BlockReadable engine block) ∧
        blocks.foldlM addRelation (.empty, .empty) = .ok state ∧
        ∃ back, Reading.Spelled BlockSpelling blocks back ∧
          text = encode 8 blocks.length ++ back := by
  refine ((accepts_countUpTo (by decide) _).bind fun count =>
    (accepts_decodeRelation engine).gather_spelled _ count _).congr fun state text => ?_
  constructor
  · rintro ⟨_, _, _, ⟨hcount, rfl⟩, ⟨blocks, rfl, hreadable, hspelled, hstate⟩, rfl⟩
    exact ⟨blocks, hcount, hreadable, hstate, _, hspelled, rfl⟩
  · rintro ⟨blocks, hcount, hreadable, hstate, back, hspelled, rfl⟩
    exact ⟨_, _, _, ⟨hcount, rfl⟩, ⟨blocks, rfl, hreadable, hspelled, hstate⟩, rfl⟩

end Engine

/-! ## Unresolved references -/

theorem accepts_decodeUnresolved :
    decodeUnresolved.Accepts addressable fun unresolved text =>
      unresolved.sourceColumns.length ≤ 1000000 ∧ text = (encodeUnresolved unresolved).flatten := by
  refine ((accepts_string.orError _).bind fun sourceAssertion =>
    (accepts_string.orError _).bind fun sourceRelation =>
    (accepts_string.orError _).bind fun targetRelation =>
    (accepts_range_unchecked (by decide) _ accepts_written_string).bind fun columns =>
    accepts_string.bind fun reason => Reading.Accepts.done _).congr fun unresolved text => ?_
  obtain ⟨sourceAssertion, sourceRelation, targetRelation, sourceColumns, reason⟩ := unresolved
  simp only [↓existsAndEq, and_true, true_and, encodeUnresolved, encodeStrings,
    UnresolvedReference.mk.injEq, List.append_nil, List.append_assoc,
    List.flatten_append, BinaryWriter.flatten_string]

/-! ## Annotations and coverage -/

theorem accepts_decodeProducer (hasProducer : Bool) :
    (decodeProducer hasProducer).Accepts addressable fun producer text =>
      (if hasProducer = true then producer.id.isEmpty = false ∧
          producer.semanticContract.isEmpty = false
        else producer = legacyProducer) ∧
        text = (if hasProducer = true then
          framed producer.id ++ framed producer.semanticContract else []) := by
  cases hasProducer with
  | false => exact (Reading.Accepts.done _).congr fun producer text => by simp
  | true =>
      refine ((accepts_string.bind fun id => accepts_string.bind fun semanticContract =>
        (accepts_lift_reject _).bind fun _ => Reading.Accepts.done _).orError _).congr
          fun producer text => ?_
      obtain ⟨id, semanticContract⟩ := producer
      simp only [↓existsAndEq, and_true, true_and, exists_const, ClaimProducer.mk.injEq,
        List.append_nil, Bool.or_eq_false_iff, if_true]

/-- What `decode_annotation` checks. -/
structure AnnotationValid (descriptor : RelationDescriptor) (hasProducer : Bool)
    (value : SnapshotClaimAnnotation) : Prop where
  row : RowValid descriptor value.row
  presence : value.presence.validate = .ok () ∧ value.presence.fragments.length ≤ 1000000
  interpretation : value.interpretation.isEmpty = false
  semanticKey : value.semanticKey.isEmpty = false
  assertion : value.assertion.isEmpty = false
  content : value.content.isEmpty = false
  producer : if hasProducer = true then value.producer.id.isEmpty = false ∧
    value.producer.semanticContract.isEmpty = false else value.producer = legacyProducer
  provenanceRoot : value.provenanceRoot.isEmpty = false
  guarantee : value.guarantee.validate = .ok () ∧
    value.guarantee.verificationModalities.length ≤ 1000000

/-- What is written of an annotation behind its row. -/
def encodeBehindAnnotatedRow (includeProducer : Bool) (value : SnapshotClaimAnnotation) : Bytes :=
  (encodeCondition value.presence).flatten ++ framed value.interpretation ++
    framed value.semanticKey ++ framed value.assertion ++ framed value.content ++
    (if includeProducer = true then
      framed value.producer.id ++ framed value.producer.semanticContract else []) ++
    framed value.provenanceRoot ++ (encodeGuarantee value.guarantee).flatten

/-- An annotation with the cells of its row in some order. -/
def AnnotationSpelling (includeProducer : Bool) (value : SnapshotClaimAnnotation) (text : Bytes) :
    Prop :=
  ∃ front, RowSpelling value.row front ∧
    text = front ++ encodeBehindAnnotatedRow includeProducer value

theorem annotationSpelling_encodeAnnotation (includeProducer : Bool)
    (value : SnapshotClaimAnnotation) :
    AnnotationSpelling includeProducer value ( encodeAnnotation includeProducer value).flatten := by
  refine ⟨_, rowSpelling_encodeRow value.row, ?_⟩
  cases includeProducer <;>
    simp [ encodeAnnotation, encodeBehindAnnotatedRow, List.append_assoc]

theorem accepts_decodeAnnotation (descriptor : RelationDescriptor) (hasProducer : Bool) :
    ( decodeAnnotation descriptor hasProducer).Accepts addressable fun value text =>
      AnnotationValid descriptor hasProducer value ∧ AnnotationSpelling hasProducer value text := by
  refine ((accepts_decodeRow_spelled.orError _).bind fun row =>
    (accepts_decodeCondition.orError _).bind fun presence =>
    (accepts_string.orError _).bind fun interpretation =>
    (accepts_string.orError _).bind fun semanticKey =>
    (accepts_string.orError _).bind fun assertion => (accepts_string.orError _).bind fun content =>
    (accepts_decodeProducer hasProducer).bind fun producer =>
    (accepts_string.orError _).bind fun provenanceRoot =>
    (accepts_decodeGuarantee.orError _).bind fun guarantee =>
    ((accepts_lift_check _).orError _).bind fun _ => (accepts_lift_reject _).bind fun _ =>
    Reading.Accepts.done _).congr fun value text => ?_
  obtain ⟨row, presence, interpretation, semanticKey, assertion, content, producer, provenanceRoot,
    guarantee⟩ := value
  simp only [↓existsAndEq, and_true, true_and, exists_const, SnapshotClaimAnnotation.mk.injEq,
    List.append_nil, Bool.or_eq_false_iff]
  constructor
  · rintro ⟨front, ⟨hreadable, hspelling⟩, ⟨hpresence, hproducer, hguarantee, hvalid,
      ⟨⟨⟨hinterpretation, hkey⟩, hassertion⟩, hcontent⟩, hroot⟩, rfl⟩
    refine ⟨⟨⟨hreadable, hvalid⟩, hpresence, hinterpretation, hkey, hassertion, hcontent, hproducer,
      hroot, hguarantee⟩, front, hspelling, ?_⟩
    simp only [encodeBehindAnnotatedRow, List.append_assoc]
  · rintro ⟨h, front, hspelling, rfl⟩
    refine ⟨front, ⟨h.row.readable, hspelling⟩, ⟨h.presence, h.producer, h.guarantee, h.row.valid,
      ⟨⟨⟨h.interpretation, h.semanticKey⟩, h.assertion⟩, h.content⟩, h.provenanceRoot⟩, ?_⟩
    simp only [encodeBehindAnnotatedRow, List.append_assoc]

theorem accepts_decodeBlockAnnotation (descriptor : RelationDescriptor) (hasProducer : Bool)
    (descriptorId : Bytes) :
    ( decodeBlockAnnotation descriptor hasProducer descriptorId).Accepts addressable
      fun value text => (AnnotationValid descriptor hasProducer value ∧
          value.row.descriptorId = descriptorId) ∧ AnnotationSpelling hasProducer value text := by
  refine ((( accepts_decodeAnnotation descriptor hasProducer).bind fun annotation =>
    (accepts_lift_reject _).bind fun _ => Reading.Accepts.done annotation).orError _).congr
      fun annotation text => ?_
  simp only [↓existsAndEq, and_true, exists_const, List.append_nil, bne_eq_false_iff_eq]
  tauto

section Query

variable (descriptors : OrderedMap Bytes RelationDescriptor) (hasProducer : Bool)

/-- What the decoder checks of the annotations of one relation. -/
structure AnnotationsReadable (block : Bytes × List SnapshotClaimAnnotation) : Prop where
  count : block.2.length ≤ 10000000
  annotations : ∃ descriptor, descriptors.find block.1 = some descriptor ∧
    ∀ annotation ∈ block.2, AnnotationValid descriptor hasProducer annotation ∧
      annotation.row.descriptorId = block.1

/-- The annotations of one relation, in some spelling. -/
def AnnotationsSpelling (block : Bytes × List SnapshotClaimAnnotation) (text : Bytes) : Prop :=
  ∃ back, Reading.Spelled (AnnotationSpelling hasProducer) block.2 back ∧
    text = framed block.1 ++ encode 8 block.2.length ++ back

theorem accepts_decodeAnnotationBlock :
    (decodeAnnotationBlock descriptors hasProducer).Accepts addressable fun block text =>
      AnnotationsReadable descriptors hasProducer block ∧
        AnnotationsSpelling hasProducer block text := by
  refine ((accepts_string.orError _).bind fun descriptorId =>
    (accepts_countUpTo (by decide) _).bind_as (fun count block back =>
      ∃ descriptor, descriptors.find descriptorId = some descriptor ∧ block.1 = descriptorId ∧
        block.2.length = count ∧ (∀ annotation ∈ block.2,
          AnnotationValid descriptor hasProducer annotation ∧
            annotation.row.descriptorId = descriptorId) ∧
          Reading.Spelled (AnnotationSpelling hasProducer) block.2 back) fun count => ?_).congr
      fun block text => ?_
  · cases hfound : descriptors.find descriptorId with
    | none => exact (Reading.Accepts.failed _).congr fun block text => by simp
    | some descriptor =>
        refine ((( accepts_decodeBlockAnnotation descriptor hasProducer descriptorId).times_spelled
          count).bind fun annotations =>
            Reading.Accepts.done (descriptorId, annotations)).congr fun block text => ?_
        obtain ⟨id, annotations⟩ := block
        simp only [↓existsAndEq, and_true, true_and, Prod.mk.injEq, List.append_nil,
          Option.some.injEq]
        tauto
  · obtain ⟨id, annotations⟩ := block
    constructor
    · rintro ⟨_, _, _, rfl, ⟨_, _, _, ⟨hcount, rfl⟩, ⟨descriptor, hfound, rfl, rfl, hall, hspelled⟩,
        rfl⟩, rfl⟩
      exact ⟨⟨hcount, descriptor, hfound, hall⟩, _, hspelled, (List.append_assoc _ _ _).symm⟩
    · rintro ⟨⟨hcount, descriptor, hfound, hall⟩, back, hspelled, rfl⟩
      exact ⟨_, _, _, rfl, ⟨_, _, _, ⟨hcount, rfl⟩, ⟨descriptor, hfound, rfl, rfl, hall, hspelled⟩,
        rfl⟩, List.append_assoc _ _ _⟩

/-- What the decoder checks of a unit of coverage. -/
structure CoverageReadable (coverage : SnapshotQueryCoverage) : Prop where
  relation : descriptors.contains coverage.relationDescriptorId = true
  unit : validateCoverageUnit coverage.unit = .ok ()

theorem accepts_decodeQueryCoverage :
    (decodeQueryCoverage descriptors).Accepts addressable fun coverage text =>
      CoverageReadable descriptors coverage ∧ text = (encodeQueryCoverage coverage).flatten := by
  refine ((accepts_string.orError _).bind fun relation =>
    (accepts_string.orError _).bind fun domain => (accepts_string.orError _).bind fun key =>
    (accepts_string.orError _).bind fun state =>
    (accepts_string.orError _).bind fun reason => (accepts_lift_reject _).bind fun _ =>
    (accepts_checked _ _).bind fun _ => Reading.Accepts.done _).congr fun coverage text => ?_
  obtain ⟨relation, domain, key, state, reason⟩ := coverage
  simp only [↓existsAndEq, and_true, true_and, exists_const, encodeQueryCoverage,
    encodeCoverageUnit, SnapshotQueryCoverage.mk.injEq, SnapshotCoverageUnit.mk.injEq,
    List.append_nil, List.append_assoc, List.flatten_append, BinaryWriter.flatten_string,
    Bool.not_eq_false']
  constructor
  · rintro ⟨⟨hrelation, hunit⟩, rfl⟩
    exact ⟨⟨hrelation, hunit⟩, rfl⟩
  · rintro ⟨⟨hrelation, hunit⟩, rfl⟩
    exact ⟨⟨hrelation, hunit⟩, rfl⟩

/-- What the decoder checks of the part for queries, with the pieces of the annotations. -/
structure QueryReadable (claimContents : List Bytes) (part : QueryPart)
    (blocks : List (Bytes × List SnapshotClaimAnnotation)) (contents : List Bytes) : Prop where
  blockCount : blocks.length ≤ 1000000
  readable : ∀ block ∈ blocks, AnnotationsReadable descriptors hasProducer block
  gathered : blocks.foldlM addAnnotations (.empty, []) = .ok (part.annotations, contents)
  coverageCount : part.coverage.length ≤ 10000000
  coverage : ∀ coverage ∈ part.coverage, CoverageReadable descriptors coverage
  contents : ((!part.available && !contents.isEmpty) ||
    (part.available && canonicalStrings contents != claimContents)) = false

theorem accepts_decodeQueryPart (schema : PayloadSchema) (claimContents : List Bytes) :
    (decodeQueryPart schema descriptors claimContents).Accepts addressable fun part text =>
      ∃ blocks contents, QueryReadable descriptors (decide (3 ≤ schema.number)) claimContents part
          blocks contents ∧
        ∃ back, Reading.Spelled (AnnotationsSpelling (decide (3 ≤ schema.number))) blocks back ∧
          text = [if part.available then 1 else 0] ++ encode 8 blocks.length ++ back ++
            (BinaryWriter.range encodeQueryCoverage part.coverage).flatten := by
  refine ((accepts_boolean.orError _).bind fun available =>
    (accepts_countUpTo (by decide) _).bind fun count =>
    ((accepts_decodeAnnotationBlock descriptors (decide (3 ≤ schema.number))).gather_spelled _ count
      _).bind fun gathered =>
    (accepts_range (show 10000000 < addressable by decide) _
      (accepts_decodeQueryCoverage descriptors)).bind fun coverage =>
    (accepts_lift_reject _).bind fun _ => Reading.Accepts.done _).congr fun part text => ?_
  obtain ⟨available, annotations, coverage⟩ := part
  constructor
  · rintro ⟨_, _, _, rfl, ⟨_, _, _, ⟨hcount, rfl⟩, ⟨⟨_, contents⟩, back, _,
      ⟨blocks, rfl, hblocks, hspelled, hgathered⟩, ⟨_, _, _, ⟨⟨hcoverageCount, hcoverage⟩, rfl⟩,
      ⟨_, _, _, ⟨hcontents, rfl⟩, ⟨heq, rfl⟩, rfl⟩, rfl⟩, rfl⟩, rfl⟩, rfl⟩
    obtain ⟨rfl, rfl, rfl⟩ := QueryPart.mk.inj heq
    refine ⟨blocks, contents, ⟨hcount, hblocks, hgathered, hcoverageCount, hcoverage, hcontents⟩,
      back, hspelled, ?_⟩
    simp only [List.append_assoc, List.append_nil]
  · rintro ⟨blocks, contents, h, back, hspelled, rfl⟩
    refine ⟨_, _, _, rfl, ⟨_, _, _, ⟨h.blockCount, rfl⟩, ⟨(annotations, contents), back, _,
      ⟨blocks, rfl, h.readable, hspelled, h.gathered⟩, ⟨_, _, _,
      ⟨⟨h.coverageCount, h.coverage⟩, rfl⟩, ⟨(), _, _, ⟨h.contents, rfl⟩, ⟨rfl, rfl⟩, rfl⟩, rfl⟩,
      rfl⟩, rfl⟩, ?_⟩
    simp only [List.append_assoc, List.append_nil]

end Query

/-! ## Bindings and certificates -/

section Closures

variable (hash : Bytes → Bytes) (manifest : SnapshotManifest)

/-- What the decoder checks of a binding. -/
structure BindingReadable (binding : SnapshotPartitionBinding) : Prop where
  condition : binding.condition.validate = .ok () ∧ binding.condition.fragments.length ≤ 1000000
  identity : checkBinding hash manifest binding = .ok ()

theorem accepts_decodeBinding :
    (decodeBinding hash manifest).Accepts addressable fun binding text =>
      BindingReadable hash manifest binding ∧ text = (encodeBinding binding).flatten := by
  refine ((accepts_string.orError _).bind fun partitionId =>
    (accepts_string.orError _).bind fun relation => (accepts_string.orError _).bind fun scope =>
    (accepts_decodeCondition.orError _).bind fun condition =>
    (accepts_string.orError _).bind fun interpretation =>
    (accepts_string.orError _).bind fun producer => (accepts_string.orError _).bind fun basis =>
    (accepts_string.orError _).bind fun precision =>
    (accepts_string.orError _).bind fun assumptions =>
    (accepts_lift_check _).bind fun _ => Reading.Accepts.done _).congr fun binding text => ?_
  obtain ⟨partitionId, relation, scope, condition, interpretation, producer, basis, precision,
    assumptions⟩ := binding
  simp only [↓existsAndEq, and_true, true_and, exists_const, encodeBinding,
    SnapshotPartitionBinding.mk.injEq, List.append_nil, List.append_assoc, List.flatten_append,
    BinaryWriter.flatten_string]
  constructor
  · rintro ⟨⟨hcondition, hidentity⟩, rfl⟩
    exact ⟨⟨hcondition, hidentity⟩, rfl⟩
  · rintro ⟨⟨hcondition, hidentity⟩, rfl⟩
    exact ⟨⟨hcondition, hidentity⟩, rfl⟩

/-- The bindings by their partitions. -/
def bindingsInOrder (bindings : List SnapshotPartitionBinding) : List SnapshotPartitionBinding :=
  sortBy (fun left right => bytesLess left.partitionId right.partitionId) bindings

theorem accepts_decodeBindings :
    (decodeBindings hash manifest).Accepts addressable fun bindings text =>
      manifest.partitions.length < addressable ∧ ∃ read,
        read.length = manifest.partitions.length ∧
        (∀ binding ∈ read, BindingReadable hash manifest binding) ∧
        bindings = bindingsInOrder read ∧
        sortedUnique (bindings.map SnapshotPartitionBinding.partitionId) = true ∧
        text = (BinaryWriter.range encodeBinding read).flatten := by
  refine ((accepts_expectCount _ _).bind fun _ =>
    ((accepts_decodeBinding hash manifest).times_written _).bind fun read =>
    (accepts_lift_reject _).bind fun _ => Reading.Accepts.done _).congr fun bindings text => ?_
  simp only [BinaryWriter.flatten_range]
  constructor
  · rintro ⟨_, _, _, ⟨hsize, rfl⟩, ⟨read, _, _, ⟨hcount, hread, rfl⟩, ⟨_, _, _, ⟨hunique, rfl⟩,
      ⟨rfl, rfl⟩, rfl⟩, rfl⟩, rfl⟩
    refine ⟨hsize, read, hcount, hread, rfl, by simpa using hunique, ?_⟩
    rw [hcount, List.append_nil, List.append_nil]
  · rintro ⟨hsize, read, hcount, hread, rfl, hunique, rfl⟩
    refine ⟨(), _, _, ⟨hsize, rfl⟩, ⟨read, _, _, ⟨hcount, hread, rfl⟩, ⟨(), _, _,
      ⟨by rw [bindingsInOrder] at hunique; simp [hunique], rfl⟩, ⟨rfl, rfl⟩, rfl⟩, rfl⟩, ?_⟩
    rw [hcount, List.append_nil, List.append_nil]

/-- What the decoder checks of a certificate. -/
structure CertificateReadable (bindings : List SnapshotPartitionBinding)
    (certificate : ClosureCertificate) : Prop where
  condition : certificate.subject.condition.validate = .ok () ∧
    certificate.subject.condition.fragments.length ≤ 1000000
  identity : checkCertificate hash manifest bindings certificate = .ok ()

theorem accepts_decodeCertificate (bindings : List SnapshotPartitionBinding) :
    (decodeCertificate hash manifest bindings).Accepts addressable fun certificate text =>
      CertificateReadable hash manifest bindings certificate ∧
        text = (encodeCertificate certificate).flatten := by
  refine ((accepts_string.orError _).bind fun id => (accepts_string.orError _).bind fun relation =>
    (accepts_string.orError _).bind fun partitionId =>
    (accepts_string.orError _).bind fun content =>
    (accepts_string.orError _).bind fun coverage => (accepts_string.orError _).bind fun keyDomain =>
    (accepts_decodeCondition.orError _).bind fun condition =>
    (accepts_string.orError _).bind fun interpretation =>
    (accepts_string.orError _).bind fun assumptions => (accepts_string.orError _).bind fun kind =>
    (accepts_string.orError _).bind fun producer => (accepts_string.orError _).bind fun evidence =>
    (accepts_lift_check _).bind fun _ => Reading.Accepts.done _).congr fun certificate text => ?_
  obtain ⟨id, ⟨relation, partitionId, content, coverage, keyDomain, condition, interpretation,
    assumptions, kind, producer, evidence⟩⟩ := certificate
  simp only [↓existsAndEq, and_true, true_and, exists_const, encodeCertificate,
    ClosureCertificate.mk.injEq, ClosureCandidate.mk.injEq, List.append_nil, List.append_assoc,
    List.flatten_append, BinaryWriter.flatten_string]
  constructor
  · rintro ⟨⟨hcondition, hidentity⟩, rfl⟩
    exact ⟨⟨hcondition, hidentity⟩, rfl⟩
  · rintro ⟨⟨hcondition, hidentity⟩, rfl⟩
    exact ⟨⟨hcondition, hidentity⟩, rfl⟩

/-- The certificates by their identities. -/
def certificatesInOrder (certificates : List ClosureCertificate) : List ClosureCertificate :=
  sortBy (fun left right => bytesLess left.id right.id) certificates

theorem accepts_decodeCertificates (bindings : List SnapshotPartitionBinding) :
    (decodeCertificates hash manifest bindings).Accepts addressable fun certificates text =>
      manifest.closureIds.length < addressable ∧ ∃ read,
        read.length = manifest.closureIds.length ∧
        (∀ certificate ∈ read, CertificateReadable hash manifest bindings certificate) ∧
        certificates = certificatesInOrder read ∧
        sortedUnique (certificates.map ClosureCertificate.id) = true ∧
        certificates.map ClosureCertificate.id = manifest.closureIds ∧
        text = (BinaryWriter.range encodeCertificate read).flatten := by
  refine ((accepts_expectCount _ _).bind fun _ =>
    ((accepts_decodeCertificate hash manifest bindings).times_written _).bind fun read =>
    (accepts_lift_reject _).bind fun _ => Reading.Accepts.done _).congr fun certificates text => ?_
  simp only [BinaryWriter.flatten_range, Bool.or_eq_false_iff, Bool.not_eq_false',
    bne_eq_false_iff_eq]
  constructor
  · rintro ⟨_, _, _, ⟨hsize, rfl⟩, ⟨read, _, _, ⟨hcount, hread, rfl⟩, ⟨_, _, _,
      ⟨⟨hunique, hids⟩, rfl⟩, ⟨rfl, rfl⟩, rfl⟩, rfl⟩, rfl⟩
    refine ⟨hsize, read, hcount, hread, rfl, hunique, hids, ?_⟩
    rw [hcount, List.append_nil, List.append_nil]
  · rintro ⟨hsize, read, hcount, hread, rfl, hunique, hids, rfl⟩
    refine ⟨(), _, _, ⟨hsize, rfl⟩, ⟨read, _, _, ⟨hcount, hread, rfl⟩, ⟨(), _, _,
      ⟨⟨hunique, hids⟩, rfl⟩, ⟨rfl, rfl⟩, rfl⟩, rfl⟩, ?_⟩
    rw [hcount, List.append_nil, List.append_nil]

end Closures

/-! ## Envelopes -/

theorem accepts_decodeCoverageUnit :
    decodeCoverageUnit.Accepts addressable fun unit text =>
      text = (encodeCoverageUnit unit).flatten := by
  refine ((accepts_string.bind fun domain => accepts_string.bind fun key =>
    accepts_string.bind fun state => accepts_string.bind fun reason =>
    Reading.Accepts.done _).orError _).congr fun unit text => ?_
  obtain ⟨domain, key, state, reason⟩ := unit
  simp only [↓existsAndEq, and_true, true_and, encodeCoverageUnit, SnapshotCoverageUnit.mk.injEq,
    List.append_nil, List.append_assoc, List.flatten_append, BinaryWriter.flatten_string]

theorem accepts_decodeEnvelopeUnresolved :
    decodeEnvelopeUnresolved.Accepts addressable fun unresolved text =>
      unresolved.sourceColumns.length ≤ 1000000 ∧ text = (encodeUnresolved unresolved).flatten := by
  refine ((accepts_string.bind fun sourceAssertion => accepts_string.bind fun sourceRelation =>
    accepts_string.bind fun targetRelation => (accepts_decodeStrings _).bind fun columns =>
    accepts_string.bind fun reason => Reading.Accepts.done _).orError _).congr
      fun unresolved text => ?_
  obtain ⟨sourceAssertion, sourceRelation, targetRelation, sourceColumns, reason⟩ := unresolved
  simp only [↓existsAndEq, and_true, true_and, encodeUnresolved, UnresolvedReference.mk.injEq,
    List.append_nil, List.append_assoc, List.flatten_append, BinaryWriter.flatten_string]

section Envelopes

variable {hash : Bytes → Bytes} (engine : RelationEngine hash)

/-- A claim with the cells of its row in some order. -/
def ClaimSpelling (value : Claim) (text : Bytes) : Prop :=
  ∃ cells, cells.Perm value.row.cells ∧
    text = (encodeRowAs value.row.descriptorId cells ++ encodeBehindRow value).flatten

theorem accepts_decodeClaim_spelled :
    (decodeClaim engine).Accepts addressable fun value text =>
      (validateClaim engine value = .ok () ∧ Storable value) ∧ ClaimSpelling value text :=
  accepts_decodeClaim

/-- What the decoder checks of the envelope of a partition. -/
structure EnvelopeReadable (bindings : List SnapshotPartitionBinding)
    (entry : Bytes × PartitionDraft) : Prop where
  binding : ∃ binding, findBinding bindings entry.1 = some binding ∧
    entry.2 = { identityDraft binding with
      claims := entry.2.claims, coverage := entry.2.coverage, unresolved := entry.2.unresolved }
  claimCount : entry.2.claims.length ≤ 10000000
  claims : ∀ value ∈ entry.2.claims, validateClaim engine value = .ok () ∧ Storable value
  coverageCount : entry.2.coverage.length ≤ 10000000
  unresolvedCount : entry.2.unresolved.length ≤ 10000000
  columnCount : ∀ unresolved ∈ entry.2.unresolved, unresolved.sourceColumns.length ≤ 1000000

/-- An envelope with the cells of its rows in some order. -/
def EnvelopeSpelling (entry : Bytes × PartitionDraft) (text : Bytes) : Prop :=
  ∃ back, Reading.Spelled ClaimSpelling entry.2.claims back ∧
    text = framed entry.1 ++ encode 8 entry.2.claims.length ++ back ++
      (BinaryWriter.range encodeCoverageUnit entry.2.coverage).flatten ++
      (BinaryWriter.range encodeUnresolved entry.2.unresolved).flatten

theorem accepts_decodeEnvelope (bindings : List SnapshotPartitionBinding) :
    (decodeEnvelope engine bindings).Accepts addressable fun entry text =>
      EnvelopeReadable engine bindings entry ∧ EnvelopeSpelling entry text := by
  refine ((accepts_string.orError _).bind fun partitionId =>
    (accepts_countUpTo (by decide) _).bind_as (fun count entry back =>
      ∃ binding, findBinding bindings partitionId = some binding ∧ entry.1 = partitionId ∧
        entry.2 = { identityDraft binding with
          claims := entry.2.claims, coverage := entry.2.coverage
          unresolved := entry.2.unresolved } ∧
        entry.2.claims.length = count ∧
        (∀ value ∈ entry.2.claims, validateClaim engine value = .ok () ∧ Storable value) ∧
        entry.2.coverage.length ≤ 10000000 ∧ entry.2.unresolved.length ≤ 10000000 ∧
        (∀ unresolved ∈ entry.2.unresolved, unresolved.sourceColumns.length ≤ 1000000) ∧
        ∃ front, Reading.Spelled ClaimSpelling entry.2.claims front ∧
          back = front ++ ((BinaryWriter.range encodeCoverageUnit entry.2.coverage).flatten ++
            (BinaryWriter.range encodeUnresolved entry.2.unresolved).flatten))
      fun count => ?_).congr fun entry text => ?_
  · cases hfound : findBinding bindings partitionId with
    | none => exact (Reading.Accepts.failed _).congr fun entry back => by simp
    | some binding =>
        refine (((accepts_decodeClaim_spelled engine).times_spelled count).bind fun claims =>
          (accepts_range_unchecked (show 10000000 < addressable by decide) _
            accepts_decodeCoverageUnit).bind fun coverage =>
          (accepts_range (show 10000000 < addressable by decide) _
            accepts_decodeEnvelopeUnresolved).bind fun unresolved =>
          Reading.Accepts.done (partitionId, { identityDraft binding with
            claims, coverage, unresolved })).congr fun entry back => ?_
        obtain ⟨id, draft⟩ := entry
        constructor
        · rintro ⟨claims, front, _, ⟨hcount, hclaims, hspelled⟩, ⟨coverage, _, _, ⟨hcoverage, rfl⟩,
            ⟨unresolved, _, _, ⟨⟨hunresolved, hcolumns⟩, rfl⟩, ⟨heq, rfl⟩, rfl⟩, rfl⟩, rfl⟩
          obtain ⟨rfl, rfl⟩ := Prod.mk.inj heq
          refine ⟨binding, rfl, rfl, rfl, hcount, hclaims, hcoverage, hunresolved, hcolumns, front,
            hspelled, ?_⟩
          rw [List.append_nil]
        · rintro ⟨other, hother, rfl, hdraft, hcount, hclaims, hcoverage, hunresolved, hcolumns,
            front, hspelled, rfl⟩
          obtain rfl := Option.some.inj hother
          refine ⟨_, front, _, ⟨hcount, hclaims, hspelled⟩, ⟨_, _, _, ⟨hcoverage, rfl⟩, ⟨_, _, [],
            ⟨⟨hunresolved, hcolumns⟩, rfl⟩, ⟨?_, rfl⟩, rfl⟩, rfl⟩, ?_⟩
          · exact Prod.ext rfl hdraft
          · rw [List.append_nil]
  · obtain ⟨id, draft⟩ := entry
    constructor
    · rintro ⟨_, _, _, rfl, ⟨_, _, _, ⟨hclaimCount, rfl⟩, ⟨binding, hfound, rfl, hdraft, rfl,
        hclaims, hcoverage, hunresolved, hcolumns, front, hspelled, rfl⟩, rfl⟩, rfl⟩
      refine ⟨⟨⟨binding, hfound, hdraft⟩, hclaimCount, hclaims, hcoverage, hunresolved, hcolumns⟩,
        front, hspelled, ?_⟩
      simp only [List.append_assoc]
    · rintro ⟨h, front, hspelled, rfl⟩
      obtain ⟨binding, hfound, hdraft⟩ := h.binding
      refine ⟨_, _, _, rfl, ⟨_, _, _, ⟨h.claimCount, rfl⟩, ⟨binding, hfound, rfl, hdraft, rfl,
        h.claims, h.coverageCount, h.unresolvedCount, h.columnCount, front, hspelled, rfl⟩, rfl⟩,
        ?_⟩
      simp only [List.append_assoc]

theorem accepts_decodeEnvelopes (manifest : SnapshotManifest)
    (bindings : List SnapshotPartitionBinding) :
    (decodeEnvelopes engine manifest bindings).Accepts addressable fun envelopes text =>
      manifest.partitions.length < addressable ∧ ∃ read,
        read.length = manifest.partitions.length ∧
        (∀ entry ∈ read, EnvelopeReadable engine bindings entry) ∧ envelopes.entries.Perm read ∧
        ∃ back, Reading.Spelled EnvelopeSpelling read back ∧
          text = encode 8 read.length ++ back := by
  refine ((accepts_expectCount _ _).bind fun _ =>
    (accepts_decodeEnvelope engine bindings).gather_spelled _ _ _).congr fun envelopes text => ?_
  simp only [OrderedMap.foldlM_emplaceNew_eq_ok_iff]
  constructor
  · rintro ⟨_, _, _, ⟨hsize, rfl⟩, ⟨read, hcount, hread, hspelled, hperm⟩, rfl⟩
    exact ⟨hsize, read, hcount, hread, hperm, _, hspelled, by rw [hcount]⟩
  · rintro ⟨hsize, read, hcount, hread, hperm, back, hspelled, rfl⟩
    exact ⟨(), _, _, ⟨hsize, rfl⟩, ⟨read, hcount, hread, hspelled, hperm⟩, by rw [hcount]⟩

end Envelopes

end Cxxlens.Sdk.Store
