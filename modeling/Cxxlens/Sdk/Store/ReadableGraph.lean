import Cxxlens.Sdk.Store.PayloadParts
import Cxxlens.Sdk.Store.SnapshotDecoder

set_option autoImplicit false

/-! # Readable graphs

What the decoder checks of a whole graph, stated of the graph and not of the pieces of its text, and
for each map of the graph that its text is read as it and as nothing else. -/

namespace Cxxlens.Sdk.Store

open Fallible BigEndian Framing BinaryReader Sorting Collections
open Query (SnapshotCoverageUnit SnapshotQueryCoverage SnapshotClaimAnnotation
  SnapshotPartitionBinding ClosureCertificate)

/-! ## Maps -/

/-- What is written of an entry. -/
def entryBytes {α : Type} (write : α → Spans) (entry : Bytes × List α) : Bytes :=
  framed entry.1 ++ encode 8 entry.2.length ++ entry.2.flatMap fun value => (write value).flatten

theorem flatten_encodeByDescriptor {α : Type} (write : α → Spans)
    (map : OrderedMap Bytes (List α)) :
    (encodeByDescriptor write map).flatten =
      encode 8 map.entries.length ++ map.entries.flatMap (entryBytes write) := by
  rw [encodeByDescriptor, BinaryWriter.flatten_range]
  congr 1
  refine List.flatMap_congr fun entry _ => ?_
  rw [List.flatten_append, BinaryWriter.flatten_string, BinaryWriter.flatten_range, entryBytes,
    List.append_assoc]

/-! ## Rows -/

section Rows

variable {hash : Bytes → Bytes} {engine : RelationEngine hash}

/-- The descriptors that are emplaced for blocks. -/
def emplaceDescriptors (blocks : List RelationBlock)
    (descriptors : OrderedMap Bytes RelationDescriptor) : OrderedMap Bytes RelationDescriptor :=
  blocks.foldl (fun map block => map.emplace block.descriptorId block.descriptor) descriptors

theorem foldlM_addRelation (blocks : List RelationBlock) (state : RelationRows) :
    blocks.foldlM addRelation state = .ok (emplaceDescriptors blocks state.1,
      (blocks.map fun block => (block.descriptorId, block.rows)).foldl
        (fun map block => map.extend block.1 block.2) state.2) := by
  induction blocks generalizing state with
  | nil => rfl
  | cons block rest ih => exact ih _

/-- Every block of a relation comes with the descriptor of the relation. -/
theorem find_emplaceDescriptors {blocks : List RelationBlock}
    (h : ∀ block ∈ blocks, engine.requireId block.descriptorId = .ok block.descriptor)
    (descriptors : OrderedMap Bytes RelationDescriptor) (id : Bytes) :
    (emplaceDescriptors blocks descriptors).find id =
      if descriptors.contains id = true then descriptors.find id
      else if id ∈ blocks.map RelationBlock.descriptorId then (engine.requireId id).toOption
      else none := by
  induction blocks generalizing descriptors with
  | nil =>
      rw [emplaceDescriptors, List.foldl_nil]
      split_ifs with hthere hin
      · rfl
      · exact absurd hin (by simp)
      · rwa [OrderedMap.contains, Option.not_isSome_iff_eq_none] at hthere
  | cons block rest ih =>
      rw [List.forall_mem_cons] at h
      show (emplaceDescriptors rest (descriptors.emplace block.descriptorId block.descriptor)).find
        id = _
      rw [ih h.2, OrderedMap.emplace, List.map_cons]
      simp only [List.mem_cons]
      by_cases hblock : descriptors.contains block.descriptorId = true
      · rw [if_pos hblock]
        by_cases hid : id = block.descriptorId
        · rw [hid, if_pos hblock, if_pos hblock]
        · simp only [hid, false_or]
      · rw [if_neg hblock]
        by_cases hid : id = block.descriptorId
        · subst hid
          have hfound : (descriptors.assign block.descriptorId block.descriptor).find
              block.descriptorId = some block.descriptor := by
            rw [OrderedMap.find_assign, if_pos rfl]
          rw [OrderedMap.contains, hfound, if_neg hblock, h.1, Option.isSome_some, if_pos rfl,
            if_pos (Or.inl rfl)]
          rfl
        · have hother : (descriptors.assign block.descriptorId block.descriptor).find id =
              descriptors.find id := by
            rw [OrderedMap.find_assign, if_neg (Ne.symm hid)]
          simp only [OrderedMap.contains, hother, hid, false_or]

/-- Descriptors and rows that pass the checks of the decoder. -/
structure RelationsReadable (engine : RelationEngine hash) (state : RelationRows) : Prop where
  relationCount : state.2.entries.length ≤ 1000000
  descriptors : ∀ id, state.1.find id =
    if state.2.contains id = true then (engine.requireId id).toOption else none
  relations : ∀ entry ∈ state.2.entries, ∃ descriptor,
    BlockReadable engine ⟨entry.1, descriptor, entry.2⟩

/-- What is taken for descriptors and rows. -/
def RelationsSpelling (engine : RelationEngine hash) (state : RelationRows) (text : Bytes) : Prop :=
  ∃ blocks, blocks.length ≤ 1000000 ∧ (∀ block ∈ blocks, BlockReadable engine block) ∧
    blocks.foldlM addRelation (.empty, .empty) = .ok state ∧
    ∃ back, Reading.Spelled BlockSpelling blocks back ∧ text = encode 8 blocks.length ++ back

/-- The state that blocks leave behind. -/
theorem state_of_blocks {blocks : List RelationBlock} {state : RelationRows}
    (h : blocks.foldlM addRelation (.empty, .empty) = .ok state) :
    state = (emplaceDescriptors blocks .empty,
      OrderedMap.gatherAll (blocks.map fun block => (block.descriptorId, block.rows))) := by
  rw [foldlM_addRelation] at h
  exact (Except.ok.inj h).symm

theorem relationsReadable_of_blocks {blocks : List RelationBlock} {state : RelationRows}
    (hcount : blocks.length ≤ 1000000) (hblocks : ∀ block ∈ blocks, BlockReadable engine block)
    (h : blocks.foldlM addRelation (.empty, .empty) = .ok state)
    (hlength : state.2.entries.length = blocks.length) : RelationsReadable engine state := by
  obtain rfl := state_of_blocks h
  have hnodup := OrderedMap.nodup_of_length_gatherAll (by rw [List.length_map]; exact hlength)
  have hperm := OrderedMap.gatherAll_perm hnodup
  refine ⟨by rw [hlength]; exact hcount, ?_, ?_⟩
  · intro id
    rw [find_emplaceDescriptors fun block hblock => (hblocks block hblock).descriptor]
    have hkeys : (OrderedMap.gatherAll (blocks.map fun block =>
        (block.descriptorId, block.rows))).contains id = true ↔
          id ∈ blocks.map RelationBlock.descriptorId := by
      rw [OrderedMap.contains_eq_true_iff, (hperm.map Prod.fst).mem_iff, List.map_map]
      rfl
    rw [if_neg (by simp [OrderedMap.contains])]
    simp only [hkeys]
  · intro entry hentry
    obtain ⟨block, hblock, rfl⟩ := List.mem_map.1 (hperm.mem_iff.1 hentry)
    exact ⟨block.descriptor, hblocks block hblock⟩

/-- Readable rows are taken as what is written of them. -/
theorem relationsSpelling_of_readable {state : RelationRows} (h : RelationsReadable engine state) :
    RelationsSpelling engine state (encodeByDescriptor encodeRow state.2).flatten := by
  obtain ⟨descriptors, rows⟩ := state
  have hblocks : ∃ blocks : List RelationBlock,
      blocks.map (fun block => (block.descriptorId, block.rows)) = rows.entries ∧
        ∀ block ∈ blocks, BlockReadable engine block := by
    have hall := h.relations
    generalize rows.entries = entries at hall
    induction entries with
    | nil => exact ⟨[], rfl, by simp⟩
    | cons entry rest ih =>
        rw [List.forall_mem_cons] at hall
        obtain ⟨⟨descriptor, hblock⟩, hrest⟩ := hall
        obtain ⟨blocks, hmap, hreadable⟩ := ih hrest
        exact ⟨⟨entry.1, descriptor, entry.2⟩ :: blocks, by rw [List.map_cons, hmap],
          List.forall_mem_cons.2 ⟨hblock, hreadable⟩⟩
  obtain ⟨blocks, hmap, hreadable⟩ := hblocks
  have hlength : blocks.length = rows.entries.length := by rw [← hmap, List.length_map]
  have hids : blocks.map RelationBlock.descriptorId = rows.entries.map Prod.fst := by
    rw [← hmap, List.map_map]
    rfl
  have hspelled : Reading.Spelled BlockSpelling blocks
      (blocks.flatMap fun block => entryBytes encodeRow (block.descriptorId, block.rows)) :=
    Reading.spelled_flatMap fun block _ =>
      ⟨_, Reading.spelled_flatMap fun row _ => rowSpelling_encodeRow row, rfl⟩
  refine ⟨blocks, hlength ▸ h.relationCount, hreadable, ?_, _, hspelled, ?_⟩
  · rw [foldlM_addRelation, hmap, ← OrderedMap.gatherAll, OrderedMap.gatherAll_entries]
    have hdescriptors : emplaceDescriptors blocks .empty = descriptors := by
      refine OrderedMap.ext_find fun id => ?_
      rw [find_emplaceDescriptors fun block hblock => (hreadable block hblock).descriptor,
        h.descriptors, if_neg (by simp [OrderedMap.contains]), hids]
      simp only [OrderedMap.contains_eq_true_iff]
    rw [hdescriptors]
  · rw [flatten_encodeByDescriptor, hlength, ← hmap, List.flatMap_map]

theorem mem_sortRows {relation : Option RelationDescriptor} {rows : List DetachedRow}
    {row : DetachedRow} (h : row ∈ sortRows relation rows) : row ∈ rows := by
  unfold sortRows at h
  cases relation with
  | none => exact (mem_sortBy _ _ _).1 h
  | some descriptor =>
      simp only at h
      split_ifs at h
      · exact (mem_sortBy _ _ _).1 (mem_of_mem_unique h)
      · exact (mem_sortBy _ _ _).1 h

theorem length_sortRows_le (relation : Option RelationDescriptor) (rows : List DetachedRow) :
    (sortRows relation rows).length ≤ rows.length := by
  unfold sortRows
  cases relation with
  | none => exact (length_sortBy _ _).le
  | some descriptor =>
      simp only
      split_ifs
      · exact (unique_sublist _ _).length_le.trans (length_sortBy _ _).le
      · exact (length_sortBy _ _).le

/-- Sorted rows are as readable. -/
theorem RelationsReadable.sorted {state : RelationRows} (h : RelationsReadable engine state) :
    RelationsReadable engine (state.1, state.2.mapValues fun descriptor rows =>
      sortRows (state.1.find descriptor) rows) where
  relationCount := by
    rw [OrderedMap.entries_mapValues, List.length_map]
    exact h.relationCount
  descriptors := by
    intro id
    rw [OrderedMap.contains_mapValues]
    exact h.descriptors id
  relations := by
    intro entry hentry
    obtain ⟨other, hother, rfl⟩ := List.mem_map.1 hentry
    obtain ⟨descriptor, hblock⟩ := h.relations other hother
    exact ⟨descriptor, hblock.descriptor, (length_sortRows_le _ _).trans hblock.rowCount,
      fun row hrow => hblock.rows row (mem_sortRows hrow)⟩

end Rows

/-! ## Annotations -/

section Annotations

/-- The contents of all annotations. -/
def annotationContents (entries : List (Bytes × List SnapshotClaimAnnotation)) : List Bytes :=
  entries.flatMap fun entry => entry.2.map SnapshotClaimAnnotation.content

theorem foldlM_addAnnotations (blocks : List (Bytes × List SnapshotClaimAnnotation))
    (state : Annotations) :
    blocks.foldlM addAnnotations state =
      .ok (blocks.foldl (fun map block => map.extend block.1 block.2) state.1,
        state.2 ++ annotationContents blocks) := by
  induction blocks generalizing state with
  | nil => simp [annotationContents, pure, Except.pure]
  | cons block rest ih =>
      show rest.foldlM addAnnotations (state.1.extend block.1 block.2,
        state.2 ++ block.2.map SnapshotClaimAnnotation.content) = _
      rw [ih, annotationContents, annotationContents, List.flatMap_cons, List.append_assoc]
      rfl

variable {descriptors : OrderedMap Bytes RelationDescriptor} {hasProducer : Bool}
  {claimContents : List Bytes}

/-- A part for queries that passes the checks of the decoder. -/
structure QueryPartReadable (descriptors : OrderedMap Bytes RelationDescriptor) (hasProducer : Bool)
    (claimContents : List Bytes) (part : QueryPart) : Prop where
  relationCount : part.annotations.entries.length ≤ 1000000
  annotations : ∀ entry ∈ part.annotations.entries,
    AnnotationsReadable descriptors hasProducer entry
  coverageCount : part.coverage.length ≤ 10000000
  coverage : ∀ coverage ∈ part.coverage, CoverageReadable descriptors coverage
  withheld : part.available = false → annotationContents part.annotations.entries = []
  contents : part.available = true →
    canonicalStrings (annotationContents part.annotations.entries) = claimContents

theorem contentSet_eq_false_iff {available : Bool} {contents : List Bytes} :
    ((!available && !contents.isEmpty) ||
        (available && canonicalStrings contents != claimContents)) = false ↔
      (available = false → contents = []) ∧
        (available = true → canonicalStrings contents = claimContents) := by
  cases available with
  | false => simp
  | true => simp

theorem mem_annotationContents {entries : List (Bytes × List SnapshotClaimAnnotation)}
    {content : Bytes} : content ∈ annotationContents entries ↔
      ∃ entry ∈ entries, ∃ annotation ∈ entry.2, annotation.content = content := by
  simp only [annotationContents, List.mem_flatMap, List.mem_map]

/-- The canonical contents do not depend on the order. -/
theorem canonicalStrings_congr {left right : List Bytes} (h : ∀ text, text ∈ left ↔ text ∈ right) :
    canonicalStrings left = canonicalStrings right :=
  pairwise_lt_ext (canonicalStrings_pairwise left) (canonicalStrings_pairwise right) fun text => by
    rw [mem_canonicalStrings, mem_canonicalStrings, h]

theorem eq_nil_of_mem_iff {left right : List Bytes} (h : ∀ text, text ∈ left ↔ text ∈ right)
    (hleft : left = []) : right = [] :=
  List.eq_nil_iff_forall_not_mem.2 fun text htext => by
    rw [← h, hleft] at htext
    exact absurd htext (by simp)

theorem queryPartReadable_of_blocks {part : QueryPart}
    {blocks : List (Bytes × List SnapshotClaimAnnotation)} {contents : List Bytes}
    (h : QueryReadable descriptors hasProducer claimContents part blocks contents)
    (hlength : part.annotations.entries.length = blocks.length) :
    QueryPartReadable descriptors hasProducer claimContents part := by
  have hgathered := h.gathered
  rw [foldlM_addAnnotations, Except.ok.injEq, Prod.mk.injEq] at hgathered
  obtain ⟨hannotations, rfl⟩ := hgathered
  rw [← OrderedMap.gatherAll] at hannotations
  have hperm := OrderedMap.gatherAll_perm (OrderedMap.nodup_of_length_gatherAll
    (by rw [hannotations]; exact hlength))
  rw [hannotations] at hperm
  have hmem : ∀ text, text ∈ annotationContents blocks ↔
      text ∈ annotationContents part.annotations.entries := by
    intro text
    simp only [mem_annotationContents, hperm.mem_iff]
  obtain ⟨hwithheld, hcontents⟩ := contentSet_eq_false_iff.1 h.contents
  rw [List.nil_append] at hwithheld hcontents
  exact ⟨by rw [hlength]; exact h.blockCount,
    fun entry hentry => h.readable entry (hperm.mem_iff.1 hentry), h.coverageCount, h.coverage,
    fun hno => eq_nil_of_mem_iff hmem (hwithheld hno),
    fun hyes => by rw [← canonicalStrings_congr hmem, hcontents hyes]⟩

/-- What is taken for the part for queries. -/
def QuerySpelling (schema : PayloadSchema) (descriptors : OrderedMap Bytes RelationDescriptor)
    (claimContents : List Bytes) (part : QueryPart) (text : Bytes) : Prop :=
  ∃ blocks contents, QueryReadable descriptors (decide (3 ≤ schema.number)) claimContents part
      blocks contents ∧
    ∃ back, Reading.Spelled (AnnotationsSpelling (decide (3 ≤ schema.number))) blocks back ∧
      text = [if part.available then 1 else 0] ++ encode 8 blocks.length ++ back ++
        (BinaryWriter.range encodeQueryCoverage part.coverage).flatten

/-- What is written of the part for queries. -/
def queryPartBytes (hasProducer : Bool) (part : QueryPart) : Bytes :=
  [if part.available then 1 else 0] ++
    (encodeByDescriptor ( encodeAnnotation hasProducer) part.annotations).flatten ++
    (BinaryWriter.range encodeQueryCoverage part.coverage).flatten

theorem querySpelling_of_readable {schema : PayloadSchema} {part : QueryPart}
    (h : QueryPartReadable descriptors (decide (3 ≤ schema.number)) claimContents part) :
    QuerySpelling schema descriptors claimContents part
      (queryPartBytes (decide (3 ≤ schema.number)) part) := by
  have hspelled : Reading.Spelled (AnnotationsSpelling (decide (3 ≤ schema.number)))
      part.annotations.entries (part.annotations.entries.flatMap
        (entryBytes ( encodeAnnotation (decide (3 ≤ schema.number))))) :=
    Reading.spelled_flatMap fun entry _ => ⟨_, Reading.spelled_flatMap fun annotation _ =>
      annotationSpelling_encodeAnnotation _ annotation, rfl⟩
  refine ⟨part.annotations.entries, annotationContents part.annotations.entries,
    ⟨h.relationCount, h.annotations, ?_, h.coverageCount, h.coverage,
      contentSet_eq_false_iff.2 ⟨h.withheld, h.contents⟩⟩, _, hspelled, ?_⟩
  · rw [foldlM_addAnnotations, List.nil_append, ← OrderedMap.gatherAll,
      OrderedMap.gatherAll_entries]
  · rw [queryPartBytes, flatten_encodeByDescriptor]
    simp only [List.append_assoc]

/-- A sorted part for queries is as readable, with the contents that are there. -/
theorem QueryPartReadable.sorted {part : QueryPart}
    (h : QueryPartReadable descriptors hasProducer claimContents part) :
    QueryPartReadable descriptors hasProducer claimContents
      { part with
        annotations := part.annotations.mapValues fun _ annotations =>
          sortCanonicalProjection annotationProjection annotations
        coverage := sortBy (fun left right => decide (coverageTie left < coverageTie right))
          part.coverage } := by
  have hmem : ∀ text, text ∈ annotationContents part.annotations.entries ↔
      text ∈ annotationContents (part.annotations.mapValues fun _ annotations =>
        sortCanonicalProjection annotationProjection annotations).entries := by
    intro text
    simp only [mem_annotationContents, OrderedMap.entries_mapValues, List.mem_map, Prod.exists,
      Prod.mk.injEq, sortCanonicalProjection]
    constructor
    · rintro ⟨key, annotations, hentry, annotation, hannotation, hcontent⟩
      exact ⟨key, _, ⟨key, annotations, hentry, rfl, rfl⟩, annotation,
        (mem_sortBy _ _ _).2 hannotation, hcontent⟩
    · rintro ⟨key, _, ⟨_, annotations, hentry, rfl, rfl⟩, annotation, hannotation, hcontent⟩
      exact ⟨_, annotations, hentry, annotation, (mem_sortBy _ _ _).1 hannotation, hcontent⟩
  refine ⟨?_, ?_, (length_sortBy _ _).le.trans h.coverageCount,
    fun coverage hcoverage => h.coverage coverage ((mem_sortBy _ _ _).1 hcoverage),
    fun hno => eq_nil_of_mem_iff hmem (h.withheld hno),
    fun hyes => by rw [← canonicalStrings_congr hmem, h.contents hyes]⟩
  · rw [OrderedMap.entries_mapValues, List.length_map]
    exact h.relationCount
  · intro entry hentry
    obtain ⟨other, hother, rfl⟩ := List.mem_map.1 hentry
    obtain ⟨hcount, descriptor, hdescriptor, hall⟩ := h.annotations other hother
    exact ⟨(length_sortBy _ _).le.trans hcount, descriptor, hdescriptor,
      fun annotation hannotation => hall annotation ((mem_sortBy _ _ _).1 hannotation)⟩

end Annotations

end Cxxlens.Sdk.Store
