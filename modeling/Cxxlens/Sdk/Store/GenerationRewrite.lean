import Cxxlens.Sdk.Store.SnapshotRoundTrip

set_option autoImplicit false

/-! # Rewriting the generation of a payload

A migration gives publications new generations without decoding their payloads. It looks for the
eight bytes of the generation (`payload_generation_offset` of
`snapshot_store_v5_codec_internal.cpp`) and serves the payload with other bytes in their place
(`sqlite_generation_rewrite_payload_source` of `store.cpp`). -/

namespace Cxxlens.Sdk.Store

open Fallible BigEndian Framing BinaryReader

/-! ## The offset -/

/-- The loop of `payload_generation_offset_private` over the partitions. -/
def skipPartition : Reading Error Unit :=
  .orError (corrupt "payload" "partition-header") do
    let _partitionId ← string
    let _descriptor ← string
    let _basis ← string
    let _claims ← string
    let _coverage ← string
    let _content ← string
    let _claimCount ← unsignedValue
    let _complete ← boolean
    .done ()

/-- `payload_generation_offset_private` up to the generation. Fields are read before they are
    checked, so the first error among them is not the first to be found, but they share one. -/
def skipToGeneration : Reading Error Unit := do
  let format := corrupt "payload" "format"
  let magic ← string.orError format
  .lift (reject (!(PayloadSchema.all.any fun schema => schema.magic == magic)) format)
  let header := corrupt "payload" "manifest-header"
  let _schema ← string.orError header
  let _snapshotId ← string.orError header
  let _major ← unsignedValue.orError header
  let _minor ← unsignedValue.orError header
  let _patch ← unsignedValue.orError header
  let _catalog ← string.orError header
  let _universe ← string.orError header
  let _registry ← string.orError header
  let _policy ← string.orError header
  let partitionCount ← countUpTo 1000000 header
  let _partitions ← skipPartition.times partitionCount
  let closureCount ← countUpTo 1000000 (corrupt "payload" "closure-count")
  let _closures ← string.times closureCount
  let publication := corrupt "payload" "publication-header"
  let _publicationId ← string.orError publication
  let _seriesId ← string.orError publication
  let _publicationSnapshotId ← string.orError publication
  let _sequence ← unsignedValue.orError publication
  .done ()

section Offset

variable {ρ σ : Type}

/-- `payload_generation_offset_private` -/
def payloadGenerationOffsetPrivate (answers : BoundedByteSource σ) (reader : SourceReader σ)
    (expectedGeneration : UInt64) : Result Nat := do
  let (_, reader) ← runSource answers skipToGeneration reader
  let mismatch := corrupt "payload" "generation-mismatch"
  let (stored, _) ← runSource answers (unsignedValue.orError mismatch) reader
  reject (stored != expectedGeneration) mismatch
  .ok reader.offset

/-- `payload_generation_offset` -/
def payloadGenerationOffset (source : ReplayableByteSource ρ σ) (replay : ρ) (expectedSize : Nat)
    (expectedGeneration : UInt64) : Result Nat :=
  if expectedSize > snapshotStoreV5MaximumPayloadBytes then
    .error (storeError "store.resource-limit" "snapshot-payload" "maximum-bytes")
  else caught "snapshot-v5-generation-offset" (do
    let pass ← requirePass source "snapshot-v5-generation-offset" replay
    payloadGenerationOffsetPrivate source.answers { source := pass, expectedSize }
      expectedGeneration)

end Offset

theorem accepts_skipPartition :
    skipPartition.Accepts addressable fun _ text =>
      ∃ partition, text = (encodePartition partition).flatten := by
  refine ((accepts_string.bind fun partitionId => accepts_string.bind fun relationDescriptorId =>
    accepts_string.bind fun inputBasisDigest => accepts_string.bind fun claimSetDigest =>
    accepts_string.bind fun coverageDigest => accepts_string.bind fun contentDigest =>
    accepts_unsignedValue.bind fun claimCount => accepts_boolean.bind fun complete =>
    Reading.Accepts.done _).orError _).congr fun _ text => ?_
  simp only [↓existsAndEq, and_true, true_and, encodePartition, List.append_nil, List.append_assoc,
    List.flatten_append, BinaryWriter.flatten_string, BinaryWriter.flatten_unsignedValue,
    BinaryWriter.flatten_boolean]
  constructor
  · rintro ⟨partitionId, relation, basis, claims, coverage, content, count, complete, rfl⟩
    exact ⟨⟨partitionId, relation, basis, claims, coverage, content, count, complete⟩, rfl⟩
  · rintro ⟨partition, rfl⟩
    exact ⟨_, _, _, _, _, _, _, _, rfl⟩

/-- What stands in front of the generation is read past. -/
theorem run_skipToGeneration {value : SnapshotData} {rest : Bytes}
    (hpartitions : value.semanticManifest.partitions.length ≤ 1000000)
    (hclosures : value.semanticManifest.closureIds.length ≤ 1000000)
    (hlimit : ((encodeSnapshotHead .v5 value).flatten ++ rest).length < addressable) :
    skipToGeneration.run ((encodeSnapshotHead .v5 value).flatten ++ rest) = .ok ((), rest) := by
  have haccepts : skipToGeneration.Accepts addressable _ :=
    (accepts_string.orError _).bind fun magic => (accepts_lift_reject _).bind fun _ =>
    (accepts_string.orError _).bind fun schema => (accepts_string.orError _).bind fun id =>
    (accepts_unsignedValue.orError _).bind fun major =>
    (accepts_unsignedValue.orError _).bind fun minor =>
    (accepts_unsignedValue.orError _).bind fun patch =>
    (accepts_string.orError _).bind fun catalog => (accepts_string.orError _).bind fun «universe» =>
    (accepts_string.orError _).bind fun registry => (accepts_string.orError _).bind fun policy =>
    (accepts_countUpTo (show 1000000 < addressable by decide) _).bind fun partitionCount =>
    (accepts_skipPartition.times partitionCount).bind fun _ =>
    (accepts_countUpTo (show 1000000 < addressable by decide) _).bind fun closureCount =>
    (accepts_string.times closureCount).bind fun _ =>
    (accepts_string.orError _).bind fun publicationId =>
    (accepts_string.orError _).bind fun seriesId =>
    (accepts_string.orError _).bind fun snapshotId =>
    (accepts_unsignedValue.orError _).bind fun sequence => Reading.Accepts.done ()
  obtain ⟨⟨schema, id, ⟨major, minor, patch⟩, catalog, «universe», registry, policy, partitions,
    closures⟩, publication, _⟩ := value
  -- the loops read one text for each partition and each closure
  have hskipped : List.Forall₂ (fun (_ : Unit) text =>
      ∃ partition, text = (encodePartition partition).flatten) (partitions.map fun _ => ())
      (partitions.map fun partition => (encodePartition partition).flatten) := by
    rw [List.forall₂_map_left_iff, List.forall₂_map_right_iff, List.forall₂_same]
    exact fun partition _ => ⟨partition, rfl⟩
  have hids : List.Forall₂ (fun value text => text = framed value) closures
      (closures.map framed) := by
    rw [List.forall₂_map_right_iff, List.forall₂_same]
    exact fun _ _ => rfl
  refine (haccepts _ _ _ hlimit).2 ⟨_, ⟨PayloadSchema.v5.magic, _, _, rfl, ⟨(), _, _,
    ⟨by decide, rfl⟩, ⟨schema, _, _, rfl, ⟨id, _, _, rfl, ⟨major.toUInt64, _, _, rfl,
    ⟨minor.toUInt64, _, _, rfl, ⟨patch.toUInt64, _, _, rfl, ⟨catalog, _, _, rfl,
    ⟨«universe», _, _, rfl, ⟨registry, _, _, rfl, ⟨policy, _, _, rfl,
    ⟨_, _, _, ⟨hpartitions, rfl⟩, ⟨_, _, _, ⟨List.length_map _, _, hskipped, rfl⟩,
    ⟨_, _, _, ⟨hclosures, rfl⟩, ⟨closures, _, _, ⟨rfl, _, hids, rfl⟩,
    ⟨publication.publicationId, _, _, rfl, ⟨publication.seriesId, _, _, rfl,
    ⟨publication.snapshotId, _, _, rfl, ⟨publication.sequence, _, _, rfl, ⟨rfl, rfl⟩, rfl⟩, rfl⟩,
    rfl⟩, rfl⟩, rfl⟩, rfl⟩, rfl⟩, rfl⟩, rfl⟩, rfl⟩, rfl⟩, rfl⟩, rfl⟩, rfl⟩, rfl⟩, rfl⟩, rfl⟩, rfl⟩,
    rfl⟩, ?_⟩
  simp only [encodeSnapshotHead, encodeManifest, encodePublicationHead, List.flatten_append,
    BinaryWriter.flatten_string, BinaryWriter.flatten_unsignedValue, BinaryWriter.flatten_range,
    List.append_assoc, List.append_nil, List.nil_append, UInt32.toNat_toUInt64, List.flatMap_def]

/-! ## The generation of a graph -/

/-- A graph of another generation. -/
def SnapshotData.withGeneration (value : SnapshotData) (generation : UInt64) : SnapshotData :=
  { value with publicationRecord :=
      { value.publicationRecord with physicalGeneration := generation } }

/-- The bytes from an offset on replaced. -/
def replacedAt (offset : Nat) (replacement text : Bytes) : Bytes :=
  text.take offset ++ replacement ++ text.drop (offset + replacement.length)

theorem replacedAt_middle {front middle replacement back : Bytes}
    (h : replacement.length = middle.length) :
    replacedAt front.length replacement (front ++ (middle ++ back)) =
      front ++ (replacement ++ back) := by
  rw [replacedAt, List.take_left, h, ← List.drop_drop, List.drop_left, List.drop_left,
    List.append_assoc]

theorem length_replacedAt {offset : Nat} {replacement text : Bytes}
    (h : offset + replacement.length ≤ text.length) :
    (replacedAt offset replacement text).length = text.length := by
  rw [replacedAt, List.length_append, List.length_append, List.length_drop, List.length_take]
  omega

section Encoded

variable {hash : Bytes → Bytes}

/-- Behind the generation, up to the envelopes. -/
def encodeBehindGeneration (envelopes : List (Bytes × PartitionDraft)) (value : SnapshotData) :
    Spans :=
  encodePublicationTail value.publicationRecord ++ encodeProjections .v5 value ++
    BinaryWriter.range encodeEnvelope envelopes

theorem encodeSnapshotWith_generation (envelopes : List (Bytes × PartitionDraft))
    (value : SnapshotData) (generation : UInt64) :
    encodeSnapshotWith envelopes .v5 (value.withGeneration generation) =
      encodeSnapshotHead .v5 value ++ (BinaryWriter.unsignedValue generation.toNat ++
        encodeBehindGeneration envelopes value) := by
  rw [encodeSnapshotWith, if_pos rfl, encodeBehindGeneration]
  simp only [List.append_assoc]
  rfl

theorem withGeneration_self (value : SnapshotData) :
    value.withGeneration value.publicationRecord.physicalGeneration = value := rfl

/-- A payload in front of its generation and behind it, and what is written for another one. -/
theorem encoded_generation {value : SnapshotData} {bytes : Bytes}
    (h : encodeSnapshot hash value = .ok bytes) :
    ∃ back, bytes = (encodeSnapshotHead .v5 value).flatten ++
        (encode 8 value.publicationRecord.physicalGeneration.toNat ++ back) ∧
      ∀ generation : UInt64, encodeSnapshot hash (value.withGeneration generation) =
        .ok ((encodeSnapshotHead .v5 value).flatten ++ (encode 8 generation.toNat ++ back)) := by
  obtain ⟨⟨size, hsize⟩, spans, hspans, rfl⟩ := encodeSnapshot_eq_ok_iff.1 h
  obtain ⟨hall, rfl⟩ := sortedSpans_eq_ok_iff.1 hspans
  refine ⟨(encodeBehindGeneration (value.partitionEnvelopes.mapValues fun _ =>
    envelopeInOrder hash).entries value).flatten, ?_, fun generation => ?_⟩
  · have hwritten := encodeSnapshotWith_generation (value.partitionEnvelopes.mapValues fun _ =>
      envelopeInOrder hash).entries value value.publicationRecord.physicalGeneration
    rw [withGeneration_self] at hwritten
    show (encodeSnapshotWith _ .v5 value).flatten = _
    rw [hwritten]
    simp only [List.flatten_append, BinaryWriter.flatten_unsignedValue]
  · -- the generation changes no size, so what was measured is measured again
    have hmeasured : measureSnapshot (value.withGeneration generation)
        snapshotStoreV5MaximumPayloadBytes = .ok size := by
      rw [measureSnapshot] at hsize ⊢
      rw [← hsize]
      refine measureSpans_congr ?_
      have hwritten := encodeSnapshotWith_generation value.partitionEnvelopes.entries value
      have hself := hwritten value.publicationRecord.physicalGeneration
      rw [withGeneration_self] at hself
      show (encodeSnapshotWith value.partitionEnvelopes.entries .v5
        (value.withGeneration generation)).map List.length = _
      rw [hwritten, plainSpans, hself]
      simp only [List.map_append, BinaryWriter.unsignedValue, List.map_cons, List.map_nil,
        length_encode]
    refine encodeSnapshot_eq_ok_iff.2 ⟨⟨size, hmeasured⟩, _,
      sortedSpans_eq_ok_iff.2 ⟨hall, rfl⟩, ?_⟩
    show _ = (encodeSnapshotWith (value.partitionEnvelopes.mapValues fun _ =>
      envelopeInOrder hash).entries .v5 (value.withGeneration generation)).flatten
    rw [encodeSnapshotWith_generation]
    simp only [List.flatten_append, BinaryWriter.flatten_unsignedValue]

variable {engine : RelationEngine hash}

/-- A well-formed graph stays well-formed: no check of the decoder looks at the generation. -/
theorem WellFormed.withGeneration {value : SnapshotData} (h : WellFormed engine value)
    (generation : UInt64) : WellFormed engine (value.withGeneration generation) where
  readable :=
    { h.readable with
      publication := ⟨h.readable.publication.state, h.readable.publication.identity⟩ }
  schema := h.schema
  identity := h.identity
  publication := h.publication
  semantic := by
    have hsemantic := h.semantic
    have hsorted := validateSemanticGraphPrivate_ok hsemantic
    rw [validateSemanticGraphPrivate, seq_eq_ok_iff, bind_eq_ok_iff] at hsemantic ⊢
    obtain ⟨hcount, expected, hexpected, hprojection⟩ := hsemantic
    rw [seq_eq_ok_iff] at hprojection
    refine ⟨hcount, expected, hexpected, seq_eq_ok_iff.2 ⟨hprojection.1, ?_⟩⟩
    -- the sorting, whose result is compared with the graph, leaves the generation as it is
    have hsame : sortSemanticProjections (value.withGeneration generation) =
        (sortSemanticProjections value).withGeneration generation := rfl
    rw [hsame, ← hsorted]
  ordered := h.ordered

end Encoded

section Offset

variable {hash : Bytes → Bytes} {ρ σ : Type} {source : ReplayableByteSource ρ σ}
  {serving : σ → Bytes → Prop}

/-- What is written is not longer than a payload may be. -/
theorem length_of_encoded {value : SnapshotData} {bytes : Bytes}
    (h : encodeSnapshot hash value = .ok bytes) (hlimit : bytes.length < addressable) :
    bytes.length ≤ snapshotStoreV5MaximumPayloadBytes := by
  obtain ⟨⟨size, hsize⟩, spans, hspans, rfl⟩ := encodeSnapshot_eq_ok_iff.1 h
  have hperm := sortedSpans_perm hspans
  have hshort : ∀ span ∈ plainSpans .v5 value, span.length < addressable := fun span hspan =>
    lt_of_le_of_lt (List.sublist_flatten_of_mem (hperm.mem_iff.2 hspan)).length_le hlimit
  rw [measureSnapshot, measureSpans_eq (by decide) hshort, ← hperm.flatten.length_eq] at hsize
  split_ifs at hsize with hfits
  exact hfits

/-- The offset is that of the bytes behind the head. -/
theorem payloadGenerationOffset_of_encoded {replay : ρ} {value : SnapshotData} {bytes back : Bytes}
    (h : Replays source serving replay bytes)
    (hbytes : bytes = (encodeSnapshotHead .v5 value).flatten ++
      (encode 8 value.publicationRecord.physicalGeneration.toNat ++ back))
    (hsize : bytes.length ≤ snapshotStoreV5MaximumPayloadBytes)
    (hpartitions : value.semanticManifest.partitions.length ≤ 1000000)
    (hclosures : value.semanticManifest.closureIds.length ≤ 1000000) :
    payloadGenerationOffset source replay bytes.length
        value.publicationRecord.physicalGeneration =
      .ok (encodeSnapshotHead .v5 value).flatten.length := by
  obtain ⟨pass, hpass, hserving⟩ := h.requirePass "snapshot-v5-generation-offset"
  have hlimit : bytes.length < addressable := hsize.trans_lt (by decide)
  have hskipped : skipToGeneration.run bytes = .ok ((),
      encode 8 value.publicationRecord.physicalGeneration.toNat ++ back) := by
    rw [hbytes] at hlimit ⊢
    exact run_skipToGeneration hpartitions hclosures hlimit
  have hlength := congrArg List.length hbytes
  rw [List.length_append] at hlength
  -- two runs: up to the generation, whose end is the offset, and then over the generation
  obtain ⟨-, hok⟩ := runSource_serving h.serves skipToGeneration bytes
    { source := pass, expectedSize := bytes.length } hserving (Nat.zero_add _).symm
  obtain ⟨last, hlast, hserved, -⟩ := hok _ _ hskipped
  have hstored : ∀ error : Error, (unsignedValue.orError error).run
      (encode 8 value.publicationRecord.physicalGeneration.toNat ++ back) =
        .ok (value.publicationRecord.physicalGeneration, back) := fun error =>
    ((accepts_unsignedValue.orError error) _ _ _ (by omega)).2 ⟨_, rfl, rfl⟩
  rw [payloadGenerationOffset, if_neg (by omega), caught_eq_ok_iff, hpass, Fallible.ok_bind,
    payloadGenerationOffsetPrivate, hlast, Fallible.ok_bind]
  simp only
  obtain ⟨-, hok⟩ := runSource_serving h.serves
    (unsignedValue.orError (corrupt "payload" "generation-mismatch")) _
    { source := last, expectedSize := bytes.length
      offset := bytes.length -
        (encode 8 value.publicationRecord.physicalGeneration.toNat ++ back).length } hserved
    (by simp only; omega)
  obtain ⟨final, hfinal, -⟩ := hok _ _ (hstored _)
  rw [hfinal, Fallible.ok_bind, seq_eq_ok_iff, reject_eq_ok_iff]
  refine ⟨bne_self_eq_false _, ?_⟩
  rw [Except.ok.injEq, hlength]
  omega

end Offset

/-! ## The rewriting source -/

/-- `sqlite_generation_rewrite_byte_source` -/
structure GenerationRewriteByteSource (σ : Type) where
  source : Option σ
  expectedSize : Nat
  generationOffset : Nat
  generationBytes : Bytes
  offset : Nat := 0

/-- The loop of `read` over the bytes of the generation, of which the next one has a position. -/
def overwrite {window : Nat} (first past : Nat) :
    Nat → Bytes → Vector UInt8 window → Vector UInt8 window
  | _, [], output => output
  | position, byte :: rest, output =>
    overwrite first past (position + 1) rest
      (if first ≤ position ∧ position < past then output.setIfInBounds (position - first) byte
        else output)

/-- `sqlite_generation_rewrite_byte_source::read` -/
def GenerationRewriteByteSource.read {σ : Type} (answers : BoundedByteSource σ) :
    BoundedByteSource (GenerationRewriteByteSource σ) := fun state window =>
  let size := corrupt "payload" "generation-source-size"
  match state.source with
  | none => (.failed (corrupt "payload" "generation-source"), state)
  | some source =>
    match answers source window with
    | (.failed error, source) => (.failed error, { state with source := some source })
    | (.threwBadAlloc, source) => (.threwBadAlloc, { state with source := some source })
    | (.threw, source) => (.threw, { state with source := some source })
    | (.returned count output, source) =>
      if count = 0 then
        if state.offset ≠ state.expectedSize then
          (.failed size, { state with source := some source })
        else (.returned 0 output, { state with source := some source })
      else if state.offset > state.expectedSize ∨ count > window ∨
          count > state.expectedSize - state.offset then
        (.failed size, { state with source := some source })
      else
        (.returned count (overwrite state.offset (state.offset + count) state.generationOffset
            state.generationBytes output),
          { state with source := some source, offset := state.offset + count })

/-- `sqlite_generation_rewrite_request` -/
structure GenerationRewriteRequest where
  expectedSize : Nat
  expectedGeneration : UInt64
  replacementGeneration : UInt64

/-- `sqlite_generation_rewrite_payload_source` -/
structure GenerationRewritePayloadSource (ρ : Type) where
  replay : ρ
  expectedSize : Nat
  generationOffset : Nat
  replacementGeneration : UInt64

section Rewriting

variable {ρ σ : Type}

/-- `sqlite_generation_rewrite_payload_source::create` -/
def GenerationRewritePayloadSource.create (source : ReplayableByteSource ρ σ) (replay : Option ρ)
    (request : GenerationRewriteRequest) : Result (GenerationRewritePayloadSource ρ) :=
  match replay with
  | none => .error (corrupt "payload" "generation-source")
  | some replay => do
    let offset ← payloadGenerationOffset source replay request.expectedSize
      request.expectedGeneration
    reject (decide (offset > request.expectedSize) || decide (request.expectedSize - offset < 8))
      (corrupt "payload" "truncated-generation")
    .ok { replay, expectedSize := request.expectedSize, generationOffset := offset
          replacementGeneration := request.replacementGeneration }

/-- `sqlite_generation_rewrite_payload_source::open_pass`, and what its passes answer. -/
def rewritingSource (source : ReplayableByteSource ρ σ) :
    ReplayableByteSource (GenerationRewritePayloadSource ρ) (GenerationRewriteByteSource σ) where
  openPass rewritten := do
    let pass ← source.openPass rewritten.replay
    .ok (some
      { source := pass, expectedSize := rewritten.expectedSize
        generationOffset := rewritten.generationOffset
        generationBytes := encode 8 rewritten.replacementGeneration.toNat })
  answers := GenerationRewriteByteSource.read source.answers

/-- A place behind the first one holds a byte of the generation, or what was there. -/
theorem getElem?_overwrite {window first past place : Nat} (hplace : place < window)
    (hpast : first + place < past) (position : Nat) (bytes : Bytes) (output : Vector UInt8 window) :
    (overwrite first past position bytes output)[place]? =
      if position ≤ first + place ∧ first + place < position + bytes.length then
        bytes[first + place - position]?
      else output[place]? := by
  induction bytes generalizing position output with
  | nil => rw [overwrite, if_neg (by simp only [List.length_nil]; omega)]
  | cons byte rest ih =>
      rw [overwrite, ih, List.length_cons]
      by_cases hhere : position = first + place
      · -- the byte of this position, which no later one is written over
        subst hhere
        rw [if_neg (by omega), if_pos ⟨Nat.le_add_right _ _, hpast⟩, if_pos (by omega),
          Nat.add_sub_cancel_left, Nat.sub_self, Vector.getElem?_setIfInBounds_self, if_pos hplace,
          List.getElem?_cons_zero]
      · by_cases hlater : position + 1 ≤ first + place ∧
            first + place < position + 1 + rest.length
        · have hstep : first + place - position = (first + place - (position + 1)) + 1 := by omega
          rw [if_pos hlater, if_pos (by omega), hstep, List.getElem?_cons_succ]
        · have hother : ¬ (position ≤ first + place ∧
              first + place < position + (rest.length + 1)) := by omega
          rw [if_neg hlater, if_neg hother]
          split_ifs with hwritten
          · rw [Vector.getElem?_setIfInBounds_ne (by omega)]
          · rfl

theorem getElem?_replacedAt {offset : Nat} {replacement text : Bytes} (h : offset ≤ text.length)
    (place : Nat) :
    (replacedAt offset replacement text)[place]? =
      if offset ≤ place ∧ place < offset + replacement.length then replacement[place - offset]?
      else text[place]? := by
  have hlength : (text.take offset).length = offset := List.length_take_of_le h
  rw [replacedAt, List.append_assoc, List.getElem?_append, hlength]
  by_cases hbefore : place < offset
  · rw [if_pos hbefore, if_neg (by omega), List.getElem?_take_of_lt hbefore]
  · rw [if_neg hbefore, List.getElem?_append]
    by_cases hinside : place - offset < replacement.length
    · rw [if_pos hinside, if_pos (by omega)]
    · rw [if_neg hinside, if_neg (by omega), List.getElem?_drop]
      congr 1
      omega

/-- A window over the text, with the generation in it overwritten, is one over the other text. -/
theorem take_overwrite {window count first offset : Nat} {output : Vector UInt8 window}
    {text replacement : Bytes} (hcount : count ≤ window)
    (houtput : output.toList.take count = (text.drop first).take count)
    (hoffset : offset ≤ text.length) :
    (overwrite first (first + count) offset replacement output).toList.take count =
      ((replacedAt offset replacement text).drop first).take count := by
  refine List.ext_getElem? fun place => ?_
  have hplaceOutput := congrArg (fun bytes => bytes[place]?) houtput
  simp only [List.getElem?_take, List.getElem?_drop] at hplaceOutput ⊢
  by_cases hplace : place < count
  · rw [if_pos hplace] at hplaceOutput
    rw [if_pos hplace] at hplaceOutput
    rw [if_pos hplace, if_pos hplace, getElem?_replacedAt hoffset, Vector.getElem?_toList,
      getElem?_overwrite (by omega) (by omega), ← hplaceOutput, Vector.getElem?_toList]
  · rw [if_neg hplace, if_neg hplace]

/-- A rewriting pass stands in the rewritten text. -/
structure Rewriting (serving : σ → Bytes → Prop) (offset : Nat) (replacement whole : Bytes)
    (state : GenerationRewriteByteSource σ) (text : Bytes) : Prop where
  source : ∃ source, state.source = some source ∧ serving source (whole.drop state.offset)
  size : state.expectedSize = whole.length
  generationOffset : state.generationOffset = offset
  generationBytes : state.generationBytes = replacement
  within : state.offset ≤ whole.length
  text : text = (replacedAt offset replacement whole).drop state.offset

/-- Over a source that serves a text, a rewriting source serves the rewritten one. -/
theorem serves_rewriting {answers : BoundedByteSource σ} {serving : σ → Bytes → Prop}
    (h : Serves answers serving) {offset : Nat} {replacement whole : Bytes}
    (hfits : offset + replacement.length ≤ whole.length) :
    Serves (GenerationRewriteByteSource.read answers)
      (Rewriting serving offset replacement whole) where
  read := by
    rintro ⟨_, _, _, _, begin⟩ text window ⟨⟨source, rfl, hserving⟩, rfl, rfl, rfl, hwithin, rfl⟩
      hwindow
    obtain ⟨count, output, next, hanswer, hle, hleft, hend, houtput, hnext⟩ :=
      h.read source _ window hserving hwindow
    simp only at hwithin houtput hnext hleft hend
    rw [List.length_drop] at hleft
    have hwhole := length_replacedAt hfits
    rw [GenerationRewriteByteSource.read]
    simp only [hanswer]
    by_cases hzero : count = 0
    · -- an end that the source answers is the end of the payload, so the size fits
      subst hzero
      have hdone := hend rfl
      rw [List.drop_eq_nil_iff] at hdone
      have hat : begin = whole.length := le_antisymm hwithin hdone
      rw [if_pos rfl, if_neg (not_not.2 hat)]
      refine ⟨0, output, _, rfl, Nat.zero_le _, Nat.zero_le _, fun _ => ?_, by simp, ?_⟩
      · rw [List.drop_eq_nil_iff, hwhole]
        exact hdone
      · exact ⟨⟨next, rfl, by simpa using hnext⟩, rfl, rfl, rfl, hwithin, by simp⟩
    · -- neither more than the window nor more than is left, so nothing is refused
      rw [if_neg hzero, if_neg (by omega)]
      refine ⟨count, _, _, rfl, hle, ?_, fun hnothing => absurd hnothing hzero,
        take_overwrite hle houtput (Nat.le_of_add_right_le hfits), ?_⟩
      · rw [List.length_drop, hwhole]
        omega
      · refine ⟨⟨next, rfl, ?_⟩, rfl, rfl, rfl, by simp only; omega, ?_⟩
        · simpa only [List.drop_drop] using hnext
        · rw [List.drop_drop]

end Rewriting

/-! ## What a migration leaves of a payload -/

section Migration

variable {hash : Bytes → Bytes} {engine : RelationEngine hash}

/-- **Rewriting the generation touches only the generation.** In what is written of a graph the
    offset of its generation is found, whatever serves the payload; other bytes in that place are
    what is written of the graph of another generation, and they are read as it. -/
theorem payloadGenerationOffset_rewrites (engine : RelationEngine hash) {value : SnapshotData}
    {bytes : Bytes} (hencoded : encodeSnapshot hash value = .ok bytes)
    (hlimit : bytes.length < addressable)
    (hpartitions : value.semanticManifest.partitions.length ≤ 1000000)
    (hclosures : value.semanticManifest.closureIds.length ≤ 1000000) :
    ∃ offset, offset + 8 ≤ bytes.length ∧
      (∀ (ρ σ : Type) (source : ReplayableByteSource ρ σ) (serving : σ → Bytes → Prop) (replay : ρ),
        Replays source serving replay bytes →
          payloadGenerationOffset source replay bytes.length
            value.publicationRecord.physicalGeneration = .ok offset) ∧
      ∀ generation : UInt64,
        encodeSnapshot hash (value.withGeneration generation) =
            .ok (replacedAt offset (encode 8 generation.toNat) bytes) ∧
          ∀ (ρ σ : Type) (source : ReplayableByteSource ρ σ) (serving : σ → Bytes → Prop)
            (replay : ρ) (ρ' σ' : Type) (source' : ReplayableByteSource ρ' σ')
            (serving' : σ' → Bytes → Prop) (replay' : ρ'),
            Replays source serving replay bytes →
            Replays source' serving' replay' (replacedAt offset (encode 8 generation.toNat) bytes) →
            decodeSnapshot source engine replay bytes.length = .ok value →
              decodeSnapshot source' engine replay' bytes.length =
                .ok (value.withGeneration generation) := by
  obtain ⟨back, hbytes, hall⟩ := encoded_generation hencoded
  have hsize := length_of_encoded hencoded hlimit
  have hlength : (encodeSnapshotHead .v5 value).flatten.length + 8 ≤ bytes.length := by
    rw [hbytes, List.length_append, List.length_append, length_encode]
    omega
  have hreplaced : ∀ generation : UInt64,
      (encodeSnapshotHead .v5 value).flatten ++ (encode 8 generation.toNat ++ back) =
        replacedAt (encodeSnapshotHead .v5 value).flatten.length (encode 8 generation.toNat)
          bytes := by
    intro generation
    rw [hbytes, replacedAt_middle (by rw [length_encode, length_encode])]
  refine ⟨(encodeSnapshotHead .v5 value).flatten.length, hlength, ?_, fun generation => ⟨?_, ?_⟩⟩
  · intro ρ σ source serving replay h
    exact payloadGenerationOffset_of_encoded h hbytes hsize hpartitions hclosures
  · rw [hall, hreplaced]
  · intro ρ σ source serving replay ρ' σ' source' serving' replay' h h' hdecoded
    have hmagic : framed PayloadSchema.v5.magic <+: bytes := magic_of_encoded hencoded
    obtain ⟨hwell, -⟩ := wellFormed_of_decodeSnapshot h hmagic hlimit hdecoded
    have hsame : (replacedAt (encodeSnapshotHead .v5 value).flatten.length
        (encode 8 generation.toNat) bytes).length = bytes.length :=
      length_replacedAt (by rw [length_encode]; exact hlength)
    have hrewritten := decodeSnapshot_of_wellFormed h' (by rw [hsame]; exact hlimit)
      (hwell.withGeneration generation) (by rw [hall, hreplaced])
    rwa [hsame] at hrewritten

theorem sampleSnapshot_rewrites :
    ∃ text offset, encodeSnapshot sampleHash sampleSnapshot = .ok text ∧
      payloadGenerationOffset textSource text text.length 1 = .ok offset ∧
      encodeSnapshot sampleHash (sampleSnapshot.withGeneration 7) =
        .ok (replacedAt offset (encode 8 7) text) := by
  obtain ⟨text, hencoded, hlimit, -⟩ := sampleSnapshot_text
  obtain ⟨offset, -, hoffset, hall⟩ := payloadGenerationOffset_rewrites sampleEngine hencoded
    hlimit (by decide) (by decide)
  exact ⟨text, offset, hencoded, hoffset _ _ _ _ _ (textSource_replays text), (hall 7).1⟩

/-- **A migrated payload is the snapshot it was.** Whatever is read from a payload is read from the
    source that a migration puts in its place, with the new generation and nothing else changed. -/
theorem decodeSnapshot_rewriting {ρ σ : Type} {source : ReplayableByteSource ρ σ}
    {serving : σ → Bytes → Prop} {replay : ρ} {text : Bytes}
    (h : Replays source serving replay text) (hmagic : framed PayloadSchema.v5.magic <+: text)
    (hlimit : text.length < addressable) {value : SnapshotData}
    (hdecoded : decodeSnapshot source engine replay text.length = .ok value)
    (generation : UInt64) :
    ∃ rewritten, GenerationRewritePayloadSource.create source (some replay)
        { expectedSize := text.length
          expectedGeneration := value.publicationRecord.physicalGeneration
          replacementGeneration := generation } = .ok rewritten ∧
      decodeSnapshot (rewritingSource source) engine rewritten text.length =
        .ok (value.withGeneration generation) := by
  obtain ⟨hwell, hencoded⟩ := wellFormed_of_decodeSnapshot h hmagic hlimit hdecoded
  obtain ⟨back, hbytes, hall⟩ := encoded_generation hencoded
  have hsize := length_of_encoded hencoded hlimit
  have hmanifest := hwell.readable.manifest
  have hoffset := payloadGenerationOffset_of_encoded h hbytes hsize hmanifest.partitionCount
    hmanifest.closureCount
  -- of the head only its length matters from here on
  generalize (encodeSnapshotHead .v5 value).flatten = front at hbytes hall hoffset
  have hlength : front.length + 8 ≤ text.length := by
    rw [hbytes, List.length_append, List.length_append, length_encode]
    omega
  refine ⟨⟨replay, text.length, front.length, generation⟩, ?_, ?_⟩
  · rw [GenerationRewritePayloadSource.create]
    simp only
    rw [hoffset, Fallible.ok_bind, seq_eq_ok_iff, reject_eq_ok_iff, Bool.or_eq_false_iff,
      decide_eq_false_iff_not, decide_eq_false_iff_not]
    exact ⟨⟨by omega, by omega⟩, rfl⟩
  · have hfits : front.length + (encode 8 generation.toNat).length ≤ text.length := by
      rw [length_encode]
      exact hlength
    obtain ⟨pass, hpass, hserving⟩ := h.pass
    have hreplays : Replays (rewritingSource source)
        (Rewriting serving front.length (encode 8 generation.toNat) text)
        ⟨replay, text.length, front.length, generation⟩
        (replacedAt front.length (encode 8 generation.toNat) text) :=
      { serves := serves_rewriting h.serves hfits
        pass := by
          refine ⟨⟨some pass, text.length, front.length, encode 8 generation.toNat, 0⟩, ?_, ?_⟩
          · rw [rewritingSource]
            simp only
            rw [hpass]
            rfl
          · exact ⟨⟨pass, rfl, hserving⟩, rfl, rfl, rfl, Nat.zero_le _, rfl⟩ }
    have hsame := length_replacedAt hfits
    have hrewritten := decodeSnapshot_of_wellFormed hreplays (by rw [hsame]; exact hlimit)
      (hwell.withGeneration generation) (by
        rw [hall, hbytes, replacedAt_middle (by rw [length_encode, length_encode])])
    rwa [hsame] at hrewritten

theorem sampleSnapshot_rewritten :
    ∃ text rewritten, encodeSnapshot sampleHash sampleSnapshot = .ok text ∧
      decodeSnapshot (rewritingSource textSource) sampleEngine rewritten text.length =
        .ok (sampleSnapshot.withGeneration 7) := by
  obtain ⟨text, hencoded, hlimit, hdecoded⟩ := sampleSnapshot_text
  obtain ⟨rewritten, -, hrewritten⟩ := decodeSnapshot_rewriting (textSource_replays text)
    (magic_of_encoded hencoded) hlimit hdecoded 7
  exact ⟨text, rewritten, hencoded, hrewritten⟩

end Migration

end Cxxlens.Sdk.Store
