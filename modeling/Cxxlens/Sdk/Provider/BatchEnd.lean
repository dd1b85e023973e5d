import Cxxlens.Sdk.Provider.ChunkRoundTrip

set_option autoImplicit false

/-! # Batch ends

The end of a columnar batch names its columns with their totals and the digests of its chunks, in order
(`provider.cpp`). Encoding and decoding are inverse on it (`encode_iff_decodeColumnarBatchEnd`). -/

namespace Cxxlens.Sdk

open Fallible Columnar Span
open ProtocolV2 (Digest32)

/-- `batch_column_summary` -/
structure BatchColumnSummary where
  columnId : Text
  payloadBytes : UInt64 := 0
  chunkCount : UInt64 := 0
  deriving DecidableEq, Repr

/-- `columnar_batch_end`; the sizes of its vectors are `std::size_t`. -/
structure ColumnarBatchEnd where
  taskId : Text
  dependencyGroupId : Text
  atomicOutputGroupId : Text
  batchId : Text
  descriptorId : Text
  descriptorDigest : Text
  rowCount : UInt64 := 0
  columns : List BatchColumnSummary
  orderedChunkDigests : List Text
  batchDigest : Text
  columnsSize : columns.length < 2 ^ 64
  digestsSize : orderedChunkDigests.length < 2 ^ 64
  deriving DecidableEq, Repr

/-- `encoded_columnar_batch_end` -/
structure EncodedColumnarBatchEnd where
  control : Bytes
  payload : Bytes
  deriving DecidableEq, Repr

/-- `batch_semantic_fields` -/
def batchSemanticFields (value : ColumnarBatchEnd) : CborFields :=
  [("task_id", .text value.taskId),
    ("dependency_group_id", .text value.dependencyGroupId),
    ("atomic_output_group_id", .text value.atomicOutputGroupId),
    ("batch_id", .text value.batchId),
    ("descriptor_id", .text value.descriptorId),
    ("descriptor_digest", .text value.descriptorDigest),
    ("row_count", .number value.rowCount),
    ("column_count", .number (UInt64.ofNat value.columns.length)),
    ("chunk_count", .number (UInt64.ofNat value.orderedChunkDigests.length))]

/-- `digest_field` -/
def digestField (name : Bytes) (value : CanonicalValue) : CanonicalValue :=
  .fromTuple [.fromString name, value]

/-- `batch_additional_fields` -/
def batchAdditionalFields (value : ColumnarBatchEnd) : List CanonicalValue :=
  [digestField "columns" (.fromTuple (value.columns.map fun column =>
      .fromTuple [digestTextField "column_id" column.columnId.bytes,
        digestU64Field "payload_bytes" column.payloadBytes,
        digestU64Field "chunk_count" column.chunkCount])),
    digestField "ordered_chunk_digests" (.fromTuple (value.orderedChunkDigests.map fun digest =>
      digestTextField "chunk_digest" digest.bytes))]

/-- `CXBE`, the version and three bytes that are reserved. -/
def batchHeader : Bytes :=
  [0x43, 0x58, 0x42, 0x45, 1, 0, 0, 0]

/-- What the payload says of a column. -/
def columnEntry (column : BatchColumnSummary) : Bytes :=
  encode 2 column.columnId.bytes.length ++ column.columnId.bytes ++
    encode 8 column.payloadBytes.toNat ++ encode 8 column.chunkCount.toNat

/-- What the payload says of a chunk. -/
def digestEntry (digest : Text) : Bytes :=
  encode 2 digest.bytes.length ++ digest.bytes

/-- The columns in order, then the digests in order. -/
def batchPayload (value : ColumnarBatchEnd) : Bytes :=
  batchHeader ++ value.columns.flatMap columnEntry ++ value.orderedChunkDigests.flatMap digestEntry

section Codec

variable (hash : Bytes → Digest32)

/-- `batch_digest` -/
def batchDigest (value : ColumnarBatchEnd) : Result Text :=
  semanticFieldsDigest hash "cxxlens.provider-columnar-batch.v2"
    "cxxlens.provider-columnar-batch-digest.v2" (batchSemanticFields value)
    (batchAdditionalFields value) value.batchId.bytes

/-! ## Encoding -/

/-- The checks of a column that both loops make; `ids` and `summarized` are of those before. -/
def summaryInvalid (emptyBatch : Bool) (ids : List Bytes) (summarized : Nat)
    (column : BatchColumnSummary) : Bool :=
  !validUtf8 column.columnId.bytes || emptyBatch != (column.chunkCount == 0) ||
    (emptyBatch && column.payloadBytes != 0) || ids.contains column.columnId.bytes ||
    column.chunkCount.toNat > 2 ^ 64 - 1 - summarized

/-- The loop over the columns; `ids` and `summarized` are of those before. -/
def checkColumns (batchId : Bytes) (emptyBatch : Bool) :
    (ids : List Bytes) → (summarized : Nat) → List BatchColumnSummary → Result Nat
  | _, summarized, [] => .ok summarized
  | ids, summarized, column :: rest => do
    reject (column.columnId.bytes.isEmpty || column.columnId.bytes.length > 0xffff ||
        summaryInvalid emptyBatch ids summarized column)
      (columnarInvalid batchId "column-summary")
    checkColumns batchId emptyBatch (column.columnId.bytes :: ids)
      (summarized + column.chunkCount.toNat) rest

/-- The check of the loop over the digests. -/
def checkDigest (batchId : Bytes) (digest : Text) : Result Unit :=
  reject (!canonicalDigest digest.bytes || digest.bytes.length > 0xffff)
    (columnarInvalid batchId "chunk-summary")

/-- `encode_columnar_batch_end` -/
def encodeColumnarBatchEnd (value : ColumnarBatchEnd) : Result EncodedColumnarBatchEnd :=
  let emptyBatch := value.rowCount == 0
  match encodeSemanticControl hash "cxxlens.provider-columnar-batch.v2"
      "cxxlens.provider-columnar-batch-digest.v2" (batchSemanticFields value)
      (batchAdditionalFields value) "batch_digest" value.batchId.bytes with
  | .error _ => .error (columnarInvalid value.batchId.bytes "batch-end")
  | .ok semantic => do
    reject (value.taskId.bytes.isEmpty || value.dependencyGroupId.bytes.isEmpty ||
        value.atomicOutputGroupId.bytes.isEmpty || value.batchId.bytes.isEmpty ||
        value.descriptorId.bytes.isEmpty || !canonicalDigest value.descriptorDigest.bytes ||
        value.columns.isEmpty || emptyBatch != value.orderedChunkDigests.isEmpty ||
        value.batchDigest != semantic.digest)
      (columnarInvalid value.batchId.bytes "batch-end")
    let summarized ← checkColumns value.batchId.bytes emptyBatch [] 0 value.columns
    reject (summarized != value.orderedChunkDigests.length)
      (columnarInvalid value.batchId.bytes "chunk-count")
    firstError (checkDigest value.batchId.bytes) value.orderedChunkDigests
    .ok { control := semantic.control, payload := batchPayload value }

end Codec

/-! ## Decoding -/

/-- A text of the payload, behind the two bytes of its length. -/
def textAt (payload : Bytes) (offset : Nat) : Text where
  bytes := slice payload (offset + 2) (offset + 2 + wordAt 2 payload offset)
  size := by
    have hlt : wordAt 2 payload offset < 256 ^ 2 := wordAt_lt 2 payload offset
    rw [slice, List.length_take]
    omega

/-- A column of the payload: its text and two words. -/
def summaryAt (payload : Bytes) (offset : Nat) : BatchColumnSummary where
  columnId := textAt payload offset
  payloadBytes := UInt64.ofNat (wordAt 8 payload (offset + 2 + wordAt 2 payload offset))
  chunkCount := UInt64.ofNat (wordAt 8 payload (offset + 2 + wordAt 2 payload offset + 8))

/-- The loop over the columns; `ids` and `summarized` are of those before. -/
def readColumns (batchId : Bytes) (emptyBatch : Bool) (payload : Bytes) :
    (count offset : Nat) → (ids : List Bytes) → (summarized : Nat) →
      Result (List BatchColumnSummary × Nat × Nat)
  | 0, offset, _, summarized => .ok ([], offset, summarized)
  | count + 1, offset, ids, summarized => do
    reject (offset > payload.length || payload.length - offset < 2)
      (columnarInvalid batchId "column-length")
    let length := wordAt 2 payload offset
    reject (length == 0 || payload.length - (offset + 2) < length + 16)
      (columnarInvalid batchId "column-entry")
    let column := summaryAt payload offset
    reject (summaryInvalid emptyBatch ids summarized column)
      (columnarInvalid batchId "column-summary")
    let (rest, last, total) ← readColumns batchId emptyBatch payload count
      (offset + 2 + length + 16) (column.columnId.bytes :: ids)
      (summarized + column.chunkCount.toNat)
    .ok (column :: rest, last, total)

/-- The loop over the digests. -/
def readDigests (batchId : Bytes) (payload : Bytes) :
    (count offset : Nat) → Result (List Text × Nat)
  | 0, offset => .ok ([], offset)
  | count + 1, offset => do
    reject (offset > payload.length || payload.length - offset < 2)
      (columnarInvalid batchId "digest-length")
    let length := wordAt 2 payload offset
    reject (length == 0 || payload.length - (offset + 2) < length)
      (columnarInvalid batchId "digest-entry")
    let digest := textAt payload offset
    reject (!canonicalDigest digest.bytes) (columnarInvalid batchId "chunk-digest")
    let (rest, last) ← readDigests batchId payload count (offset + 2 + length)
    .ok (digest :: rest, last)

/-- The names of a control. -/
structure BatchNames where
  taskId : Text
  dependencyGroupId : Text
  atomicOutputGroupId : Text
  batchId : Text
  descriptorId : Text
  descriptorDigest : Text
  batchDigest : Text

/-- `assign`: a text that is not empty. -/
def assignText (fields : CborFields) (key : Bytes) : Option Text :=
  (textField fields key).filter fun value => !value.bytes.isEmpty

/-- What `assign` fills. -/
def batchNames (fields : CborFields) : Option BatchNames := do
  let taskId ← assignText fields "task_id"
  let dependencyGroupId ← assignText fields "dependency_group_id"
  let atomicOutputGroupId ← assignText fields "atomic_output_group_id"
  let batchId ← assignText fields "batch_id"
  let descriptorId ← assignText fields "descriptor_id"
  let descriptorDigest ← assignText fields "descriptor_digest"
  let batchDigest ← assignText fields "batch_digest"
  some { taskId, dependencyGroupId, atomicOutputGroupId, batchId, descriptorId, descriptorDigest,
         batchDigest }

/-- `column_count`, `chunk_count` and `row_count` -/
def batchCounts (fields : CborFields) : Option (UInt64 × UInt64 × UInt64) := do
  let columnCount ← numberField fields "column_count"
  let chunkCount ← numberField fields "chunk_count"
  let rowCount ← numberField fields "row_count"
  some (columnCount, chunkCount, rowCount)

/-- The columns and the digests of a payload, with their end. -/
def readSummary (batchId : Bytes) (payload : Bytes) (columnCount chunkCount rowCount : UInt64) :
    Result (List BatchColumnSummary × List Text × Nat) := do
  let (columns, next, summarized) ←
    readColumns batchId (rowCount == 0) payload columnCount.toNat 8 [] 0
  reject (summarized != chunkCount.toNat) (columnarInvalid batchId "chunk-count")
  let (digests, last) ← readDigests batchId payload chunkCount.toNat next
  .ok (columns, digests, last)

theorem readColumns_length {batchId payload : Bytes} {emptyBatch : Bool} {count : Nat} :
    ∀ {offset : Nat} {ids : List Bytes} {summarized : Nat} {columns : List BatchColumnSummary}
      {last total : Nat},
      readColumns batchId emptyBatch payload count offset ids summarized =
        .ok (columns, last, total) → columns.length = count := by
  induction count with
  | zero =>
      intro offset ids summarized columns last total h
      simp only [readColumns, Except.ok.injEq, Prod.mk.injEq] at h
      obtain ⟨rfl, -⟩ := h
      rfl
  | succ count ih =>
      intro offset ids summarized columns last total h
      simp only [readColumns, bind_eq_ok_iff, Unique.exists_iff, PUnit.default_eq_unit,
        Except.ok.injEq, Prod.exists, Prod.mk.injEq] at h
      obtain ⟨-, -, -, rest, _, _, hrest, rfl, -⟩ := h
      rw [List.length_cons, ih hrest]

theorem readDigests_length {batchId payload : Bytes} {count : Nat} :
    ∀ {offset : Nat} {digests : List Text} {last : Nat},
      readDigests batchId payload count offset = .ok (digests, last) → digests.length = count := by
  induction count with
  | zero =>
      intro offset digests last h
      simp only [readDigests, Except.ok.injEq, Prod.mk.injEq] at h
      obtain ⟨rfl, -⟩ := h
      rfl
  | succ count ih =>
      intro offset digests last h
      simp only [readDigests, bind_eq_ok_iff, Unique.exists_iff, PUnit.default_eq_unit,
        Except.ok.injEq, Prod.exists, Prod.mk.injEq] at h
      obtain ⟨-, -, -, rest, _, hrest, rfl, -⟩ := h
      rw [List.length_cons, ih hrest]

theorem readSummary_lengths {batchId payload : Bytes} {columnCount chunkCount rowCount : UInt64}
    {columns : List BatchColumnSummary} {digests : List Text} {last : Nat}
    (h : readSummary batchId payload columnCount chunkCount rowCount =
      .ok (columns, digests, last)) :
    columns.length = columnCount.toNat ∧ digests.length = chunkCount.toNat := by
  simp only [readSummary, bind_eq_ok_iff, Unique.exists_iff, PUnit.default_eq_unit,
    Except.ok.injEq, Prod.exists, Prod.mk.injEq] at h
  obtain ⟨found, next, total, hcolumns, -, others, _, hdigests, rfl, rfl, -⟩ := h
  exact ⟨readColumns_length hcolumns, readDigests_length hdigests⟩

section Codec

variable (hash : Bytes → Digest32)

/-- The end of `decode_columnar_batch_end`, where the names and counts are known. -/
def decodeSummary (payload : Bytes) (names : BatchNames)
    (columnCount chunkCount rowCount : UInt64) : Result ColumnarBatchEnd :=
  match hsummary : readSummary names.batchId.bytes payload columnCount chunkCount rowCount with
  | .error error => .error error
  | .ok (columns, orderedChunkDigests, last) =>
    let output : ColumnarBatchEnd := {
      taskId := names.taskId, dependencyGroupId := names.dependencyGroupId,
      atomicOutputGroupId := names.atomicOutputGroupId, batchId := names.batchId,
      descriptorId := names.descriptorId, descriptorDigest := names.descriptorDigest, rowCount,
      columns, orderedChunkDigests, batchDigest := names.batchDigest,
      columnsSize := (readSummary_lengths hsummary).1 ▸ columnCount.toNat_lt,
      digestsSize := (readSummary_lengths hsummary).2 ▸ chunkCount.toNat_lt }
    match batchDigest hash output with
    | .error _ => .error (columnarInvalid names.batchId.bytes "batch-digest")
    | .ok expected => do
      reject (last != payload.length || output.batchDigest != expected)
        (columnarInvalid names.batchId.bytes "batch-digest")
      .ok output

/-- `decode_columnar_batch_end` -/
def decodeColumnarBatchEnd (control payload : Bytes) : Result ColumnarBatchEnd :=
  match decodeCborMap control with
  | .error _ => .error (columnarInvalid "batch-end" "header")
  | .ok fields =>
    if fields.length ≠ 10 ∨ payload.length < 8 ∨ payload.take 8 ≠ batchHeader then
      .error (columnarInvalid "batch-end" "header")
    else
      match batchCounts fields with
      | none => .error (columnarInvalid "batch-end" "counts")
      | some (columnCount, chunkCount, rowCount) =>
        if columnCount = 0 ∨ ((rowCount == 0) != (chunkCount == 0)) = true then
          .error (columnarInvalid "batch-end" "counts")
        else
          match batchNames fields with
          | none => .error (columnarInvalid "batch-end" "fields")
          | some names =>
            if canonicalDigest names.descriptorDigest.bytes = false ∨
                canonicalDigest names.batchDigest.bytes = false then
              .error (columnarInvalid names.batchId.bytes "digest")
            else decodeSummary hash payload names columnCount chunkCount rowCount

end Codec

/-! ## Entries -/

theorem length_textAt {payload : Bytes} {offset : Nat}
    (h : offset + 2 + wordAt 2 payload offset ≤ payload.length) :
    (textAt payload offset).bytes.length = wordAt 2 payload offset := by
  rw [textAt, length_slice h, Nat.add_sub_cancel_left]

/-- A text is read where its length and its bytes stand. -/
theorem textAt_iff {payload : Bytes} {offset : Nat} {text : Text} :
    offset + 2 + wordAt 2 payload offset ≤ payload.length ∧ textAt payload offset = text ↔
      text.bytes.length ≤ 0xffff ∧
        At payload offset (encode 2 text.bytes.length ++ text.bytes) := by
  constructor
  · rintro ⟨hbytes, rfl⟩
    have hlt := wordAt_lt 2 payload offset
    rw [length_textAt hbytes, at_append, length_encode]
    exact ⟨by omega, at_wordAt (by omega), at_slice _ _ _⟩
  · rintro ⟨hsmall, hat⟩
    have hend := hat.length_le
    rw [List.length_append, length_encode] at hend
    rw [at_append, length_encode] at hat
    have hword := wordAt_of_at (by omega) hat.1
    refine ⟨by omega, Text.ext ?_⟩
    have hslice : (textAt payload offset).bytes =
        slice payload (offset + 2) (offset + 2 + wordAt 2 payload offset) := rfl
    rw [hslice, hword, hat.2.slice_eq]

theorem length_columnEntry (column : BatchColumnSummary) :
    (columnEntry column).length = 2 + column.columnId.bytes.length + 16 := by
  simp [columnEntry, Nat.add_assoc]

theorem length_digestEntry (digest : Text) :
    (digestEntry digest).length = 2 + digest.bytes.length := by
  simp [digestEntry]

/-- A column is read where its entry stands. -/
theorem summaryAt_iff {payload : Bytes} {offset : Nat} {column : BatchColumnSummary} :
    offset + 2 + wordAt 2 payload offset + 16 ≤ payload.length ∧
        summaryAt payload offset = column ↔
      column.columnId.bytes.length ≤ 0xffff ∧ At payload offset (columnEntry column) := by
  constructor
  · rintro ⟨hend, rfl⟩
    obtain ⟨hsmall, hat⟩ := textAt_iff.1
      ⟨(by omega : offset + 2 + wordAt 2 payload offset ≤ payload.length), rfl⟩
    have hlength := @length_textAt payload offset (by omega)
    refine ⟨hsmall, ?_⟩
    rw [columnEntry, at_append, at_append, List.length_append, List.length_append, length_encode,
      length_encode]
    simp only [summaryAt, toNat_wordAt, hlength]
    rw [hlength] at hat
    refine ⟨⟨hat, ?_⟩, ?_⟩
    · rw [← Nat.add_assoc]
      exact at_wordAt (by omega)
    · rw [← Nat.add_assoc, List.length_append, length_encode, hlength, ← Nat.add_assoc]
      exact at_wordAt (by omega)
  · rintro ⟨hsmall, hat⟩
    have hend := hat.length_le
    rw [length_columnEntry] at hend
    rw [columnEntry, at_append, at_append, List.length_append, List.length_append, length_encode,
      length_encode] at hat
    obtain ⟨⟨hid, hbytes⟩, hcount⟩ := hat
    obtain ⟨-, htext⟩ := textAt_iff.2 ⟨hsmall, hid⟩
    have hword : wordAt 2 payload offset = column.columnId.bytes.length :=
      wordAt_of_at (by omega) ((at_append _ _ _ _).1 hid).1
    rw [← Nat.add_assoc] at hbytes
    rw [← Nat.add_assoc, List.length_append, length_encode, ← Nat.add_assoc] at hcount
    have hpayload := wordAt_of_at column.payloadBytes.toNat_lt hbytes
    have hchunks := wordAt_of_at column.chunkCount.toNat_lt hcount
    refine ⟨by omega, ?_⟩
    rw [summaryAt, hword, hpayload, hchunks, htext, UInt64.ofNat_toNat, UInt64.ofNat_toNat]

theorem digestAt_iff {payload : Bytes} {offset : Nat} {digest : Text} :
    offset + 2 + wordAt 2 payload offset ≤ payload.length ∧ textAt payload offset = digest ↔
      digest.bytes.length ≤ 0xffff ∧ At payload offset (digestEntry digest) :=
  textAt_iff

/-- The columns are read exactly where their entries stand, if they pass the checks of the encoder. -/
theorem readColumns_eq_ok_iff {batchId payload : Bytes} {emptyBatch : Bool} {count : Nat} :
    ∀ {offset : Nat} {ids : List Bytes} {summarized : Nat} {columns : List BatchColumnSummary}
      {last total : Nat},
      readColumns batchId emptyBatch payload count offset ids summarized =
          .ok (columns, last, total) ↔
        columns.length = count ∧ At payload offset (columns.flatMap columnEntry) ∧
          last = offset + (columns.flatMap columnEntry).length ∧
          checkColumns batchId emptyBatch ids summarized columns = .ok total := by
  induction count with
  | zero =>
      intro offset ids summarized columns last total
      simp only [readColumns, Except.ok.injEq, Prod.mk.injEq, List.length_eq_zero_iff]
      constructor
      · rintro ⟨rfl, rfl, rfl⟩
        exact ⟨rfl, by simp, by simp, rfl⟩
      · rintro ⟨rfl, -, rfl, htotal⟩
        rw [checkColumns, Except.ok.injEq] at htotal
        exact ⟨rfl, by simp, htotal⟩
  | succ count ih =>
      intro offset ids summarized columns last total
      simp only [readColumns, bind_eq_ok_iff, Unique.exists_iff, PUnit.default_eq_unit,
        Except.ok.injEq, Prod.exists, Prod.mk.injEq, reject_eq_ok_iff, ih, Bool.or_eq_false_iff,
        decide_eq_false_iff_not, not_lt, beq_eq_false_iff_ne]
      constructor
      · rintro ⟨⟨hbegin, hword⟩, ⟨hpositive, hfits⟩, hchecks, rest, _, _,
          ⟨hlength, hat, rfl, htotal⟩, rfl, rfl, rfl⟩
        have hend : offset + 2 + wordAt 2 payload offset + 16 ≤ payload.length := by omega
        obtain ⟨hsmall, hentry⟩ := summaryAt_iff.1 ⟨hend, rfl⟩
        have hid : (summaryAt payload offset).columnId.bytes.length = wordAt 2 payload offset :=
          length_textAt (by omega)
        have hnext : offset + (columnEntry (summaryAt payload offset)).length =
            offset + 2 + wordAt 2 payload offset + 16 := by
          rw [length_columnEntry, hid]
          omega
        refine ⟨by simp [hlength], ?_, ?_, ?_⟩
        · rw [List.flatMap_cons, at_append, hnext]
          exact ⟨hentry, hat⟩
        · rw [List.flatMap_cons, List.length_append, ← Nat.add_assoc, hnext]
        · simp only [checkColumns, seq_eq_ok_iff, reject_eq_ok_iff, Bool.or_eq_false_iff,
            decide_eq_false_iff_not, not_lt, List.isEmpty_eq_false_iff, ← List.length_pos_iff]
          exact ⟨⟨⟨by omega, hsmall⟩, hchecks⟩, htotal⟩
      · rintro ⟨hlength, hat, rfl, htotal⟩
        cases columns with
        | nil => cases hlength
        | cons column rest =>
            simp only [checkColumns, seq_eq_ok_iff, reject_eq_ok_iff, Bool.or_eq_false_iff,
              decide_eq_false_iff_not, not_lt, List.isEmpty_eq_false_iff,
              ← List.length_pos_iff] at htotal
            obtain ⟨⟨⟨hpositive, hsmall⟩, hchecks⟩, htotal⟩ := htotal
            rw [List.flatMap_cons, at_append] at hat
            obtain ⟨hend, hentry⟩ := summaryAt_iff.2 ⟨hsmall, hat.1⟩
            have hid : column.columnId.bytes.length = wordAt 2 payload offset := by
              rw [← hentry]
              exact length_textAt (by omega)
            have hnext : offset + (columnEntry column).length =
                offset + 2 + wordAt 2 payload offset + 16 := by
              rw [length_columnEntry, hid]
              omega
            rw [hnext] at hat
            rw [hentry]
            refine ⟨⟨by omega, by omega⟩, ⟨by omega, by omega⟩, hchecks, rest, _, _,
              ⟨by simpa using hlength, hat.2, rfl, htotal⟩, rfl, ?_, rfl⟩
            rw [List.flatMap_cons, List.length_append, ← Nat.add_assoc, hnext]

theorem canonicalDigest_length {value : Bytes} (h : canonicalDigest value = true) :
    0 < value.length := by
  cases value with
  | nil => exact absurd h (by decide)
  | cons byte rest => simp

/-- The digests are read exactly where their entries stand, if they pass the check of the encoder. -/
theorem readDigests_eq_ok_iff {batchId payload : Bytes} {count : Nat} :
    ∀ {offset : Nat} {digests : List Text} {last : Nat},
      readDigests batchId payload count offset = .ok (digests, last) ↔
        digests.length = count ∧ At payload offset (digests.flatMap digestEntry) ∧
          last = offset + (digests.flatMap digestEntry).length ∧
          firstError (checkDigest batchId) digests = .ok () := by
  simp only [firstError_eq_ok_iff, checkDigest, reject_eq_ok_iff, Bool.or_eq_false_iff,
    Bool.not_eq_false', decide_eq_false_iff_not, not_lt]
  induction count with
  | zero =>
      intro offset digests last
      simp only [readDigests, Except.ok.injEq, Prod.mk.injEq, List.length_eq_zero_iff]
      constructor
      · rintro ⟨rfl, rfl⟩
        exact ⟨rfl, by simp, by simp, by simp⟩
      · rintro ⟨rfl, -, rfl, -⟩
        exact ⟨rfl, by simp⟩
  | succ count ih =>
      intro offset digests last
      simp only [readDigests, bind_eq_ok_iff, Unique.exists_iff, PUnit.default_eq_unit,
        Except.ok.injEq, Prod.exists, Prod.mk.injEq, reject_eq_ok_iff, ih, Bool.or_eq_false_iff,
        decide_eq_false_iff_not, not_lt, beq_eq_false_iff_ne, Bool.not_eq_false']
      constructor
      · rintro ⟨⟨hbegin, hword⟩, ⟨hpositive, hfits⟩, hcanonical, rest, _,
          ⟨hlength, hat, rfl, hrest⟩, rfl, rfl⟩
        have hend : offset + 2 + wordAt 2 payload offset ≤ payload.length := by omega
        obtain ⟨hsmall, hentry⟩ := digestAt_iff.1 ⟨hend, rfl⟩
        have hnext : offset + (digestEntry (textAt payload offset)).length =
            offset + 2 + wordAt 2 payload offset := by
          rw [length_digestEntry, length_textAt hend]
          omega
        refine ⟨by simp [hlength], ?_, ?_, List.forall_mem_cons.2 ⟨⟨hcanonical, hsmall⟩, hrest⟩⟩
        · rw [List.flatMap_cons, at_append, hnext]
          exact ⟨hentry, hat⟩
        · rw [List.flatMap_cons, List.length_append, ← Nat.add_assoc, hnext]
      · rintro ⟨hlength, hat, rfl, hdigests⟩
        cases digests with
        | nil => cases hlength
        | cons digest rest =>
            obtain ⟨⟨hcanonical, hsmall⟩, hrest⟩ := List.forall_mem_cons.1 hdigests
            have hpositive := canonicalDigest_length hcanonical
            rw [List.flatMap_cons, at_append] at hat
            obtain ⟨hend, hentry⟩ := digestAt_iff.2 ⟨hsmall, hat.1⟩
            have hlast := length_textAt hend
            rw [hentry] at hlast
            have hnext : offset + (digestEntry digest).length =
                offset + 2 + wordAt 2 payload offset := by
              rw [length_digestEntry, hlast]
              omega
            rw [hnext] at hat
            rw [hentry]
            refine ⟨⟨by omega, by omega⟩, ⟨by omega, by omega⟩, hcanonical, rest, _,
              ⟨by simpa using hlength, hat.2, rfl, hrest⟩, rfl, ?_⟩
            rw [List.flatMap_cons, List.length_append, ← Nat.add_assoc, hnext]

/-! ## Controls -/

/-- The ten fields of a control. -/
def batchControl (value : ColumnarBatchEnd) : CborFields :=
  batchSemanticFields value ++ [(ascii "batch_digest", CborScalar.text value.batchDigest)]

theorem batchControl_nodup (value : ColumnarBatchEnd) :
    ((batchControl value).map Prod.fst).Nodup := by
  simp only [batchControl, batchSemanticFields, List.map_append, List.map_cons, List.map_nil]
  decide

theorem batchControl_sizes (value : ColumnarBatchEnd) :
    (∀ field ∈ batchControl value, field.1.length < 2 ^ 64) ∧
      (batchControl value).length < 2 ^ 64 := by
  unfold batchControl batchSemanticFields
  simp only [List.cons_append, List.nil_append, List.forall_mem_cons, List.not_mem_nil,
    false_imp_iff, implies_true, and_true, List.length_cons, List.length_nil]
  decide

theorem assignText_eq_some_iff {fields : CborFields} {key : Bytes} {value : Text}
    (hnodup : (fields.map Prod.fst).Nodup) :
    assignText fields key = some value ↔ (key, .text value) ∈ fields ∧ value.bytes ≠ [] := by
  rw [assignText, Option.filter_eq_some_iff, textField_eq_some_iff hnodup]
  simp

theorem toNat_length {α : Type} {items : List α} (h : items.length < 2 ^ 64) :
    (UInt64.ofNat items.length).toNat = items.length := by
  rw [UInt64.toNat_ofNat', Nat.mod_eq_of_lt h]

theorem isEmpty_eq_of_length {α : Type} {items : List α} {count : UInt64}
    (h : items.length = count.toNat) : items.isEmpty = (count == 0) := by
  rw [Bool.eq_iff_iff, List.isEmpty_iff, beq_iff_eq, ← List.length_eq_zero_iff, h,
    ← UInt64.toNat_inj]
  rfl

/-- What both sides ask of a batch end. -/
structure BatchWritten (hash : Bytes → Digest32) (value : ColumnarBatchEnd)
    (control payload : Bytes) : Prop where
  taskId : value.taskId.bytes ≠ []
  dependencyGroupId : value.dependencyGroupId.bytes ≠ []
  atomicOutputGroupId : value.atomicOutputGroupId.bytes ≠ []
  batchId : value.batchId.bytes ≠ []
  descriptorId : value.descriptorId.bytes ≠ []
  descriptorDigest : canonicalDigest value.descriptorDigest.bytes = true
  columns : value.columns ≠ []
  rows : (value.rowCount == 0) = value.orderedChunkDigests.isEmpty
  digest : batchDigest hash value = .ok value.batchDigest
  control : encodeCborMap (batchControl value) = .ok control
  summary : checkColumns value.batchId.bytes (value.rowCount == 0) [] 0 value.columns =
    .ok value.orderedChunkDigests.length
  digests : firstError (checkDigest value.batchId.bytes) value.orderedChunkDigests = .ok ()
  payload : payload = batchPayload value

section RoundTrip

variable {hash : Bytes → Digest32} {value : ColumnarBatchEnd} {control payload : Bytes}

theorem encodeColumnarBatchEnd_eq_ok_iff :
    encodeColumnarBatchEnd hash value = .ok ⟨control, payload⟩ ↔
      BatchWritten hash value control payload := by
  unfold encodeColumnarBatchEnd
  constructor
  · intro h
    dsimp only at h
    split at h
    · cases h
    · rename_i semantic hsemantic
      obtain ⟨hdigest, hcontrol⟩ := encodeSemanticControl_eq_ok_iff.1 hsemantic
      simp only [bind_eq_ok_iff, Unique.exists_iff, PUnit.default_eq_unit, reject_eq_ok_iff,
        Except.ok.injEq, Bool.or_eq_false_iff, List.isEmpty_eq_false_iff, Bool.not_eq_false',
        bne_eq_false_iff_eq, EncodedColumnarBatchEnd.mk.injEq] at h
      obtain ⟨⟨⟨⟨⟨⟨⟨⟨⟨htask, hgroup⟩, houtput⟩, hbatch⟩, hdescriptor⟩, hcanonical⟩, hcolumns⟩, hrows⟩,
        hsame⟩, total, hsummary, rfl, hdigests, rfl, rfl⟩ := h
      rw [← hsame] at hdigest hcontrol
      exact ⟨htask, hgroup, houtput, hbatch, hdescriptor, hcanonical, hcolumns, hrows, hdigest,
        hcontrol, hsummary, hdigests, rfl⟩
  · intro h
    have hsemantic := (@encodeSemanticControl_eq_ok_iff hash "cxxlens.provider-columnar-batch.v2"
      "cxxlens.provider-columnar-batch-digest.v2" "batch_digest" value.batchId.bytes
      (batchSemanticFields value) (batchAdditionalFields value) ⟨value.batchDigest, control⟩).2
      ⟨h.digest, h.control⟩
    rw [hsemantic]
    simp only [bind_eq_ok_iff, Unique.exists_iff, PUnit.default_eq_unit, reject_eq_ok_iff,
      Except.ok.injEq, Bool.or_eq_false_iff, List.isEmpty_eq_false_iff, Bool.not_eq_false',
      bne_eq_false_iff_eq, EncodedColumnarBatchEnd.mk.injEq]
    exact ⟨⟨⟨⟨⟨⟨⟨⟨⟨h.taskId, h.dependencyGroupId⟩, h.atomicOutputGroupId⟩, h.batchId⟩, h.descriptorId⟩,
      h.descriptorDigest⟩, h.columns⟩, h.rows⟩, trivial⟩, _, h.summary, rfl, h.digests, trivial,
      h.payload.symm⟩

theorem readSummary_eq_ok_iff {batchId : Bytes} {columnCount chunkCount rowCount : UInt64}
    {columns : List BatchColumnSummary} {digests : List Text} {last : Nat} :
    readSummary batchId payload columnCount chunkCount rowCount = .ok (columns, digests, last) ↔
      columns.length = columnCount.toNat ∧ digests.length = chunkCount.toNat ∧
      checkColumns batchId (rowCount == 0) [] 0 columns = .ok chunkCount.toNat ∧
      firstError (checkDigest batchId) digests = .ok () ∧
      At payload 8 (columns.flatMap columnEntry ++ digests.flatMap digestEntry) ∧
      last = 8 + (columns.flatMap columnEntry ++ digests.flatMap digestEntry).length := by
  simp only [readSummary, bind_eq_ok_iff, Unique.exists_iff, PUnit.default_eq_unit,
    Except.ok.injEq, Prod.exists, Prod.mk.injEq, reject_eq_ok_iff, readColumns_eq_ok_iff,
    readDigests_eq_ok_iff, bne_eq_false_iff_eq]
  constructor
  · rintro ⟨_, _, _, ⟨hcolumns, hat, rfl, hsummary⟩, rfl, _, _, ⟨hdigests, hatDigests, rfl, hchecks⟩,
      rfl, rfl, rfl⟩
    refine ⟨hcolumns, hdigests, hsummary, hchecks, (at_append _ _ _ _).2 ⟨hat, hatDigests⟩, ?_⟩
    rw [List.length_append, Nat.add_assoc]
  · rintro ⟨hcolumns, hdigests, hsummary, hchecks, hat, rfl⟩
    obtain ⟨hat, hatDigests⟩ := (at_append _ _ _ _).1 hat
    refine ⟨_, _, _, ⟨hcolumns, hat, rfl, hsummary⟩, rfl, _, _, ⟨hdigests, hatDigests, rfl, hchecks⟩,
      rfl, rfl, ?_⟩
    rw [List.length_append, Nat.add_assoc]

/-- The names of a batch end. -/
def ColumnarBatchEnd.names (value : ColumnarBatchEnd) : BatchNames where
  taskId := value.taskId
  dependencyGroupId := value.dependencyGroupId
  atomicOutputGroupId := value.atomicOutputGroupId
  batchId := value.batchId
  descriptorId := value.descriptorId
  descriptorDigest := value.descriptorDigest
  batchDigest := value.batchDigest

theorem decodeSummary_eq_ok_iff {names : BatchNames} {columnCount chunkCount rowCount : UInt64} :
    decodeSummary hash payload names columnCount chunkCount rowCount = .ok value ↔
      readSummary names.batchId.bytes payload columnCount chunkCount rowCount =
          .ok (value.columns, value.orderedChunkDigests, payload.length) ∧
        names = value.names ∧ rowCount = value.rowCount ∧
        batchDigest hash value = .ok value.batchDigest := by
  unfold decodeSummary
  constructor
  · intro h
    split at h
    · cases h
    · rename_i columns digests last hsummary
      dsimp only at h
      split at h
      · cases h
      · rename_i expected hexpected
        simp only [seq_eq_ok_iff, reject_eq_ok_iff, Bool.or_eq_false_iff, bne_eq_false_iff_eq,
          Except.ok.injEq] at h
        obtain ⟨⟨rfl, rfl⟩, rfl⟩ := h
        exact ⟨hsummary, rfl, rfl, hexpected⟩
  · rintro ⟨hsummary, rfl, rfl, hdigest⟩
    split
    · rename_i error herror
      rw [hsummary] at herror
      cases herror
    · rename_i columns digests last hfound
      have hsame := hfound.symm.trans hsummary
      simp only [Except.ok.injEq, Prod.mk.injEq] at hsame
      obtain ⟨rfl, rfl, rfl⟩ := hsame
      have hvalue : batchDigest hash value = .ok value.names.batchDigest := hdigest
      dsimp only
      split
      · rename_i error herror
        exact absurd (hvalue.symm.trans herror) (by simp)
      · rename_i expected hexpected
        obtain rfl := Except.ok.inj (hvalue.symm.trans hexpected)
        simp only [seq_eq_ok_iff, reject_eq_ok_iff, Bool.or_eq_false_iff, bne_eq_false_iff_eq]
        exact ⟨⟨trivial, trivial⟩, rfl⟩

theorem batchCounts_eq_some_iff {fields : CborFields} (hnodup : (fields.map Prod.fst).Nodup)
    {columnCount chunkCount rowCount : UInt64} :
    batchCounts fields = some (columnCount, chunkCount, rowCount) ↔
      (ascii "column_count", CborScalar.number columnCount) ∈ fields ∧
        (ascii "chunk_count", CborScalar.number chunkCount) ∈ fields ∧
        (ascii "row_count", CborScalar.number rowCount) ∈ fields := by
  simp only [batchCounts, Option.bind_eq_bind, Option.bind_eq_some_iff,
    numberField_eq_some_iff hnodup, Option.some.injEq, Prod.mk.injEq]
  constructor
  · rintro ⟨_, hcolumns, _, hchunks, _, hrows, rfl, rfl, rfl⟩
    exact ⟨hcolumns, hchunks, hrows⟩
  · rintro ⟨hcolumns, hchunks, hrows⟩
    exact ⟨_, hcolumns, _, hchunks, _, hrows, rfl, rfl, rfl⟩

/-- What `assign` asks of names. -/
structure NamesIn (fields : CborFields) (names : BatchNames) : Prop where
  taskId : (ascii "task_id", CborScalar.text names.taskId) ∈ fields ∧ names.taskId.bytes ≠ []
  dependencyGroupId : (ascii "dependency_group_id", CborScalar.text names.dependencyGroupId) ∈ fields ∧
    names.dependencyGroupId.bytes ≠ []
  atomicOutputGroupId : (ascii "atomic_output_group_id",
      CborScalar.text names.atomicOutputGroupId) ∈ fields ∧ names.atomicOutputGroupId.bytes ≠ []
  batchId : (ascii "batch_id", CborScalar.text names.batchId) ∈ fields ∧ names.batchId.bytes ≠ []
  descriptorId : (ascii "descriptor_id", CborScalar.text names.descriptorId) ∈ fields ∧
    names.descriptorId.bytes ≠ []
  descriptorDigest : (ascii "descriptor_digest", CborScalar.text names.descriptorDigest) ∈ fields ∧
    names.descriptorDigest.bytes ≠ []
  batchDigest : (ascii "batch_digest", CborScalar.text names.batchDigest) ∈ fields ∧
    names.batchDigest.bytes ≠ []

theorem batchNames_eq_some_iff {fields : CborFields} (hnodup : (fields.map Prod.fst).Nodup)
    {names : BatchNames} : batchNames fields = some names ↔ NamesIn fields names := by
  simp only [batchNames, Option.bind_eq_bind, Option.bind_eq_some_iff,
    assignText_eq_some_iff hnodup, Option.some.injEq]
  constructor
  · rintro ⟨_, htask, _, hgroup, _, houtput, _, hbatch, _, hdescriptor, _, hdigest, _, hown, rfl⟩
    exact ⟨htask, hgroup, houtput, hbatch, hdescriptor, hdigest, hown⟩
  · rintro ⟨htask, hgroup, houtput, hbatch, hdescriptor, hdigest, hown⟩
    exact ⟨_, htask, _, hgroup, _, houtput, _, hbatch, _, hdescriptor, _, hdigest, _, hown, rfl⟩

/-- Ten fields with the names and the counts of a batch end are its control. -/
theorem batchControl_perm_iff {fields : CborFields} :
    fields.Perm (batchControl value) ∧ value.taskId.bytes ≠ [] ∧
        value.dependencyGroupId.bytes ≠ [] ∧ value.atomicOutputGroupId.bytes ≠ [] ∧
        value.batchId.bytes ≠ [] ∧ value.descriptorId.bytes ≠ [] ∧
        value.descriptorDigest.bytes ≠ [] ∧ value.batchDigest.bytes ≠ [] ↔
      fields.length = 10 ∧ NamesIn fields value.names ∧
        (ascii "column_count", CborScalar.number (UInt64.ofNat value.columns.length)) ∈ fields ∧
        (ascii "chunk_count",
          CborScalar.number (UInt64.ofNat value.orderedChunkDigests.length)) ∈ fields ∧
        (ascii "row_count", CborScalar.number value.rowCount) ∈ fields := by
  rw [perm_iff_of_nodup (batchControl_nodup value)]
  simp only [batchControl, batchSemanticFields, List.cons_append, List.nil_append,
    List.forall_mem_cons, List.not_mem_nil, false_imp_iff, implies_true, and_true,
    List.length_cons, List.length_nil]
  constructor
  · rintro ⟨⟨hlength, h1, h2, h3, h4, h5, h6, hrows, hcolumns, hchunks, h7⟩, n1, n2, n3, n4, n5, n6, n7⟩
    exact ⟨hlength, ⟨⟨h1, n1⟩, ⟨h2, n2⟩, ⟨h3, n3⟩, ⟨h4, n4⟩, ⟨h5, n5⟩, ⟨h6, n6⟩, ⟨h7, n7⟩⟩, hcolumns,
      hchunks, hrows⟩
  · rintro ⟨hlength, ⟨⟨h1, n1⟩, ⟨h2, n2⟩, ⟨h3, n3⟩, ⟨h4, n4⟩, ⟨h5, n5⟩, ⟨h6, n6⟩, ⟨h7, n7⟩⟩, hcolumns,
      hchunks, hrows⟩
    exact ⟨⟨hlength, h1, h2, h3, h4, h5, h6, hrows, hcolumns, hchunks, h7⟩, n1, n2, n3, n4, n5, n6, n7⟩

theorem payload_eq_iff {body : Bytes} :
    payload.length = 8 + body.length ∧ payload.take 8 = batchHeader ∧ At payload 8 body ↔
      payload = batchHeader ++ body := by
  constructor
  · rintro ⟨hlength, hheader, hat⟩
    have hall : At payload 0 (batchHeader ++ body) := by
      rw [at_append]
      exact ⟨hheader ▸ List.take_prefix 8 payload, hat⟩
    refine (hall.eq_self ?_).symm
    rw [List.length_append, hlength]
    rfl
  · rintro rfl
    have hall := at_self (batchHeader ++ body)
    rw [at_append] at hall
    exact ⟨by rw [List.length_append]; rfl, rfl, hall.2⟩

theorem batchPayload_eq (value : ColumnarBatchEnd) : batchPayload value =
    batchHeader ++ (value.columns.flatMap columnEntry ++
      value.orderedChunkDigests.flatMap digestEntry) := by
  rw [batchPayload, List.append_assoc]

theorem decodeColumnarBatchEnd_eq_ok_iff :
    decodeColumnarBatchEnd hash control payload = .ok value ↔
      BatchWritten hash value control payload := by
  have hsizes := batchControl_sizes value
  have hencode := @encodeCborMap_eq_ok_iff (batchControl value) control hsizes.1 hsizes.2
  unfold decodeColumnarBatchEnd
  constructor
  · intro h
    split at h
    · cases h
    · rename_i fields hfields
      have hnodup := (decodeCborMap_eq_ok_iff.1 hfields).2.2.2.2
      split_ifs at h with hshape
      split at h
      · cases h
      · rename_i columnCount chunkCount rowCount hcounts
        split_ifs at h with hcount
        split at h
        · cases h
        · rename_i names hnames
          split_ifs at h with hdigests
          obtain ⟨hsummary, rfl, rfl, hdigest⟩ := decodeSummary_eq_ok_iff.1 h
          obtain ⟨hcolumns, hchunks, htotal, hchecks, hat, hlast⟩ := readSummary_eq_ok_iff.1 hsummary
          rw [batchCounts_eq_some_iff hnodup] at hcounts
          have hnamed := (batchNames_eq_some_iff hnodup).1 hnames
          simp only [not_or, not_not, not_lt] at hshape hcount hdigests
          rw [← UInt64.ofNat_toNat (x := columnCount), ← UInt64.ofNat_toNat (x := chunkCount),
            ← hcolumns, ← hchunks] at hcounts
          obtain ⟨hperm, h1, h2, h3, h4, h5, -⟩ :=
            batchControl_perm_iff.2 ⟨hshape.1, hnamed, hcounts.1, hcounts.2.1, hcounts.2.2⟩
          have hrows : (value.rowCount == 0) = value.orderedChunkDigests.isEmpty := by
            rw [isEmpty_eq_of_length hchunks]
            simpa using hcount.2
          refine ⟨h1, h2, h3, h4, h5, by simpa [ColumnarBatchEnd.names] using hdigests.1, ?_, hrows, hdigest,
            hencode.2 ⟨fields, hperm, hfields⟩, ?_, hchecks, ?_⟩
          · rintro hnil
            rw [hnil, List.length_nil] at hcolumns
            exact hcount.1 (UInt64.toNat_inj.1 hcolumns.symm)
          · rw [hchunks]
            exact htotal
          · rw [batchPayload_eq]
            exact payload_eq_iff.1 ⟨hlast, hshape.2.2, hat⟩
  · intro h
    obtain ⟨fields, hperm, hfields⟩ := hencode.1 h.control
    have hnodup := (decodeCborMap_eq_ok_iff.1 hfields).2.2.2.2
    have hcanonical := canonicalDigest_semantic h.digest
    obtain ⟨hlength, hnamed, hcolumns, hchunks, hrows⟩ := batchControl_perm_iff.1
      ⟨hperm, h.taskId, h.dependencyGroupId, h.atomicOutputGroupId, h.batchId, h.descriptorId,
        List.length_pos_iff.1 (canonicalDigest_length h.descriptorDigest),
        List.length_pos_iff.1 (canonicalDigest_length hcanonical)⟩
    have hcounts := (batchCounts_eq_some_iff hnodup).2 ⟨hcolumns, hchunks, hrows⟩
    have hnames := (batchNames_eq_some_iff hnodup).2 hnamed
    have hcolumnCount := toNat_length value.columnsSize
    have hchunkCount := toNat_length value.digestsSize
    obtain ⟨hend, hheader, hat⟩ := payload_eq_iff.2 (h.payload.trans (batchPayload_eq value))
    rw [hfields]
    dsimp only
    rw [if_neg (by simp [hlength, hheader, hend]), hcounts]
    dsimp only
    rw [if_neg ?_, hnames]
    · dsimp only
      rw [if_neg ?_, decodeSummary_eq_ok_iff, readSummary_eq_ok_iff, hcolumnCount, hchunkCount]
      · exact ⟨⟨rfl, rfl, h.summary, h.digests, hat, hend⟩, rfl, rfl, h.digest⟩
      · rw [not_or]
        exact ⟨by simpa [ColumnarBatchEnd.names] using h.descriptorDigest,
          by simpa [ColumnarBatchEnd.names] using hcanonical⟩
    · rw [not_or, ← isEmpty_eq_of_length hchunkCount.symm, h.rows]
      refine ⟨?_, by simp⟩
      intro hzero
      rw [hzero] at hcolumnCount
      exact h.columns (List.length_eq_zero_iff.1 hcolumnCount.symm)

/-- **A batch end is decoded from what it encodes to, and from nothing else.** -/
theorem encode_iff_decodeColumnarBatchEnd :
    encodeColumnarBatchEnd hash value = .ok ⟨control, payload⟩ ↔
      decodeColumnarBatchEnd hash control payload = .ok value := by
  rw [encodeColumnarBatchEnd_eq_ok_iff, decodeColumnarBatchEnd_eq_ok_iff]

end RoundTrip

end Cxxlens.Sdk
