import Cxxlens.Sdk.Provider.BatchEnd

set_option autoImplicit false

/-! # The columnar wire form

What is encoded is decoded again. What is decoded is encoded again where the payload names each entry of
its dictionary; the decoder also takes entries that no row names. -/

namespace Cxxlens.Sdk

open Fallible Columnar Span
open ProtocolV2 (Digest32 sha256)

theorem validUtf8_canonicalDigest {value : Bytes} (h : canonicalDigest value = true) :
    validUtf8 value = true := by
  have hdigits {bytes : Bytes} (hbytes : bytes.all isLowerHex = true) :
      ∀ byte ∈ bytes, byte.toNat < 0x80 := by
    intro byte hbyte
    have hlower := List.all_eq_true.1 hbytes byte hbyte
    simp only [isLowerHex, isDecimal, Bool.or_eq_true, decide_eq_true_eq,
      UInt8.le_iff_toNat_le] at hlower
    have hdecimal : (0x39 : UInt8).toNat = 0x39 := rfl
    have hletter : (0x66 : UInt8).toNat = 0x66 := rfl
    omega
  unfold canonicalDigest at h
  simp only [Bool.and_eq_true, List.isPrefixOf_iff_prefix] at h
  refine validUtf8_of_ascii ?_
  split_ifs at h with hcontent hsemantic
  · obtain ⟨digits, rfl⟩ := hcontent
    exact List.forall_mem_append.2 ⟨ascii_lt (by simp), hdigits h.2⟩
  · obtain ⟨digits, rfl⟩ := hsemantic
    exact List.forall_mem_append.2 ⟨ascii_lt (by simp), hdigits h.2⟩
  · exact absurd h.1 (by decide)

/-! ## A chunk of three rows -/

/-- A text of the source. -/
def textOf (text : String) (size : (ascii text).length < 2 ^ 64) : Text :=
  ⟨ascii text, size⟩

/-- A column whose cells may be absent. -/
def encodingColumn : ColumnDescriptor where
  id := "encoding"
  name := "encoding"
  type := { scalar := .openSymbol, parameter := "source.encoding/1", optional := true }

/-- A chunk with a cell of each state. -/
def encodingChunk : ColumnChunkRecord where
  taskId := textOf "task" (by decide)
  dependencyGroupId := textOf "group" (by decide)
  atomicOutputGroupId := textOf "output" (by decide)
  batchId := textOf "batch" (by decide)
  descriptorId := textOf "source.file" (by decide)
  descriptorDigest :=
    textOf "sha256:0000000000000000000000000000000000000000000000000000000000000000" (by decide)
  columnId := textOf "encoding" (by decide)
  rowCount := 3
  encoding := textOf "dictionary-index-u32-le" (by decide)
  cells := [{ type := encodingColumn.type, value := some (.string (ascii "utf-8")) },
    { type := encodingColumn.type, state := .unknown, unknownReason := some (ascii "unread") },
    { type := encodingColumn.type, state := .absent }]
  chunkDigest := textOf "" (by decide)

theorem encodingChunk_named (chunkDigest : Text) :
    ChunkNamed { encodingChunk with chunkDigest } encodingColumn := by
  refine ⟨?_, ?_, ?_, ?_, ?_, ?_, rfl, rfl, ?_⟩ <;> dsimp only <;> decide

theorem encodingChunk_cells : OfColumn encodingColumn encodingChunk.cells := by
  intro cell hcell
  simp only [encodingChunk, List.mem_cons, List.not_mem_nil, or_false] at hcell
  rcases hcell with rfl | rfl | rfl
  · exact ⟨rfl, by set_option maxRecDepth 20000 in decide⟩
  · exact ⟨rfl, by decide_cbv⟩
  · exact ⟨rfl, by decide_cbv⟩

/-- The names of the chunk are texts, so its control is written whatever its digests are. -/
theorem encodingChunk_control {payloadDigest chunkDigest : Text}
    (hpayload : canonicalDigest payloadDigest.bytes = true)
    (hchunk : canonicalDigest chunkDigest.bytes = true) :
    ∃ control, encodeCborMap (chunkControl { encodingChunk with chunkDigest } payloadDigest) =
      .ok control := by
  have hchecked : checkFields [] (chunkControl { encodingChunk with chunkDigest } payloadDigest) =
      .ok () := by
    rw [checkFields_eq_ok_iff]
    refine ⟨chunkControl_nodup _ _, ?_⟩
    simp only [chunkControl, chunkSemanticFields, List.cons_append, List.nil_append,
      List.forall_mem_cons, CborScalar.valid, validUtf8_canonicalDigest hpayload,
      validUtf8_canonicalDigest hchunk, List.not_mem_nil, not_false_iff, true_and, and_true,
      false_imp_iff, implies_true]
    decide_cbv
  rw [encodeCborMap, hchecked]
  exact ⟨_, rfl⟩

/-- The payload of the chunk. -/
def encodingPayload : Bytes :=
  payloadOf .openSymbol (columnSections .openSymbol (dictionaryOf encodingChunk.cells)
    encodingChunk.cells)

theorem encodingPayload_sizes :
    ∀ part ∈ columnSections .openSymbol (dictionaryOf encodingChunk.cells) encodingChunk.cells,
      part.length < 2 ^ 32 := by
  decide

set_option maxRecDepth 100000 in
theorem encodingChunk_digest :
    (columnChunkDigest sha256 encodingChunk (contentDigestText sha256 encodingPayload)).isOk = true := by
  decide +kernel

/-! ## There and back -/

/-- **Chunks and batch ends are decoded from what they are encoded to.** -/
theorem columnar_roundTrip (hash : Bytes → Digest32) :
    (∀ (column : ColumnDescriptor) (value : ColumnChunkRecord) (encoded : EncodedColumnChunk),
      encodeColumnChunk hash value column = .ok encoded →
        decodeColumnChunk hash encoded.control encoded.payload column =
          .ok { value with chunkDigest := encoded.chunkDigest }) ∧
      ∀ (value : ColumnarBatchEnd) (encoded : EncodedColumnarBatchEnd),
        encodeColumnarBatchEnd hash value = .ok encoded →
          decodeColumnarBatchEnd hash encoded.control encoded.payload = .ok value := by
  constructor
  · intro column value encoded h
    exact decode_encodeColumnChunk h
  · intro value encoded h
    exact encode_iff_decodeColumnarBatchEnd.1 h

theorem columnar_roundTrip_encoding : ∃ encoded,
    encodeColumnChunk sha256 encodingChunk encodingColumn = .ok encoded ∧
      decodeColumnChunk sha256 encoded.control encoded.payload encodingColumn =
        .ok { encodingChunk with chunkDigest := encoded.chunkDigest } := by
  obtain ⟨digest, hdigest⟩ := exists_eq_ok_of_isOk encodingChunk_digest
  obtain ⟨control, hcontrol⟩ := encodingChunk_control
    (canonicalDigest_contentDigestText sha256 _) (canonicalDigest_semantic hdigest)
  have hencoded := (@encodeColumnChunk_eq_ok_iff sha256 encodingColumn encodingChunk
    ⟨control, encodingPayload, digest⟩).2 ⟨encodingChunk_named _, rfl, encodingChunk_cells,
      encodingPayload_sizes, rfl, hdigest, hcontrol, .inl rfl⟩
  exact ⟨_, hencoded, (columnar_roundTrip sha256).1 encodingColumn encodingChunk _ hencoded⟩

/-! ## Entries that no row names -/

/-- The payload of the chunk, with a second text in its dictionary. -/
def unusedPayload : Bytes :=
  payloadOf .openSymbol
    (columnSections .openSymbol [ascii "utf-16", ascii "utf-8"] encodingChunk.cells)

theorem unusedPayload_dictionary :
    IsDictionaryOf [ascii "utf-16", ascii "utf-8"] encodingChunk.cells := by
  refine ⟨by decide, by decide_cbv, ?_⟩
  simp only [encodingChunk, List.forall_mem_cons, presentText, presentValue]
  simp

theorem unusedPayload_sizes :
    ∀ part ∈ columnSections .openSymbol [ascii "utf-16", ascii "utf-8"] encodingChunk.cells,
      part.length < 2 ^ 32 := by
  decide

set_option maxRecDepth 100000 in
theorem unusedPayload_digest :
    (columnChunkDigest sha256 encodingChunk (contentDigestText sha256 unusedPayload)).isOk = true := by
  decide +kernel

/-- The payload is accepted, with a control that has its digests. -/
theorem unusedPayload_accepted : ∃ control digest,
    decodeColumnChunk sha256 control unusedPayload encodingColumn =
      .ok { encodingChunk with chunkDigest := digest } := by
  obtain ⟨digest, hdigest⟩ := exists_eq_ok_of_isOk unusedPayload_digest
  obtain ⟨control, hcontrol⟩ := encodingChunk_control
    (canonicalDigest_contentDigestText sha256 unusedPayload) (canonicalDigest_semantic hdigest)
  exact ⟨control, digest, decodeColumnChunk_eq_ok_iff.2 ⟨encodingChunk_named digest, rfl,
    encodingChunk_cells, ⟨_, fun _ => unusedPayload_dictionary, unusedPayload_sizes, rfl⟩, hdigest,
    hcontrol⟩⟩

/-- **A decoded chunk is encoded again exactly when its payload names each entry of its dictionary, and a
decoded batch end always is.** -/
theorem columnar_canonical_iff (hash : Bytes → Digest32) :
    (∀ (column : ColumnDescriptor) (control payload : Bytes) (value : ColumnChunkRecord),
      decodeColumnChunk hash control payload column = .ok value →
        (encodeColumnChunk hash value column = .ok ⟨control, payload, value.chunkDigest⟩ ↔
          UsesDictionary column.type.scalar payload)) ∧
      ∀ (control payload : Bytes) (value : ColumnarBatchEnd),
        decodeColumnarBatchEnd hash control payload = .ok value →
          encodeColumnarBatchEnd hash value = .ok ⟨control, payload⟩ := by
  constructor
  · intro column control payload value h
    exact encode_decodeColumnChunk_iff h
  · intro control payload value h
    exact encode_iff_decodeColumnarBatchEnd.2 h

theorem columnar_not_canonical :
    ¬ ∀ (column : ColumnDescriptor) (control payload : Bytes) (value : ColumnChunkRecord),
      decodeColumnChunk sha256 control payload column = .ok value →
        encodeColumnChunk sha256 value column = .ok ⟨control, payload, value.chunkDigest⟩ := by
  intro h
  obtain ⟨control, digest, haccepted⟩ := unusedPayload_accepted
  have hused := (encode_decodeColumnChunk_iff haccepted).1 (h _ _ _ _ haccepted)
  have hkind : isDictionary encodingColumn.type.scalar = true := by decide
  have hsame := (usesDictionary_iff hkind encodingChunk_cells unusedPayload_dictionary
    unusedPayload_sizes).1 hused
  exact absurd (congrArg List.length hsame) (by decide)

end Cxxlens.Sdk
