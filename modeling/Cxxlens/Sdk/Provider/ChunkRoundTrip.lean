import Cxxlens.Sdk.Provider.ColumnSections

set_option autoImplicit false

/-! # Chunks there and back

Encoding and decoding accept the same chunks, but for the dictionary: the encoder writes the texts of the
cells and no other, the decoder takes any dictionary that has them (`encodeColumnChunk_eq_ok_iff`,
`decodeColumnChunk_eq_ok_iff`). -/

namespace Cxxlens.Sdk

open Fallible Columnar Span
open ProtocolV2 (Digest32)

/-! ## Fields of a control -/

theorem textField_eq_some_iff {fields : CborFields} {key : Bytes} {value : Text}
    (hnodup : (fields.map Prod.fst).Nodup) :
    textField fields key = some value ↔ (key, .text value) ∈ fields := by
  rw [← lookup_eq_some_iff_mem hnodup, textField]
  generalize fields.lookup key = found
  rcases found with _ | number | text <;> simp

theorem numberField_eq_some_iff {fields : CborFields} {key : Bytes} {value : UInt64}
    (hnodup : (fields.map Prod.fst).Nodup) :
    numberField fields key = some value ↔ (key, .number value) ∈ fields := by
  rw [← lookup_eq_some_iff_mem hnodup, numberField]
  generalize fields.lookup key = found
  rcases found with _ | number | text <;> simp

/-- The thirteen fields of a control. -/
def chunkControl (value : ColumnChunkRecord) (payloadDigest : Text) : CborFields :=
  chunkSemanticFields value payloadDigest ++ [(ascii "chunk_digest", CborScalar.text value.chunkDigest)]

theorem chunkControl_nodup (value : ColumnChunkRecord) (payloadDigest : Text) :
    ((chunkControl value payloadDigest).map Prod.fst).Nodup := by
  simp only [chunkControl, chunkSemanticFields, List.map_append, List.map_cons, List.map_nil]
  decide

theorem rowCount_number {number : UInt64} (h : number.toNat ≤ 0xffffffff) :
    UInt64.ofNat (UInt32.ofNat number.toNat).toNat = number := by
  rw [UInt32.toNat_ofNat', Nat.mod_eq_of_lt (by omega), UInt64.ofNat_toNat]

/-- A control has a record exactly when it is the control of the record. -/
theorem controlRecord_iff {fields : CborFields} (hnodup : (fields.map Prod.fst).Nodup)
    {value : ColumnChunkRecord} {rowCount : UInt64} {payloadDigest : Text}
    (hrows : rowCount.toNat ≤ 0xffffffff) :
    fields.length = 13 ∧ controlRecord fields = some (value, rowCount, payloadDigest) ↔
      value.cells = [] ∧ rowCount = UInt64.ofNat value.rowCount.toNat ∧
        fields.Perm (chunkControl value payloadDigest) := by
  rw [perm_iff_of_nodup (chunkControl_nodup _ _)]
  unfold controlRecord chunkControl chunkSemanticFields
  simp only [List.cons_append, List.nil_append, List.forall_mem_cons, List.length_cons,
    List.length_nil, ← textField_eq_some_iff hnodup, ← numberField_eq_some_iff hnodup]
  constructor
  · rintro ⟨hlength, h⟩
    obtain ⟨taskId, hTaskId, h⟩ := Option.bind_eq_some_iff.1 h
    obtain ⟨groupId, hGroupId, h⟩ := Option.bind_eq_some_iff.1 h
    obtain ⟨outputId, hOutputId, h⟩ := Option.bind_eq_some_iff.1 h
    obtain ⟨batchId, hBatchId, h⟩ := Option.bind_eq_some_iff.1 h
    obtain ⟨descriptorId, hDescriptorId, h⟩ := Option.bind_eq_some_iff.1 h
    obtain ⟨descriptorDigest, hDescriptorDigest, h⟩ := Option.bind_eq_some_iff.1 h
    obtain ⟨columnId, hColumnId, h⟩ := Option.bind_eq_some_iff.1 h
    obtain ⟨encoding, hEncoding, h⟩ := Option.bind_eq_some_iff.1 h
    obtain ⟨payload, hPayload, h⟩ := Option.bind_eq_some_iff.1 h
    obtain ⟨chunkDigest, hChunkDigest, h⟩ := Option.bind_eq_some_iff.1 h
    obtain ⟨rowOffset, hRowOffset, h⟩ := Option.bind_eq_some_iff.1 h
    obtain ⟨count, hCount, h⟩ := Option.bind_eq_some_iff.1 h
    obtain ⟨chunkIndex, hChunkIndex, h⟩ := Option.bind_eq_some_iff.1 h
    obtain ⟨rfl, rfl, rfl⟩ : _ ∧ _ = _ ∧ _ = _ := by
      simpa only [Prod.mk.injEq] using Option.some.inj h
    have hnumber := rowCount_number hrows
    refine ⟨rfl, hnumber.symm, hlength, hTaskId, hGroupId, hOutputId, hBatchId, hDescriptorId, hDescriptorDigest, hColumnId, hRowOffset,
      ?_, hChunkIndex, hEncoding, hPayload, hChunkDigest, by simp⟩
    dsimp only
    rwa [hnumber]
  · rintro ⟨hcells, rfl, hlength, hTaskId, hGroupId, hOutputId, hBatchId, hDescriptorId, hDescriptorDigest,
      hColumnId, hRowOffset, hCount, hChunkIndex, hEncoding, hPayload, hChunkDigest, -⟩
    refine ⟨hlength, ?_⟩
    refine Option.bind_eq_some_iff.2 ⟨_, hTaskId, ?_⟩
    refine Option.bind_eq_some_iff.2 ⟨_, hGroupId, ?_⟩
    refine Option.bind_eq_some_iff.2 ⟨_, hOutputId, ?_⟩
    refine Option.bind_eq_some_iff.2 ⟨_, hBatchId, ?_⟩
    refine Option.bind_eq_some_iff.2 ⟨_, hDescriptorId, ?_⟩
    refine Option.bind_eq_some_iff.2 ⟨_, hDescriptorDigest, ?_⟩
    refine Option.bind_eq_some_iff.2 ⟨_, hColumnId, ?_⟩
    refine Option.bind_eq_some_iff.2 ⟨_, hEncoding, ?_⟩
    refine Option.bind_eq_some_iff.2 ⟨_, hPayload, ?_⟩
    refine Option.bind_eq_some_iff.2 ⟨_, hChunkDigest, ?_⟩
    refine Option.bind_eq_some_iff.2 ⟨_, hRowOffset, ?_⟩
    refine Option.bind_eq_some_iff.2 ⟨_, hCount, ?_⟩
    refine Option.bind_eq_some_iff.2 ⟨_, hChunkIndex, ?_⟩
    obtain ⟨_, _, _, _, _, _, _, _, rows, _, _, cells, _⟩ := value
    obtain rfl : cells = [] := hcells
    have hrow : UInt32.ofNat (UInt64.ofNat rows.toNat).toNat = rows := by
      have hlt := rows.toNat_lt
      rw [UInt64.toNat_ofNat', Nat.mod_eq_of_lt (by omega), UInt32.ofNat_toNat]
    dsimp only
    rw [hrow]

/-! ## Digests -/

theorem hex_all_isLowerHex (bytes : Bytes) : (hex bytes).all isLowerHex = true := by
  have hdigit : ∀ value < 16, isLowerHex (hexDigit value) = true := by decide
  rw [hex, List.all_flatMap, List.all_eq_true]
  intro byte _
  have hlt := byte.toNat_lt
  simp only [hexByte, List.all_cons, List.all_nil, Bool.and_true, Bool.and_eq_true]
  exact ⟨hdigit _ (by omega), hdigit _ (by omega)⟩

theorem canonicalDigest_contentDigestText (hash : Bytes → Digest32) (bytes : Bytes) :
    canonicalDigest (contentDigestText hash bytes).bytes = true := by
  have hprefix : (ascii "sha256:").isPrefixOf (contentDigestText hash bytes).bytes = true := by
    simp [contentDigestText, contentDigest, List.isPrefixOf_iff_prefix]
  have hdrop : (contentDigestText hash bytes).bytes.drop 7 = hex (digestBytes hash bytes) := rfl
  rw [canonicalDigest, if_pos hprefix, hdrop]
  simp [length_hex_digest, hex_all_isLowerHex]

theorem canonicalDigest_semantic {hash : Bytes → Digest32} {domain schema field : Bytes}
    {fields : CborFields} {additionalFields : List CanonicalValue} {digest : Text}
    (h : semanticFieldsDigest hash domain schema fields additionalFields field = .ok digest) :
    canonicalDigest digest.bytes = true := by
  unfold semanticFieldsDigest semanticTupleDigest at h
  split at h
  · cases h
  split at h
  · cases h
  rename_i stored hstored
  obtain rfl := Except.ok.inj h
  rw [semanticDigest, guard_eq_ok_iff, bind_eq_ok_iff] at hstored
  obtain ⟨-, framed, -, hstored⟩ := hstored
  obtain rfl := Except.ok.inj hstored
  have hcontent : (ascii "sha256:").isPrefixOf
      (ascii "semantic-v2:sha256:" ++ hex (digestBytes hash framed)) = false := rfl
  have hprefix : (ascii "semantic-v2:sha256:").isPrefixOf
      (ascii "semantic-v2:sha256:" ++ hex (digestBytes hash framed)) = true := by
    simp [List.isPrefixOf_iff_prefix]
  have hdrop : (ascii "semantic-v2:sha256:" ++ hex (digestBytes hash framed)).drop 19 =
      hex (digestBytes hash framed) := rfl
  rw [canonicalDigest, hcontent, if_neg Bool.false_ne_true, if_pos hprefix, hdrop]
  simp [length_hex_digest, hex_all_isLowerHex]

/-! ## Checks of the encoder -/

section Checks

variable {column : ColumnDescriptor}

/-- The cells are of the column. -/
def OfColumn (column : ColumnDescriptor) (cells : List DetachedCell) : Prop :=
  ∀ cell ∈ cells, cell.type = column.type ∧ cell.validate = .ok ()

theorem ofColumn_of_checkCells {cells : List DetachedCell} : ∀ {values reasons : Nat},
    checkCells column values reasons cells = .ok () → OfColumn column cells := by
  induction cells with
  | nil =>
      intro values reasons _ cell hcell
      cases hcell
  | cons cell rest ih =>
      intro values reasons h
      simp only [checkCells, bind_eq_ok_iff, Unique.exists_iff, PUnit.default_eq_unit,
        reject_eq_ok_iff, bne_eq_false_iff_eq] at h
      obtain ⟨htype, hvalid, -, -, hrest⟩ := h
      exact List.forall_mem_cons.2 ⟨⟨htype, hvalid⟩, ih hrest⟩

theorem checkCells_of_sizes {cells : List DetachedCell} : ∀ {values reasons : Nat},
    OfColumn column cells →
      (isVariable column.type.scalar = true →
        values + (cells.map storedBytes).flatten.length ≤ 0xffffffff) →
      reasons + (cells.map reasonBytes).flatten.length ≤ 0xffffffff →
      checkCells column values reasons cells = .ok () := by
  induction cells with
  | nil =>
      intro values reasons _ _ _
      rfl
  | cons cell rest ih =>
      intro values reasons hcells hvalues hreasons
      obtain ⟨⟨htype, hvalid⟩, hrest⟩ := List.forall_mem_cons.1 hcells
      simp only [List.map_cons, List.flatten_cons, List.length_append] at hvalues hreasons
      simp only [checkCells, bind_eq_ok_iff, Unique.exists_iff, PUnit.default_eq_unit,
        reject_eq_ok_iff, bne_eq_false_iff_eq, Bool.and_eq_false_imp, decide_eq_false_iff_not, not_lt]
      refine ⟨htype, hvalid, fun h => ?_, ?_, ih hrest (fun h => ?_) ?_⟩
      · have htotal := hvalues h
        omega
      · omega
      · have htotal := hvalues h
        omega
      · omega

theorem checkEntries_of_size {entries : List Bytes} : ∀ {index size : Nat},
    index + entries.length ≤ 0xffffffff → size + entries.flatten.length ≤ 0xffffffff →
      checkEntries column index size entries = .ok () := by
  induction entries with
  | nil =>
      intro index size _ _
      rfl
  | cons entry rest ih =>
      intro index size hindex hsize
      simp only [List.length_cons, List.flatten_cons, List.length_append] at hindex hsize
      simp only [checkEntries, bind_eq_ok_iff, Unique.exists_iff, PUnit.default_eq_unit,
        reject_eq_ok_iff, decide_eq_false_iff_not, not_lt]
      exact ⟨by omega, by omega, ih (by omega) (by omega)⟩

/-- The value of a cell in a column with a dictionary is a text. -/
theorem checkDictionaryValue_of_ofColumn {cells : List DetachedCell}
    (hkind : isDictionary column.type.scalar = true) (hcells : OfColumn column cells) :
    firstError (checkDictionaryValue column) cells = .ok () := by
  rw [firstError_eq_ok_iff]
  intro cell hcell
  obtain ⟨htype, hvalid⟩ := hcells cell hcell
  unfold checkDictionaryValue
  split_ifs with hpresent
  · rcases DetachedCell.validate_forms hvalid with ⟨hstate, -⟩ | ⟨value, -, hvalue, -, hdetail⟩ |
      ⟨_, hstate, -⟩
    · simp [hpresent] at hstate
    · obtain ⟨hmatches, hutf8⟩ := matchesScalar_and_utf8 hdetail
      rw [htype] at hmatches
      obtain ⟨text, rfl⟩ := exists_text_of_dictionary hkind hmatches
      simp only [hvalue, reject_eq_ok_iff, Bool.not_eq_false']
      simpa [ScalarValue.text] using hutf8
    · simp [hpresent] at hstate
  · rfl

/-- The texts of cells of the column are a dictionary. -/
theorem dictionaryOf_isDictionaryOf {cells : List DetachedCell} (hcells : OfColumn column cells) :
    IsDictionaryOf (dictionaryOf cells) cells := by
  refine ⟨canonicalStrings_pairwise _, ?_, ?_⟩
  · intro entry hentry
    rw [dictionaryOf, mem_canonicalStrings, List.mem_filterMap] at hentry
    obtain ⟨cell, hcell, htext⟩ := hentry
    rcases DetachedCell.validate_forms (hcells cell hcell).2 with ⟨hstate, -⟩ |
      ⟨value, hstate, hvalue, -, hdetail⟩ | ⟨_, hstate, -⟩
    · simp [presentText, presentValue, hstate] at htext
    · have hutf8 := (matchesScalar_and_utf8 hdetail).2
      cases value <;> simp [presentText, presentValue, hstate, hvalue] at htext
      simpa [ScalarValue.text, htext] using hutf8
    · simp [presentText, presentValue, hstate] at htext
  · intro cell hcell text htext
    rw [dictionaryOf, mem_canonicalStrings, List.mem_filterMap]
    exact ⟨cell, hcell, htext⟩

end Checks

/-! ## Chunks -/

/-- What both sides ask of the names and counts of a chunk. -/
structure ChunkNamed (value : ColumnChunkRecord) (column : ColumnDescriptor) : Prop where
  taskId : value.taskId.bytes ≠ []
  dependencyGroupId : value.dependencyGroupId.bytes ≠ []
  atomicOutputGroupId : value.atomicOutputGroupId.bytes ≠ []
  batchId : value.batchId.bytes ≠ []
  descriptorId : value.descriptorId.bytes ≠ []
  descriptorDigest : canonicalDigest value.descriptorDigest.bytes = true
  columnId : value.columnId.bytes = column.id
  encoding : value.encoding.bytes = columnEncoding column.type.scalar
  rowCount : value.rowCount ≠ 0

section Chunks

variable {hash : Bytes → Digest32} {column : ColumnDescriptor} {value : ColumnChunkRecord}

/-- A digest does not depend on the field its errors name. -/
theorem semanticFieldsDigest_eq_ok_congr {domain schema : Bytes} {fields : CborFields}
    {additionalFields : List CanonicalValue} {field other : Bytes} {digest : Text}
    (h : semanticFieldsDigest hash domain schema fields additionalFields field = .ok digest) :
    semanticFieldsDigest hash domain schema fields additionalFields other = .ok digest := by
  unfold semanticFieldsDigest semanticTupleDigest at h ⊢
  split at h
  · cases h
  · exact h

theorem checkDictionary_of_sections {cells : List DetachedCell} (hcells : OfColumn column cells)
    (hsizes : ∀ part ∈ columnSections column.type.scalar (dictionaryOf cells) cells,
      part.length < 2 ^ 32) : checkDictionary column cells = .ok () := by
  unfold checkDictionary
  split_ifs with hkind
  · -- the section of the dictionary has a word for each entry and all their bytes
    have hsection : (dictionarySection (dictionaryOf cells)).length < 2 ^ 32 := by
      refine hsizes _ ?_
      simp [columnSections, hkind, dictionarySection]
    rw [dictionarySection, List.length_append, List.length_append, length_encode,
      length_offsetTable] at hsection
    rw [seq_eq_ok_iff]
    exact ⟨checkDictionaryValue_of_ofColumn hkind hcells,
      checkEntries_of_size (by omega) (by omega)⟩
  · rfl

theorem checkCells_of_sections {cells : List DetachedCell} (hcells : OfColumn column cells)
    (hsizes : ∀ part ∈ columnSections column.type.scalar (dictionaryOf cells) cells,
      part.length < 2 ^ 32) : checkCells column 0 0 cells = .ok () := by
  refine checkCells_of_sizes hcells ?_ ?_
  · intro hkind
    have hnot : ¬ isDictionary column.type.scalar = true := by
      simp [((isVariable_iff _).1 hkind).1]
    have hvalues : (cells.map storedBytes).flatten.length < 2 ^ 32 := by
      refine hsizes _ ?_
      rw [columnSections, if_neg hnot, if_neg hnot, if_pos hkind, if_pos hkind]
      simp
    omega
  · have hreasons : (cells.map reasonBytes).flatten.length < 2 ^ 32 := by
      refine hsizes _ ?_
      simp [columnSections]
    omega

theorem encodeSemanticControl_eq_ok_iff {domain schema digestKey field : Bytes}
    {fields : CborFields} {additionalFields : List CanonicalValue} {semantic : SemanticControl} :
    encodeSemanticControl hash domain schema fields additionalFields digestKey field =
        .ok semantic ↔
      semanticFieldsDigest hash domain schema fields additionalFields field = .ok semantic.digest ∧
        encodeCborMap (fields ++ [(digestKey, .text semantic.digest)]) = .ok semantic.control := by
  simp only [encodeSemanticControl, bind_eq_ok_iff, Except.ok.injEq]
  constructor
  · rintro ⟨digest, hdigest, control, hcontrol, rfl⟩
    exact ⟨hdigest, hcontrol⟩
  · rintro ⟨hdigest, hcontrol⟩
    exact ⟨_, hdigest, _, hcontrol, rfl⟩

theorem encodeColumnChunk_eq_ok_iff {encoded : EncodedColumnChunk} :
    encodeColumnChunk hash value column = .ok encoded ↔ ChunkNamed value column ∧
      value.cells.length = value.rowCount.toNat ∧ OfColumn column value.cells ∧
      (∀ part ∈ columnSections column.type.scalar (dictionaryOf value.cells) value.cells,
        part.length < 2 ^ 32) ∧
      encoded.payload = payloadOf column.type.scalar
        (columnSections column.type.scalar (dictionaryOf value.cells) value.cells) ∧
      columnChunkDigest hash value (contentDigestText hash encoded.payload) =
        .ok encoded.chunkDigest ∧
      encodeCborMap (chunkControl { value with chunkDigest := encoded.chunkDigest }
        (contentDigestText hash encoded.payload)) = .ok encoded.control ∧
      (value.chunkDigest.bytes = [] ∨ value.chunkDigest = encoded.chunkDigest) := by
  simp only [encodeColumnChunk, bind_eq_ok_iff, Unique.exists_iff, PUnit.default_eq_unit,
    reject_eq_ok_iff, Except.ok.injEq, encodeSemanticControl_eq_ok_iff, Bool.or_eq_false_iff,
    List.isEmpty_eq_false_iff, Bool.not_eq_false', bne_eq_false_iff_eq, beq_eq_false_iff_ne,
    Bool.and_eq_false_imp, Bool.not_eq_true', List.any_eq_false, decide_eq_true_eq, not_lt]
  constructor
  · rintro ⟨⟨⟨⟨⟨⟨⟨⟨⟨⟨htask, hgroup⟩, houtput⟩, hbatch⟩, hdescriptor⟩, hdigest⟩, hcolumn⟩, hrows⟩, hlength⟩,
      hencoding⟩, -, hcells, hsizes, semantic, ⟨hsemantic, hcontrol⟩, hgiven, rfl⟩
    refine ⟨⟨htask, hgroup, houtput, hbatch, hdescriptor, hdigest, hcolumn, hencoding, hrows⟩, hlength,
      ofColumn_of_checkCells hcells, fun part hpart => Nat.lt_succ_of_le (hsizes part hpart), rfl,
      semanticFieldsDigest_eq_ok_congr hsemantic, hcontrol, ?_⟩
    by_cases hempty : value.chunkDigest.bytes = []
    · exact .inl hempty
    · exact .inr (hgiven hempty)
  · rintro ⟨hnamed, hlength, hcells, hsizes, hpayload, hdigest, hcontrol, hgiven⟩
    obtain ⟨control, payload, digest⟩ := encoded
    obtain rfl : payload = _ := hpayload
    refine ⟨⟨⟨⟨⟨⟨⟨⟨⟨⟨hnamed.taskId, hnamed.dependencyGroupId⟩, hnamed.atomicOutputGroupId⟩,
      hnamed.batchId⟩, hnamed.descriptorId⟩, hnamed.descriptorDigest⟩, hnamed.columnId⟩,
      hnamed.rowCount⟩, hlength⟩, hnamed.encoding⟩, checkDictionary_of_sections hcells hsizes,
      checkCells_of_sections hcells hsizes, fun part hpart => Nat.le_of_lt_succ (hsizes part hpart),
      ⟨digest, control⟩, ⟨semanticFieldsDigest_eq_ok_congr hdigest, hcontrol⟩,
      fun hne => hgiven.resolve_left hne, rfl⟩

theorem chunkControl_sizes (payloadDigest : Text) :
    (∀ field ∈ chunkControl value payloadDigest, field.1.length < 2 ^ 64) ∧
      (chunkControl value payloadDigest).length < 2 ^ 64 := by
  unfold chunkControl chunkSemanticFields
  simp only [List.cons_append, List.nil_append, List.forall_mem_cons, List.not_mem_nil,
    false_imp_iff, implies_true, and_true, List.length_cons, List.length_nil]
  decide

theorem controlFields_eq_ok_iff {control : Bytes} {fields : CborFields} :
    controlFields column control = .ok fields ↔
      decodeCborMap control = .ok fields ∧ fields.length = 13 := by
  unfold controlFields
  cases decodeCborMap control with
  | error error => simp
  | ok decoded =>
      by_cases h : decoded.length = 13
      · simp only [h, if_true, Except.ok.injEq, iff_self_and]
        rintro rfl
        exact h
      · simp only [h, if_false, reduceCtorEq, Except.ok.injEq, false_iff, not_and]
        rintro rfl
        exact h

theorem decodeColumnChunk_eq_ok_iff {control payload : Bytes} :
    decodeColumnChunk hash control payload column = .ok value ↔ ChunkNamed value column ∧
      value.cells.length = value.rowCount.toNat ∧ OfColumn column value.cells ∧
      (∃ entries, (isDictionary column.type.scalar = true → IsDictionaryOf entries value.cells) ∧
        (∀ part ∈ columnSections column.type.scalar entries value.cells, part.length < 2 ^ 32) ∧
        payload = payloadOf column.type.scalar
          (columnSections column.type.scalar entries value.cells)) ∧
      columnChunkDigest hash value (contentDigestText hash payload) = .ok value.chunkDigest ∧
      encodeCborMap (chunkControl value (contentDigestText hash payload)) = .ok control := by
  have hsizes := @chunkControl_sizes value (contentDigestText hash payload)
  rw [encodeCborMap_eq_ok_iff hsizes.1 hsizes.2]
  constructor
  · intro h
    rw [decodeColumnChunk, bind_eq_ok_iff] at h
    obtain ⟨fields, hfields, h⟩ := h
    obtain ⟨hdecode, hcount⟩ := controlFields_eq_ok_iff.1 hfields
    have hnodup := (decodeCborMap_eq_ok_iff.1 hdecode).2.2.2.2
    split at h
    · cases h
    · rename_i named rowCount payloadDigest hrecord
      simp only [bind_eq_ok_iff, Unique.exists_iff, PUnit.default_eq_unit, reject_eq_ok_iff,
        Except.ok.injEq, Bool.or_eq_false_iff, List.isEmpty_eq_false_iff, Bool.not_eq_false',
        bne_eq_false_iff_eq, beq_eq_false_iff_ne, decide_eq_false_iff_not, not_lt] at h
      obtain ⟨⟨⟨⟨⟨⟨⟨⟨⟨⟨⟨⟨htask, hgroup⟩, houtput⟩, hbatch⟩, hdescriptor⟩, hdigest⟩, -⟩, -⟩, hcolumn⟩,
        hencoding⟩, hrows⟩, hbound⟩, cells, hcells, rfl, expected, hexpected, rfl, rfl⟩ := h
      obtain ⟨-, rfl, hperm⟩ := (controlRecord_iff hnodup hbound).1 ⟨hcount, hrecord⟩
      obtain ⟨hlength, hcells, entries, hentries, hparts, hpayload⟩ := decodePayload_eq_ok_iff.1 hcells
      refine ⟨⟨htask, hgroup, houtput, hbatch, hdescriptor, hdigest, hcolumn, hencoding, ?_⟩, hlength,
        hcells, ⟨entries, hentries, hparts, hpayload⟩, hexpected, fields, hperm, hdecode⟩
      intro hzero
      dsimp only at hzero
      rw [hzero] at hrows
      exact hrows rfl
  · rintro ⟨hnamed, hlength, hcells, ⟨entries, hentries, hparts, hpayload⟩, hdigest, fields, hperm,
      hfields⟩
    have hnodup := (decodeCborMap_eq_ok_iff.1 hfields).2.2.2.2
    have hlt := value.rowCount.toNat_lt
    have hrows : (UInt64.ofNat value.rowCount.toNat).toNat = value.rowCount.toNat := by
      rw [UInt64.toNat_ofNat', Nat.mod_eq_of_lt (by omega)]
    have hbound : (UInt64.ofNat value.rowCount.toNat).toNat ≤ 0xffffffff := by omega
    obtain ⟨hcount, hrecord⟩ :=
      (@controlRecord_iff _ hnodup { value with cells := [] } _ _ hbound).2 ⟨rfl, rfl, hperm⟩
    rw [decodeColumnChunk, bind_eq_ok_iff]
    refine ⟨fields, controlFields_eq_ok_iff.2 ⟨hfields, hcount⟩, ?_⟩
    simp only [hrecord, bind_eq_ok_iff, Unique.exists_iff, PUnit.default_eq_unit, reject_eq_ok_iff,
      Except.ok.injEq, Bool.or_eq_false_iff, List.isEmpty_eq_false_iff, Bool.not_eq_false',
      bne_eq_false_iff_eq, beq_eq_false_iff_ne, decide_eq_false_iff_not, not_lt]
    refine ⟨⟨⟨⟨⟨⟨⟨⟨⟨⟨⟨⟨hnamed.taskId, hnamed.dependencyGroupId⟩, hnamed.atomicOutputGroupId⟩,
      hnamed.batchId⟩, hnamed.descriptorId⟩, hnamed.descriptorDigest⟩,
      canonicalDigest_contentDigestText hash payload⟩, canonicalDigest_semantic hdigest⟩,
      hnamed.columnId⟩, hnamed.encoding⟩, ?_⟩, by omega⟩, value.cells,
      decodePayload_eq_ok_iff.2 ⟨hlength, hcells, entries, hentries, hparts, hpayload⟩, trivial,
      value.chunkDigest, hdigest, rfl, rfl⟩
    intro hzero
    rw [hzero] at hrows
    exact hnamed.rowCount (UInt32.toNat_inj.1 hrows.symm)

end Chunks

/-! ## The dictionary -/

/-- A payload names each entry of its dictionary in a row that is present. -/
def UsesDictionary (kind : ScalarKind) (payload : Bytes) : Prop :=
  isDictionary kind = true →
    ∃ validity unknown auxiliary values reasonOffsets reasons : Bytes,
      payload = payloadOf kind [validity, unknown, auxiliary, values, reasonOffsets, reasons] ∧
        (∀ part ∈ [validity, unknown, auxiliary, values, reasonOffsets, reasons],
          part.length < 2 ^ 32) ∧
        ∀ index < wordAt 4 auxiliary 0,
          ∃ row, bitAt validity row = true ∧ wordAt 4 values (row * 4) = index

section Dictionary

variable {column : ColumnDescriptor} {cells : List DetachedCell} {entries : List Bytes}

/-- A payload has one list of sections. -/
theorem payloadOf_inj {sections others : List Bytes} (hcount : sections.length = 6)
    (hsizes : ∀ part ∈ sections, part.length < 2 ^ 32) (hother : others.length = 6)
    (hothers : ∀ part ∈ others, part.length < 2 ^ 32)
    (h : payloadOf column.type.scalar sections = payloadOf column.type.scalar others) :
    sections = others := by
  have hread := ((@payload_sections_iff column _ _).2 ⟨hcount, hsizes, rfl⟩).2
  have hagain := ((@payload_sections_iff column _ _).2 ⟨hother, hothers, rfl⟩).2
  rw [h, hagain] at hread
  exact (Except.ok.inj hread).symm

theorem bitAt_validity {row : Nat} :
    bitAt (bitmap (cells.map fun cell => cell.state == .present)) row = true ↔
      ∃ cell, cells[row]? = some cell ∧ cell.state = .present := by
  rw [bitAt_bitmap, List.getD_eq_getElem?_getD, List.getElem?_map]
  cases cells[row]? with
  | none => simp
  | some cell => simp

/-- The dictionary of the cells is the one without other texts. -/
theorem dictionaryOf_eq_iff (h : IsDictionaryOf entries cells) :
    dictionaryOf cells = entries ↔
      ∀ entry ∈ entries, ∃ cell ∈ cells, presentText cell = some entry := by
  constructor
  · rintro rfl entry hentry
    rwa [dictionaryOf, mem_canonicalStrings, List.mem_filterMap] at hentry
  · intro hused
    refine pairwise_lt_ext (canonicalStrings_pairwise _) h.ascending ?_
    intro entry
    rw [dictionaryOf, mem_canonicalStrings, List.mem_filterMap]
    constructor
    · rintro ⟨cell, hcell, htext⟩
      exact h.named cell hcell entry htext
    · exact hused entry

theorem exists_presentText (hkind : isDictionary column.type.scalar = true)
    (hcells : OfColumn column cells) {cell : DetachedCell} (hcell : cell ∈ cells)
    (hstate : cell.state = .present) : ∃ text, presentText cell = some text := by
  obtain ⟨htype, hvalid⟩ := hcells cell hcell
  rcases DetachedCell.validate_forms hvalid with ⟨habsent, -⟩ | ⟨value, -, hvalue, -, hdetail⟩ |
    ⟨_, hunknown, -⟩
  · simp [hstate] at habsent
  · have hmatches := (matchesScalar_and_utf8 hdetail).1
    rw [htype] at hmatches
    obtain ⟨text, rfl⟩ := exists_text_of_dictionary hkind hmatches
    exact ⟨text, by simp [presentText, presentValue, hstate, hvalue]⟩
  · simp [hstate] at hunknown

/-- A payload names each entry exactly when its dictionary is that of the cells. -/
theorem usesDictionary_iff (hkind : isDictionary column.type.scalar = true)
    (hcells : OfColumn column cells) (hentries : IsDictionaryOf entries cells)
    (hsizes : ∀ part ∈ columnSections column.type.scalar entries cells, part.length < 2 ^ 32) :
    UsesDictionary column.type.scalar
        (payloadOf column.type.scalar (columnSections column.type.scalar entries cells)) ↔
      dictionaryOf cells = entries := by
  have hsection : (dictionarySection entries).length < 2 ^ 32 := by
    refine hsizes _ ?_
    simp [columnSections, hkind, dictionarySection]
  have hcount : entries.length < 2 ^ 32 := by
    rw [dictionarySection, List.length_append, List.length_append, length_encode,
      length_offsetTable] at hsection
    omega
  have hfirst : wordAt 4 (dictionarySection entries) 0 = entries.length := by
    refine wordAt_of_at hcount ?_
    have hat := at_self (dictionarySection entries)
    nth_rw 2 [dictionarySection] at hat
    rw [List.append_assoc, at_append] at hat
    exact hat.1
  -- the word of a row is the index of its text
  have hword {row : Nat} {cell : DetachedCell} {text : Bytes} (hcell : cells[row]? = some cell)
      (htext : presentText cell = some text) :
      wordAt 4 (cells.flatMap (dictionaryWord entries)) (row * 4) = entries.idxOf text := by
    have hlength : ∀ cell, (dictionaryWord entries cell).length = 4 := fun _ => length_encode 4 _
    have hat := at_words hlength hcell
    rw [dictionaryWord, htext] at hat
    exact wordAt_of_at (lt_of_le_of_lt List.idxOf_le_length hcount) hat
  have hnodup : entries.Nodup := hentries.ascending.imp fun hlt => hlt.ne
  rw [dictionaryOf_eq_iff hentries]
  have hlayout : columnSections column.type.scalar entries cells =
      [bitmap (cells.map fun cell => cell.state == .present),
        bitmap (cells.map fun cell => cell.state == .unknown), dictionarySection entries,
        cells.flatMap (dictionaryWord entries), offsetTable (cells.map reasonBytes),
        (cells.map reasonBytes).flatten] := by
    simp [columnSections, hkind, dictionarySection]
  rw [hlayout] at hsizes ⊢
  constructor
  · intro h entry hentry
    obtain ⟨validity, unknown, auxiliary, values, reasonOffsets, reasons, hpayload, hparts, hused⟩ :=
      h hkind
    have heq := payloadOf_inj rfl hsizes rfl hparts hpayload
    simp only [List.cons.injEq, and_true] at heq
    obtain ⟨rfl, -, rfl, rfl, -⟩ := heq
    obtain ⟨row, hpresent, hindex⟩ := hused (entries.idxOf entry)
      (by rw [hfirst]; exact List.idxOf_lt_length_of_mem hentry)
    obtain ⟨cell, hcell, hstate⟩ := bitAt_validity.1 hpresent
    have hmem := List.mem_of_getElem? hcell
    obtain ⟨text, htext⟩ := exists_presentText hkind hcells hmem hstate
    rw [hword hcell htext] at hindex
    have hsame : text = entry := (List.idxOf_inj (hentries.named cell hmem text htext)).1 hindex
    exact ⟨cell, hmem, hsame ▸ htext⟩
  · intro hused _
    refine ⟨_, _, _, _, _, _, rfl, hsizes, ?_⟩
    intro index hindex
    rw [hfirst] at hindex
    obtain ⟨cell, hmem, htext⟩ := hused _ (List.getElem_mem hindex)
    obtain ⟨row, hrow⟩ := List.mem_iff_getElem?.1 hmem
    refine ⟨row, bitAt_validity.2 ⟨cell, hrow, ?_⟩, ?_⟩
    · by_contra hstate
      simp [presentText, presentValue, hstate] at htext
    · rw [hword hrow htext, hnodup.idxOf_getElem]

end Dictionary

/-! ## There and back -/

section RoundTrip

variable {hash : Bytes → Digest32} {column : ColumnDescriptor} {value : ColumnChunkRecord}

/-- **What is encoded decodes to the record with its digest.** -/
theorem decode_encodeColumnChunk {encoded : EncodedColumnChunk}
    (h : encodeColumnChunk hash value column = .ok encoded) :
    decodeColumnChunk hash encoded.control encoded.payload column =
      .ok { value with chunkDigest := encoded.chunkDigest } := by
  obtain ⟨hnamed, hlength, hcells, hsizes, hpayload, hdigest, hcontrol, -⟩ :=
    encodeColumnChunk_eq_ok_iff.1 h
  refine decodeColumnChunk_eq_ok_iff.2 ⟨?_, hlength, hcells,
    ⟨dictionaryOf value.cells, fun _ => dictionaryOf_isDictionaryOf hcells, hsizes, hpayload⟩,
    hdigest, hcontrol⟩
  exact ⟨hnamed.taskId, hnamed.dependencyGroupId, hnamed.atomicOutputGroupId, hnamed.batchId,
    hnamed.descriptorId, hnamed.descriptorDigest, hnamed.columnId, hnamed.encoding, hnamed.rowCount⟩

/-- The sections of other columns do not depend on the dictionary. -/
theorem columnSections_congr {kind : ScalarKind} {entries others : List Bytes}
    {cells : List DetachedCell} (h : isDictionary kind = true → entries = others) :
    columnSections kind entries cells = columnSections kind others cells := by
  by_cases hkind : isDictionary kind = true
  · rw [h hkind]
  · simp [columnSections, hkind]

/-- **What is decoded encodes to the chunk exactly when the payload names each entry of its
dictionary.** -/
theorem encode_decodeColumnChunk_iff {control payload : Bytes}
    (h : decodeColumnChunk hash control payload column = .ok value) :
    encodeColumnChunk hash value column = .ok ⟨control, payload, value.chunkDigest⟩ ↔
      UsesDictionary column.type.scalar payload := by
  obtain ⟨hnamed, hlength, hcells, ⟨entries, hentries, hsizes, rfl⟩, hdigest, hcontrol⟩ :=
    decodeColumnChunk_eq_ok_iff.1 h
  constructor
  · intro hencode hkind
    obtain ⟨-, -, -, hown, hpayload, -⟩ := encodeColumnChunk_eq_ok_iff.1 hencode
    dsimp only at hpayload
    rw [hpayload]
    exact (usesDictionary_iff hkind hcells (dictionaryOf_isDictionaryOf hcells) hown).2 rfl hkind
  · intro hused
    have hsame : columnSections column.type.scalar entries value.cells =
        columnSections column.type.scalar (dictionaryOf value.cells) value.cells :=
      columnSections_congr fun hkind =>
        ((usesDictionary_iff hkind hcells (hentries hkind) hsizes).1 hused).symm
    rw [hsame] at hsizes hdigest hcontrol ⊢
    exact encodeColumnChunk_eq_ok_iff.2
      ⟨hnamed, hlength, hcells, hsizes, rfl, hdigest, hcontrol, .inr rfl⟩

end RoundTrip

end Cxxlens.Sdk
