import Cxxlens.Sdk.Provider.ColumnChunk

set_option autoImplicit false

/-! # The sections of a payload

A payload decodes to some cells exactly when it is the payload of these cells with some dictionary that
names every text of a cell (`decodePayload_eq_ok_iff`). The decoder does not ask that the dictionary
names nothing else. -/

namespace Cxxlens.Sdk

open Fallible Columnar Span

/-! ## Kinds -/

theorem isDictionary_iff (kind : ScalarKind) :
    isDictionary kind = true ↔ kind = .openSymbol ∨ kind = .closedSymbol := by
  cases kind <;> simp [isDictionary, columnEncoding] <;> decide

theorem isVariable_iff (kind : ScalarKind) :
    isVariable kind = true ↔ isDictionary kind = false ∧ kind ≠ .boolean ∧ kind ≠ .signedInteger ∧
      kind ≠ .unsignedInteger := by
  simp [isVariable, and_assoc]

/-- Where a column has neither numbers nor bytes, its values are texts. -/
theorem exists_text_of_matches {kind : ScalarKind} {value : ScalarValue}
    (hboolean : kind ≠ .boolean) (hsigned : kind ≠ .signedInteger)
    (hunsigned : kind ≠ .unsignedInteger) (hbytes : kind ≠ .bytes) (hset : kind ≠ .set)
    (h : matchesScalar kind value = true) : ∃ text, value = .string text := by
  cases value with
  | string text => exact ⟨text, rfl⟩
  | _ =>
      cases kind <;> first
        | exact absurd h Bool.false_ne_true
        | contradiction

theorem exists_text_of_dictionary {kind : ScalarKind} {value : ScalarValue}
    (hkind : isDictionary kind = true) (h : matchesScalar kind value = true) :
    ∃ text, value = .string text := by
  rcases (isDictionary_iff _).1 hkind with rfl | rfl
  · exact exists_text_of_matches (by simp) (by simp) (by simp) (by simp) (by simp) h
  · exact exists_text_of_matches (by simp) (by simp) (by simp) (by simp) (by simp) h

theorem exists_boolean_of_matches {value : ScalarValue} (h : matchesScalar .boolean value = true) :
    ∃ flag, value = .boolean flag := by
  cases value with
  | boolean flag => exact ⟨flag, rfl⟩
  | _ => exact absurd h Bool.false_ne_true

theorem exists_signed_of_matches {value : ScalarValue}
    (h : matchesScalar .signedInteger value = true) : ∃ stored, value = .signedInteger stored := by
  cases value with
  | signedInteger stored => exact ⟨stored, rfl⟩
  | _ => exact absurd h Bool.false_ne_true

theorem exists_unsigned_of_matches {value : ScalarValue}
    (h : matchesScalar .unsignedInteger value = true) :
    ∃ stored, value = .unsignedInteger stored := by
  cases value with
  | unsignedInteger stored => exact ⟨stored, rfl⟩
  | _ => exact absurd h Bool.false_ne_true

theorem exists_bytes_of_matches {kind : ScalarKind} {value : ScalarValue}
    (hkind : kind = .bytes ∨ kind = .set) (h : matchesScalar kind value = true) :
    ∃ stored, value = .bytes stored := by
  rcases hkind with rfl | rfl
  · cases value with
    | bytes stored => exact ⟨stored, rfl⟩
    | _ => exact absurd h Bool.false_ne_true
  · cases value with
    | bytes stored => exact ⟨stored, rfl⟩
    | _ => exact absurd h Bool.false_ne_true

theorem matchesScalar_and_utf8 {type : ValueType} {value : ScalarValue}
    (h : invalidScalarDetail type value = none) :
    matchesScalar type.scalar value = true ∧ validUtf8 value.text = true := by
  unfold invalidScalarDetail at h
  split_ifs at h with htype hmatches hutf8
  exact ⟨by simpa using hmatches, by simpa using hutf8⟩

/-! ## Cutting a payload -/

theorem readSections_eq_ok_iff {column : ColumnDescriptor} {payload : Bytes} {count : Nat} :
    ∀ {index offset : Nat} {sections : List Bytes}, offset ≤ payload.length →
      8 + (index + count) * 4 ≤ payload.length →
      (readSections column payload count index offset = .ok sections ↔ sections.length = count ∧
        At payload (8 + index * 4) (sections.flatMap fun part => encode 4 part.length) ∧
        At payload offset sections.flatten ∧ offset + sections.flatten.length = payload.length ∧
        ∀ part ∈ sections, part.length < 2 ^ 32) := by
  induction count with
  | zero =>
      intro index offset sections hoffset hindex
      simp only [readSections, seq_eq_ok_iff, reject_eq_ok_iff, bne_eq_false_iff_eq,
        Except.ok.injEq, List.length_eq_zero_iff]
      constructor
      · rintro ⟨rfl, rfl⟩
        exact ⟨rfl, by simp, by simp, by simp, by simp⟩
      · rintro ⟨rfl, -, -, hlength, -⟩
        exact ⟨by simpa using hlength, rfl⟩
  | succ count ih =>
      intro index offset sections hoffset hindex
      have hsize : At payload (8 + index * 4)
          (encode 4 (wordAt 4 payload (8 + index * 4))) := at_wordAt (by omega)
      have hword : wordAt 4 payload (8 + index * 4) < 256 ^ 4 := wordAt_lt _ _ _
      simp only [readSections, bind_eq_ok_iff, Unique.exists_iff, PUnit.default_eq_unit,
        reject_eq_ok_iff, Except.ok.injEq, decide_eq_false_iff_not, not_lt, Nat.min_eq_left hoffset]
      constructor
      · rintro ⟨hfits, rest, hrest, rfl⟩
        obtain ⟨hlength, hsizes, hat, hend, hlt⟩ :=
          (ih (by omega) (by omega)).1 hrest
        have hpart : (slice payload offset
            (offset + wordAt 4 payload (8 + index * 4))).length =
              wordAt 4 payload (8 + index * 4) := by
          rw [length_slice (by omega), Nat.add_sub_cancel_left]
        refine ⟨by simp [hlength], ?_, ?_, ?_, ?_⟩
        · rw [List.flatMap_cons, at_append, hpart, length_encode]
          exact ⟨hsize, by rwa [Nat.succ_mul, ← Nat.add_assoc] at hsizes⟩
        · rw [List.flatten_cons, at_append, hpart]
          exact ⟨at_slice _ _ _, hat⟩
        · rw [List.flatten_cons, List.length_append, hpart, ← Nat.add_assoc, hend]
        · rw [List.forall_mem_cons, hpart]
          exact ⟨by omega, hlt⟩
      · rintro ⟨hlength, hsizes, hat, hend, hlt⟩
        cases sections with
        | nil => cases hlength
        | cons first rest =>
            rw [List.flatMap_cons, at_append, length_encode] at hsizes
            rw [List.flatten_cons, at_append] at hat
            rw [List.flatten_cons, List.length_append] at hend
            rw [List.forall_mem_cons] at hlt
            have hfirst : wordAt 4 payload (8 + index * 4) = first.length :=
              wordAt_of_at (by omega) hsizes.1
            rw [hfirst]
            have hrest : readSections column payload count (index + 1) (offset + first.length) =
                .ok rest := by
              refine (ih (by omega) (by omega)).2 ⟨by simpa using hlength, ?_, hat.2, by omega, hlt.2⟩
              rw [Nat.succ_mul, ← Nat.add_assoc]
              exact hsizes.2
            exact ⟨by omega, rest, hrest, by rw [hat.1.slice_eq]⟩

theorem length_chunkHeader (kind : ScalarKind) : (chunkHeader kind).length = 8 := rfl

/-- A payload of six sections is cut into them. -/
theorem payload_sections_iff {column : ColumnDescriptor} {payload : Bytes} {sections : List Bytes} :
    (¬ payload.length < 32 ∧ payload.take 8 = chunkHeader column.type.scalar) ∧
        readSections column payload 6 0 32 = .ok sections ↔
      sections.length = 6 ∧ (∀ part ∈ sections, part.length < 2 ^ 32) ∧
        payload = payloadOf column.type.scalar sections := by
  have hsizes (hlength : sections.length = 6) :
      (sections.flatMap fun part => encode 4 part.length).length = 24 := by
    rw [length_words fun part : Bytes => length_encode 4 part.length, hlength]
  constructor
  · rintro ⟨⟨hlength, hheader⟩, h⟩
    obtain ⟨hcount, hat, hparts, hend, hlt⟩ :=
      (readSections_eq_ok_iff (by omega) (by omega)).1 h
    refine ⟨hcount, hlt, ?_⟩
    have hall : At payload 0 (payloadOf column.type.scalar sections) := by
      rw [payloadOf, at_append, at_append, length_chunkHeader, List.length_append,
        length_chunkHeader, hsizes hcount]
      exact ⟨⟨hheader ▸ List.take_prefix 8 payload, hat⟩, hparts⟩
    refine (hall.eq_self ?_).symm
    rw [payloadOf, List.length_append, List.length_append, length_chunkHeader, hsizes hcount]
    omega
  · rintro ⟨hcount, hlt, rfl⟩
    have hall := at_self (payloadOf column.type.scalar sections)
    have hlength : (payloadOf column.type.scalar sections).length =
        32 + sections.flatten.length := by
      rw [payloadOf, List.length_append, List.length_append, length_chunkHeader, hsizes hcount]
    nth_rw 2 [payloadOf] at hall
    rw [at_append, at_append, length_chunkHeader, List.length_append, length_chunkHeader,
      hsizes hcount] at hall
    refine ⟨⟨by omega, ?_⟩, (readSections_eq_ok_iff (by omega) (by omega)).2
      ⟨hcount, hall.1.2, hall.2, hlength.symm, hlt⟩⟩
    rw [payloadOf, List.append_assoc, ← length_chunkHeader column.type.scalar, List.take_left]

/-! ## Values -/

/-- A value stands in a row: its word, or its bytes `content`, or the index of its text. -/
structure ValueAt (kind : ScalarKind) (view : ChunkView) (index : Nat) (content : Bytes)
    (value : ScalarValue) : Prop where
  fixed : isDictionary kind = false → isVariable kind = false →
    wordAt (fixedWidth kind) view.values (index * fixedWidth kind) = value.number
  «variable» : isVariable kind = true → content = value.content
  dictionary : isDictionary kind = true → ∃ text, value = .string text ∧ text ∈ view.entries ∧
    wordAt 4 view.values (index * 4) = view.entries.idxOf text

section Values

variable {column : ColumnDescriptor} {view : ChunkView} {index : Nat} {content : Bytes}
  {value : ScalarValue}

theorem decodeValue_boolean (hkind : column.type.scalar = .boolean)
    (hmatches : matchesScalar column.type.scalar value = true) :
    decodeValue column view index = .ok value ↔
      ValueAt column.type.scalar view index content value := by
  obtain ⟨flag, rfl⟩ := exists_boolean_of_matches (hkind ▸ hmatches)
  have hnumber : (decodeValue column view index = .ok (.boolean flag)) ↔
      wordAt 1 view.values index = flag.toNat := by
    unfold decodeValue
    simp only [hkind, if_true]
    cases flag with
    | false =>
        split_ifs with hbyte
        · simp only [false_iff, Bool.toNat_false]
          omega
        · simp
    | true =>
        split_ifs with hbyte
        · simp only [false_iff, Bool.toNat_true]
          omega
        · simp only [Except.ok.injEq, ScalarValue.boolean.injEq, bne_iff_ne, Bool.toNat_true]
          omega
  rw [hnumber, hkind]
  constructor
  · intro h
    exact ⟨fun _ _ => by simpa [fixedWidth, ScalarValue.number] using h,
      fun hvariable => absurd hvariable (by decide), fun hdictionary => absurd hdictionary (by decide)⟩
  · intro h
    simpa [fixedWidth, ScalarValue.number] using h.fixed (by decide) (by decide)

/-- A word of eight bytes is a number of 64 bits. -/
theorem toNat_wordAt (bytes : Bytes) (offset : Nat) :
    (UInt64.ofNat (wordAt 8 bytes offset)).toNat = wordAt 8 bytes offset := by
  have hlt := wordAt_lt 8 bytes offset
  rw [UInt64.toNat_ofNat', Nat.mod_eq_of_lt (by omega)]

theorem decodeValue_integer
    (hkind : column.type.scalar = .signedInteger ∨ column.type.scalar = .unsignedInteger)
    (hmatches : matchesScalar column.type.scalar value = true) :
    decodeValue column view index = .ok value ↔
      ValueAt column.type.scalar view index content value := by
  have hword := toNat_wordAt view.values (index * 8)
  have hnumber : decodeValue column view index = .ok value ↔
      wordAt 8 view.values (index * 8) = value.number := by
    rcases hkind with hkind | hkind
    · obtain ⟨stored, rfl⟩ := exists_signed_of_matches (hkind ▸ hmatches)
      unfold decodeValue
      simp only [hkind, reduceCtorEq, if_false, if_true, Except.ok.injEq,
        ScalarValue.signedInteger.injEq, ScalarValue.number]
      generalize UInt64.ofNat (wordAt 8 view.values (index * 8)) = word at hword
      rw [← hword, UInt64.toNat_inj]
      constructor
      · rintro rfl
        exact (UInt64.toUInt64_toInt64 word).symm
      · rintro rfl
        exact Int64.toInt64_toUInt64 stored
    · obtain ⟨stored, rfl⟩ := exists_unsigned_of_matches (hkind ▸ hmatches)
      unfold decodeValue
      simp only [hkind, reduceCtorEq, if_false, if_true, Except.ok.injEq,
        ScalarValue.unsignedInteger.injEq, ScalarValue.number]
      rw [← UInt64.toNat_inj, hword]
  have hwidth : fixedWidth column.type.scalar = 8 ∧ isDictionary column.type.scalar = false ∧
      isVariable column.type.scalar = false := by
    rcases hkind with hkind | hkind <;> rw [hkind] <;> decide
  rw [hnumber]
  constructor
  · intro h
    exact ⟨fun _ _ => by rw [hwidth.1, h], fun hvariable => by simp [hwidth.2.2] at hvariable,
      fun hdictionary => by simp [hwidth.2.1] at hdictionary⟩
  · intro h
    have hfixed := h.fixed hwidth.2.1 hwidth.2.2
    rwa [hwidth.1] at hfixed

theorem decodeValue_dictionary (hkind : isDictionary column.type.scalar = true)
    (hnodup : view.entries.Nodup) (hmatches : matchesScalar column.type.scalar value = true) :
    decodeValue column view index = .ok value ↔
      ValueAt column.type.scalar view index content value := by
  have hcases := (isDictionary_iff _).1 hkind
  have hvariable : isVariable column.type.scalar = false := by
    simp [isVariable, hkind]
  have hother : column.type.scalar ≠ .boolean ∧ column.type.scalar ≠ .signedInteger ∧
      column.type.scalar ≠ .unsignedInteger := by
    rcases hcases with h | h <;> simp [h]
  obtain ⟨text, rfl⟩ := exists_text_of_dictionary hkind hmatches
  have hentry : decodeValue column view index = .ok (.string text) ↔
      view.entries[wordAt 4 view.values (index * 4)]? = some text := by
    unfold decodeValue
    simp only [hother.1, hother.2.1, hother.2.2, hkind, if_false, if_true]
    cases view.entries[wordAt 4 view.values (index * 4)]? with
    | none => simp
    | some entry => simp
  rw [hentry, List.getElem?_eq_some_iff]
  constructor
  · rintro ⟨hindex, rfl⟩
    exact ⟨fun hdictionary => by simp [hkind] at hdictionary,
      fun h => by simp [hvariable] at h,
      fun _ => ⟨_, rfl, List.getElem_mem hindex, (hnodup.idxOf_getElem _ hindex).symm⟩⟩
  · intro h
    obtain ⟨other, hother, hmem, hword⟩ := h.dictionary hkind
    obtain rfl := ScalarValue.string.inj hother
    rw [hword]
    exact ⟨List.idxOf_lt_length_of_mem hmem, List.getElem_idxOf _⟩

theorem decodeValue_variable (hkind : isVariable column.type.scalar = true)
    (hcontent : slice view.values (view.valueOffsets.getD index 0)
      (view.valueOffsets.getD (index + 1) 0) = content)
    (hmatches : matchesScalar column.type.scalar value = true)
    (hutf8 : validUtf8 value.text = true) :
    decodeValue column view index = .ok value ↔
      ValueAt column.type.scalar view index content value := by
  obtain ⟨hdictionary, hboolean, hsigned, hunsigned⟩ := (isVariable_iff _).1 hkind
  have hstored : decodeValue column view index = .ok value ↔ content = value.content := by
    unfold decodeValue
    simp only [hboolean, hsigned, hunsigned, hdictionary, if_false, Bool.false_eq_true, hcontent]
    by_cases hbytes : column.type.scalar = .bytes ∨ column.type.scalar = .set
    · obtain ⟨stored, rfl⟩ := exists_bytes_of_matches hbytes hmatches
      rw [if_pos hbytes]
      simp [ScalarValue.content]
    · rw [if_neg hbytes]
      rw [not_or] at hbytes
      obtain ⟨text, rfl⟩ :=
        exists_text_of_matches hboolean hsigned hunsigned hbytes.1 hbytes.2 hmatches
      rw [guard_eq_ok_iff]
      simp only [Except.ok.injEq, ScalarValue.string.injEq, ScalarValue.content]
      constructor
      · exact fun h => h.2
      · rintro rfl
        exact ⟨by simpa [ScalarValue.text] using hutf8, rfl⟩
  rw [hstored]
  constructor
  · intro h
    exact ⟨fun _ hfixed => by simp [hkind] at hfixed, fun _ => h,
      fun h => by simp [hdictionary] at h⟩
  · exact fun h => h.variable hkind

/-- What the loop over the rows knows of a row: `content` and `reason` are its pieces. -/
structure RowAt (column : ColumnDescriptor) (view : ChunkView) (index : Nat)
    (content reason : Bytes) : Prop where
  reasonPiece : slice view.reasons (view.reasonOffsets.getD index 0)
    (view.reasonOffsets.getD (index + 1) 0) = reason
  reasonEnd : view.reasonOffsets.getD (index + 1) 0 =
    view.reasonOffsets.getD index 0 + reason.length
  contentPiece : isVariable column.type.scalar = true → slice view.values
    (view.valueOffsets.getD index 0) (view.valueOffsets.getD (index + 1) 0) = content
  contentEnd : isVariable column.type.scalar = true → view.valueOffsets.getD (index + 1) 0 =
    view.valueOffsets.getD index 0 + content.length
  entries : isDictionary column.type.scalar = true → view.entries.Nodup

variable {reason : Bytes}

theorem decodeValue_eq_ok_iff (hrow : RowAt column view index content reason)
    (hdetail : invalidScalarDetail column.type value = none) :
    decodeValue column view index = .ok value ↔
      ValueAt column.type.scalar view index content value := by
  obtain ⟨hmatches, hutf8⟩ := matchesScalar_and_utf8 hdetail
  by_cases hdictionary : isDictionary column.type.scalar = true
  · exact decodeValue_dictionary hdictionary (hrow.entries hdictionary) hmatches
  by_cases hvariable : isVariable column.type.scalar = true
  · exact decodeValue_variable hvariable (hrow.contentPiece hvariable) hmatches hutf8
  rw [isVariable_iff] at hvariable
  by_cases hboolean : column.type.scalar = .boolean
  · exact decodeValue_boolean hboolean hmatches
  · refine decodeValue_integer ?_ hmatches
    by_contra hinteger
    rw [not_or] at hinteger
    exact hvariable ⟨by simpa using hdictionary, hboolean, hinteger.1, hinteger.2⟩

end Values

/-! ## Cells -/

/-- A cell stands in a row. -/
structure CellAt (column : ColumnDescriptor) (view : ChunkView) (index : Nat)
    (content reason : Bytes) (cell : DetachedCell) : Prop where
  type : cell.type = column.type
  valid : cell.validate = .ok ()
  present : bitAt view.validity index = (cell.state == .present)
  unknown : bitAt view.unknown index = (cell.state == .unknown)
  reason : reason = reasonBytes cell
  fixed : isDictionary column.type.scalar = false → isVariable column.type.scalar = false →
    wordAt (fixedWidth column.type.scalar) view.values (index * fixedWidth column.type.scalar) =
      (presentValue cell).elim 0 ScalarValue.number
  «variable» : isVariable column.type.scalar = true → content = storedBytes cell
  dictionary : isDictionary column.type.scalar = true →
    wordAt 4 view.values (index * 4) = (presentText cell).elim 0 view.entries.idxOf ∧
      ∀ text, presentText cell = some text → text ∈ view.entries

section Cells

variable {column : ColumnDescriptor} {view : ChunkView} {index : Nat} {content reason : Bytes}
  {cell : DetachedCell}

theorem isOk_eq_true_iff (checked : Result Unit) : checked.isOk = true ↔ checked = .ok () := by
  cases checked with
  | error error => simp [Except.isOk, Except.toBool]
  | ok checked => simp [Except.isOk, Except.toBool]

/-- The storage of a row without a value is zero. -/
structure Vacant (column : ColumnDescriptor) (view : ChunkView) (index : Nat) (content : Bytes) :
    Prop where
  fixed : isDictionary column.type.scalar = false → isVariable column.type.scalar = false →
    wordAt (fixedWidth column.type.scalar) view.values (index * fixedWidth column.type.scalar) = 0
  «variable» : isVariable column.type.scalar = true → content = []
  dictionary : isDictionary column.type.scalar = true → wordAt 4 view.values (index * 4) = 0

/-- The checks of the storage of a row without a value. -/
theorem vacant_iff (hrow : RowAt column view index content reason) :
    Vacant column view index content ↔
      (isVariable column.type.scalar = true →
        view.valueOffsets.getD index 0 = view.valueOffsets.getD (index + 1) 0) ∧
      (isDictionary column.type.scalar = false → isVariable column.type.scalar = false →
        (slice view.values (index * fixedWidth column.type.scalar)
          (index * fixedWidth column.type.scalar + fixedWidth column.type.scalar)).any
            (· != 0) = false) ∧
      (isDictionary column.type.scalar = true → wordAt 4 view.values (index * 4) = 0) := by
  have hcontent (hvariable : isVariable column.type.scalar = true) : content = [] ↔
      view.valueOffsets.getD index 0 = view.valueOffsets.getD (index + 1) 0 := by
    rw [hrow.contentEnd hvariable, ← List.length_eq_zero_iff]
    omega
  constructor
  · intro h
    refine ⟨fun hvariable => (hcontent hvariable).1 (h.variable hvariable), ?_, h.dictionary⟩
    intro hdictionary hvariable
    exact (decode_eq_zero_iff _).1 (h.fixed hdictionary hvariable)
  · rintro ⟨hvariable, hfixed, hdictionary⟩
    exact ⟨fun hd hv => (decode_eq_zero_iff _).2 (hfixed hd hv),
      fun h => (hcontent h).2 (hvariable h), hdictionary⟩

theorem decodeCell_present (hrow : RowAt column view index content reason)
    (hpresent : bitAt view.validity index = true) :
    decodeCell column view index = .ok cell ↔ bitAt view.unknown index = false ∧ reason = [] ∧
      ∃ value, decodeValue column view index = .ok value ∧
        cell = { type := column.type, state := .present, value := some value } ∧
        cell.validate = .ok () := by
  have hreason : (view.reasonOffsets.getD index 0 != view.reasonOffsets.getD (index + 1) 0) = false ↔
      reason = [] := by
    rw [bne_eq_false_iff_eq, hrow.reasonEnd, ← List.length_eq_zero_iff]
    omega
  unfold decodeCell rowCell
  simp only [hpresent, bind_eq_ok_iff, Unique.exists_iff, PUnit.default_eq_unit, reject_eq_ok_iff,
    Bool.true_and, Bool.not_true, Bool.and_false, Bool.false_and, Bool.false_or, if_true,
    Except.ok.injEq, Bool.not_eq_false', isOk_eq_true_iff, true_and]
  constructor
  · rintro ⟨hunknown, hnull, found, ⟨value, hvalue, rfl⟩, hvalid, rfl⟩
    rw [hunknown, Bool.not_false, Bool.true_and, hreason] at hnull
    exact ⟨hunknown, hnull, value, hvalue, rfl, hvalid⟩
  · rintro ⟨hunknown, hnull, value, hvalue, rfl, hvalid⟩
    rw [hunknown, Bool.not_false, Bool.true_and, hreason]
    exact ⟨rfl, hnull, _, ⟨value, hvalue, rfl⟩, hvalid, rfl⟩

theorem decodeCell_vacant (hrow : RowAt column view index content reason)
    (hpresent : bitAt view.validity index = false) :
    decodeCell column view index = .ok cell ↔ Vacant column view index content ∧
      cell.validate = .ok () ∧
      (bitAt view.unknown index = true ∧
          cell = { type := column.type, state := .unknown, unknownReason := some reason } ∨
        bitAt view.unknown index = false ∧ column.type.optional = true ∧ reason = [] ∧
          cell = { type := column.type, state := .absent }) := by
  have hreason : view.reasonOffsets.getD index 0 = view.reasonOffsets.getD (index + 1) 0 ↔
      reason = [] := by
    rw [hrow.reasonEnd, ← List.length_eq_zero_iff]
    omega
  rw [vacant_iff hrow]
  unfold decodeCell rowCell
  simp only [hpresent, bind_eq_ok_iff, Unique.exists_iff, PUnit.default_eq_unit, reject_eq_ok_iff,
    Bool.false_and, Bool.not_false, Bool.and_true, Bool.true_and, Bool.false_eq_true, if_false,
    Except.ok.injEq, Bool.not_eq_false', isOk_eq_true_iff, true_and, Bool.or_eq_false_iff,
    Bool.and_eq_false_imp, Bool.and_eq_true, bne_eq_false_iff_eq, Bool.not_eq_true', hreason,
    hrow.reasonPiece]
  cases hunknown : bitAt view.unknown index with
  | true =>
      simp only [Bool.true_eq_false, if_true, Except.ok.injEq, false_imp_iff, true_and, false_and,
        or_false, and_true]
      constructor
      · rintro ⟨hvariable, hfixed, found, rfl, hdictionary, hvalid, rfl⟩
        exact ⟨⟨hvariable, fun h h' => hfixed ⟨h, h'⟩, hdictionary⟩, hvalid, rfl⟩
      · rintro ⟨⟨hvariable, hfixed, hdictionary⟩, hvalid, rfl⟩
        exact ⟨hvariable, fun h => hfixed h.1 h.2, _, rfl, hdictionary, hvalid, rfl⟩
  | false =>
      simp only [Bool.false_eq_true, if_false, Except.ok.injEq, true_imp_iff, false_and, false_or,
        true_and]
      constructor
      · rintro ⟨hoptional, ⟨hvariable, hnull⟩, hfixed, found, rfl, hdictionary, hvalid, rfl⟩
        exact ⟨⟨hvariable, fun h h' => hfixed ⟨h, h'⟩, hdictionary⟩, hvalid, hoptional, hnull, rfl⟩
      · rintro ⟨⟨hvariable, hfixed, hdictionary⟩, hvalid, hoptional, hnull, rfl⟩
        exact ⟨hoptional, ⟨hvariable, hnull⟩, fun h => hfixed h.1 h.2, _, rfl, hdictionary, hvalid, rfl⟩

/-- A value stands in a row exactly when the cell that has it does. -/
theorem cellAt_present_iff {value : ScalarValue} (hpresent : bitAt view.validity index = true)
    (hunknown : bitAt view.unknown index = false)
    (hvalid : DetachedCell.validate { type := column.type, value := some value } = .ok ()) :
    CellAt column view index content [] { type := column.type, value := some value } ↔
      ValueAt column.type.scalar view index content value := by
  constructor
  · intro h
    refine ⟨h.fixed, h.variable, ?_⟩
    intro hdictionary
    obtain ⟨hword, hmem⟩ := h.dictionary hdictionary
    rcases DetachedCell.validate_forms hvalid with ⟨hstate, -⟩ | ⟨found, -, hfound, -, hdetail⟩ |
      ⟨_, hstate, -⟩
    · cases hstate
    · obtain rfl := Option.some.inj hfound
      obtain ⟨text, rfl⟩ := exists_text_of_dictionary hdictionary (matchesScalar_and_utf8 hdetail).1
      exact ⟨text, rfl, hmem text rfl, hword⟩
    · cases hstate
  · intro h
    refine ⟨rfl, hvalid, hpresent, hunknown, rfl, h.fixed, h.variable, ?_⟩
    intro hdictionary
    obtain ⟨text, rfl, hmem, hword⟩ := h.dictionary hdictionary
    refine ⟨hword, ?_⟩
    intro other hother
    obtain rfl : text = other := Option.some.inj hother
    exact hmem

/-- A cell without a value stands in a vacant row. -/
theorem cellAt_vacant_iff (htype : cell.type = column.type) (hvalid : cell.validate = .ok ())
    (hstate : cell.state ≠ .present) (hpresent : bitAt view.validity index = false)
    (hunknown : bitAt view.unknown index = (cell.state == .unknown))
    (hreason : reason = reasonBytes cell) :
    CellAt column view index content reason cell ↔ Vacant column view index content := by
  have hvalue : presentValue cell = none := by
    rw [presentValue, if_neg hstate]
  have htext : presentText cell = none := by
    rw [presentText, hvalue]
  constructor
  · intro h
    refine ⟨?_, ?_, ?_⟩
    · intro hdictionary hvariable
      rw [h.fixed hdictionary hvariable, hvalue]
      rfl
    · intro hvariable
      rw [h.variable hvariable, storedBytes, hvalue]
      rfl
    · intro hdictionary
      rw [(h.dictionary hdictionary).1, htext]
      rfl
  · intro h
    refine ⟨htype, hvalid, ?_, hunknown, hreason, ?_, ?_, ?_⟩
    · rw [hpresent, eq_comm, beq_eq_false_iff_ne]
      exact hstate
    · intro hdictionary hvariable
      rw [h.fixed hdictionary hvariable, hvalue]
      rfl
    · intro hvariable
      rw [h.variable hvariable, storedBytes, hvalue]
      rfl
    · intro hdictionary
      rw [h.dictionary hdictionary, htext]
      exact ⟨rfl, fun _ habsurd => by cases habsurd⟩

/-- A row decodes to a cell exactly when the cell stands there. -/
theorem decodeCell_eq_ok_iff (hrow : RowAt column view index content reason) :
    decodeCell column view index = .ok cell ↔ CellAt column view index content reason cell := by
  cases hpresent : bitAt view.validity index with
  | true =>
      rw [decodeCell_present hrow hpresent]
      constructor
      · rintro ⟨hunknown, rfl, value, hvalue, rfl, hvalid⟩
        rw [cellAt_present_iff hpresent hunknown hvalid]
        rcases DetachedCell.validate_forms hvalid with ⟨hstate, -⟩ | ⟨found, -, hfound, -, hdetail⟩ |
          ⟨_, hstate, -⟩
        · cases hstate
        · obtain rfl := Option.some.inj hfound
          exact (decodeValue_eq_ok_iff hrow hdetail).1 hvalue
        · cases hstate
      · intro h
        have hstate : cell.state = .present := by
          have heq := h.present
          rw [hpresent, eq_comm, beq_iff_eq] at heq
          exact heq
        rcases DetachedCell.validate_forms h.valid with ⟨habsent, -⟩ |
          ⟨value, -, hvalue, hnone, hdetail⟩ | ⟨_, hunknown, -⟩
        · rw [hstate] at habsent
          cases habsent
        · obtain ⟨type, state, stored, text⟩ := cell
          obtain rfl : state = .present := hstate
          obtain rfl : stored = some value := hvalue
          obtain rfl : text = none := hnone
          obtain rfl : type = column.type := h.type
          obtain rfl : reason = [] := h.reason
          have hunknown : bitAt view.unknown index = false := h.unknown
          exact ⟨hunknown, rfl, value, (decodeValue_eq_ok_iff hrow hdetail).2
            ((cellAt_present_iff hpresent hunknown h.valid).1 h), rfl, h.valid⟩
        · rw [hstate] at hunknown
          cases hunknown
  | false =>
      rw [decodeCell_vacant hrow hpresent]
      constructor
      · rintro ⟨hvacant, hvalid, ⟨hunknown, rfl⟩ | ⟨hunknown, -, rfl, rfl⟩⟩
        · exact (cellAt_vacant_iff rfl hvalid (by simp) hpresent hunknown rfl).2 hvacant
        · exact (cellAt_vacant_iff rfl hvalid (by simp) hpresent hunknown rfl).2 hvacant
      · intro h
        have hstate : cell.state ≠ .present := by
          have heq := h.present
          rw [hpresent, eq_comm, beq_eq_false_iff_ne] at heq
          exact heq
        refine ⟨(cellAt_vacant_iff h.type h.valid hstate hpresent h.unknown h.reason).1 h, h.valid, ?_⟩
        obtain ⟨type, state, stored, text⟩ := cell
        obtain rfl : type = column.type := h.type
        rcases DetachedCell.validate_forms h.valid with ⟨habsent, hoptional, hvalue, hnone⟩ |
          ⟨_, hpresent', -⟩ | ⟨found, hunknown, hvalue, hfound⟩
        · obtain rfl : state = .absent := habsent
          obtain rfl : stored = none := hvalue
          obtain rfl : text = none := hnone
          exact .inr ⟨h.unknown, hoptional, h.reason, rfl⟩
        · exact absurd hpresent' hstate
        · obtain rfl : state = .unknown := hunknown
          obtain rfl : stored = none := hvalue
          obtain rfl : text = some found := hfound
          obtain rfl : reason = found := h.reason
          exact .inl ⟨h.unknown, rfl⟩

end Cells

/-! ## Rows -/

theorem decodeCells_eq_ok_iff {column : ColumnDescriptor} {view : ChunkView} {count : Nat} :
    ∀ {index : Nat} {cells : List DetachedCell},
      decodeCells column view count index = .ok cells ↔ cells.length = count ∧
        ∀ (row : Nat) (cell : DetachedCell), cells[row]? = some cell →
          decodeCell column view (index + row) = .ok cell := by
  induction count with
  | zero =>
      intro index cells
      rw [decodeCells, Except.ok.injEq, List.length_eq_zero_iff]
      constructor
      · rintro rfl
        simp
      · exact fun h => h.1.symm
  | succ count ih =>
      intro index cells
      simp only [decodeCells, bind_eq_ok_iff, Except.ok.injEq]
      constructor
      · rintro ⟨cell, hcell, rest, hrest, rfl⟩
        obtain ⟨hlength, hrest⟩ := ih.1 hrest
        refine ⟨by simp [hlength], ?_⟩
        intro row found hfound
        cases row with
        | zero =>
            obtain rfl := Option.some.inj hfound
            exact hcell
        | succ row =>
            rw [← Nat.add_assoc, Nat.add_right_comm]
            exact hrest row found (by simpa using hfound)
      · rintro ⟨hlength, hcells⟩
        cases cells with
        | nil => cases hlength
        | cons cell rest =>
            refine ⟨cell, hcells 0 cell rfl, rest, ih.2 ⟨by simpa using hlength, ?_⟩, rfl⟩
            intro row found hfound
            rw [Nat.add_right_comm, Nat.add_assoc]
            exact hcells (row + 1) found (by simpa using hfound)

/-- What the loop over the rows knows of all of them: the pieces of the values and of the reasons. -/
structure ViewOf (column : ColumnDescriptor) (view : ChunkView) (contents reasons : List Bytes) :
    Prop where
  reasonOffsets : view.reasonOffsets = offsetsFrom 0 reasons
  reasonBytes : view.reasons = reasons.flatten
  valueOffsets : isVariable column.type.scalar = true → view.valueOffsets = offsetsFrom 0 contents
  valueBytes : isVariable column.type.scalar = true → view.values = contents.flatten
  entries : isDictionary column.type.scalar = true → view.entries.Nodup

theorem ViewOf.rowAt {column : ColumnDescriptor} {view : ChunkView} {index : Nat}
    {contents reasons : List Bytes} {content reason : Bytes}
    (h : ViewOf column view contents reasons) (hcontent : contents[index]? = some content)
    (hreason : reasons[index]? = some reason) :
    RowAt column view index content reason := by
  refine ⟨?_, ?_, ?_, ?_, h.entries⟩
  · rw [h.reasonOffsets, h.reasonBytes]
    exact slice_piece hreason 0 [] rfl
  · rw [h.reasonOffsets]
    exact getD_offsetsFrom_succ hreason 0
  · intro hvariable
    rw [h.valueOffsets hvariable, h.valueBytes hvariable]
    exact slice_piece hcontent 0 [] rfl
  · intro hvariable
    rw [h.valueOffsets hvariable]
    exact getD_offsetsFrom_succ hcontent 0

/-! ## Dictionaries -/

theorem offsetsFrom_eq_cons (start : Nat) (pieces : List Bytes) :
    ∃ tail, offsetsFrom start pieces = start :: tail := by
  cases pieces with
  | nil => exact ⟨[], rfl⟩
  | cons piece rest => exact ⟨_, rfl⟩

theorem readEntries_eq_ok_iff {column : ColumnDescriptor} {pieces : List Bytes} :
    ∀ {before : Bytes} {output entries : List Bytes},
      readEntries column (before ++ pieces.flatten) (offsetsFrom before.length pieces) output =
        .ok entries ↔ entries = output ++ pieces ∧ (∀ piece ∈ pieces, validUtf8 piece = true) ∧
          (output.getLast?.toList ++ pieces).IsChain (· < ·) := by
  induction pieces with
  | nil =>
      intro before output entries
      rw [offsetsFrom, readEntries, Except.ok.injEq]
      · constructor
        · rintro rfl
          refine ⟨by simp, by simp, ?_⟩
          cases output.getLast? <;> simp
        · rintro ⟨rfl, -⟩
          simp
      · intro first last rest h
        cases h
  | cons piece rest ih =>
      intro before output entries
      obtain ⟨tail, htail⟩ := offsetsFrom_eq_cons (before.length + piece.length) rest
      have hentry : slice (before ++ (piece :: rest).flatten) before.length
          (before.length + piece.length) = piece := by
        rw [slice, List.drop_left, Nat.add_sub_cancel_left, List.flatten_cons, List.take_left]
      have hrest := @ih (before ++ piece) (output ++ [piece]) entries
      rw [List.length_append, htail, List.append_assoc, ← List.flatten_cons] at hrest
      rw [offsetsFrom, htail, readEntries]
      simp only [hentry, seq_eq_ok_iff, reject_eq_ok_iff, hrest, Bool.or_eq_false_iff,
        Bool.not_eq_false', List.forall_mem_cons, List.append_assoc, List.cons_append,
        List.nil_append, List.getLast?_append, List.getLast?_singleton, Option.some_or,
        Option.toList_some]
      cases output.getLast? with
      | none => simp [and_assoc, and_left_comm]
      | some previous =>
          simp only [Bool.not_eq_false', Option.toList_some, List.cons_append, List.nil_append,
            List.isChain_cons_cons, bytesLess, decide_eq_true_eq]
          tauto

/-- A dictionary of the cells: ascending texts, among them the texts of the cells. -/
structure IsDictionaryOf (entries : List Bytes) (cells : List DetachedCell) : Prop where
  ascending : entries.Pairwise (· < ·)
  utf8 : ∀ entry ∈ entries, validUtf8 entry = true
  named : ∀ cell ∈ cells, ∀ text, presentText cell = some text → text ∈ entries

/-- The section of a dictionary. -/
def dictionarySection (entries : List Bytes) : Bytes :=
  encode 4 entries.length ++ offsetTable entries ++ entries.flatten

theorem length_offsetTable (pieces : List Bytes) :
    (offsetTable pieces).length = (pieces.length + 1) * 4 := by
  rw [offsetTable, length_words (length_encode 4), length_offsetsFrom]

theorem readDictionary_eq_ok_iff {column : ColumnDescriptor} {auxiliary : Bytes}
    {entries : List Bytes} (hlow : 8 ≤ auxiliary.length) (hhigh : auxiliary.length < 2 ^ 32) :
    readDictionary column auxiliary = .ok entries ↔ auxiliary = dictionarySection entries ∧
      entries.Pairwise (· < ·) ∧ ∀ entry ∈ entries, validUtf8 entry = true := by
  simp only [readDictionary, bind_eq_ok_iff, Unique.exists_iff, PUnit.default_eq_unit,
    reject_eq_ok_iff, decide_eq_false_iff_not, not_lt]
  constructor
  · intro h
    have hcount : At auxiliary 0 (encode 4 (wordAt 4 auxiliary 0)) := at_wordAt (by omega)
    generalize wordAt 4 auxiliary 0 = count at hcount h
    obtain ⟨hshape, h⟩ := h
    have htable : (slice auxiliary 4 (4 + (count + 1) * 4)).length = (count + 1) * 4 := by
      rw [length_slice (by omega), Nat.add_sub_cancel_left]
    cases hoffsets : offsets (slice auxiliary 4 (4 + (count + 1) * 4))
        (auxiliary.drop (4 + (count + 1) * 4)).length count with
    | none =>
        rw [hoffsets] at h
        cases h
    | some table =>
        obtain ⟨pieces, hlength, hflatten, rfl, hpieces⟩ :=
          (offsets_eq_some_iff htable (by rw [List.length_drop]; omega)).1 hoffsets
        rw [hoffsets] at h
        dsimp only at h
        rw [← hflatten] at h
        obtain ⟨hread, hutf8, hchain⟩ := (@readEntries_eq_ok_iff column pieces [] [] entries).1 h
        obtain rfl : entries = pieces := hread
        refine ⟨?_, List.isChain_iff_pairwise.1 hchain, hutf8⟩
        have hall : At auxiliary 0 (dictionarySection entries) := by
          rw [dictionarySection, at_append, at_append, hlength, ← hpieces, List.length_append,
            length_encode, htable, hflatten]
          exact ⟨⟨hcount, at_slice _ _ _⟩, by simp [At]⟩
        refine (hall.eq_self ?_).symm
        rw [dictionarySection, hflatten, ← hpieces, List.length_append, List.length_append,
          length_encode, htable, List.length_drop]
        omega
  · rintro ⟨rfl, hascending, hutf8⟩
    have hsection : (dictionarySection entries).length =
        4 + (entries.length + 1) * 4 + entries.flatten.length := by
      rw [dictionarySection, List.length_append, List.length_append, length_encode,
        length_offsetTable]
    have hall := at_self (dictionarySection entries)
    nth_rw 2 [dictionarySection] at hall
    rw [at_append, at_append, length_encode, List.length_append, length_encode,
      length_offsetTable] at hall
    have hcount : wordAt 4 (dictionarySection entries) 0 = entries.length :=
      wordAt_of_at (by omega) hall.1.1
    have htable := hall.1.2.slice_eq
    rw [length_offsetTable, Nat.zero_add] at htable
    have hdrop : (dictionarySection entries).drop (4 + (entries.length + 1) * 4) =
        entries.flatten := by
      have hbefore : (encode 4 entries.length ++ offsetTable entries).length =
          4 + (entries.length + 1) * 4 := by
        rw [List.length_append, length_encode, length_offsetTable]
      rw [dictionarySection, ← hbefore, List.drop_left]
    rw [hcount, htable, hdrop, (offsets_eq_some_iff (length_offsetTable entries) (by omega)).2
      ⟨entries, rfl, rfl, rfl, rfl⟩]
    exact ⟨by omega, (@readEntries_eq_ok_iff column entries [] [] entries).2
      ⟨rfl, hutf8, List.isChain_iff_pairwise.2 hascending⟩⟩

/-! ## Payloads -/

/-- The cells of the rows, with the pieces they are stored as. -/
theorem decodeCells_view {column : ColumnDescriptor} {view : ChunkView} {rows : Nat}
    {contents reasons : List Bytes} {cells : List DetachedCell}
    (hview : ViewOf column view contents reasons) (hcontents : contents.length = rows)
    (hreasons : reasons.length = rows) :
    decodeCells column view rows 0 = .ok cells ↔ cells.length = rows ∧
      ∀ (row : Nat) (cell : DetachedCell) (content reason : Bytes), cells[row]? = some cell →
        contents[row]? = some content → reasons[row]? = some reason →
        CellAt column view row content reason cell := by
  rw [decodeCells_eq_ok_iff]
  refine and_congr_right fun hlength => ?_
  constructor
  · intro h row cell content reason hcell hcontent hreason
    have hrow : row < rows := by
      rw [← hlength]
      exact (List.getElem?_eq_some_iff.1 hcell).1
    have hdecode := h row cell hcell
    rw [Nat.zero_add] at hdecode
    exact (decodeCell_eq_ok_iff (hview.rowAt hcontent hreason)).1 hdecode
  · intro h row cell hcell
    have hrow : row < rows := by
      rw [← hlength]
      exact (List.getElem?_eq_some_iff.1 hcell).1
    have hcontent := List.getElem?_eq_getElem (hcontents ▸ hrow : row < contents.length)
    have hreason := List.getElem?_eq_getElem (hreasons ▸ hrow : row < reasons.length)
    rw [Nat.zero_add]
    exact (decodeCell_eq_ok_iff (hview.rowAt hcontent hreason)).2
      (h row cell _ _ hcell hcontent hreason)

/-- The pieces of a list are the images of the rows. -/
theorem eq_map_of_rows {α β : Type} {f : α → β} {items : List α} {pieces : List β}
    (hlength : pieces.length = items.length)
    (h : ∀ (row : Nat) (item : α) (piece : β), items[row]? = some item → pieces[row]? = some piece →
      piece = f item) : pieces = items.map f := by
  apply List.ext_getElem (by rw [hlength, List.length_map])
  intro row hrow hrow'
  rw [List.getElem_map]
  exact h row _ _ (List.getElem?_eq_getElem (by rwa [List.length_map] at hrow'))
    (List.getElem?_eq_getElem hrow)

/-- The sections of a payload that decodes are those of the cells, with the dictionary that was read. -/
theorem sections_of_decodeCells {column : ColumnDescriptor} {rows : Nat} {cells : List DetachedCell}
    {validity unknown auxiliary values reasonOffsets reasons : Bytes} {entries : List Bytes}
    {valueTable reasonTable : List Nat} (hvalues : values.length < 2 ^ 32)
    (hreasonBytes : reasons.length < 2 ^ 32)
    (hshape : misshapen column.type.scalar rows validity unknown auxiliary values reasonOffsets = false)
    (hstray : strayBits rows validity = false ∧ strayBits rows unknown = false)
    (hvalueTable : isVariable column.type.scalar = true →
      offsets auxiliary values.length rows = some valueTable)
    (hreasonTable : offsets reasonOffsets reasons.length rows = some reasonTable)
    (hentries : isDictionary column.type.scalar = true →
      auxiliary = dictionarySection entries ∧ entries.Nodup)
    (h : decodeCells column ⟨validity, unknown, values, reasons, valueTable, reasonTable, entries⟩
      rows 0 = .ok cells) :
    cells.length = rows ∧ (∀ cell ∈ cells, cell.type = column.type ∧ cell.validate = .ok ()) ∧
      (isDictionary column.type.scalar = true →
        ∀ cell ∈ cells, ∀ text, presentText cell = some text → text ∈ entries) ∧
      [validity, unknown, auxiliary, values, reasonOffsets, reasons] =
        columnSections column.type.scalar entries cells := by
  simp only [misshapen, Bool.or_eq_false_iff, bne_eq_false_iff_eq, Bool.and_eq_false_imp,
    Bool.and_eq_true, Bool.not_eq_true', Bool.not_eq_false', List.isEmpty_iff] at hshape
  obtain ⟨⟨⟨⟨⟨⟨⟨hvalidityLength, hunknownLength⟩, hauxiliaryLength⟩, hempty⟩, hfixedLength⟩, -⟩,
    hwordsLength⟩, hreasonsLength⟩ := hshape
  obtain ⟨reasonPieces, hreasonCount, rfl, rfl, rfl⟩ :=
    (offsets_eq_some_iff hreasonsLength hreasonBytes).1 hreasonTable
  -- where the column has no table of values, the pieces of the values are not looked at
  obtain ⟨contents, hcontentCount, hcontents⟩ : ∃ contents : List Bytes, contents.length = rows ∧
      (isVariable column.type.scalar = true → contents.flatten = values ∧
        valueTable = offsetsFrom 0 contents ∧ auxiliary = offsetTable contents) := by
    by_cases hvariable : isVariable column.type.scalar = true
    · obtain ⟨pieces, hcount, hpieces⟩ :=
        (offsets_eq_some_iff (hauxiliaryLength hvariable) hvalues).1 (hvalueTable hvariable)
      exact ⟨pieces, hcount, fun _ => hpieces⟩
    · exact ⟨List.replicate rows [], List.length_replicate, fun h => absurd h hvariable⟩
  have hview : ViewOf column ⟨validity, unknown, values, reasonPieces.flatten, valueTable,
      offsetsFrom 0 reasonPieces, entries⟩ contents reasonPieces :=
    ⟨rfl, rfl, fun hvariable => (hcontents hvariable).2.1,
      fun hvariable => (hcontents hvariable).1.symm,
      fun hdictionary => (hentries hdictionary).2⟩
  obtain ⟨hlength, hcells⟩ := (decodeCells_view hview hcontentCount hreasonCount).1 h
  have hcell : ∀ (row : Nat) (cell : DetachedCell), cells[row]? = some cell →
      ∃ content reason, contents[row]? = some content ∧ reasonPieces[row]? = some reason ∧
        CellAt column ⟨validity, unknown, values, reasonPieces.flatten, valueTable,
          offsetsFrom 0 reasonPieces, entries⟩ row content reason cell := by
    intro row cell hfound
    have hrow := (List.getElem?_eq_some_iff.1 hfound).1
    have hcontent := List.getElem?_eq_getElem (by omega : row < contents.length)
    have hreason := List.getElem?_eq_getElem (by omega : row < reasonPieces.length)
    exact ⟨_, _, hcontent, hreason, hcells row cell _ _ hfound hcontent hreason⟩
  refine ⟨hlength, ?_, ?_, ?_⟩
  · intro cell hmem
    obtain ⟨row, hfound⟩ := List.mem_iff_getElem?.1 hmem
    obtain ⟨_, _, -, -, hat⟩ := hcell row cell hfound
    exact ⟨hat.type, hat.valid⟩
  · intro hdictionary cell hmem
    obtain ⟨row, hfound⟩ := List.mem_iff_getElem?.1 hmem
    obtain ⟨_, _, -, -, hat⟩ := hcell row cell hfound
    exact (hat.dictionary hdictionary).2
  -- section by section, from what stands in each row
  have hflags (state : CellState) (bytes : Bytes) (hbytes : bytes.length = (rows + 7) / 8)
      (hstray : strayBits rows bytes = false)
      (hbits : ∀ (row : Nat) (cell : DetachedCell), cells[row]? = some cell →
        bitAt bytes row = (cell.state == state)) :
      bytes = bitmap (cells.map fun cell => cell.state == state) := by
    refine eq_bitmap (by rw [hbytes, List.length_map, hlength])
      (by rw [List.length_map, hlength, hstray]) ?_
    intro row flag hflag
    rw [List.getElem?_map, Option.map_eq_some_iff] at hflag
    obtain ⟨cell, hfound, rfl⟩ := hflag
    exact hbits row cell hfound
  have hreasons : reasonPieces = cells.map reasonBytes := by
    refine eq_map_of_rows (by omega) ?_
    intro row cell reason hfound hreason
    have hrow := (List.getElem?_eq_some_iff.1 hfound).1
    have hcontent := List.getElem?_eq_getElem (by omega : row < contents.length)
    exact (hcells row cell _ _ hfound hcontent hreason).reason
  have hstored : isVariable column.type.scalar = true → contents = cells.map storedBytes := by
    intro hvariable
    refine eq_map_of_rows (by omega) ?_
    intro row cell content hfound hcontent
    have hrow := (List.getElem?_eq_some_iff.1 hfound).1
    have hreason := List.getElem?_eq_getElem (by omega : row < reasonPieces.length)
    exact (hcells row cell _ _ hfound hcontent hreason).variable hvariable
  have hvalidity := hflags .present validity hvalidityLength hstray.1 fun row cell hfound => by
    obtain ⟨_, _, -, -, hat⟩ := hcell row cell hfound
    exact hat.present
  have hunknown := hflags .unknown unknown hunknownLength hstray.2 fun row cell hfound => by
    obtain ⟨_, _, -, -, hat⟩ := hcell row cell hfound
    exact hat.unknown
  rw [columnSections, ← hvalidity, ← hunknown, ← hreasons]
  by_cases hdictionary : isDictionary column.type.scalar = true
  · have hwords : values = cells.flatMap (dictionaryWord entries) := by
      refine eq_words (fun _ => length_encode 4 _) (by rw [hwordsLength hdictionary, hlength]) ?_
      intro row cell hfound
      obtain ⟨_, _, -, -, hat⟩ := hcell row cell hfound
      have hrow := (List.getElem?_eq_some_iff.1 hfound).1
      have hlast := hwordsLength hdictionary
      have hword : At values (row * 4) (encode 4 (wordAt 4 values (row * 4))) :=
        at_wordAt (by omega)
      have hindex := (hat.dictionary hdictionary).1
      dsimp only at hindex
      rwa [hindex] at hword
    rw [if_pos hdictionary, if_pos hdictionary, ← hwords, (hentries hdictionary).1]
    rfl
  · rw [if_neg hdictionary, if_neg hdictionary]
    by_cases hvariable : isVariable column.type.scalar = true
    · obtain ⟨hvalueBytes, -, hauxiliary⟩ := hcontents hvariable
      rw [if_pos hvariable, if_pos hvariable, ← hstored hvariable, hvalueBytes, hauxiliary]
    · rw [Bool.not_eq_true] at hdictionary hvariable
      have hwords : values = cells.flatMap (fixedWord column.type.scalar) := by
        refine eq_words (fun _ => length_encode _ _)
          (by rw [hfixedLength ⟨hvariable, hdictionary⟩, hlength]) ?_
        intro row cell hfound
        obtain ⟨_, _, -, -, hat⟩ := hcell row cell hfound
        have hrow := (List.getElem?_eq_some_iff.1 hfound).1
        have hlast := hfixedLength ⟨hvariable, hdictionary⟩
        have hend : row * fixedWidth column.type.scalar + fixedWidth column.type.scalar ≤
            values.length := by
          rw [hlast, ← Nat.succ_mul]
          exact Nat.mul_le_mul_right _ (by omega)
        have hword := at_wordAt hend
        have hnumber := hat.fixed hdictionary hvariable
        dsimp only at hnumber
        rwa [hnumber] at hword
      rw [if_neg (by simp [hvariable]), if_neg (by simp [hvariable]), ← hwords,
        hempty ⟨hvariable, hdictionary⟩]

theorem number_lt {kind : ScalarKind} {value : ScalarValue} (h : matchesScalar kind value = true) :
    value.number < 256 ^ fixedWidth kind := by
  have hpos : 0 < 256 ^ fixedWidth kind := by positivity
  cases value with
  | boolean flag =>
      have hwidth : 256 ^ 1 ≤ 256 ^ fixedWidth kind := by
        refine Nat.pow_le_pow_right (by decide) ?_
        unfold fixedWidth
        split_ifs <;> decide
      have hflag : flag.toNat ≤ 1 := Bool.toNat_le flag
      rw [ScalarValue.number]
      omega
  | signedInteger stored =>
      have hkind : fixedWidth kind = 8 := by
        refine if_neg ?_
        rintro rfl
        exact absurd h Bool.false_ne_true
      rw [ScalarValue.number, hkind]
      exact stored.toUInt64.toNat_lt
  | unsignedInteger stored =>
      have hkind : fixedWidth kind = 8 := by
        refine if_neg ?_
        rintro rfl
        exact absurd h Bool.false_ne_true
      rw [ScalarValue.number, hkind]
      exact stored.toNat_lt
  | string text => exact hpos
  | bytes stored => exact hpos

theorem storedNumber_lt {column : ColumnDescriptor} {cell : DetachedCell}
    (htype : cell.type = column.type) (hvalid : cell.validate = .ok ()) :
    (presentValue cell).elim 0 ScalarValue.number < 256 ^ fixedWidth column.type.scalar := by
  rcases DetachedCell.validate_forms hvalid with ⟨hstate, -⟩ | ⟨value, hstate, hvalue, -, hdetail⟩ |
    ⟨_, hstate, -⟩
  · rw [presentValue, if_neg (by simp [hstate])]
    exact Nat.pow_pos (by decide)
  · rw [presentValue, if_pos hstate, hvalue, ← htype]
    exact number_lt (matchesScalar_and_utf8 hdetail).1
  · rw [presentValue, if_neg (by simp [hstate])]
    exact Nat.pow_pos (by decide)

theorem length_le_of_table {pieces : List Bytes} (h : (offsetTable pieces).length < 2 ^ 32) :
    pieces.length < 2 ^ 32 := by
  rw [length_offsetTable] at h
  omega

/-- A cell stands in its row of the sections. -/
theorem cellAt_sections {column : ColumnDescriptor} {cells : List DetachedCell}
    {entries : List Bytes} {values reasons : Bytes} {valueOffsets reasonOffsets : List Nat}
    {row : Nat} {cell : DetachedCell} (hcell : cells[row]? = some cell)
    (htype : cell.type = column.type) (hvalid : cell.validate = .ok ())
    (hfixed : isDictionary column.type.scalar = false → isVariable column.type.scalar = false →
      values = cells.flatMap (fixedWord column.type.scalar))
    (hdictionary : isDictionary column.type.scalar = true →
      values = cells.flatMap (dictionaryWord entries) ∧ entries.length < 2 ^ 32 ∧
        ∀ text, presentText cell = some text → text ∈ entries) :
    CellAt column ⟨bitmap (cells.map fun cell => cell.state == .present),
      bitmap (cells.map fun cell => cell.state == .unknown), values, reasons, valueOffsets,
      reasonOffsets, entries⟩ row (storedBytes cell) (reasonBytes cell) cell := by
  have hflag (state : CellState) :
      bitAt (bitmap (cells.map fun cell => cell.state == state)) row = (cell.state == state) := by
    rw [bitAt_bitmap, List.getD_eq_getElem?_getD, List.getElem?_map, hcell]
    rfl
  refine ⟨htype, hvalid, hflag .present, hflag .unknown, rfl, ?_, fun _ => rfl, ?_⟩
  · intro hd hv
    dsimp only
    rw [hfixed hd hv]
    exact wordAt_of_at (storedNumber_lt htype hvalid)
      (at_words (fun _ => length_encode (fixedWidth column.type.scalar) _) hcell)
  · intro hd
    obtain ⟨hvalues, hcount, hnamed⟩ := hdictionary hd
    refine ⟨?_, hnamed⟩
    dsimp only
    rw [hvalues]
    refine wordAt_of_at ?_ (at_words (fun _ => length_encode 4 _) hcell)
    cases presentText cell with
    | none => exact Nat.pow_pos (by decide)
    | some text => exact lt_of_le_of_lt List.idxOf_le_length hcount

theorem length_fixedWords (kind : ScalarKind) (cells : List DetachedCell) :
    (cells.flatMap (fixedWord kind)).length = cells.length * fixedWidth kind :=
  length_words (fun _ => length_encode (fixedWidth kind) _) cells

theorem length_dictionaryWords (entries : List Bytes) (cells : List DetachedCell) :
    (cells.flatMap (dictionaryWord entries)).length = cells.length * 4 :=
  length_words (fun _ => length_encode 4 _) cells

/-- The sections of cells pass the checks and decode to the cells. -/
theorem decode_sections {column : ColumnDescriptor} {cells : List DetachedCell}
    {entries : List Bytes} (hcells : ∀ cell ∈ cells, cell.type = column.type ∧ cell.validate = .ok ())
    (hdictionary : isDictionary column.type.scalar = true → IsDictionaryOf entries cells)
    {validity unknown auxiliary values reasonOffsets reasons : Bytes}
    (hsections : [validity, unknown, auxiliary, values, reasonOffsets, reasons] =
      columnSections column.type.scalar entries cells)
    (hauxiliary : auxiliary.length < 2 ^ 32) (hvalues : values.length < 2 ^ 32)
    (hreasons : reasons.length < 2 ^ 32) :
    misshapen column.type.scalar cells.length validity unknown auxiliary values reasonOffsets =
        false ∧
      (strayBits cells.length validity = false ∧ strayBits cells.length unknown = false) ∧
      ∃ found, dictionaryEntries column auxiliary = .ok found ∧
        (match if isVariable column.type.scalar = true then
            offsets auxiliary values.length cells.length else some [],
          offsets reasonOffsets reasons.length cells.length with
        | some valueTable, some reasonTable =>
          decodeCells column ⟨validity, unknown, values, reasons, valueTable, reasonTable, found⟩
            cells.length 0
        | _, _ => .error (columnarInvalid column.id "offsets")) = .ok cells := by
  simp only [columnSections, List.cons.injEq, and_true] at hsections
  obtain ⟨hvalidity, hunknown, hauxiliaryEq, hvaluesEq, hreasonTable, hreasonBytes⟩ := hsections
  have hstray (state : CellState) :
      strayBits cells.length (bitmap (cells.map fun cell => cell.state == state)) = false := by
    have hbits := strayBits_bitmap (cells.map fun cell => cell.state == state)
    rwa [List.length_map] at hbits
  have hbitmap (state : CellState) : (bitmap (cells.map fun cell => cell.state == state)).length =
      (cells.length + 7) / 8 := by
    rw [length_bitmap, List.length_map]
  -- what the sections are, by the layout of the column
  have hdictionaryValues : isDictionary column.type.scalar = true →
      auxiliary = dictionarySection entries ∧ values = cells.flatMap (dictionaryWord entries) := by
    intro h
    rw [if_pos h] at hauxiliaryEq hvaluesEq
    exact ⟨hauxiliaryEq, hvaluesEq⟩
  have hvariableValues : isVariable column.type.scalar = true →
      auxiliary = offsetTable (cells.map storedBytes) ∧ values = (cells.map storedBytes).flatten := by
    intro h
    have hnot := ((isVariable_iff _).1 h).1
    rw [if_neg (by simp [hnot]), if_pos h] at hauxiliaryEq hvaluesEq
    exact ⟨hauxiliaryEq, hvaluesEq⟩
  have hfixedValues : isDictionary column.type.scalar = false →
      isVariable column.type.scalar = false →
      auxiliary = [] ∧ values = cells.flatMap (fixedWord column.type.scalar) := by
    intro h h'
    rw [if_neg (by simp [h]), if_neg (by simp [h'])] at hauxiliaryEq hvaluesEq
    exact ⟨hauxiliaryEq, hvaluesEq⟩
  have hshape : misshapen column.type.scalar cells.length validity unknown auxiliary values
      reasonOffsets = false := by
    simp only [misshapen, Bool.or_eq_false_iff, bne_eq_false_iff_eq, Bool.and_eq_false_imp,
      Bool.and_eq_true, Bool.not_eq_true', Bool.not_eq_false', List.isEmpty_iff,
      decide_eq_false_iff_not, not_lt]
    refine ⟨⟨⟨⟨⟨⟨⟨?_, ?_⟩, ?_⟩, ?_⟩, ?_⟩, ?_⟩, ?_⟩, ?_⟩
    · rw [hvalidity, hbitmap]
    · rw [hunknown, hbitmap]
    · intro h
      rw [(hvariableValues h).1, length_offsetTable, List.length_map]
    · exact fun h => (hfixedValues h.2 h.1).1
    · intro h
      rw [(hfixedValues h.2 h.1).2, length_fixedWords]
    · intro h
      rw [(hdictionaryValues h).1, dictionarySection, List.length_append, List.length_append,
        length_encode, length_offsetTable]
      omega
    · intro h
      rw [(hdictionaryValues h).2, length_dictionaryWords]
    · rw [hreasonTable, length_offsetTable, List.length_map]
  have hcount : isDictionary column.type.scalar = true → entries.length < 2 ^ 32 := by
    intro h
    rw [(hdictionaryValues h).1, dictionarySection, List.length_append, List.length_append,
      length_encode, length_offsetTable] at hauxiliary
    omega
  refine ⟨hshape, ⟨by rw [hvalidity, hstray], by rw [hunknown, hstray]⟩, ?_⟩
  obtain ⟨found, hfound, hentries⟩ : ∃ found, dictionaryEntries column auxiliary = .ok found ∧
      (isDictionary column.type.scalar = true → found = entries) := by
    by_cases h : isDictionary column.type.scalar = true
    · refine ⟨entries, ?_, fun _ => rfl⟩
      have hlow : 8 ≤ auxiliary.length := by
        simp only [misshapen, Bool.or_eq_false_iff, h, Bool.true_and, decide_eq_false_iff_not,
          not_lt] at hshape
        exact hshape.1.1.2
      rw [dictionaryEntries, if_pos h]
      exact (readDictionary_eq_ok_iff hlow hauxiliary).2
        ⟨(hdictionaryValues h).1, (hdictionary h).ascending, (hdictionary h).utf8⟩
    · exact ⟨[], if_neg h, fun h' => absurd h' h⟩
  refine ⟨found, hfound, ?_⟩
  obtain ⟨valueTable, hvalueTable, htable⟩ : ∃ valueTable,
      (if isVariable column.type.scalar = true then offsets auxiliary values.length cells.length
        else some []) = some valueTable ∧
      (isVariable column.type.scalar = true →
        valueTable = offsetsFrom 0 (cells.map storedBytes)) := by
    by_cases h : isVariable column.type.scalar = true
    · obtain ⟨hauxiliaryEq, hvaluesEq⟩ := hvariableValues h
      refine ⟨_, ?_, fun _ => rfl⟩
      rw [if_pos h]
      refine (offsets_eq_some_iff ?_ hvalues).2
        ⟨cells.map storedBytes, List.length_map _, hvaluesEq.symm, rfl, hauxiliaryEq⟩
      rw [hauxiliaryEq, length_offsetTable, List.length_map]
    · exact ⟨[], if_neg h, fun h' => absurd h' h⟩
  have hreasonOffsets : offsets reasonOffsets reasons.length cells.length =
      some (offsetsFrom 0 (cells.map reasonBytes)) := by
    refine (offsets_eq_some_iff ?_ hreasons).2
      ⟨cells.map reasonBytes, List.length_map _, hreasonBytes.symm, rfl, hreasonTable⟩
    rw [hreasonTable, length_offsetTable, List.length_map]
  rw [hvalueTable, hreasonOffsets]
  have hview : ViewOf column ⟨validity, unknown, values, reasons, valueTable,
      offsetsFrom 0 (cells.map reasonBytes), found⟩ (cells.map storedBytes)
      (cells.map reasonBytes) := by
    refine ⟨rfl, hreasonBytes, htable, fun h => (hvariableValues h).2, ?_⟩
    intro h
    dsimp only
    rw [hentries h]
    exact (hdictionary h).ascending.imp fun hlt => hlt.ne
  refine (decodeCells_view hview (List.length_map _) (List.length_map _)).2 ⟨rfl, ?_⟩
  intro row cell content reason hcell hcontent hreason
  rw [List.getElem?_map, hcell, Option.map_some] at hcontent hreason
  obtain rfl := Option.some.inj hcontent
  obtain rfl := Option.some.inj hreason
  have hmem := List.mem_of_getElem? hcell
  rw [hvalidity, hunknown]
  refine cellAt_sections hcell (hcells cell hmem).1 (hcells cell hmem).2
    (fun h h' => (hfixedValues h h').2) ?_
  intro h
  rw [hentries h]
  exact ⟨(hdictionaryValues h).2, hcount h, (hdictionary h).named cell hmem⟩

/-- **A payload decodes to cells exactly when it is theirs, with some dictionary.** -/
theorem decodePayload_eq_ok_iff {column : ColumnDescriptor} {rows : Nat} {payload : Bytes}
    {cells : List DetachedCell} :
    decodePayload column rows payload = .ok cells ↔ cells.length = rows ∧
      (∀ cell ∈ cells, cell.type = column.type ∧ cell.validate = .ok ()) ∧
      ∃ entries, (isDictionary column.type.scalar = true → IsDictionaryOf entries cells) ∧
        (∀ part ∈ columnSections column.type.scalar entries cells, part.length < 2 ^ 32) ∧
        payload = payloadOf column.type.scalar
          (columnSections column.type.scalar entries cells) := by
  constructor
  · intro h
    simp only [decodePayload, bind_eq_ok_iff, Unique.exists_iff, PUnit.default_eq_unit,
      reject_eq_ok_iff, Bool.or_eq_false_iff, decide_eq_false_iff_not, bne_eq_false_iff_eq] at h
    obtain ⟨hheader, sections, hsections, h⟩ := h
    obtain ⟨hcount, hsizes, hpayload⟩ := payload_sections_iff.1 ⟨hheader, hsections⟩
    match sections, hcount with
    | [validity, unknown, auxiliary, values, reasonOffsets, reasons], _ =>
      simp only [bind_eq_ok_iff, Unique.exists_iff, PUnit.default_eq_unit, reject_eq_ok_iff,
        Bool.or_eq_false_iff] at h
      obtain ⟨hshape, hstray, entries, hentries, h⟩ := h
      simp only [List.mem_cons, List.not_mem_nil, or_false, forall_eq_or_imp, forall_eq] at hsizes
      obtain ⟨-, -, hauxiliary, hvalues, -, hreasons⟩ := hsizes
      have hread : isDictionary column.type.scalar = true → auxiliary = dictionarySection entries ∧
          entries.Pairwise (· < ·) ∧ ∀ entry ∈ entries, validUtf8 entry = true := by
        intro hdictionary
        have hlow : 8 ≤ auxiliary.length := by
          simp only [misshapen, Bool.or_eq_false_iff, hdictionary, Bool.true_and,
            decide_eq_false_iff_not, not_lt] at hshape
          exact hshape.1.1.2
        rw [dictionaryEntries, if_pos hdictionary] at hentries
        exact (readDictionary_eq_ok_iff hlow hauxiliary).1 hentries
      split at h
      · rename_i valueTable reasonTable hvalueTable hreasonTable
        obtain ⟨hlength, hcells, hnamed, heq⟩ := sections_of_decodeCells hvalues hreasons hshape
          hstray (fun hvariable => by rwa [if_pos hvariable] at hvalueTable) hreasonTable
          (fun hdictionary => ⟨(hread hdictionary).1, (hread hdictionary).2.1.imp fun hlt => hlt.ne⟩) h
        refine ⟨hlength, hcells, entries, ?_, ?_, ?_⟩
        · intro hdictionary
          exact ⟨(hread hdictionary).2.1, (hread hdictionary).2.2, hnamed hdictionary⟩
        · rw [← heq]
          exact (payload_sections_iff.1 ⟨hheader, hsections⟩).2.1
        · rw [← heq]
          exact hpayload
      · cases h
  · rintro ⟨rfl, hcells, entries, hdictionary, hsizes, rfl⟩
    obtain ⟨hheader, hsections⟩ := (@payload_sections_iff column _ _).2 ⟨rfl, hsizes, rfl⟩
    simp only [columnSections, List.mem_cons, List.not_mem_nil, or_false, forall_eq_or_imp,
      forall_eq] at hsizes
    obtain ⟨-, -, hauxiliary, hvalues, -, hreasons⟩ := hsizes
    simp only [decodePayload, bind_eq_ok_iff, Unique.exists_iff, PUnit.default_eq_unit,
      reject_eq_ok_iff, Bool.or_eq_false_iff, decide_eq_false_iff_not, bne_eq_false_iff_eq]
    refine ⟨hheader, _, hsections, ?_⟩
    simp only [columnSections, bind_eq_ok_iff, Unique.exists_iff, PUnit.default_eq_unit,
      reject_eq_ok_iff, Bool.or_eq_false_iff]
    exact decode_sections hcells hdictionary rfl hauxiliary hvalues hreasons

end Cxxlens.Sdk
