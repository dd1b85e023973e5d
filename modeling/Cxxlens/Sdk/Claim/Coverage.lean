import Cxxlens.Sdk.Claim.Admission

set_option autoImplicit false

/-! # What each identity of a claim covers

The semantic key covers the descriptor and the cells of the key columns, the assertion also the
condition, the interpretation and the contract of the producer, and the content also the cells of the
payload. Cells are projected into canonical values, where a missing cell and an absent one are both
null; otherwise no two valid cells of one column have the same projection. -/

namespace Cxxlens.Sdk

open Fallible

/-! ## Cells -/

theorem matchesScalar_of_valid {type : ValueType} {value : ScalarValue}
    (h : invalidScalarDetail type value = none) : matchesScalar type.scalar value = true := by
  unfold invalidScalarDetail at h
  split_ifs at h with htype hmatches
  simpa using hmatches

/-- The three forms of a valid cell. -/
theorem DetachedCell.validate_cases {cell : DetachedCell} (h : cell.validate = .ok ()) :
    (cell.state = .absent ∧ cell.value = none ∧ cell.unknownReason = none) ∨
      (∃ value, cell.state = .present ∧ cell.value = some value ∧ cell.unknownReason = none ∧
        matchesScalar cell.type.scalar value = true) ∨
      ∃ reason, cell.state = .unknown ∧ cell.value = none ∧ cell.unknownReason = some reason := by
  rcases DetachedCell.validate_forms h with ⟨habsent, -, hvalue, hreason⟩ |
    ⟨value, hpresent, hvalue, hreason, hdetail⟩ | hunknown
  · exact .inl ⟨habsent, hvalue, hreason⟩
  · exact .inr (.inl ⟨value, hpresent, hvalue, hreason, matchesScalar_of_valid hdetail⟩)
  · exact .inr (.inr hunknown)

theorem absent_fields {cell : DetachedCell} (h : cell.validate = .ok ())
    (hstate : cell.state = .absent) : cell.value = none ∧ cell.unknownReason = none := by
  rcases DetachedCell.validate_cases h with ⟨-, hfields⟩ | ⟨_, hpresent, -⟩ | ⟨_, hunknown, -⟩
  · exact hfields
  · exact absurd (hstate.symm.trans hpresent) (by simp)
  · exact absurd (hstate.symm.trans hunknown) (by simp)

/-- What `cell_value` makes of a value. -/
def scalarProjection : ScalarValue → CanonicalValue
  | .boolean value => .fromBoolean value
  | .signedInteger value => .fromInteger value
  | .unsignedInteger value =>
    .fromTuple [.fromString "unsigned", .fromString (CanonicalValue.decimal value.toNat)]
  | .string value => .fromString value
  | .bytes value => .fromBytes value

theorem cellValue_present {cell : DetachedCell} {value : ScalarValue} (hstate : cell.state = .present)
    (hvalue : cell.value = some value) : cellValue cell = scalarProjection value := by
  unfold cellValue
  rw [if_neg (by simp [hstate]), if_neg (by simp [hstate]), hvalue]
  cases value <;> rfl

theorem cellValue_unknown {cell : DetachedCell} {reason : Bytes} (hstate : cell.state = .unknown)
    (hreason : cell.unknownReason = some reason) :
    cellValue cell = .fromTuple [.fromString "unknown", .fromString reason] := by
  unfold cellValue
  rw [if_neg (by simp [hstate]), if_pos hstate, hreason]
  rfl

/-- Different values have different projections, whatever their kinds. -/
theorem scalarProjection_injective : Function.Injective scalarProjection := by
  intro a b h
  cases a <;> cases b <;>
    simp [scalarProjection, CanonicalValue.fromBoolean, CanonicalValue.fromInteger,
      CanonicalValue.fromString, CanonicalValue.fromBytes, CanonicalValue.fromTuple] at h ⊢
  · exact h
  · exact h
  · exact UInt64.toNat_inj.1 (decimal_injective h)
  · exact h
  · exact h

/-- An unknown cell never looks like a present one. -/
theorem scalarProjection_ne_unknown (value : ScalarValue) (reason : Bytes) :
    scalarProjection value ≠ .fromTuple [.fromString "unknown", .fromString reason] := by
  intro h
  cases value <;>
    simp [scalarProjection, CanonicalValue.fromBoolean, CanonicalValue.fromInteger,
      CanonicalValue.fromString, CanonicalValue.fromBytes, CanonicalValue.fromTuple] at h
  exact absurd h.1 (by decide)

theorem cellValue_ne_null {cell : DetachedCell} (h : cell.validate = .ok ())
    (hstate : cell.state ≠ .absent) : cellValue cell ≠ .null := by
  rcases DetachedCell.validate_cases h with ⟨habsent, -⟩ | ⟨value, hpresent, hvalue, -, -⟩ |
    ⟨reason, hunknown, -, hreason⟩
  · exact absurd habsent hstate
  · rw [cellValue_present hpresent hvalue]
    cases value <;> intro hnull <;> cases hnull
  · rw [cellValue_unknown hunknown hreason]
    intro hnull
    cases hnull

/-- The projection determines a valid cell of a known type. -/
theorem cellValue_inj {a b : DetachedCell} (htype : a.type = b.type) (ha : a.validate = .ok ())
    (hb : b.validate = .ok ()) (h : cellValue a = cellValue b) : a = b := by
  have hext : ∀ {x y : DetachedCell}, x.type = y.type → x.state = y.state → x.value = y.value →
      x.unknownReason = y.unknownReason → x = y := by
    intro x y h₁ h₂ h₃ h₄
    cases x
    cases y
    simp only at h₁ h₂ h₃ h₄
    rw [h₁, h₂, h₃, h₄]
  by_cases habsent : a.state = .absent
  · have hb' : b.state = .absent := by
      by_contra hne
      refine cellValue_ne_null hb hne ?_
      rw [← h, cellValue, if_pos habsent]
    obtain ⟨hvalue, hreason⟩ := absent_fields ha habsent
    obtain ⟨hvalue', hreason'⟩ := absent_fields hb hb'
    exact hext htype (habsent.trans hb'.symm) (hvalue.trans hvalue'.symm)
      (hreason.trans hreason'.symm)
  · have hb' : b.state ≠ .absent := by
      intro hstate
      refine cellValue_ne_null ha habsent ?_
      rw [h, cellValue, if_pos hstate]
    obtain ⟨hstate, -⟩ | ⟨x, hstate, hvalue, hreason, -⟩ | ⟨x, hstate, hvalue, hreason⟩ :=
      DetachedCell.validate_cases ha
    · exact absurd hstate habsent
    · rw [cellValue_present hstate hvalue] at h
      obtain ⟨hstate', -⟩ | ⟨y, hstate', hvalue', hreason', -⟩ | ⟨y, hstate', hvalue', hreason'⟩ :=
        DetachedCell.validate_cases hb
      · exact absurd hstate' hb'
      · rw [cellValue_present hstate' hvalue'] at h
        obtain rfl := scalarProjection_injective h
        exact hext htype (hstate.trans hstate'.symm) (hvalue.trans hvalue'.symm)
          (hreason.trans hreason'.symm)
      · rw [cellValue_unknown hstate' hreason'] at h
        exact absurd h (scalarProjection_ne_unknown x y)
    · rw [cellValue_unknown hstate hreason] at h
      obtain ⟨hstate', -⟩ | ⟨y, hstate', hvalue', hreason', -⟩ | ⟨y, hstate', hvalue', hreason'⟩ :=
        DetachedCell.validate_cases hb
      · exact absurd hstate' hb'
      · rw [cellValue_present hstate' hvalue'] at h
        exact absurd h.symm (scalarProjection_ne_unknown y x)
      · rw [cellValue_unknown hstate' hreason'] at h
        have hsame : x = y := by
          simpa [CanonicalValue.fromTuple, CanonicalValue.fromString] using h
        rw [hsame] at hreason
        exact hext htype (hstate.trans hstate'.symm) (hvalue.trans hvalue'.symm)
          (hreason.trans hreason'.symm)

/-! ## Rows -/

/-- The cell a row states for a column; a missing cell counts as an absent one, and neither states
    anything. -/
def DetachedRow.stated (row : DetachedRow) (column : Bytes) : Option DetachedCell :=
  (row.find column).filter fun cell => cell.state ≠ .absent

/-- Two rows state the same cells for these columns. -/
def CellsAgree (columns : List Bytes) (a b : DetachedRow) : Prop :=
  ∀ column ∈ columns, a.stated column = b.stated column

theorem columnValue_stated (row : DetachedRow) (column : Bytes) :
    columnValue row column = (row.stated column).elim .null cellValue := by
  unfold columnValue DetachedRow.stated
  cases row.find column with
  | none => rfl
  | some cell =>
      by_cases habsent : cell.state = .absent
      · simp [Option.filter, habsent, cellValue]
      · simp [Option.filter, habsent]

/-- A stated cell of a checked row is a valid cell of the column. -/
theorem stated_eq_some {descriptor : RelationDescriptor} {row : DetachedRow}
    (hrow : CheckedById descriptor row) {column : ColumnDescriptor}
    (hcolumn : column ∈ descriptor.columns) {cell : DetachedCell}
    (h : row.stated column.id = some cell) :
    cell.type = column.type ∧ cell.validate = .ok () ∧ cell.state ≠ .absent := by
  unfold DetachedRow.stated at h
  rw [Option.filter_eq_some_iff, find_eq_some_iff, decide_eq_true_iff] at h
  obtain ⟨htype, hvalid⟩ := hrow.cells column hcolumn cell h.1
  exact ⟨htype, hvalid, h.2⟩

/-- The projection of a column determines what a checked row states for it. -/
theorem columnValue_eq_iff {descriptor : RelationDescriptor} {a b : DetachedRow}
    (ha : CheckedById descriptor a) (hb : CheckedById descriptor b) {column : ColumnDescriptor}
    (hcolumn : column ∈ descriptor.columns) :
    columnValue a column.id = columnValue b column.id ↔ a.stated column.id = b.stated column.id := by
  rw [columnValue_stated, columnValue_stated]
  constructor
  · intro h
    cases hx : a.stated column.id with
    | none =>
        cases hy : b.stated column.id with
        | none => rfl
        | some y =>
            obtain ⟨-, hvalid, hstate⟩ := stated_eq_some hb hcolumn hy
            rw [hx, hy] at h
            exact absurd h.symm (cellValue_ne_null hvalid hstate)
    | some x =>
        obtain ⟨htype, hvalid, hstate⟩ := stated_eq_some ha hcolumn hx
        cases hy : b.stated column.id with
        | none =>
            rw [hx, hy] at h
            exact absurd h (cellValue_ne_null hvalid hstate)
        | some y =>
            obtain ⟨htype', hvalid', -⟩ := stated_eq_some hb hcolumn hy
            rw [hx, hy] at h
            rw [cellValue_inj (htype.trans htype'.symm) hvalid hvalid' h]
  · intro h
    rw [h]

theorem rowTuple_eq_iff_cellsAgree {descriptor : RelationDescriptor} {a b : DetachedRow}
    (ha : CheckedById descriptor a) (hb : CheckedById descriptor b) {columns : List Bytes}
    (hcolumns : ∀ id ∈ columns, ∃ column ∈ descriptor.columns, column.id = id) :
    rowTuple a columns = rowTuple b columns ↔ CellsAgree columns a b := by
  rw [rowTuple_eq_iff]
  unfold CellsAgree
  refine forall₂_congr ?_
  intro id hid
  obtain ⟨column, hcolumn, rfl⟩ := hcolumns id hid
  exact columnValue_eq_iff ha hb hcolumn

/-! ## Columns -/

theorem mem_columnsOf {descriptor : RelationDescriptor} {role : ColumnRole} {id : Bytes}
    (h : id ∈ descriptor.columnsOf role) : ∃ column ∈ descriptor.columns, column.id = id := by
  unfold RelationDescriptor.columnsOf at h
  obtain ⟨column, hcolumn, rfl⟩ := List.mem_map.1 h
  exact ⟨column, (List.mem_filter.1 hcolumn).1, rfl⟩

theorem mem_payloadColumns {descriptor : RelationDescriptor} {id : Bytes} :
    id ∈ payloadColumns descriptor ↔ id ∈ descriptor.columnsOf .authoritativePayload :=
  Sorting.mem_sortBy _ _ _

/-- The key columns of a valid descriptor are the identifiers of its key columns by role. -/
theorem mem_keyColumns {hash : Bytes → Bytes} {descriptor : RelationDescriptor}
    (hvalid : descriptor.validate hash = .ok ()) {id : Bytes} (h : id ∈ descriptor.keyColumns) :
    ∃ column ∈ descriptor.columns, column.id = id := by
  have hroles : descriptor.validateRoles = .ok () := by
    simp only [RelationDescriptor.validate, seq_eq_ok_iff] at hvalid
    tauto
  simp only [RelationDescriptor.validateRoles, seq_eq_ok_iff, reject_eq_ok_iff,
    bne_eq_false_iff_eq] at hroles
  have hparity := hroles.2.1
  have hmem : id ∈ descriptor.columnsOf .claimKey := by
    rw [← Sorting.mem_sortBy bytesLess, hparity, Sorting.mem_sortBy]
    exact h
  exact mem_columnsOf hmem

/-! ## Identities -/

section Claims

variable {hash : Bytes → Bytes} (engine : RelationEngine hash)

/-- One descriptor, and rows that agree on the columns it lists. -/
def AgreeOn (columns : RelationDescriptor → List Bytes) (a b : Claim) : Prop :=
  a.descriptor = b.descriptor ∧ ∀ descriptor, engine.requireId a.descriptor = .ok descriptor →
    CellsAgree (columns descriptor) a.row b.row

/-- What the semantic key covers. -/
def SameKey (a b : Claim) : Prop :=
  AgreeOn engine RelationDescriptor.keyColumns a b

/-- What the assertion covers. -/
structure SameAssertion (a b : Claim) : Prop where
  key : SameKey engine a b
  «universe» : a.presence.universe = b.presence.universe
  fragments : a.presence.fragments = b.presence.fragments
  interpretation : a.interpretation = b.interpretation
  semanticContract : a.producer.semanticContract = b.producer.semanticContract

/-- What the content covers. -/
structure SameCoverage (a b : Claim) : Prop where
  assertion : SameAssertion engine a b
  payload : AgreeOn engine (fun descriptor => descriptor.columnsOf .authoritativePayload) a b

variable {engine}

/-- Rows of one descriptor agree exactly when the projections of their columns do. -/
theorem agreeOn_iff {columns : RelationDescriptor → List Bytes} {a b : Claim}
    {descriptor : RelationDescriptor} (ha : ValidClaim engine descriptor a)
    (hb : ValidClaim engine descriptor b)
    (hcolumns : ∀ id ∈ columns descriptor, ∃ column ∈ descriptor.columns, column.id = id) :
    AgreeOn engine columns a b ↔
      rowTuple a.row (columns descriptor) = rowTuple b.row (columns descriptor) := by
  have hdescriptor : a.descriptor = b.descriptor := by
    rw [← (requireId_eq_ok ha.found).1, ← (requireId_eq_ok hb.found).1]
  rw [rowTuple_eq_iff_cellsAgree ((validateRow_eq_ok_iff _ _).1 ha.row)
    ((validateRow_eq_ok_iff _ _).1 hb.row) hcolumns]
  unfold AgreeOn
  constructor
  · intro h
    exact h.2 descriptor ha.found
  · intro h
    refine ⟨hdescriptor, ?_⟩
    intro other hother
    obtain rfl := Except.ok.inj (ha.found.symm.trans hother)
    exact h

theorem digestInputs_mem {claims : List Claim} {value : Claim} {descriptor : RelationDescriptor}
    (hmem : value ∈ claims) (hvalid : ValidClaim engine descriptor value) {input : Bytes}
    (hinput : input ∈ digestInputs descriptor value) :
    input ∈ {input | ∃ value ∈ claims, ∃ descriptor,
      engine.requireId value.descriptor = .ok descriptor ∧ input ∈ digestInputs descriptor value} :=
  ⟨value, hmem, descriptor, hvalid.found, hinput⟩

section Pair

variable {a b : Claim} {da db : RelationDescriptor}

/-- One descriptor identifier means one descriptor. -/
theorem descriptor_unique (ha : ValidClaim engine da a) (hb : ValidClaim engine db b)
    (h : a.descriptor = b.descriptor) : da = db := by
  have hfound := ha.found
  rw [h, hb.found] at hfound
  exact (Except.ok.inj hfound).symm

theorem semanticKey_eq_iff (hdigest : NoCollision engine [a, b]) (ha : ValidClaim engine da a)
    (hb : ValidClaim engine db b) : a.semanticKey = b.semanticKey ↔ SameKey engine a b := by
  constructor
  · intro h
    have hfields := identityDigest_injOn hdigest
      (digestInputs_mem (by simp) ha (by simp [digestInputs]))
      (digestInputs_mem (by simp) hb (by simp [digestInputs])) ha.semanticKey (h ▸ hb.semanticKey)
    simp only [semanticKeyFields, List.cons.injEq] at hfields
    obtain ⟨hid, -, htuple, -⟩ := hfields
    have hsame : a.descriptor = b.descriptor := by
      rw [← (requireId_eq_ok ha.found).1, ← (requireId_eq_ok hb.found).1]
      exact fromString_injective hid
    obtain rfl := descriptor_unique ha hb hsame
    have hvalid := engine.valid da (requireId_eq_ok ha.found).2
    exact (agreeOn_iff ha hb fun id => mem_keyColumns hvalid).2 htuple
  · intro h
    obtain rfl := descriptor_unique ha hb h.1
    have hvalid := engine.valid da (requireId_eq_ok ha.found).2
    have htuple := (agreeOn_iff ha hb fun id => mem_keyColumns hvalid).1 h
    have hfields : semanticKeyFields da a.row = semanticKeyFields da b.row := by
      rw [semanticKeyFields, semanticKeyFields, htuple]
    exact Except.ok.inj (ha.semanticKey.symm.trans (hfields ▸ hb.semanticKey))

theorem assertion_eq_iff (hdigest : NoCollision engine [a, b]) (ha : ValidClaim engine da a)
    (hb : ValidClaim engine db b) : a.assertion = b.assertion ↔ SameAssertion engine a b := by
  constructor
  · intro h
    have hfields := identityDigest_injOn hdigest
      (digestInputs_mem (by simp) ha (by simp [digestInputs]))
      (digestInputs_mem (by simp) hb (by simp [digestInputs])) ha.assertion (h ▸ hb.assertion)
    simp only [assertionFields, List.cons.injEq] at hfields
    obtain ⟨hkey, -, hpresence, hinterpretation, hcontract, -⟩ := hfields
    have hcondition := ClaimCondition.canonicalForm_injective (fromString_injective hpresence)
    exact ⟨(semanticKey_eq_iff hdigest ha hb).1 (fromString_injective hkey),
      congrArg ClaimCondition.universe hcondition, congrArg ClaimCondition.fragments hcondition,
      fromString_injective hinterpretation, fromString_injective hcontract⟩
  · intro h
    have hkey := (semanticKey_eq_iff hdigest ha hb).2 h.key
    have hform : a.presence.canonicalForm = b.presence.canonicalForm := by
      unfold ClaimCondition.canonicalForm
      rw [h.universe, h.fragments]
    have hfields : assertionFields a.semanticKey a.presence a.interpretation a.producer =
        assertionFields b.semanticKey b.presence b.interpretation b.producer := by
      unfold assertionFields
      rw [hkey, h.universe, hform, h.interpretation, h.semanticContract]
    exact Except.ok.inj (ha.assertion.symm.trans (hfields ▸ hb.assertion))

theorem content_eq_iff (hdigest : NoCollision engine [a, b]) (ha : ValidClaim engine da a)
    (hb : ValidClaim engine db b) : a.content = b.content ↔ SameCoverage engine a b := by
  have hpayload : ∀ {descriptor : RelationDescriptor}, ValidClaim engine descriptor a →
      ValidClaim engine descriptor b →
      (AgreeOn engine (fun descriptor => descriptor.columnsOf .authoritativePayload) a b ↔
        rowTuple a.row (payloadColumns descriptor) = rowTuple b.row (payloadColumns descriptor)) := by
    intro descriptor ha hb
    rw [agreeOn_iff ha hb fun id => mem_columnsOf, rowTuple_eq_iff, rowTuple_eq_iff]
    simp only [mem_payloadColumns]
  constructor
  · intro h
    have hfields := identityDigest_injOn hdigest
      (digestInputs_mem (by simp) ha (by simp [digestInputs]))
      (digestInputs_mem (by simp) hb (by simp [digestInputs])) ha.content (h ▸ hb.content)
    rw [contentFields, contentFields, List.cons.injEq, List.cons.injEq] at hfields
    have hassertion := (assertion_eq_iff hdigest ha hb).1 (fromString_injective hfields.1)
    obtain rfl := descriptor_unique ha hb hassertion.key.1
    exact ⟨hassertion, (hpayload ha hb).2 hfields.2.1⟩
  · intro h
    have hassertion := (assertion_eq_iff hdigest ha hb).2 h.assertion
    obtain rfl := descriptor_unique ha hb h.assertion.key.1
    have hfields : contentFields da a.assertion a.row = contentFields da b.assertion b.row := by
      unfold contentFields
      rw [hassertion, (hpayload ha hb).1 h.payload]
    exact Except.ok.inj (ha.content.symm.trans (hfields ▸ hb.content))

end Pair

/-- **The identities of valid claims cover what they name and nothing else.** -/
theorem claim_identities_iff {a b : Claim} (ha : validateClaim engine a = .ok ())
    (hb : validateClaim engine b = .ok ()) (hdigest : NoCollision engine [a, b]) :
    (a.semanticKey = b.semanticKey ↔ SameKey engine a b) ∧
      (a.assertion = b.assertion ↔ SameAssertion engine a b) ∧
      (a.content = b.content ↔ SameCoverage engine a b) := by
  obtain ⟨da, hvalid⟩ := exists_validClaim ha
  obtain ⟨db, hvalid'⟩ := exists_validClaim hb
  exact ⟨semanticKey_eq_iff hdigest hvalid hvalid', assertion_eq_iff hdigest hvalid hvalid',
    content_eq_iff hdigest hvalid hvalid'⟩

/-- Two claims with one key and different payloads. -/
theorem claim_identities_samples :
    (firstSample.semanticKey = secondSample.semanticKey ↔
        SameKey sampleEngine firstSample secondSample) ∧
      (firstSample.assertion = secondSample.assertion ↔
        SameAssertion sampleEngine firstSample secondSample) ∧
      (firstSample.content = secondSample.content ↔
        SameCoverage sampleEngine firstSample secondSample) :=
  claim_identities_iff samples_commit.1.1 samples_commit.1.2 noCollision_samples

end Claims

end Cxxlens.Sdk
