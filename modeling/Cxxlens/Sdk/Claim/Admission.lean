import Cxxlens.Sdk.Claim.Reported

set_option autoImplicit false

/-! # Which rows are admitted

`validate_row` checks the cell under the identifier of each column, and then only that every key names
a column. A key may name a column by its name as well as by its identifier, and a cell under the name
is never checked. -/

namespace Cxxlens.Sdk

open Fallible

/-! ## Rows -/

/-- Every cell is a valid cell of a column, under the identifier of the column, and none that is
    required is missing. -/
structure FullyTyped (descriptor : RelationDescriptor) (row : DetachedRow) : Prop where
  cells : ∀ entry ∈ row.cells, ∃ column ∈ descriptor.columns, column.id = entry.1 ∧
    entry.2.type = column.type ∧ entry.2.validate = .ok ()
  required : ∀ column ∈ descriptor.columns, column.required = true →
    ∃ cell, (column.id, cell) ∈ row.cells

/-- Every cell is stored under the identifier of a column. -/
def KeyedById (descriptor : RelationDescriptor) (row : DetachedRow) : Prop :=
  ∀ entry ∈ row.cells, ∃ column ∈ descriptor.columns, column.id = entry.1

/-- The checks of `validate_row` on the cells that are stored under identifiers, and on the keys. -/
structure CheckedById (descriptor : RelationDescriptor) (row : DetachedRow) : Prop where
  descriptorId : row.descriptorId = descriptor.id
  cells : ∀ column ∈ descriptor.columns, ∀ cell, (column.id, cell) ∈ row.cells →
    cell.type = column.type ∧ cell.validate = .ok ()
  required : ∀ column ∈ descriptor.columns, column.required = true →
    ∃ cell, (column.id, cell) ∈ row.cells
  known : ∀ entry ∈ row.cells, ∃ column ∈ descriptor.columns,
    column.name = entry.1 ∨ column.id = entry.1

theorem find_eq_some_iff (row : DetachedRow) (key : Bytes) (cell : DetachedCell) :
    row.find key = some cell ↔ (key, cell) ∈ row.cells := by
  have hordered := row.ordered
  unfold DetachedRow.find
  generalize row.cells = cells at hordered ⊢
  induction cells with
  | nil => simp
  | cons head rest ih =>
      rw [List.map_cons, List.pairwise_cons] at hordered
      rw [List.lookup_cons, List.mem_cons]
      by_cases heq : key = head.1
      · subst heq
        have hfresh : (head.1, cell) ∉ rest := by
          intro hmem
          exact absurd (hordered.1 _ (List.mem_map_of_mem hmem)) (lt_irrefl _)
        simp only [beq_self_eq_true, hfresh, or_false, Prod.ext_iff, true_and]
        exact ⟨fun h => (Option.some.inj h).symm, fun h => congrArg some h.symm⟩
      · have hne : (key == head.1) = false := beq_false_of_ne heq
        have hhead : (key, cell) ≠ head := fun h => heq (congrArg Prod.fst h)
        rw [hne]
        simp only [hhead, false_or]
        exact ih hordered.2

theorem validateCell_eq_ok_iff (row : DetachedRow) (column : ColumnDescriptor) :
    validateCell row column = .ok () ↔
      (∀ cell, (column.id, cell) ∈ row.cells → cell.type = column.type ∧ cell.validate = .ok ()) ∧
      (column.required = true → ∃ cell, (column.id, cell) ∈ row.cells) := by
  simp only [← find_eq_some_iff]
  unfold validateCell
  cases row.find column.id with
  | none => simp [reject_eq_ok_iff]
  | some found =>
      by_cases htype : found.type = column.type
      · simp [htype]
      · simp [htype]

/-- `validate_row` makes exactly these checks. -/
theorem validateRow_eq_ok_iff (descriptor : RelationDescriptor) (row : DetachedRow) :
    validateRow descriptor row = .ok () ↔ CheckedById descriptor row := by
  unfold validateRow
  simp only [seq_eq_ok_iff, reject_eq_ok_iff, firstError_eq_ok_iff, validateCell_eq_ok_iff,
    bne_eq_false_iff_eq, Bool.not_eq_false', RelationDescriptor.hasColumn, List.any_eq_true,
    Bool.or_eq_true, beq_iff_eq]
  constructor
  · intro ⟨hdescriptor, hcells, hknown⟩
    exact ⟨hdescriptor, fun column hcolumn => (hcells column hcolumn).1,
      fun column hcolumn => (hcells column hcolumn).2, hknown⟩
  · intro h
    exact ⟨h.descriptorId, fun column hcolumn => ⟨h.cells column hcolumn, h.required column hcolumn⟩,
      h.known⟩

theorem FullyTyped.keyedById {descriptor : RelationDescriptor} {row : DetachedRow}
    (h : FullyTyped descriptor row) : KeyedById descriptor row := by
  intro entry hentry
  obtain ⟨column, hcolumn, hid, -⟩ := h.cells entry hentry
  exact ⟨column, hcolumn, hid⟩

/-- A row that passes the checks is fully typed as soon as every key is an identifier. -/
theorem CheckedById.fullyTyped_iff {descriptor : RelationDescriptor} {row : DetachedRow}
    (h : CheckedById descriptor row) : FullyTyped descriptor row ↔ KeyedById descriptor row := by
  constructor
  · exact FullyTyped.keyedById
  · intro hkeyed
    refine ⟨?_, h.required⟩
    intro entry hentry
    obtain ⟨column, hcolumn, hid⟩ := hkeyed entry hentry
    have hmem : (column.id, entry.2) ∈ row.cells := by
      rw [hid]
      exact hentry
    exact ⟨column, hcolumn, hid, h.cells column hcolumn entry.2 hmem⟩

/-! ## Claims -/

/-- `observation` -/
structure Observation where
  row : DetachedRow
  presence : ClaimCondition
  interpretation : Bytes
  producer : ClaimProducer
  inputBasis : Bytes
  provenanceRoot : Bytes
  guarantee : ClaimGuarantee
  deriving DecidableEq, Repr

section Claims

variable {hash : Bytes → Bytes} {engine : RelationEngine hash}

/-- `make_assertion` -/
def makeAssertion (engine : RelationEngine hash) (value : Observation) : Result Claim := do
  let descriptor ← engine.requireId value.row.descriptorId
  encodeClaim hash descriptor value.row value.presence value.interpretation .assertion
    value.producer (.direct value.inputBasis) value.provenanceRoot value.guarantee

/-- The row of a claim of this engine is fully typed. -/
def Claim.FullyTyped (engine : RelationEngine hash) (value : Claim) : Prop :=
  ∀ descriptor, engine.requireId value.descriptor = .ok descriptor →
    Sdk.FullyTyped descriptor value.row

/-- The row of a claim of this engine has no cell under the name of a column. -/
def Claim.KeyedById (engine : RelationEngine hash) (value : Claim) : Prop :=
  ∀ descriptor, engine.requireId value.descriptor = .ok descriptor →
    Sdk.KeyedById descriptor value.row

/-- An assertion that was made is valid, and its row has been checked. -/
theorem makeAssertion_eq_ok {value : Observation} {claim : Claim}
    (h : makeAssertion engine value = .ok claim) :
    ∃ descriptor, engine.requireId claim.descriptor = .ok descriptor ∧
      validateRow descriptor claim.row = .ok () ∧ claim.row = value.row ∧
      validateClaim engine claim = .ok () := by
  rw [makeAssertion, bind_eq_ok_iff] at h
  obtain ⟨descriptor, hfound, h⟩ := h
  have hencode := h
  simp only [encodeClaim, seq_eq_ok_iff] at h
  obtain ⟨hrow, -, -, -, -, -, -, -, h⟩ := h
  simp only [bind_eq_ok_iff] at h
  obtain ⟨key, -, assertion, -, content, -, hclaim⟩ := h
  obtain rfl := Except.ok.inj hclaim
  have hid := (requireId_eq_ok hfound).1
  have hsame : engine.requireId descriptor.id = .ok descriptor := by
    rw [hid]
    exact hfound
  refine ⟨descriptor, hsame, hrow, rfl, ?_⟩
  rw [validateClaim, bind_eq_ok_iff]
  refine ⟨descriptor, hsame, ?_⟩
  rw [bind_eq_ok_iff]
  refine ⟨_, hencode, ?_⟩
  rw [reject_eq_ok_iff]
  simp [hid]

theorem Claim.fullyTyped_iff {value : Claim} {descriptor : RelationDescriptor}
    (hfound : engine.requireId value.descriptor = .ok descriptor)
    (hrow : validateRow descriptor value.row = .ok ()) :
    value.FullyTyped engine ↔ value.KeyedById engine := by
  have hchecked := (validateRow_eq_ok_iff descriptor value.row).1 hrow
  unfold Claim.FullyTyped Claim.KeyedById
  constructor
  · intro h other hother
    exact (h other hother).keyedById
  · intro h other hother
    obtain rfl := Except.ok.inj (hfound.symm.trans hother)
    exact hchecked.fullyTyped_iff.2 (h descriptor hother)

/-- **A row is admitted with an unchecked cell exactly when it passes the checks on the cells under
    identifiers and has a cell under a name.** An admitted claim has no unchecked cell exactly when it
    has no cell under a name. -/
theorem admission_typed_iff :
    (∀ (descriptor : RelationDescriptor) (row : DetachedRow),
      (validateRow descriptor row = .ok () → FullyTyped descriptor row) ↔
        (CheckedById descriptor row → KeyedById descriptor row)) ∧
    (∀ (engine : RelationEngine hash) (value : Observation) (claim : Claim),
      makeAssertion engine value = .ok claim →
        (claim.FullyTyped engine ↔ claim.KeyedById engine)) ∧
    ∀ (engine : RelationEngine hash) (claim : Claim), validateClaim engine claim = .ok () →
      (claim.FullyTyped engine ↔ claim.KeyedById engine) := by
  refine ⟨?_, ?_, ?_⟩
  · intro descriptor row
    rw [validateRow_eq_ok_iff]
    constructor
    · intro h hchecked
      exact (h hchecked).keyedById
    · intro h hchecked
      exact hchecked.fullyTyped_iff.2 (h hchecked)
  · intro engine value claim h
    obtain ⟨descriptor, hfound, hrow, -⟩ := makeAssertion_eq_ok h
    exact Claim.fullyTyped_iff hfound hrow
  · intro engine claim h
    obtain ⟨descriptor, hvalid⟩ := exists_validClaim h
    exact Claim.fullyTyped_iff hvalid.found hvalid.row

/-- A cell under the name of a column, of another type and without value. -/
def strayCell : Bytes × DetachedCell :=
  ("p", { type := { scalar := .boolean } })

def strayRow : DetachedRow where
  descriptorId := "a.b.v1"
  cells := (sampleRow "x").cells ++ [strayCell]
  ordered := by
    simp only [sampleRow, strayCell, List.map_append, List.map_cons, List.map_nil]
    decide

def sampleObservation (row : DetachedRow) : Observation where
  row := row
  presence := firstSample.presence
  interpretation := "i"
  producer := firstSample.producer
  inputBasis := ascii "sha256:" ++ List.replicate 64 0x30
  provenanceRoot := "r"
  guarantee := firstSample.guarantee

/-- Both observations become claims. -/
theorem observations_asserted :
    (makeAssertion sampleEngine (sampleObservation (sampleRow "x"))).isOk = true ∧
      (makeAssertion sampleEngine (sampleObservation strayRow)).isOk = true := by
  decide +kernel

theorem admission_typed_sample :
    ∃ claim : Claim, makeAssertion sampleEngine (sampleObservation (sampleRow "x")) = .ok claim ∧
      (claim.FullyTyped sampleEngine ↔ claim.KeyedById sampleEngine) := by
  obtain ⟨claim, h⟩ := exists_eq_ok_of_isOk observations_asserted.1
  exact ⟨claim, h, admission_typed_iff.2.1 sampleEngine _ claim h⟩

theorem not_fullyTyped_strayRow : ¬ FullyTyped sampleDescriptor strayRow := by
  intro h
  have hcell : strayCell ∈ strayRow.cells := List.mem_append_right _ List.mem_cons_self
  obtain ⟨column, hcolumn, hid, -⟩ := h.cells strayCell hcell
  have hids : ∀ column ∈ sampleDescriptor.columns, column.id ≠ strayCell.1 := by decide
  exact hids column hcolumn hid

/-- A cell under a name is admitted all the way into a claim. -/
theorem strayRow_admitted :
    sampleDescriptor.validate sampleHash = .ok () ∧
      validateRow sampleDescriptor strayRow = .ok () ∧
      ¬ FullyTyped sampleDescriptor strayRow ∧
      ∃ claim : Claim, makeAssertion sampleEngine (sampleObservation strayRow) = .ok claim ∧
        validateClaim sampleEngine claim = .ok () ∧ ¬ claim.FullyTyped sampleEngine := by
  refine ⟨sampleEngine.valid sampleDescriptor List.mem_cons_self, by decide,
    not_fullyTyped_strayRow, ?_⟩
  obtain ⟨claim, h⟩ := exists_eq_ok_of_isOk observations_asserted.2
  obtain ⟨descriptor, hfound, -, hrow, hvalid⟩ := makeAssertion_eq_ok h
  refine ⟨claim, h, hvalid, ?_⟩
  intro htyped
  have hsample := htyped descriptor hfound
  obtain rfl := List.mem_singleton.1 (requireId_eq_ok hfound).2
  rw [hrow] at hsample
  exact not_fullyTyped_strayRow hsample

end Claims

end Cxxlens.Sdk
