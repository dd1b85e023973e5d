import Cxxlens.Sdk.Relation.Descriptor

set_option autoImplicit false

/-! # Rows and the engine

Detached cells and rows with their validation (`relation.cpp`), and the frozen registry. The maps of
the source are lists in the order of their keys. -/

namespace Cxxlens.Sdk

open Fallible

/-- `cell_state` -/
inductive CellState where
  | present
  | absent
  | unknown
  | unnamed (value : UInt8)
  deriving DecidableEq, Repr

/-- `is_valid(cell_state)` -/
def CellState.isValid : CellState → Bool
  | .unnamed _ => false
  | _ => true

/-- `detached_cell` -/
structure DetachedCell where
  type : ValueType
  state : CellState := .present
  value : Option ScalarValue := none
  unknownReason : Option Bytes := none
  deriving DecidableEq, Repr

/-- `detached_row`; `cells` is a `std::map`. -/
structure DetachedRow where
  descriptorId : Bytes
  cells : List (Bytes × DetachedCell)
  ordered : (cells.map Prod.fst).Pairwise (· < ·)
  deriving DecidableEq, Repr

/-- `cells.find(column)` -/
def DetachedRow.find (row : DetachedRow) (column : Bytes) : Option DetachedCell :=
  row.cells.lookup column

/-! ## Canonical form -/

/-- The name of a state in `detached_cell::canonical_form`; a state without a name prints nothing. -/
def CellState.name : CellState → Bytes
  | .present => "present"
  | .absent => "absent"
  | .unknown => "unknown"
  | .unnamed _ => []

/-- `detached_cell::canonical_form` -/
def DetachedCell.canonicalForm (cell : DetachedCell) : Bytes :=
  ascii "\x7b\"state\":\"" ++ cell.state.name ++ ascii "\",\"type\":" ++
    canonicalJsonString cell.type.canonicalName ++
    (cell.value.elim [] fun value => ascii ",\"value\":" ++ scalarText value) ++
    (cell.unknownReason.elim [] fun reason =>
      ascii ",\"unknown_reason\":" ++ canonicalJsonString reason) ++
    ascii "\x7d"

/-- `detached_row::canonical_form` -/
def DetachedRow.canonicalForm (row : DetachedRow) : Bytes :=
  ascii "\x7b\"cells\":\x7b" ++
    List.intercalate [0x2c] (row.cells.map fun entry =>
      canonicalJsonString entry.1 ++ ascii ":" ++ entry.2.canonicalForm) ++
    ascii "\x7d,\"descriptor_id\":" ++ canonicalJsonString row.descriptorId ++ ascii "\x7d"

/-! ## Validation -/

/-- `detached_cell::validate` -/
def DetachedCell.validate (cell : DetachedCell) : Result Unit :=
  if cell.state.isValid = false then .error (relationError "sdk.cell-invalid" "state" "closed-enum")
  else if cell.type.scalar.isValid = false ∨ validScalarType cell.type = false then
    .error (relationError "sdk.cell-invalid" "type" "type-parameter")
  else
    match cell.state with
    | .present =>
      match cell.value, cell.unknownReason with
      | some value, none =>
        match invalidScalarDetail cell.type value with
        | some detail => .error (relationError "sdk.cell-invalid" "value" detail)
        | none => .ok ()
      | _, _ => .error (relationError "sdk.cell-invalid" "value" "present")
    | .absent =>
      if cell.type.optional = false ∨ cell.value.isSome ∨ cell.unknownReason.isSome then
        .error (relationError "sdk.cell-invalid" "state" "absent")
      else .ok ()
    | _ =>
      match cell.value, cell.unknownReason with
      | none, some reason =>
        if reason = [] then .error (relationError "sdk.cell-invalid" "state" "unknown")
        else if validUtf8 reason = false then
          .error (relationError "sdk.cell-invalid" "unknown_reason" "invalid-utf8")
        else if controlFreeText reason = false then
          .error (relationError "sdk.cell-invalid" "unknown_reason" "control-character")
        else .ok ()
      | _, _ => .error (relationError "sdk.cell-invalid" "state" "unknown")

/-- The three forms of a valid cell. -/
theorem DetachedCell.validate_forms {cell : DetachedCell} (h : cell.validate = .ok ()) :
    (cell.state = .absent ∧ cell.type.optional = true ∧ cell.value = none ∧
        cell.unknownReason = none) ∨
      (∃ value, cell.state = .present ∧ cell.value = some value ∧ cell.unknownReason = none ∧
        invalidScalarDetail cell.type value = none) ∨
      ∃ reason, cell.state = .unknown ∧ cell.value = none ∧ cell.unknownReason = some reason := by
  obtain ⟨type, state, value, reason⟩ := cell
  unfold DetachedCell.validate at h
  rw [guard_eq_ok_iff, guard_eq_ok_iff] at h
  obtain ⟨hstate, -, h⟩ := h
  cases state with
  | present =>
      cases value with
      | none => simp at h
      | some value =>
          cases reason with
          | some reason => simp at h
          | none =>
              simp only at h
              split at h
              · simp at h
              · rename_i hdetail
                exact .inr (.inl ⟨value, rfl, rfl, rfl, hdetail⟩)
  | absent =>
      simp only at h
      split_ifs at h with habsent
      simp only [not_or, Bool.not_eq_true, Bool.not_eq_false,
        Option.isSome_eq_false_iff, Option.isNone_iff_eq_none] at habsent
      exact .inl ⟨rfl, habsent.1, habsent.2.1, habsent.2.2⟩
  | unknown =>
      cases value with
      | some value => simp at h
      | none =>
          cases reason with
          | none => simp at h
          | some reason => exact .inr (.inr ⟨reason, rfl, rfl, rfl⟩)
  | unnamed byte => exact absurd rfl hstate

/-- The loop of `validate_row` over the columns. -/
def validateCell (row : DetachedRow) (column : ColumnDescriptor) : Result Unit :=
  match row.find column.id with
  | none => reject column.required (relationError "sdk.required-cell-missing" column.id)
  | some found =>
    if found.type ≠ column.type then .error (relationError "sdk.cell-type-mismatch" column.id)
    else found.validate

/-- `validate_row` -/
def validateRow (descriptor : RelationDescriptor) (row : DetachedRow) : Result Unit := do
  reject (row.descriptorId != descriptor.id)
    (relationError "sdk.row-descriptor-mismatch" "descriptor_id")
  firstError (validateCell row) descriptor.columns
  firstError (fun entry : Bytes × DetachedCell => reject (!descriptor.hasColumn entry.1)
    (relationError "sdk.unknown-cell" entry.1)) row.cells

/-! ## The engine -/

section Engine

variable (hash : Bytes → Bytes)

/-- `relation_engine`: what `relation_registry::add` and `build` leave behind. The descriptors are in
    the order of their names, each valid, and no two share an identifier. -/
structure RelationEngine where
  descriptors : List RelationDescriptor
  ordered : (descriptors.map RelationDescriptor.name).Pairwise (· < ·)
  valid : ∀ descriptor ∈ descriptors, descriptor.validate hash = .ok ()
  distinct : (descriptors.map RelationDescriptor.id).Nodup

variable {hash}

/-- `relation_engine::require_id` -/
def RelationEngine.requireId (engine : RelationEngine hash) (descriptorId : Bytes) :
    Result RelationDescriptor :=
  match engine.descriptors.find? fun descriptor => descriptor.id == descriptorId with
  | some descriptor => .ok descriptor
  | none => .error (relationError "sdk.relation-not-found" descriptorId)

end Engine

end Cxxlens.Sdk
