import Cxxlens.Sdk.Json.Value
import Cxxlens.Sdk.Relation.Row

set_option autoImplicit false

/-! # The logical IR of a query

The nodes of `query.hpp`, their typed arguments and the columns that are passed between them. -/

namespace Cxxlens.Sdk.Query

/-- `query_error` -/
def queryError (code field : Bytes) (detail : Bytes := []) : Error :=
  { code := code, field := field, detail := detail }

/-- `ir_node` -/
structure IrNode where
  id : Bytes
  operatorId : Bytes
  inputs : List Bytes := []
  arguments : Bytes
  deriving DecidableEq, Repr

/-- `column_ref`; the alias is empty only before a builder binds the reference. -/
structure ColumnRef where
  descriptorId : Bytes
  columnId : Bytes
  type : ValueType
  sourceAlias : Bytes := []
  deriving DecidableEq, Repr

/-- `column_availability` -/
inductive ColumnAvailability where
  | require
  | absentIfSchemaMissing
  deriving DecidableEq, Repr

/-- `ir_column_ref` -/
structure IrColumnRef where
  columnId : Bytes
  availability : ColumnAvailability := .require
  sourceAlias : Bytes := []
  deriving DecidableEq, Repr

/-- `ir_literal` -/
structure IrLiteral where
  type : Bytes
  value : ScalarValue
  deriving DecidableEq, Repr

/-- `decoded_predicate`: each kind with the members it fills. -/
inductive DecodedPredicate where
  | equalsPresent (column : IrColumnRef) (literalValue : IrLiteral)
  | columnEqualsPresent (left right : IrColumnRef)
  | isPresent (column : IrColumnRef)
  | isAbsent (column : IrColumnRef)
  | isUnknown (column : IrColumnRef)
  | all (operands : List DecodedPredicate)
  | any (operands : List DecodedPredicate)
  deriving Repr

/-- Induction on a predicate through its operands. -/
theorem DecodedPredicate.induct {P : DecodedPredicate → Prop}
    (equalsPresent : ∀ column literalValue, P (.equalsPresent column literalValue))
    (columnEqualsPresent : ∀ left right, P (.columnEqualsPresent left right))
    (isPresent : ∀ column, P (.isPresent column)) (isAbsent : ∀ column, P (.isAbsent column))
    (isUnknown : ∀ column, P (.isUnknown column))
    (all : ∀ operands : List DecodedPredicate, (∀ operand ∈ operands, P operand) →
      P (.all operands))
    (any : ∀ operands : List DecodedPredicate, (∀ operand ∈ operands, P operand) →
      P (.any operands)) : ∀ predicate, P predicate := by
  intro predicate
  refine @DecodedPredicate.rec P (fun operands => ∀ operand ∈ operands, P operand)
    equalsPresent columnEqualsPresent isPresent isAbsent isUnknown all any ?_ ?_ predicate
  · intro operand hoperand
    exact absurd hoperand (by simp)
  · intro head tail hhead htail operand hoperand
    cases List.mem_cons.1 hoperand with
    | inl heq => exact heq ▸ hhead
    | inr hmem => exact htail operand hmem

/-- `projection_item` -/
structure ProjectionItem where
  column : IrColumnRef
  output : Bytes
  deriving DecidableEq, Repr

/-- `order_key` -/
structure OrderKey where
  column : IrColumnRef
  ascending : Bool := true
  cellStateOrder : List CellState
  deriving DecidableEq, Repr

/-- `operator_arguments` -/
inductive OperatorArguments where
  | scan (descriptorId scanAlias : Bytes)
  | predicate (predicate : DecodedPredicate)
  | project (columns : List ProjectionItem)
  | empty
  | order (keys : List OrderKey)
  | limit (count : UInt64)
  | condition (conditionUniverse : Bytes) (alternatives : List Bytes)
  | interpretation (interpretation : Bytes)
  deriving Repr

end Cxxlens.Sdk.Query
