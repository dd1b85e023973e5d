import Cxxlens.Sdk.Relation.Scalar

set_option autoImplicit false

/-! # Relation descriptors

`relation_descriptor` with its validation and canonical form (`relation.hpp`, `relation.cpp`). -/

namespace Cxxlens.Sdk

open Sorting Fallible

/-- `column_role` -/
inductive ColumnRole where
  | claimKey
  | authoritativePayload
  | display
  | auxiliary
  | unnamed (value : UInt8)
  deriving DecidableEq, Repr

/-- `is_valid(column_role)` -/
def ColumnRole.isValid : ColumnRole → Bool
  | .unnamed _ => false
  | _ => true

/-- `merge_mode` -/
inductive MergeMode where
  | set
  | multiset
  | functionalAssertion
  | keyedUnion
  | unnamed (value : UInt8)
  deriving DecidableEq, Repr

/-- `is_valid(merge_mode)` -/
def MergeMode.isValid : MergeMode → Bool
  | .unnamed _ => false
  | _ => true

/-- `reference_strength` -/
inductive ReferenceStrength where
  | hard
  | softSemantic
  | unnamed (value : UInt8)
  deriving DecidableEq, Repr

/-- `is_valid(reference_strength)` -/
def ReferenceStrength.isValid : ReferenceStrength → Bool
  | .unnamed _ => false
  | _ => true

/-- The byte of a strength, by which an enumeration compares. -/
def ReferenceStrength.code : ReferenceStrength → Nat
  | .hard => 0
  | .softSemantic => 1
  | .unnamed value => value.toNat

/-- `column_descriptor` -/
structure ColumnDescriptor where
  id : Bytes
  name : Bytes
  type : ValueType
  required : Bool := true
  role : ColumnRole := .authoritativePayload
  deriving DecidableEq, Repr

/-- `relation_reference_descriptor` -/
structure RelationReferenceDescriptor where
  sourceColumns : List Bytes
  targetRelation : Bytes
  targetColumns : List Bytes
  strength : ReferenceStrength := .softSemantic
  containerElements : Bool := false
  deriving DecidableEq, Repr

/-- `domain_identity_descriptor` -/
structure DomainIdentityDescriptor where
  resultColumn : Option Bytes := none
  projection : List Bytes := []
  contract : Bytes := []
  deriving DecidableEq, Repr

/-- `semantic_version` -/
structure SemanticVersion where
  major : UInt32
  minor : UInt32
  patch : UInt32
  deriving DecidableEq, Repr

/-- `relation_descriptor` -/
structure RelationDescriptor where
  id : Bytes
  name : Bytes
  version : SemanticVersion
  semanticMajor : UInt32 := 1
  semantics : Bytes
  ownerNamespace : Bytes
  contractCanonical : Bytes := []
  contractDigest : Bytes := []
  descriptorDigest : Bytes := []
  columns : List ColumnDescriptor
  keyColumns : List Bytes
  domainIdentity : DomainIdentityDescriptor := {}
  references : List RelationReferenceDescriptor := []
  merge : MergeMode := .set
  conflictColumns : List Bytes := []
  deriving DecidableEq, Repr

/-- `relation_error` -/
def relationError (code field : Bytes) (detail : Bytes := []) : Error :=
  { code := code, field := field, detail := detail }

/-- `semantic_version::string` -/
def SemanticVersion.string (version : SemanticVersion) : Bytes :=
  CanonicalValue.decimal version.major.toNat ++ ascii "." ++
    CanonicalValue.decimal version.minor.toNat ++ ascii "." ++
    CanonicalValue.decimal version.patch.toNat

/-! ## Canonical form -/

/-- `role_name` -/
def roleName : ColumnRole → Bytes
  | .claimKey => "claim_key"
  | .authoritativePayload => "authoritative_payload"
  | .display => "display"
  | .auxiliary => "auxiliary"
  | .unnamed value => ascii "invalid-column-role:" ++ CanonicalValue.decimal value.toNat

/-- `merge_name` -/
def mergeName : MergeMode → Bytes
  | .set => "set"
  | .multiset => "multiset"
  | .functionalAssertion => "functional_assertion"
  | .keyedUnion => "keyed_union"
  | .unnamed value => ascii "invalid-merge-mode:" ++ CanonicalValue.decimal value.toNat

/-- `reference_name` -/
def referenceName : ReferenceStrength → Bytes
  | .hard => "hard"
  | .softSemantic => "soft_semantic"
  | .unnamed value => ascii "invalid-reference-strength:" ++ CanonicalValue.decimal value.toNat

/-- Strings in a JSON array, without the brackets. -/
def quotedList (values : List Bytes) : Bytes :=
  List.intercalate [0x2c] (values.map canonicalJsonString)

/-- The order of byte strings as a comparator. -/
def bytesLess (left right : Bytes) : Bool :=
  decide (left < right)

theorem bytesLess_compares : Compares bytesLess id := by
  intro a b
  rw [bytesLess, decide_eq_true_iff]
  rfl

/-- `reference_less` -/
def referenceLess (left right : RelationReferenceDescriptor) : Bool :=
  let key (reference : RelationReferenceDescriptor) :
      List Bytes ×ₗ Nat ×ₗ Bytes ×ₗ List Bytes ×ₗ Bool :=
    toLex (reference.sourceColumns, toLex (reference.strength.code,
      toLex (reference.targetRelation, toLex (reference.targetColumns,
        reference.containerElements))))
  decide (key left < key right)

def ColumnDescriptor.json (item : ColumnDescriptor) : Bytes :=
  ascii "\x7b\"id\":" ++ canonicalJsonString item.id ++ ascii ",\"name\":" ++
    canonicalJsonString item.name ++ ascii ",\"required\":" ++
    (if item.required = true then ascii "true" else ascii "false") ++ ascii ",\"type\":" ++
    canonicalJsonString item.type.canonicalName ++ ascii ",\"role\":\"" ++ roleName item.role ++
    ascii "\"\x7d"

def RelationReferenceDescriptor.json (reference : RelationReferenceDescriptor) : Bytes :=
  ascii "\x7b" ++
    (if reference.containerElements = true then ascii "\"container_elements\":true," else []) ++
    ascii "\"source\":[" ++ quotedList reference.sourceColumns ++ ascii "],\"strength\":\"" ++
    referenceName reference.strength ++ ascii "\",\"target_relation\":" ++
    canonicalJsonString reference.targetRelation ++ ascii ",\"target\":[" ++
    quotedList reference.targetColumns ++ ascii "]\x7d"

/-- `relation_descriptor::canonical_form` -/
def RelationDescriptor.canonicalForm (descriptor : RelationDescriptor) : Bytes :=
  ascii "\x7b\"columns\":[" ++
    List.intercalate [0x2c] ((sortBy (fun a b : ColumnDescriptor => bytesLess a.id b.id)
      descriptor.columns).map ColumnDescriptor.json) ++
    ascii "],\"conflict_columns\":[" ++ quotedList (sortBy bytesLess descriptor.conflictColumns) ++
    ascii "],\"domain_identity\":\x7b\"contract\":" ++
    canonicalJsonString descriptor.domainIdentity.contract ++ ascii ",\"projection\":[" ++
    quotedList descriptor.domainIdentity.projection ++ ascii "],\"result_column\":" ++
    (descriptor.domainIdentity.resultColumn.elim (ascii "null") canonicalJsonString) ++
    ascii "\x7d,\"id\":" ++ canonicalJsonString descriptor.id ++ ascii ",\"key_columns\":[" ++
    quotedList descriptor.keyColumns ++ ascii "],\"merge\":\"" ++ mergeName descriptor.merge ++
    ascii "\",\"name\":" ++ canonicalJsonString descriptor.name ++ ascii ",\"owner_namespace\":" ++
    canonicalJsonString descriptor.ownerNamespace ++ ascii ",\"references\":[" ++
    List.intercalate [0x2c] ((sortBy referenceLess descriptor.references).map
      RelationReferenceDescriptor.json) ++
    ascii "],\"semantic_major\":" ++ CanonicalValue.decimal descriptor.semanticMajor.toNat ++
    ascii ",\"semantics\":" ++ canonicalJsonString descriptor.semantics ++ ascii ",\"version\":\"" ++
    descriptor.version.string ++ ascii "\"\x7d"

/-! ## Validation -/

/-- `relation_descriptor::column` -/
def RelationDescriptor.column (descriptor : RelationDescriptor) (nameOrId : Bytes) :
    Result ColumnDescriptor :=
  match descriptor.columns.find? fun value => value.name == nameOrId || value.id == nameOrId with
  | none => .error (relationError "sdk.column-not-found" nameOrId descriptor.id)
  | some found => .ok found

/-- Whether `column(nameOrId)` finds one. -/
def RelationDescriptor.hasColumn (descriptor : RelationDescriptor) (nameOrId : Bytes) : Bool :=
  descriptor.columns.any fun value => value.name == nameOrId || value.id == nameOrId

section Validate

variable (hash : Bytes → Bytes)

/-- `descriptor_binding` -/
def descriptorBinding (descriptor : RelationDescriptor) : Result Bytes :=
  semanticDigest hash "cxxlens.relation-descriptor-binding.v2"
    (descriptor.contractDigest ++ ascii "\n" ++ descriptor.canonicalForm)

/-- The digest is the one of the descriptor. -/
def RelationDescriptor.bound (descriptor : RelationDescriptor) : Bool :=
  match descriptorBinding hash descriptor with
  | .error _ => false
  | .ok expected => descriptor.descriptorDigest == expected

/-- `identity_kind` -/
def identityKind (descriptor : RelationDescriptor) : Result Bytes :=
  match descriptor.domainIdentity.resultColumn with
  | none => .error (relationError "sdk.domain-identity-unavailable" descriptor.id)
  | some name =>
    match descriptor.column name with
    | .error _ => .error (relationError "sdk.domain-identity-invalid" name)
    | .ok resultColumn =>
      if resultColumn.type.scalar ≠ .typedId ∨
          (ascii "_id").isSuffixOf resultColumn.type.parameter = false then
        .error (relationError "sdk.domain-identity-invalid" name)
      else
        .ok ((resultColumn.type.parameter.dropLast.dropLast.dropLast).map
          fun byte => if byte = 0x5f then 0x2d else byte)

/-- The first error among the elements of a list. -/
def firstError {α : Type} (check : α → Result Unit) : List α → Result Unit
  | [] => .ok ()
  | item :: rest => do
    check item
    firstError check rest

/-- `if (failed) return unexpected(error)` -/
def reject (failed : Bool) (error : Error) : Result Unit :=
  if failed = true then .error error else .ok ()

theorem reject_eq_ok_iff (failed : Bool) (error : Error) :
    reject failed error = .ok () ↔ failed = false := by
  rw [reject]
  split_ifs with hfailed
  · simp [hfailed]
  · simpa using hfailed

theorem firstError_eq_ok_iff {α : Type} (check : α → Result Unit) (items : List α) :
    firstError check items = .ok () ↔ ∀ item ∈ items, check item = .ok () := by
  induction items with
  | nil => simp [firstError]
  | cons item rest ih =>
      rw [firstError, seq_eq_ok_iff, ih, List.forall_mem_cons]

/-- The domain identity, where there is a contract. -/
def RelationDescriptor.validateDomainIdentity (descriptor : RelationDescriptor) : Result Unit := do
  let identity := descriptor.domainIdentity
  reject (identity.contract.isEmpty != identity.projection.isEmpty ||
      (identity.contract.isEmpty && identity.resultColumn.isSome))
    (relationError "sdk.domain-identity-invalid" descriptor.id "shape")
  if identity.contract.isEmpty = true then .ok ()
  else do
    reject (identity.contract != ascii "canonical-binary-tuple-v1" ||
        !uniqueStrings identity.projection)
      (relationError "sdk.domain-identity-invalid" descriptor.id "contract")
    firstError (fun projection => reject (!descriptor.hasColumn projection)
      (relationError "sdk.domain-identity-invalid" projection "projection")) identity.projection
    match identity.resultColumn with
    | none => .ok ()
    | some name =>
      let failure := relationError "sdk.domain-identity-invalid" name "result"
      match descriptor.column name with
      | .error _ => .error failure
      | .ok result =>
        reject (result.role != .claimKey || identity.projection.contains name ||
          !(identityKind descriptor).isOk) failure

/-- The loop over the columns. -/
def RelationDescriptor.validateColumn (descriptor : RelationDescriptor)
    (value : ColumnDescriptor) : Result Unit := do
  reject (!stableId value.id || !(descriptor.id ++ ascii ".").isPrefixOf value.id)
    (relationError "sdk.column-invalid" value.id "identity")
  reject (!lowerIdentifier value.name)
    (relationError "sdk.column-invalid" value.name "name-pattern")
  reject (!value.required && !value.type.optional)
    (relationError "sdk.column-invalid" value.id "optional-contract")
  reject (value.type.parameter == ascii "native_pointer" ||
      value.type.parameter == ascii "native_address")
    (relationError "sdk.native-address-payload" value.id value.type.parameter)
  reject (!validScalarType value.type) (relationError "sdk.column-invalid" value.id "scalar-type")

/-- The identifiers of the columns with a role. -/
def RelationDescriptor.columnsOf (descriptor : RelationDescriptor) (role : ColumnRole) :
    List Bytes :=
  (descriptor.columns.filter fun value => value.role = role).map ColumnDescriptor.id

/-- The keys and the conflict columns against the roles of the columns. -/
def RelationDescriptor.validateRoles (descriptor : RelationDescriptor) : Result Unit := do
  firstError (fun key => do
      reject (!stableId key) (relationError "sdk.relation-invalid" key "claim-key-pattern")
      let failure := relationError "sdk.relation-invalid" key "claim-key"
      match descriptor.column key with
      | .error _ => .error failure
      | .ok found => reject (found.role != .claimKey) failure) descriptor.keyColumns
  reject (sortBy bytesLess (descriptor.columnsOf .claimKey) !=
      sortBy bytesLess descriptor.keyColumns)
    (relationError "sdk.relation-invalid" "key_columns" "claim-key-role-parity")
  reject (!uniqueStrings descriptor.conflictColumns)
    (relationError "sdk.relation-invalid" "conflict_columns" "unique")
  firstError (fun conflict => reject (!stableId conflict || !descriptor.hasColumn conflict)
    (relationError "sdk.relation-invalid" conflict "conflict-column")) descriptor.conflictColumns
  reject (descriptor.merge == .functionalAssertion &&
      sortBy bytesLess (descriptor.columnsOf .authoritativePayload) !=
        sortBy bytesLess descriptor.conflictColumns)
    (relationError "sdk.relation-invalid" "conflict_columns" "functional-payload-projection")
  reject (descriptor.merge != .functionalAssertion && !descriptor.conflictColumns.isEmpty)
    (relationError "sdk.relation-invalid" "conflict_columns" "nonfunctional-empty")

/-- The loop over the references. -/
def RelationDescriptor.validateReference (descriptor : RelationDescriptor)
    (reference : RelationReferenceDescriptor) : Result Unit := do
  let failure (detail : Bytes) := relationError "sdk.reference-invalid" descriptor.name detail
  reject (reference.sourceColumns.isEmpty ||
      reference.sourceColumns.length != reference.targetColumns.length ||
      !relationName reference.targetRelation) (failure "shape")
  reject (!uniqueStrings reference.sourceColumns) (failure "source-columns-unique")
  reject (!uniqueStrings reference.targetColumns) (failure "target-columns-unique")
  firstError (fun source => reject (!stableId source || !descriptor.hasColumn source)
    (relationError "sdk.reference-invalid" source "source-column")) reference.sourceColumns
  reject (reference.targetColumns.any fun target => !stableId target)
    (failure "target-column-pattern")
  if reference.containerElements = true then do
    reject (reference.sourceColumns.length != 1 || reference.targetColumns.length != 1)
      (failure "container-shape")
    match descriptor.column (reference.sourceColumns.headD []) with
    | .error _ => .error (failure "container-source-type")
    | .ok source => reject (source.type.scalar != .set) (failure "container-source-type")
  else .ok ()

/-- The digest of the contract and, where there is a contract, the one of the descriptor. -/
def RelationDescriptor.validateContract (descriptor : RelationDescriptor) : Result Unit := do
  reject (descriptor.contractCanonical.isEmpty != descriptor.contractDigest.isEmpty)
    (relationError "sdk.descriptor-digest-mismatch" "contract_digest")
  if descriptor.contractCanonical.isEmpty = false then do
    reject (descriptor.contractDigest != contentDigest hash descriptor.contractCanonical)
      (relationError "sdk.descriptor-digest-mismatch" "contract_digest")
    reject (!descriptor.bound hash)
      (relationError "sdk.descriptor-digest-mismatch" "descriptor_digest")
  else .ok ()

/-- `relation_descriptor::validate` -/
def RelationDescriptor.validate (descriptor : RelationDescriptor) : Result Unit := do
  let failure (field detail : Bytes) := relationError "sdk.relation-invalid" field detail
  reject (!descriptor.merge.isValid) (failure "merge" "closed-enum")
  firstError (fun value : ColumnDescriptor =>
    reject (!value.type.scalar.isValid || !value.role.isValid)
      (relationError "sdk.column-invalid" value.id "closed-enum")) descriptor.columns
  firstError (fun reference : RelationReferenceDescriptor => reject (!reference.strength.isValid)
    (relationError "sdk.reference-invalid" descriptor.name "closed-enum")) descriptor.references
  descriptor.validateContract hash
  reject (!relationName descriptor.name) (failure "name" "relation-name-pattern")
  reject (descriptor.semanticMajor == 0) (failure "semantic_major" "minimum-1")
  reject (descriptor.id != descriptor.name ++ ascii ".v" ++
      CanonicalValue.decimal descriptor.semanticMajor.toNat) (failure "id" "semantic-major")
  reject (descriptor.version.major != descriptor.semanticMajor) (failure "version" "major")
  reject descriptor.columns.isEmpty (failure "columns" "empty")
  reject (!semanticsId descriptor.semantics) (failure "semantics" "semantics-pattern")
  reject (!stableId descriptor.ownerNamespace) (failure "owner_namespace" "namespace-pattern")
  reject (descriptor.keyColumns.isEmpty || !uniqueStrings descriptor.keyColumns)
    (failure "key_columns" "unique-nonempty")
  descriptor.validateDomainIdentity
  firstError descriptor.validateColumn descriptor.columns
  reject (!uniqueStrings (descriptor.columns.map ColumnDescriptor.id) ||
      !uniqueStrings (descriptor.columns.map ColumnDescriptor.name))
    (relationError "sdk.duplicate-column" "columns")
  descriptor.validateRoles
  firstError descriptor.validateReference descriptor.references
  if descriptor.contractCanonical.isEmpty = true then
    reject (!descriptor.bound hash)
      (relationError "sdk.descriptor-digest-mismatch" "descriptor_digest")
  else .ok ()

end Validate

end Cxxlens.Sdk
