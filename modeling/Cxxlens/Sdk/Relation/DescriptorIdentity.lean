import Cxxlens.Sdk.Claim.Identity
import Cxxlens.Sdk.Relation.CanonicalForm

set_option autoImplicit false

/-! # Descriptors and their canonical forms

Which descriptors share a canonical form. A form leaves out the order of the columns, the conflict
columns and the references, and it is meant to leave out nothing else; but the type of a column that is
not valid UTF-8 is printed as an empty string, and the element type of a set may be such a type. -/

namespace Cxxlens.Sdk

open Sorting Fallible Json

/-- Descriptors that differ in the order of their columns, conflict columns and references only. -/
structure RelationDescriptor.SameUpToOrder (a b : RelationDescriptor) : Prop where
  id : a.id = b.id
  name : a.name = b.name
  ownerNamespace : a.ownerNamespace = b.ownerNamespace
  semantics : a.semantics = b.semantics
  version : a.version = b.version
  merge : a.merge = b.merge
  keyColumns : a.keyColumns = b.keyColumns
  domainIdentity : a.domainIdentity = b.domainIdentity
  columns : a.columns.Perm b.columns
  conflictColumns : a.conflictColumns.Perm b.conflictColumns
  references : a.references.Perm b.references

/-! ## Identifiers are ASCII -/

theorem stableId_ascii {value : Bytes} (h : stableId value = true) :
    ∀ byte ∈ value, byte.toNat < 0x80 := by
  rcases value with _ | ⟨first, rest⟩
  · cases h
  · rw [stableId, Bool.and_eq_true, List.all_eq_true] at h
    rw [List.forall_mem_cons]
    refine ⟨isSymbolByte_ascii ?_, fun byte hbyte => isSymbolByte_ascii (h.2 byte hbyte)⟩
    rw [isSymbolByte, h.1]
    rfl

theorem stableId_of_lowerIdentifier {value : Bytes} (h : lowerIdentifier value = true) :
    stableId value = true := by
  rcases value with _ | ⟨first, rest⟩
  · cases h
  · rw [lowerIdentifier, Bool.and_eq_true, List.all_eq_true] at h
    rw [stableId, Bool.and_eq_true, List.all_eq_true]
    refine ⟨h.1, fun byte hbyte => ?_⟩
    have hsymbol := h.2 byte hbyte
    simp only [Bool.or_eq_true] at hsymbol
    rcases hsymbol with (hlower | hdecimal) | hunderscore
    · simp [isSymbolByte, hlower]
    · simp [isSymbolByte, hdecimal]
    · simp [isSymbolByte, hunderscore]

/-- Texts between separators are ASCII where the separator and each of them is. -/
theorem ascii_of_splitOn {value : Bytes} {separator : UInt8} (hseparator : separator.toNat < 0x80)
    (h : ∀ segment ∈ value.splitOn separator, ∀ byte ∈ segment, byte.toNat < 0x80) :
    ∀ byte ∈ value, byte.toNat < 0x80 := by
  intro byte hbyte
  have hjoin : List.intercalate [separator] (value.splitOn separator) = value :=
    List.intercalate_splitOn separator
  rcases hsegments : value.splitOn separator with _ | ⟨first, rest⟩
  · rw [hsegments] at hjoin
    rw [← hjoin] at hbyte
    exact absurd hbyte (by simp)
  · rw [hsegments, Delimited.intercalate_cons] at hjoin
    rw [← hjoin, List.mem_append, List.mem_flatMap] at hbyte
    rw [hsegments, List.forall_mem_cons] at h
    rcases hbyte with hfirst | ⟨segment, hsegment, hbyte⟩
    · exact h.1 byte hfirst
    · rcases List.mem_cons.1 hbyte with rfl | hbyte
      · exact hseparator
      · exact h.2 segment hsegment byte hbyte

theorem relationName_ascii {value : Bytes} (h : relationName value = true) :
    ∀ byte ∈ value, byte.toNat < 0x80 := by
  rw [relationName, Bool.and_eq_true, List.all_eq_true] at h
  refine @ascii_of_splitOn value 0x2e (by decide) fun segment hsegment => ?_
  exact stableId_ascii (stableId_of_lowerIdentifier (h.1 segment hsegment))

theorem semanticsId_ascii {value : Bytes} (h : semanticsId value = true) :
    ∀ byte ∈ value, byte.toNat < 0x80 := by
  refine @ascii_of_splitOn value 0x2f (by decide) fun segment hsegment => ?_
  rw [semanticsId] at h
  split at h
  · rename_i name version hsplit
    simp only [Bool.and_eq_true, List.all_eq_true] at h
    rw [hsplit] at hsegment
    rcases List.mem_cons.1 hsegment with rfl | hsegment
    · exact stableId_ascii h.1.2
    · obtain rfl := List.mem_singleton.1 hsegment
      intro byte hbyte
      refine isSymbolByte_ascii ?_
      simp [isSymbolByte, h.2 byte hbyte]
  · cases h

/-! ## What validation checks -/

section Checks

variable {hash : Bytes → Bytes} {descriptor : RelationDescriptor}

/-- The checks of `validate` one by one. -/
structure RelationDescriptor.Checks (hash : Bytes → Bytes) (descriptor : RelationDescriptor) :
    Prop where
  merge : descriptor.merge.isValid = true
  enumerations : ∀ value ∈ descriptor.columns,
    value.type.scalar.isValid = true ∧ value.role.isValid = true
  strengths : ∀ reference ∈ descriptor.references, reference.strength.isValid = true
  contract : descriptor.validateContract hash = .ok ()
  name : relationName descriptor.name = true
  major : descriptor.semanticMajor ≠ 0
  id : descriptor.id = descriptor.name ++ ascii ".v" ++
    CanonicalValue.decimal descriptor.semanticMajor.toNat
  version : descriptor.version.major = descriptor.semanticMajor
  columns : descriptor.columns ≠ []
  semantics : semanticsId descriptor.semantics = true
  ownerNamespace : stableId descriptor.ownerNamespace = true
  keyColumns : descriptor.keyColumns ≠ [] ∧ uniqueStrings descriptor.keyColumns = true
  domainIdentity : descriptor.validateDomainIdentity = .ok ()
  column : ∀ value ∈ descriptor.columns, descriptor.validateColumn value = .ok ()
  distinct : uniqueStrings (descriptor.columns.map ColumnDescriptor.id) = true ∧
    uniqueStrings (descriptor.columns.map ColumnDescriptor.name) = true
  roles : descriptor.validateRoles = .ok ()
  references : ∀ reference ∈ descriptor.references,
    descriptor.validateReference reference = .ok ()
  bound : descriptor.contractCanonical.isEmpty = true → descriptor.bound hash = true

theorem validate_eq_ok_iff : descriptor.validate hash = .ok () ↔ descriptor.Checks hash := by
  simp only [RelationDescriptor.validate, seq_eq_ok_iff, reject_eq_ok_iff, firstError_eq_ok_iff,
    Bool.not_eq_false', Bool.or_eq_false_iff, bne_eq_false_iff_eq, beq_eq_false_iff_ne,
    List.isEmpty_eq_false_iff, ite_eq_iff', Bool.not_eq_true]
  constructor
  · rintro ⟨hmerge, henumerations, hstrengths, hcontract, hname, hmajor, hid, hversion, hcolumns,
      hsemantics, howner, hkeys, hidentity, hcolumn, hdistinct, hroles, hreferences, hbound⟩
    exact ⟨hmerge, henumerations, hstrengths, hcontract, hname, hmajor, hid, hversion, hcolumns,
      hsemantics, howner, hkeys, hidentity, hcolumn, hdistinct, hroles, hreferences, hbound.1⟩
  · intro h
    exact ⟨h.merge, h.enumerations, h.strengths, h.contract, h.name, h.major, h.id, h.version,
      h.columns, h.semantics, h.ownerNamespace, h.keyColumns, h.domainIdentity, h.column,
      h.distinct, h.roles, h.references, h.bound, fun _ => trivial⟩

theorem validateColumn_eq_ok_iff {value : ColumnDescriptor} :
    descriptor.validateColumn value = .ok () ↔
      (stableId value.id = true ∧ (descriptor.id ++ ascii ".").isPrefixOf value.id = true) ∧
      lowerIdentifier value.name = true ∧ (value.required = true ∨ value.type.optional = true) ∧
      (value.type.parameter ≠ ascii "native_pointer" ∧
        value.type.parameter ≠ ascii "native_address") ∧ validScalarType value.type = true := by
  simp only [RelationDescriptor.validateColumn, seq_eq_ok_iff, reject_eq_ok_iff,
    Bool.or_eq_false_iff, Bool.not_eq_false', Bool.and_eq_false_iff, beq_eq_false_iff_ne, ne_eq]

theorem hasColumn_iff {nameOrId : Bytes} :
    descriptor.hasColumn nameOrId = true ↔
      ∃ value ∈ descriptor.columns, value.name = nameOrId ∨ value.id = nameOrId := by
  simp [RelationDescriptor.hasColumn]

theorem hasColumn_of_column {nameOrId : Bytes} {found : ColumnDescriptor}
    (h : descriptor.column nameOrId = .ok found) : descriptor.hasColumn nameOrId = true := by
  rw [RelationDescriptor.column] at h
  split at h
  · cases h
  · rename_i value hfind
    rw [hasColumn_iff]
    have hmatch := List.find?_some hfind
    rw [Bool.or_eq_true, beq_iff_eq, beq_iff_eq] at hmatch
    exact ⟨value, List.mem_of_find?_eq_some hfind, hmatch⟩

namespace RelationDescriptor.Checks

variable (h : descriptor.Checks hash)
include h

theorem id_validUtf8 {value : ColumnDescriptor} (hvalue : value ∈ descriptor.columns) :
    validUtf8 value.id = true :=
  validUtf8_of_ascii (stableId_ascii (validateColumn_eq_ok_iff.1 (h.column value hvalue)).1.1)

theorem name_validUtf8 {value : ColumnDescriptor} (hvalue : value ∈ descriptor.columns) :
    validUtf8 value.name = true :=
  validUtf8_of_ascii (stableId_ascii (stableId_of_lowerIdentifier
    (validateColumn_eq_ok_iff.1 (h.column value hvalue)).2.1))

theorem hasColumn_validUtf8 {nameOrId : Bytes} (hcolumn : descriptor.hasColumn nameOrId = true) :
    validUtf8 nameOrId = true := by
  obtain ⟨value, hvalue, rfl | rfl⟩ := hasColumn_iff.1 hcolumn
  · exact h.name_validUtf8 hvalue
  · exact h.id_validUtf8 hvalue

theorem keyColumns_validUtf8 : ∀ key ∈ descriptor.keyColumns, validUtf8 key = true := by
  intro key hkey
  have hroles := h.roles
  simp only [RelationDescriptor.validateRoles, seq_eq_ok_iff, firstError_eq_ok_iff,
    reject_eq_ok_iff, Bool.not_eq_false'] at hroles
  exact validUtf8_of_ascii (stableId_ascii (hroles.1 key hkey).1)

theorem conflictColumns_validUtf8 :
    ∀ conflict ∈ descriptor.conflictColumns, validUtf8 conflict = true := by
  intro conflict hconflict
  have hroles := h.roles
  simp only [RelationDescriptor.validateRoles, seq_eq_ok_iff, firstError_eq_ok_iff,
    reject_eq_ok_iff, Bool.or_eq_false_iff, Bool.not_eq_false'] at hroles
  exact validUtf8_of_ascii (stableId_ascii (hroles.2.2.2.1 conflict hconflict).1)

/-- The strings of a reference. -/
theorem reference_validUtf8 {reference : RelationReferenceDescriptor}
    (hreference : reference ∈ descriptor.references) :
    (∀ column ∈ reference.sourceColumns, validUtf8 column = true) ∧
      validUtf8 reference.targetRelation = true ∧
      ∀ column ∈ reference.targetColumns, validUtf8 column = true := by
  have hchecked := h.references reference hreference
  simp only [RelationDescriptor.validateReference, seq_eq_ok_iff, firstError_eq_ok_iff,
    reject_eq_ok_iff, Bool.or_eq_false_iff, Bool.not_eq_false', List.any_eq_false] at hchecked
  obtain ⟨⟨-, hrelation⟩, -, -, hsource, htarget, -⟩ := hchecked
  refine ⟨fun column hcolumn => ?_, validUtf8_of_ascii (relationName_ascii hrelation),
    fun column hcolumn => ?_⟩
  · exact validUtf8_of_ascii (stableId_ascii (hsource column hcolumn).1)
  · exact validUtf8_of_ascii (stableId_ascii (by simpa using htarget column hcolumn))

theorem id_of_descriptor_validUtf8 : validUtf8 descriptor.id = true := by
  rw [h.id]
  refine validUtf8_of_ascii fun byte hbyte => ?_
  rw [List.mem_append, List.mem_append] at hbyte
  rcases hbyte with (hname | hmarker) | hnumber
  · exact relationName_ascii h.name byte hname
  · exact ascii_lt (by simp) byte hmarker
  · exact lt_of_le_of_lt (isDigit_decimal hnumber).2 (by decide)

/-- The strings of the domain identity. -/
theorem domainIdentity_validUtf8 :
    validUtf8 descriptor.domainIdentity.contract = true ∧
      (∀ projection ∈ descriptor.domainIdentity.projection, validUtf8 projection = true) ∧
      ∀ name, descriptor.domainIdentity.resultColumn = some name → validUtf8 name = true := by
  have hidentity := h.domainIdentity
  rw [RelationDescriptor.validateDomainIdentity] at hidentity
  by_cases hempty : descriptor.domainIdentity.contract.isEmpty = true
  · -- without a contract there is nothing
    simp only [seq_eq_ok_iff, reject_eq_ok_iff, hempty, Bool.or_eq_false_iff, Bool.true_and,
      bne_eq_false_iff_eq] at hidentity
    obtain ⟨hprojection, hresult⟩ := hidentity.1
    refine ⟨?_, ?_, ?_⟩
    · rw [List.isEmpty_iff.1 hempty]
      rfl
    · rw [List.isEmpty_iff.1 hprojection.symm]
      simp
    · intro name hname
      rw [hname] at hresult
      cases hresult
  · simp only [seq_eq_ok_iff, if_neg hempty, firstError_eq_ok_iff, reject_eq_ok_iff,
      Bool.or_eq_false_iff, bne_eq_false_iff_eq, Bool.not_eq_false'] at hidentity
    obtain ⟨-, ⟨hcontract, -⟩, hprojection, hresult⟩ := hidentity
    refine ⟨?_, fun projection hmem => h.hasColumn_validUtf8 (hprojection projection hmem), ?_⟩
    · rw [hcontract]
      exact validUtf8_literal (by simp)
    · intro name hname
      rw [hname] at hresult
      simp only at hresult
      split at hresult
      · cases hresult
      · rename_i found hfound
        exact h.hasColumn_validUtf8 (hasColumn_of_column hfound)

end RelationDescriptor.Checks

end Checks

/-! ## Equal forms -/

section Forms

variable {hash : Bytes → Bytes} {a b : RelationDescriptor}

/-- A list in order is the list, up to order. -/
theorem perm_of_sortBy_eq {α : Type} {less : α → α → Bool} {left right : List α}
    (h : sortBy less left = sortBy less right) : left.Perm right :=
  (sortBy_perm less left).symm.trans (h ▸ sortBy_perm less right)

/-- A form says all of a descriptor but the order of its parts, where its types are valid. -/
theorem RelationDescriptor.SameText.sameUpToOrder (h : a.SameText b) (ha : a.Checks hash)
    (hb : b.Checks hash)
    (htypes : ∀ value ∈ a.columns, validUtf8 value.type.parameter = true) :
    a.SameUpToOrder b := by
  have hcolumns : a.orderedColumns = b.orderedColumns := by
    refine eq_of_map_eq (fun left hleft right hright heq => ?_) h.columns
    rw [orderedColumns, mem_sortBy] at hleft hright
    have hsame := (ColumnDescriptor.json_split
      (by rw [heq] : left.json ++ ([] : Bytes) = right.json ++ [])).1
    exact hsame.eq ⟨ha.id_validUtf8 hleft, hb.id_validUtf8 hright⟩
      ⟨ha.name_validUtf8 hleft, hb.name_validUtf8 hright⟩
      ⟨(ha.enumerations left hleft).2, (hb.enumerations right hright).2⟩
      ⟨(ha.enumerations left hleft).1, (hb.enumerations right hright).1⟩ (htypes left hleft)
  have hreferences : sortBy referenceLess a.references = sortBy referenceLess b.references := by
    refine eq_of_map_eq (fun left hleft right hright heq => ?_) h.references
    rw [mem_sortBy] at hleft hright
    have hsame := (RelationReferenceDescriptor.json_split
      (by rw [heq] : left.json ++ ([] : Bytes) = right.json ++ [])).1
    obtain ⟨hsource, hrelation, htarget⟩ := ha.reference_validUtf8 hleft
    obtain ⟨hsource', hrelation', htarget'⟩ := hb.reference_validUtf8 hright
    exact hsame.eq ⟨hsource, hsource'⟩ ⟨hrelation, hrelation'⟩ ⟨htarget, htarget'⟩
      ⟨ha.strengths left hleft, hb.strengths right hright⟩
  have hconflict : sortBy bytesLess a.conflictColumns = sortBy bytesLess b.conflictColumns := by
    refine quoted_inj (fun value hvalue => ?_) (fun value hvalue => ?_) h.conflictColumns
    · exact ha.conflictColumns_validUtf8 value ((mem_sortBy _ _ _).1 hvalue)
    · exact hb.conflictColumns_validUtf8 value ((mem_sortBy _ _ _).1 hvalue)
  obtain ⟨hcontract, hprojection, hresult⟩ := ha.domainIdentity_validUtf8
  obtain ⟨hcontract', hprojection', hresult'⟩ := hb.domainIdentity_validUtf8
  have hresultColumn : a.domainIdentity.resultColumn = b.domainIdentity.resultColumn := by
    have htext := h.resultColumn
    rcases hfirst : a.domainIdentity.resultColumn with _ | first <;>
      rcases hsecond : b.domainIdentity.resultColumn with _ | second <;>
      rw [hfirst, hsecond] at htext
    · obtain ⟨text, hquote⟩ := canonicalJsonString_begins second
      rw [resultColumnText, resultColumnText, Option.elim_some, hquote] at htext
      exact absurd (List.cons.inj htext).1 (by decide)
    · obtain ⟨text, hquote⟩ := canonicalJsonString_begins first
      rw [resultColumnText, resultColumnText, Option.elim_some, hquote] at htext
      exact absurd (List.cons.inj htext).1 (by decide)
    · rw [canonicalJsonString_inj (hresult first hfirst) (hresult' second hsecond) htext]
  have hidentity : a.domainIdentity = b.domainIdentity := by
    rcases hfirst : a.domainIdentity with ⟨_, _, _⟩
    rcases hsecond : b.domainIdentity with ⟨_, _, _⟩
    have hprojections := quoted_inj hprojection hprojection' h.projection
    have hcontracts := canonicalJsonString_inj hcontract hcontract' h.contract
    rw [hfirst, hsecond] at hresultColumn hprojections hcontracts
    rw [DomainIdentityDescriptor.mk.injEq]
    exact ⟨hresultColumn, hprojections, hcontracts⟩
  exact {
    id := canonicalJsonString_inj ha.id_of_descriptor_validUtf8 hb.id_of_descriptor_validUtf8 h.id
    name := canonicalJsonString_inj (validUtf8_of_ascii (relationName_ascii ha.name))
      (validUtf8_of_ascii (relationName_ascii hb.name)) h.name
    ownerNamespace := canonicalJsonString_inj
      (validUtf8_of_ascii (stableId_ascii ha.ownerNamespace))
      (validUtf8_of_ascii (stableId_ascii hb.ownerNamespace)) h.ownerNamespace
    semantics := canonicalJsonString_inj (validUtf8_of_ascii (semanticsId_ascii ha.semantics))
      (validUtf8_of_ascii (semanticsId_ascii hb.semantics)) h.semantics
    version := h.version
    merge := mergeName_injOn ha.merge hb.merge h.merge
    keyColumns := quoted_inj ha.keyColumns_validUtf8 hb.keyColumns_validUtf8 h.keyColumns
    domainIdentity := hidentity
    columns := perm_of_sortBy_eq hcolumns
    conflictColumns := perm_of_sortBy_eq hconflict
    references := perm_of_sortBy_eq hreferences }

/-- The key `reference_less` compares. -/
def referenceKey (reference : RelationReferenceDescriptor) :
    List Bytes ×ₗ Nat ×ₗ Bytes ×ₗ List Bytes ×ₗ Bool :=
  toLex (reference.sourceColumns, toLex (reference.strength.code, toLex (reference.targetRelation,
    toLex (reference.targetColumns, reference.containerElements))))

theorem referenceLess_compares : Compares referenceLess referenceKey := by
  intro a b
  rw [referenceLess, decide_eq_true_iff]
  rfl

theorem referenceKey_injOn {left right : RelationReferenceDescriptor}
    (hleft : left.strength.isValid = true) (hright : right.strength.isValid = true)
    (h : referenceKey left = referenceKey right) : left = right := by
  have hcode : ∀ a b : ReferenceStrength, a.isValid = true → b.isValid = true →
      a.code = b.code → a = b := by
    intro a b ha hb hab
    cases a with
    | unnamed value => cases ha
    | hard => cases b with
      | unnamed value => cases hb
      | hard => rfl
      | softSemantic => cases hab
    | softSemantic => cases b with
      | unnamed value => cases hb
      | hard => cases hab
      | softSemantic => rfl
  rcases left with ⟨_, _, _, _, _⟩
  rcases right with ⟨_, _, _, _, _⟩
  simp only [referenceKey, EmbeddingLike.apply_eq_iff_eq, Prod.mk.injEq] at h
  obtain ⟨hsource, hstrength, hrelation, htarget, hcontainer⟩ := h
  rw [RelationReferenceDescriptor.mk.injEq]
  exact ⟨hsource, hrelation, htarget, hcode _ _ hleft hright hstrength, hcontainer⟩

/-- A form does not depend on the order of the parts. -/
theorem RelationDescriptor.SameUpToOrder.sameText (h : a.SameUpToOrder b) (ha : a.Checks hash)
    (hb : b.Checks hash) : a.SameText b := by
  have hcolumnsCompare : Compares (fun a b : ColumnDescriptor => bytesLess a.id b.id)
      ColumnDescriptor.id := fun a b => bytesLess_compares a.id b.id
  have hdistinct : (a.columns.map ColumnDescriptor.id).Nodup := of_decide_eq_true ha.distinct.1
  have hcolumns : a.orderedColumns = b.orderedColumns :=
    sortBy_eq_of_perm hcolumnsCompare h.columns
      fun _ hleft _ hright => List.inj_on_of_nodup_map hdistinct hleft hright
  have hreferences : sortBy referenceLess a.references = sortBy referenceLess b.references :=
    sortBy_eq_of_perm referenceLess_compares h.references fun left hleft right hright =>
      referenceKey_injOn (ha.strengths left hleft) (ha.strengths right hright)
  have hconflict : sortBy bytesLess a.conflictColumns = sortBy bytesLess b.conflictColumns :=
    sortBy_eq_of_perm bytesLess_compares h.conflictColumns fun _ _ _ _ heq => heq
  have hmajor : a.semanticMajor = b.semanticMajor := by
    rw [← ha.version, ← hb.version, h.version]
  exact {
    columns := by rw [hcolumns]
    conflictColumns := by rw [hconflict]
    contract := by rw [h.domainIdentity]
    projection := by rw [h.domainIdentity]
    resultColumn := by rw [h.domainIdentity]
    id := by rw [h.id]
    keyColumns := by rw [h.keyColumns]
    merge := by rw [h.merge]
    name := by rw [h.name]
    ownerNamespace := by rw [h.ownerNamespace]
    references := by rw [hreferences]
    semanticMajor := hmajor
    semantics := by rw [h.semantics]
    version := h.version }

end Forms

/-! ## Types that are not valid UTF-8 -/

theorem symbolParameter_ascii {marker type contract : Bytes}
    (hmarker : ∀ byte ∈ marker, byte.toNat < 0x80) (h : symbolParameter marker type = some contract)
    (hcontract : ∀ byte ∈ contract, byte.toNat < 0x80) : ∀ byte ∈ type, byte.toNat < 0x80 := by
  rw [symbolParameter] at h
  split_ifs at h with hshape
  obtain ⟨rest, rfl⟩ := List.isPrefixOf_iff_prefix.1 hshape.1
  rw [List.drop_left] at h
  obtain rfl := Option.some.inj h
  intro byte hbyte
  rcases List.mem_append.1 hbyte with hfront | hrest
  · exact hmarker byte hfront
  · have hne : rest ≠ [] := List.ne_nil_of_mem hrest
    rw [← List.dropLast_append_getLast hne, List.mem_append, List.mem_singleton] at hrest
    rcases hrest with hinside | rfl
    · exact hcontract byte hinside
    · have hlast := hshape.2
      rw [List.getLast?_append_of_ne_nil _ hne, List.getLast?_eq_getLast_of_ne_nil hne,
        Option.some.injEq] at hlast
      rw [hlast]
      decide

/-- Only the elements of a set can have a type that is not valid UTF-8. -/
theorem set_of_not_validUtf8 {type : ValueType} (hvalid : validScalarType type = true)
    (h : validUtf8 type.parameter = false) :
    type.scalar = .set ∧ ascii "_id" <:+ type.parameter := by
  have hascii : ¬ ∀ byte ∈ type.parameter, byte.toNat < 0x80 := by
    intro hall
    rw [validUtf8_of_ascii hall] at h
    cases h
  have hplain : type.parameter.isEmpty = true → False := by
    intro hempty
    exact hascii (by rw [List.isEmpty_iff.1 hempty]; simp)
  rw [validScalarType] at hvalid
  cases hscalar : type.scalar <;> rw [hscalar] at hvalid
  case set =>
    refine ⟨rfl, ?_⟩
    dsimp only at hvalid
    rw [supportedSetElementType] at hvalid
    split_ifs at hvalid with helement
    · rcases helement with hdigest | hdigest | hidentity
      · exact absurd (hdigest ▸ ascii_lt (by simp)) hascii
      · exact absurd (hdigest ▸ ascii_lt (by simp)) hascii
      · rw [identityElement, Bool.or_eq_true, List.contains_iff_mem] at hidentity
        rcases hidentity with hnamed | hsuffix
        · refine absurd ?_ hascii
          simp only [List.mem_cons, List.not_mem_nil, or_false] at hnamed
          rcases hnamed with hname | hname | hname | hname <;> rw [hname] <;>
            exact ascii_lt (by simp)
        · exact List.isSuffixOf_iff_suffix.1 hsuffix
    · refine absurd ?_ hascii
      rcases hopen : symbolParameter "open_symbol<" type.parameter with _ | contract
      · simp only [hopen] at hvalid
        rcases hclosed : symbolParameter "closed_symbol<" type.parameter with _ | contract
        · simp [hclosed] at hvalid
        · simp only [hclosed, Bool.and_eq_true] at hvalid
          exact symbolParameter_ascii (ascii_lt (by simp)) hclosed (semanticsId_ascii hvalid.1)
      · simp only [hopen] at hvalid
        exact symbolParameter_ascii (ascii_lt (by simp)) hopen (semanticsId_ascii hvalid)
  case typedId =>
    dsimp only at hvalid
    rw [typedIdentityParameter, Bool.and_eq_true] at hvalid
    exact absurd (stableId_ascii (stableId_of_lowerIdentifier hvalid.1)) hascii
  case openSymbol => exact absurd (semanticsId_ascii hvalid) hascii
  case closedSymbol =>
    dsimp only at hvalid
    rw [Bool.and_eq_true] at hvalid
    exact absurd (semanticsId_ascii hvalid.1) hascii
  case unnamed => cases hvalid
  all_goals exact (hplain hvalid).elim

/-- The column with another type, where its own is not valid UTF-8. -/
def ColumnDescriptor.blurred (value : ColumnDescriptor) : ColumnDescriptor :=
  if validUtf8 value.type.parameter = true then value
  else { value with type := { value.type with parameter := 0xff :: value.type.parameter } }

/-- The descriptor with other types for those that are not valid UTF-8. -/
def RelationDescriptor.blurred (descriptor : RelationDescriptor) : RelationDescriptor :=
  { descriptor with columns := descriptor.columns.map ColumnDescriptor.blurred }

section Blurred

variable (value : ColumnDescriptor)

@[simp] theorem blurred_id : value.blurred.id = value.id := by
  unfold ColumnDescriptor.blurred
  split_ifs <;> rfl

@[simp] theorem blurred_name : value.blurred.name = value.name := by
  unfold ColumnDescriptor.blurred
  split_ifs <;> rfl

@[simp] theorem blurred_required : value.blurred.required = value.required := by
  unfold ColumnDescriptor.blurred
  split_ifs <;> rfl

@[simp] theorem blurred_role : value.blurred.role = value.role := by
  unfold ColumnDescriptor.blurred
  split_ifs <;> rfl

@[simp] theorem blurred_scalar : value.blurred.type.scalar = value.type.scalar := by
  unfold ColumnDescriptor.blurred
  split_ifs <;> rfl

@[simp] theorem blurred_optional : value.blurred.type.optional = value.type.optional := by
  unfold ColumnDescriptor.blurred
  split_ifs <;> rfl

end Blurred

theorem blurred_of_valid {value : ColumnDescriptor}
    (h : validUtf8 value.type.parameter = true) : value.blurred = value :=
  if_pos h

theorem blurred_parameter_of_invalid {value : ColumnDescriptor}
    (h : validUtf8 value.type.parameter = false) :
    value.blurred.type.parameter = 0xff :: value.type.parameter := by
  rw [ColumnDescriptor.blurred, if_neg (by simp [h])]

theorem validUtf8_ff (bytes : Bytes) : validUtf8 (0xff :: bytes) = false := by
  rw [validUtf8, invalidUtf8Offset]
  unfold invalidUtf8From
  rfl

/-- The text of a column does not tell the two types apart. -/
theorem blurred_json {value : ColumnDescriptor} (hscalar : value.type.scalar.isValid = true) :
    value.blurred.json = value.json := by
  rcases hvalid : validUtf8 value.type.parameter
  · have hname : validUtf8 value.type.canonicalName = false :=
      (validUtf8_canonicalName hscalar).trans hvalid
    have hblurred : validUtf8 value.blurred.type.canonicalName = false := by
      rw [validUtf8_canonicalName (by rwa [blurred_scalar]), blurred_parameter_of_invalid hvalid,
        validUtf8_ff]
    refine ColumnDescriptor.SameText.json ⟨?_, ?_, ?_, ?_, ?_⟩
    · rw [blurred_id]
    · rw [blurred_name]
    · rw [blurred_required]
    · rw [canonicalJsonString_eq_iff, printable, printable, if_pos hname, if_pos hblurred]
    · rw [blurred_role]
  · rw [blurred_of_valid hvalid]

section Invisible

variable {hash : Bytes → Bytes} {descriptor : RelationDescriptor}

theorem canonicalForm_blurred (h : descriptor.Checks hash) :
    descriptor.blurred.canonicalForm = descriptor.canonicalForm := by
  have hordered : descriptor.blurred.orderedColumns =
      descriptor.orderedColumns.map ColumnDescriptor.blurred :=
    (map_sortBy _ (fun a b => by rw [blurred_id, blurred_id]) _).symm
  refine canonicalForm_eq_iff.2 ⟨?_, rfl, rfl, rfl, rfl, rfl, rfl, rfl, rfl, rfl, rfl, rfl, rfl, rfl⟩
  rw [hordered, List.map_map]
  refine List.map_congr_left fun value hvalue => ?_
  exact blurred_json (h.enumerations value ((mem_sortBy _ _ _).1 hvalue)).1

theorem column_blurred (nameOrId : Bytes) :
    descriptor.blurred.column nameOrId =
      (descriptor.column nameOrId).map ColumnDescriptor.blurred := by
  have hfind : descriptor.blurred.columns.find?
      (fun value => value.name == nameOrId || value.id == nameOrId) =
      (descriptor.columns.find? fun value => value.name == nameOrId || value.id == nameOrId).map
        ColumnDescriptor.blurred := by
    rw [RelationDescriptor.blurred, List.find?_map]
    congr 2
    funext value
    simp
  rw [RelationDescriptor.column, hfind, RelationDescriptor.column]
  rcases hfound : descriptor.columns.find?
      fun value => value.name == nameOrId || value.id == nameOrId with _ | found
  · rw [hfound]
    rfl
  · rw [hfound]
    rfl

theorem hasColumn_blurred (nameOrId : Bytes) :
    descriptor.blurred.hasColumn nameOrId = descriptor.hasColumn nameOrId := by
  simp [RelationDescriptor.hasColumn, RelationDescriptor.blurred, Function.comp_def]

theorem columnsOf_blurred (role : ColumnRole) :
    descriptor.blurred.columnsOf role = descriptor.columnsOf role := by
  simp [RelationDescriptor.columnsOf, RelationDescriptor.blurred, List.filter_map,
    Function.comp_def]

theorem validateColumn_blurred {value : ColumnDescriptor}
    (h : descriptor.validateColumn value = .ok ()) :
    descriptor.blurred.validateColumn value.blurred = .ok () := by
  rw [validateColumn_eq_ok_iff] at h ⊢
  rcases hvalid : validUtf8 value.type.parameter
  · obtain ⟨hset, hsuffix⟩ := set_of_not_validUtf8 h.2.2.2.2 hvalid
    rw [blurred_id, blurred_name, blurred_required, blurred_optional,
      blurred_parameter_of_invalid hvalid]
    refine ⟨h.1, h.2.1, h.2.2.1, ⟨?_, ?_⟩, ?_⟩
    · exact fun heq => absurd (List.cons.inj heq).1 (by decide)
    · exact fun heq => absurd (List.cons.inj heq).1 (by decide)
    · have hsuffix' : (ascii "_id").isSuffixOf (0xff :: value.type.parameter) = true :=
        List.isSuffixOf_iff_suffix.2 (hsuffix.trans (List.suffix_cons _ _))
      rw [validScalarType, blurred_scalar, hset, blurred_parameter_of_invalid hvalid]
      dsimp only
      rw [supportedSetElementType, if_pos]
      refine .inr (.inr ?_)
      rw [identityElement, hsuffix', Bool.or_true]
  · rw [blurred_of_valid hvalid]
    exact h

/-- Whether there is a kind does not depend on types that are not valid UTF-8. -/
theorem identityKind_blurred (h : descriptor.Checks hash) :
    (identityKind descriptor.blurred).isOk = (identityKind descriptor).isOk := by
  have hname : descriptor.blurred.domainIdentity = descriptor.domainIdentity := rfl
  rw [identityKind, identityKind, hname]
  rcases descriptor.domainIdentity.resultColumn with _ | name
  · rfl
  · simp only [column_blurred]
    rcases hfound : descriptor.column name with error | found
    · rfl
    · have hmem : found ∈ descriptor.columns := by
        rw [RelationDescriptor.column] at hfound
        split at hfound
        · cases hfound
        · rename_i value hfind
          obtain rfl := Except.ok.inj hfound
          exact List.mem_of_find?_eq_some hfind
      rcases hvalid : validUtf8 found.type.parameter
      · -- it is a set on both sides
        have hset := (set_of_not_validUtf8
          (validateColumn_eq_ok_iff.1 (h.column found hmem)).2.2.2.2 hvalid).1
        simp [Except.map, hset]
      · simp [Except.map, blurred_of_valid hvalid]

theorem validateDomainIdentity_blurred (h : descriptor.Checks hash) :
    descriptor.blurred.validateDomainIdentity = .ok () := by
  have hidentity := h.domainIdentity
  rw [RelationDescriptor.validateDomainIdentity] at hidentity ⊢
  have hsame : descriptor.blurred.domainIdentity = descriptor.domainIdentity := rfl
  have hid : descriptor.blurred.id = descriptor.id := rfl
  simp only [hsame, hid, hasColumn_blurred, column_blurred, identityKind_blurred h]
  rcases hresult : descriptor.domainIdentity.resultColumn with _ | name
  · simp only [hresult] at hidentity
    exact hidentity
  · simp only [hresult] at hidentity
    rcases hfound : descriptor.column name with error | found
    · simp only [hfound, Except.map] at hidentity ⊢
      exact hidentity
    · simp only [hfound, Except.map, blurred_role] at hidentity ⊢
      exact hidentity

theorem validateRoles_blurred (h : descriptor.Checks hash) :
    descriptor.blurred.validateRoles = .ok () := by
  have hroles := h.roles
  rw [RelationDescriptor.validateRoles] at hroles ⊢
  have hkeys : descriptor.blurred.keyColumns = descriptor.keyColumns := rfl
  have hconflict : descriptor.blurred.conflictColumns = descriptor.conflictColumns := rfl
  have hmerge : descriptor.blurred.merge = descriptor.merge := rfl
  simp only [hkeys, hconflict, hmerge, columnsOf_blurred, hasColumn_blurred, column_blurred,
    seq_eq_ok_iff, firstError_eq_ok_iff] at hroles ⊢
  refine ⟨fun key hkey => ⟨(hroles.1 key hkey).1, ?_⟩, hroles.2⟩
  have hrole := (hroles.1 key hkey).2
  rcases hfound : descriptor.column key with error | found
  · simp only [hfound, Except.map] at hrole ⊢
    exact hrole
  · simp only [hfound, Except.map, blurred_role] at hrole ⊢
    exact hrole

theorem validateReference_blurred {reference : RelationReferenceDescriptor}
    (h : descriptor.validateReference reference = .ok ()) :
    descriptor.blurred.validateReference reference = .ok () := by
  rw [RelationDescriptor.validateReference] at h ⊢
  have hname : descriptor.blurred.name = descriptor.name := rfl
  simp only [hname, hasColumn_blurred, column_blurred]
  rcases hfound : descriptor.column (reference.sourceColumns.headD []) with error | found
  · simp only [hfound] at h
    exact h
  · simp only [hfound, Except.map, blurred_scalar] at h ⊢
    exact h

theorem bound_blurred (h : descriptor.Checks hash) :
    descriptor.blurred.bound hash = descriptor.bound hash := by
  have hcontract : descriptor.blurred.contractDigest = descriptor.contractDigest := rfl
  have hdigest : descriptor.blurred.descriptorDigest = descriptor.descriptorDigest := rfl
  have hbinding : descriptorBinding hash descriptor.blurred = descriptorBinding hash descriptor := by
    rw [descriptorBinding, canonicalForm_blurred h, hcontract, descriptorBinding]
  rw [RelationDescriptor.bound, hbinding, hdigest, RelationDescriptor.bound]

theorem validateContract_blurred (h : descriptor.Checks hash) :
    descriptor.blurred.validateContract hash = .ok () := by
  have hcanonical : descriptor.blurred.contractCanonical = descriptor.contractCanonical := rfl
  have hdigest : descriptor.blurred.contractDigest = descriptor.contractDigest := rfl
  rw [RelationDescriptor.validateContract, bound_blurred h, hcanonical, hdigest,
    ← RelationDescriptor.validateContract]
  exact h.contract

/-- A valid descriptor stays valid. -/
theorem checks_blurred (h : descriptor.Checks hash) : descriptor.blurred.Checks hash := by
  have hids : descriptor.blurred.columns.map ColumnDescriptor.id =
      descriptor.columns.map ColumnDescriptor.id := by
    simp [RelationDescriptor.blurred, Function.comp_def]
  have hnames : descriptor.blurred.columns.map ColumnDescriptor.name =
      descriptor.columns.map ColumnDescriptor.name := by
    simp [RelationDescriptor.blurred, Function.comp_def]
  exact {
    merge := h.merge
    enumerations := by
      intro value hvalue
      obtain ⟨original, horiginal, rfl⟩ := List.mem_map.1 hvalue
      rw [blurred_scalar, blurred_role]
      exact h.enumerations original horiginal
    strengths := h.strengths
    contract := validateContract_blurred h
    name := h.name
    major := h.major
    id := h.id
    version := h.version
    columns := fun hempty => h.columns (List.map_eq_nil_iff.1 hempty)
    semantics := h.semantics
    ownerNamespace := h.ownerNamespace
    keyColumns := h.keyColumns
    domainIdentity := validateDomainIdentity_blurred h
    column := by
      intro value hvalue
      obtain ⟨original, horiginal, rfl⟩ := List.mem_map.1 hvalue
      exact validateColumn_blurred (h.column original horiginal)
    distinct := by
      rw [hids, hnames]
      exact h.distinct
    roles := validateRoles_blurred h
    references := fun reference hreference =>
      validateReference_blurred (h.references reference hreference)
    bound := fun hempty => (bound_blurred h).trans (h.bound hempty) }

/-- It is another descriptor, where some type is not valid UTF-8. -/
theorem not_sameUpToOrder_blurred (h : descriptor.Checks hash) {value : ColumnDescriptor}
    (hvalue : value ∈ descriptor.columns) (hinvalid : validUtf8 value.type.parameter = false) :
    ¬ descriptor.SameUpToOrder descriptor.blurred := by
  intro hsame
  have hdistinct : (descriptor.columns.map ColumnDescriptor.id).Nodup :=
    of_decide_eq_true h.distinct.1
  obtain ⟨original, horiginal, heq⟩ := List.mem_map.1 (hsame.columns.mem_iff.1 hvalue)
  have hid : original.id = value.id := by rw [← heq, blurred_id]
  obtain rfl := List.inj_on_of_nodup_map hdistinct horiginal hvalue hid
  have hparameter := congrArg (fun column : ColumnDescriptor => column.type.parameter.length) heq
  simp only [blurred_parameter_of_invalid hinvalid, List.length_cons] at hparameter
  omega

end Invisible

/-! ## Which descriptors a form identifies -/

section Identified

variable {hash : Bytes → Bytes} {a b : RelationDescriptor}

/-- What `descriptor_binding` hashes. -/
def bindingInputs (descriptor : RelationDescriptor) : Set Bytes :=
  { input | CanonicalValue.canonicalBinary (semanticFrame "cxxlens.relation-descriptor-binding.v2"
    (descriptor.contractDigest ++ ascii "\n" ++ descriptor.canonicalForm)) = .ok input }

theorem RelationDescriptor.Checks.digest (h : a.Checks hash) :
    ∃ input ∈ bindingInputs a,
      a.descriptorDigest = ascii "semantic-v2:sha256:" ++ hex (hash input) := by
  have hbound : a.bound hash = true := by
    rcases hcontract : a.contractCanonical.isEmpty
    · have hvalid := h.contract
      simp only [RelationDescriptor.validateContract, hcontract, seq_eq_ok_iff, if_true,
        reject_eq_ok_iff, Bool.not_eq_false'] at hvalid
      exact hvalid.2.2
    · exact h.bound hcontract
  rw [RelationDescriptor.bound] at hbound
  rcases hbinding : descriptorBinding hash a with error | expected
  · rw [hbinding] at hbound
    cases hbound
  · simp only [hbinding, beq_iff_eq] at hbound
    rw [descriptorBinding, semanticDigest, guard_eq_ok_iff, bind_eq_ok_iff] at hbinding
    obtain ⟨-, input, hinput, hexpected⟩ := hbinding
    exact ⟨input, hinput, hbound.trans (Except.ok.inj hexpected).symm⟩

/-- Equal digests over equal contracts are digests of equal forms. -/
theorem canonicalForm_eq_of_digest (ha : a.Checks hash) (hb : b.Checks hash)
    (hinj : Set.InjOn hash (bindingInputs a ∪ bindingInputs b))
    (hcontract : a.contractDigest = b.contractDigest)
    (hdigest : a.descriptorDigest = b.descriptorDigest) : a.canonicalForm = b.canonicalForm := by
  obtain ⟨input, hinput, heq⟩ := ha.digest
  obtain ⟨input', hinput', heq'⟩ := hb.digest
  rw [heq, heq'] at hdigest
  have hhash := hex_injective (List.append_cancel_left hdigest)
  have hsame := hinj (.inl hinput) (.inr hinput') hhash
  subst hsame
  have hdecoded := CanonicalValue.decode_of_canonicalBinary hinput
  rw [CanonicalValue.decode_of_canonicalBinary hinput', Except.ok.injEq] at hdecoded
  have htuple := congrArg CanonicalValue.tuple hdecoded
  simp only [semanticFrame, CanonicalValue.fromTuple, List.cons.injEq] at htuple
  have hbytes := congrArg CanonicalValue.byteString htuple.2.2.1
  simp only [CanonicalValue.fromBytes, hcontract, List.append_assoc] at hbytes
  exact (List.append_cancel_left (List.append_cancel_left hbytes)).symm

/-- The canonical form and the digest of a descriptor are those of no other descriptor. -/
structure RelationDescriptor.Identified (hash : Bytes → Bytes) (a : RelationDescriptor) : Prop where
  form : ∀ b : RelationDescriptor, b.validate hash = .ok () →
    (a.canonicalForm = b.canonicalForm ↔ a.SameUpToOrder b)
  digest : ∀ b : RelationDescriptor, b.validate hash = .ok () →
    Set.InjOn hash (bindingInputs a ∪ bindingInputs b) → a.contractDigest = b.contractDigest →
      a.descriptorDigest = b.descriptorDigest → a.SameUpToOrder b

/-- A valid descriptor is identified by its form as soon as its types are valid UTF-8. -/
theorem descriptor_identified_iff (hvalid : a.validate hash = .ok ()) :
    a.Identified hash ↔ ∀ column ∈ a.columns, validUtf8 column.type.parameter = true := by
  have ha := validate_eq_ok_iff.1 hvalid
  constructor
  · intro h column hcolumn
    by_contra hinvalid
    rw [Bool.not_eq_true] at hinvalid
    -- the descriptor with another type there has the same form
    have hblurred := validate_eq_ok_iff.2 (checks_blurred ha)
    exact not_sameUpToOrder_blurred ha hcolumn hinvalid
      ((h.form _ hblurred).1 (canonicalForm_blurred ha).symm)
  · intro htypes
    have hform : ∀ b : RelationDescriptor, b.validate hash = .ok () →
        a.canonicalForm = b.canonicalForm → a.SameUpToOrder b := by
      intro b hb heq
      exact (canonicalForm_eq_iff.1 heq).sameUpToOrder ha (validate_eq_ok_iff.1 hb) htypes
    refine ⟨fun b hb => ⟨hform b hb, fun hsame => ?_⟩, fun b hb hinj hcontract hdigest => ?_⟩
    · exact canonicalForm_eq_iff.2 (hsame.sameText ha (validate_eq_ok_iff.1 hb))
    · exact hform b hb
        (canonicalForm_eq_of_digest ha (validate_eq_ok_iff.1 hb) hinj hcontract hdigest)

end Identified

/-! ## A type that is not printed -/

/-- A relation with a key and a set of the elements of some type. -/
def setDescriptor (elementType digest : Bytes) : RelationDescriptor where
  id := "a.b.v1"
  name := "a.b"
  version := { major := 1, minor := 0, patch := 0 }
  semantics := "ab/1"
  ownerNamespace := "a"
  descriptorDigest := digest
  columns := [{ id := "a.b.v1.k", name := "k", type := {}, role := .claimKey },
    { id := "a.b.v1.s", name := "s", type := { scalar := .set, parameter := elementType } }]
  keyColumns := ["a.b.v1.k"]

/-- What is hashed for the digest of the relation. -/
def setFrame (elementType : Bytes) : CanonicalValue :=
  semanticFrame "cxxlens.relation-descriptor-binding.v2"
    (ascii "\n" ++ (setDescriptor elementType []).canonicalForm)

/-- The digest of the relation, where the hash is the identity. -/
def setDigest (elementType : Bytes) : Bytes :=
  ascii "semantic-v2:sha256:" ++ hex (CanonicalValue.appendCanonical (setFrame elementType))

theorem setDescriptor_bound {elementType : Bytes}
    (hsize : (CanonicalValue.appendCanonical (setFrame elementType)).length ≤
      CanonicalValue.vectorMaxSize) :
    (setDescriptor elementType (setDigest elementType)).bound id = true := by
  have hform : (setDescriptor elementType (setDigest elementType)).canonicalForm =
      (setDescriptor elementType []).canonicalForm :=
    canonicalForm_eq_iff.2 ⟨rfl, rfl, rfl, rfl, rfl, rfl, rfl, rfl, rfl, rfl, rfl, rfl, rfl, rfl⟩
  have hcontract : (setDescriptor elementType (setDigest elementType)).contractDigest = [] := rfl
  have hdigest : (setDescriptor elementType (setDigest elementType)).descriptorDigest =
      setDigest elementType := rfl
  have hvalid : (setFrame elementType).validate = .ok () := by
    rw [setFrame, semanticFrame, CanonicalValue.validate_fromTuple_iff]
    simp only [List.forall_mem_cons, CanonicalValue.validate_fromString_iff]
    exact ⟨validUtf8_literal (by simp), validUtf8_literal (by simp), rfl, by simp⟩
  have hbinary : CanonicalValue.canonicalBinary (setFrame elementType) =
      .ok (CanonicalValue.appendCanonical (setFrame elementType)) :=
    CanonicalValue.canonicalBinary_eq_ok_iff.2 ⟨hvalid, hsize, rfl⟩
  have hbinding : descriptorBinding id (setDescriptor elementType (setDigest elementType)) =
      .ok (setDigest elementType) := by
    rw [descriptorBinding, hform, hcontract, List.nil_append, semanticDigest,
      if_neg (by decide), ← setFrame, hbinary, ok_bind, id, setDigest]
  rw [RelationDescriptor.bound, hbinding, hdigest]
  exact beq_self_eq_true _

/-- The relation is valid for two types of elements that are printed as nothing. -/
theorem setDescriptor_valid {elementType : Bytes}
    (hmem : elementType = [0xff, 0x5f, 0x69, 0x64] ∨ elementType = [0xfe, 0x5f, 0x69, 0x64]) :
    (setDescriptor elementType (setDigest elementType)).validate id = .ok () := by
  have hsize : (CanonicalValue.appendCanonical (setFrame elementType)).length ≤
      CanonicalValue.vectorMaxSize := by
    rcases hmem with rfl | rfl <;> decide +kernel
  have hcolumn : ∀ value ∈ (setDescriptor elementType []).columns,
      (setDescriptor elementType []).validateColumn value = .ok () := by
    rcases hmem with rfl | rfl <;> decide +kernel
  have hroles : (setDescriptor elementType []).validateRoles = .ok () := by
    rcases hmem with rfl | rfl <;> decide +kernel
  have hname : relationName "a.b" = true := by decide +kernel
  have hid : ascii "a.b.v1" = ascii "a.b" ++ ascii ".v" ++ CanonicalValue.decimal 1 := by
    decide +kernel
  have hsemantics : semanticsId "ab/1" = true := by decide +kernel
  have howner : stableId "a" = true := by decide
  have hids : uniqueStrings ["a.b.v1.k", "a.b.v1.s"] = true := by decide
  have hnames : uniqueStrings ["k", "s"] = true := by decide
  rw [validate_eq_ok_iff]
  exact {
    merge := rfl
    enumerations := by simp [setDescriptor, ScalarKind.isValid, ColumnRole.isValid]
    strengths := by simp [setDescriptor]
    contract := rfl
    name := hname
    major := by simp [setDescriptor]
    id := hid
    version := rfl
    columns := by simp [setDescriptor]
    semantics := hsemantics
    ownerNamespace := howner
    keyColumns := ⟨by simp [setDescriptor], by simp [setDescriptor, uniqueStrings]⟩
    domainIdentity := rfl
    column := hcolumn
    distinct := ⟨hids, hnames⟩
    roles := hroles
    references := by simp [setDescriptor]
    bound := fun _ => setDescriptor_bound hsize }

/-- Two valid relations whose sets have other elements are printed alike. -/
theorem canonicalForm_conflates_types :
    ¬ ∀ (hash : Bytes → Bytes) (a b : RelationDescriptor), Function.Injective hash →
      a.validate hash = .ok () → b.validate hash = .ok () →
        (a.canonicalForm = b.canonicalForm ↔ a.SameUpToOrder b) := by
  intro h
  have hform : (setDescriptor [0xff, 0x5f, 0x69, 0x64]
      (setDigest [0xff, 0x5f, 0x69, 0x64])).canonicalForm =
      (setDescriptor [0xfe, 0x5f, 0x69, 0x64]
        (setDigest [0xfe, 0x5f, 0x69, 0x64])).canonicalForm := by
    have hcolumns : (setDescriptor [0xff, 0x5f, 0x69, 0x64] []).orderedColumns.map
        ColumnDescriptor.json = (setDescriptor [0xfe, 0x5f, 0x69, 0x64] []).orderedColumns.map
        ColumnDescriptor.json := by decide +kernel
    exact canonicalForm_eq_iff.2
      ⟨hcolumns, rfl, rfl, rfl, rfl, rfl, rfl, rfl, rfl, rfl, rfl, rfl, rfl, rfl⟩
  have hsame := (h id _ _ Function.injective_id (setDescriptor_valid (.inl rfl))
    (setDescriptor_valid (.inr rfl))).1 hform
  have hcolumns : ¬ (setDescriptor [0xff, 0x5f, 0x69, 0x64] []).columns.Perm
      (setDescriptor [0xfe, 0x5f, 0x69, 0x64] []).columns := by decide +kernel
  exact hcolumns hsame.columns

/-- A set of such elements is not identified. -/
theorem setDescriptor_not_identified :
    ¬ (setDescriptor [0xff, 0x5f, 0x69, 0x64]
      (setDigest [0xff, 0x5f, 0x69, 0x64])).Identified id := by
  rw [descriptor_identified_iff (setDescriptor_valid (.inl rfl))]
  intro h
  have htype : validUtf8 [0xff, 0x5f, 0x69, 0x64] = true := h _ (List.mem_cons_of_mem _
    List.mem_cons_self)
  exact absurd htype (by decide)

end Cxxlens.Sdk
