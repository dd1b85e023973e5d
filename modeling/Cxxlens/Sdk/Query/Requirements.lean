import Cxxlens.Foundation.Merging
import Cxxlens.Sdk.Claim.Reported
import Cxxlens.Sdk.Decimal
import Cxxlens.Sdk.Query.Model

set_option autoImplicit false

/-! # Requirements of a query

The descriptors a query was built against (`merge_requirements` of `query.cpp`). A later minor of a
relation takes the place of an earlier one where it only adds optional columns. -/

namespace Cxxlens.Sdk.Query

open Sorting Fallible Merging

/-- `semantic_version` by `operator<=>` -/
def versionLess (left right : SemanticVersion) : Bool :=
  if left.major ≠ right.major then decide (left.major < right.major)
  else if left.minor ≠ right.minor then decide (left.minor < right.minor)
  else decide (left.patch < right.patch)

/-- `std::ranges::find` on the identifiers of columns -/
def findColumn (columns : List ColumnDescriptor) (id : Bytes) : Option ColumnDescriptor :=
  columns.find? fun column => column.id == id

/-- `additive_optional_minor` -/
def additiveOptionalMinor (lower higher : RelationDescriptor) : Bool :=
  if lower.id ≠ higher.id ∨ lower.name ≠ higher.name ∨
      lower.semanticMajor ≠ higher.semanticMajor ∨
      lower.version.major ≠ higher.version.major ∨
      lower.version.minor ≥ higher.version.minor ∨
      lower.semantics ≠ higher.semantics ∨
      lower.ownerNamespace ≠ higher.ownerNamespace ∨
      lower.keyColumns ≠ higher.keyColumns ∨
      lower.domainIdentity ≠ higher.domainIdentity ∨
      lower.references ≠ higher.references ∨ lower.merge ≠ higher.merge ∨
      lower.conflictColumns ≠ higher.conflictColumns then false
  else
    (lower.columns.all fun column => findColumn higher.columns column.id == some column) &&
    higher.columns.all fun column =>
      !((findColumn lower.columns column.id).isNone && (column.required || !column.type.optional))

/-- The two descriptors are one. -/
def sameContract (found descriptor : RelationDescriptor) : Bool :=
  found.contractDigest == descriptor.contractDigest &&
  found.descriptorDigest == descriptor.descriptorDigest &&
  found.canonicalForm == descriptor.canonicalForm

/-- The requirement that stays of two for one relation. -/
def reconcile (found descriptor : RelationDescriptor) : Result RelationDescriptor :=
  if sameContract found descriptor = true then .ok found
  else
    -- `std::swap(lower, higher)`
    let swapped := versionLess descriptor.version found.version
    let lower := if swapped = true then descriptor else found
    let higher := if swapped = true then found else descriptor
    if additiveOptionalMinor lower higher = false then
      .error (queryError "sdk.query-relation-requirement-incompatible" descriptor.id)
    else .ok higher

/-- The body of the loop: the requirement is found and replaced in place, or appended. -/
def mergeRequirement : List RelationDescriptor → RelationDescriptor →
    Result (List RelationDescriptor)
  | [], descriptor => .ok [descriptor]
  | found :: rest, descriptor =>
    if found.id = descriptor.id then do
      let retained ← reconcile found descriptor
      .ok (retained :: rest)
    else do
      let later ← mergeRequirement rest descriptor
      .ok (found :: later)

/-- `merge_requirements` -/
def mergeRequirements (destination additions : List RelationDescriptor) :
    Result (List RelationDescriptor) := do
  let merged ← additions.foldlM mergeRequirement destination
  .ok (sortBy (fun a b : RelationDescriptor => bytesLess a.id b.id) merged)

/-- The requirements after `merge_requirements` took one batch after the other. -/
def mergeBatches (batches : List (List RelationDescriptor)) : Result (List RelationDescriptor) :=
  batches.foldlM mergeRequirements []

/-! ## The version in the canonical form -/

theorem quote_not_mem_version (version : SemanticVersion) : (0x22 : UInt8) ∉ version.string := by
  have hdecimal : ∀ value : Nat, (0x22 : UInt8) ∉ CanonicalValue.decimal value := by
    intro value h
    have hdigit := isDigit_decimal h
    have hquote : (0x22 : UInt8).toNat = 34 := rfl
    omega
  have hdot : (0x22 : UInt8) ∉ ascii "." := by decide
  simp [SemanticVersion.string, hdecimal, hdot]

/-- The text of a version says its minor. -/
theorem minor_of_string {left right : SemanticVersion} (h : left.string = right.string) :
    left.minor = right.minor := by
  have hdot : ascii "." = [0x2e] := rfl
  unfold SemanticVersion.string at h
  simp only [hdot, List.append_assoc, List.singleton_append] at h
  obtain ⟨-, htail⟩ := split_at_first (dot_not_mem_decimal _) (dot_not_mem_decimal _) h
  obtain ⟨hminor, -⟩ := split_at_first (dot_not_mem_decimal _) (dot_not_mem_decimal _) htail
  exact UInt32.toNat_inj.1 (decimal_injective hminor)

/-- A canonical form ends with the version, behind the last opening quote. -/
theorem version_of_canonicalForm {left right : RelationDescriptor}
    (h : left.canonicalForm = right.canonicalForm) : left.version.string = right.version.string := by
  have hopen : ascii ",\"version\":\"" = ascii ",\"version\":" ++ [0x22] := by decide
  unfold RelationDescriptor.canonicalForm at h
  rw [hopen] at h
  have hbody := List.append_cancel_right h
  simp only [← List.append_assoc] at hbody
  rw [List.append_assoc _ [0x22], List.append_assoc _ [0x22], List.singleton_append,
    List.singleton_append] at hbody
  exact (split_at_last (quote_not_mem_version _) (quote_not_mem_version _) hbody).2

/-! ## Minors of a relation -/

theorem additiveOptionalMinor_lt {lower higher : RelationDescriptor}
    (h : additiveOptionalMinor lower higher = true) :
    lower.version.major = higher.version.major ∧ lower.version.minor < higher.version.minor := by
  unfold additiveOptionalMinor at h
  by_cases hfails : lower.id ≠ higher.id ∨ lower.name ≠ higher.name ∨
      lower.semanticMajor ≠ higher.semanticMajor ∨
      lower.version.major ≠ higher.version.major ∨
      lower.version.minor ≥ higher.version.minor ∨
      lower.semantics ≠ higher.semantics ∨
      lower.ownerNamespace ≠ higher.ownerNamespace ∨
      lower.keyColumns ≠ higher.keyColumns ∨
      lower.domainIdentity ≠ higher.domainIdentity ∨
      lower.references ≠ higher.references ∨ lower.merge ≠ higher.merge ∨
      lower.conflictColumns ≠ higher.conflictColumns
  · simp [hfails] at h
  · push Not at hfails
    exact ⟨hfails.2.2.2.1, UInt32.not_le.1 hfails.2.2.2.2.1⟩

/-- Descriptors of one relation: the same one, or a minor below another. -/
def minors : Precedence RelationDescriptor where
  same := sameContract
  below := additiveOptionalMinor
  rank descriptor := descriptor.version.minor.toNat
  same_refl descriptor := by simp [sameContract]
  rank_same h := by
    unfold sameContract at h
    simp only [Bool.and_eq_true, beq_iff_eq] at h
    rw [minor_of_string (version_of_canonicalForm h.2)]
  rank_below h := UInt32.lt_iff_toNat_lt.1 (additiveOptionalMinor_lt h).2

/-- The swap by versions tries the order in which a descriptor can be below another. -/
theorem toOption_reconcile (found descriptor : RelationDescriptor) :
    (reconcile found descriptor).toOption = minors.absorb found descriptor := by
  unfold reconcile Precedence.absorb
  show _ = if sameContract found descriptor = true then some found
    else if additiveOptionalMinor found descriptor = true then some descriptor
    else if additiveOptionalMinor descriptor found = true then some found else none
  by_cases hsame : sameContract found descriptor = true
  · simp [hsame]
  · by_cases hup : additiveOptionalMinor found descriptor = true
    · have hswap : versionLess descriptor.version found.version = false := by
        obtain ⟨hmajor, hminor⟩ := additiveOptionalMinor_lt hup
        have hne := (UInt32.ne_of_lt hminor).symm
        unfold versionLess
        simp [hmajor, hne, UInt32.not_lt.2 (UInt32.le_of_lt hminor)]
      simp [hsame, hup, hswap]
    · by_cases hdown : additiveOptionalMinor descriptor found = true
      · have hswap : versionLess descriptor.version found.version = true := by
          obtain ⟨hmajor, hminor⟩ := additiveOptionalMinor_lt hdown
          unfold versionLess
          simp [hmajor, UInt32.ne_of_lt hminor, hminor]
        simp [hsame, hup, hdown, hswap]
      · -- Neither is below the other, so it does not matter which way they are compared.
        cases hswap : versionLess descriptor.version found.version with
        | true => simp [hsame, hup, hdown]
        | false => simp [hsame, hup, hdown]

theorem toOption_mergeRequirement (destination : List RelationDescriptor)
    (descriptor : RelationDescriptor) :
    (mergeRequirement destination descriptor).toOption =
      minors.add RelationDescriptor.id destination descriptor := by
  induction destination with
  | nil => rfl
  | cons found rest ih =>
      unfold mergeRequirement Precedence.add
      by_cases hid : found.id = descriptor.id
      · simp only [hid, if_true, toOption_bind, toOption_ok, toOption_reconcile]
        rw [Option.map_eq_bind]
        rfl
      · simp only [hid, if_false, toOption_bind, toOption_ok, ih]
        rw [Option.map_eq_bind]
        rfl

theorem toOption_foldlM_mergeRequirement (destination additions : List RelationDescriptor) :
    (additions.foldlM mergeRequirement destination).toOption =
      minors.addAll RelationDescriptor.id destination additions := by
  induction additions generalizing destination with
  | nil => rfl
  | cons descriptor additions ih =>
      rw [List.foldlM_cons, toOption_bind, toOption_mergeRequirement]
      simp only [ih]
      rfl

/-! ## Batches -/

theorem idLess_compares :
    Compares (fun a b : RelationDescriptor => bytesLess a.id b.id) RelationDescriptor.id := by
  intro a b
  simp [bytesLess]

/-- A requirement list as `merge_requirements` leaves it. -/
def Ordered (table : List RelationDescriptor) : Prop :=
  table.Pairwise fun a b => a.id < b.id

theorem Ordered.nodup {table : List RelationDescriptor} (h : Ordered table) :
    (table.map RelationDescriptor.id).Nodup :=
  List.pairwise_map.2 (h.imp fun hlt => ne_of_lt hlt)

/-- An ordered list is what it keeps for each identifier. -/
theorem Ordered.eq_of_held {left right : List RelationDescriptor} (hleft : Ordered left)
    (hright : Ordered right)
    (h : Precedence.held RelationDescriptor.id left =
      Precedence.held RelationDescriptor.id right) : left = right := by
  have hmem : ∀ descriptor, descriptor ∈ left ↔ descriptor ∈ right := by
    intro descriptor
    have hl : Precedence.held RelationDescriptor.id left descriptor.id = some descriptor ↔ _ :=
      Precedence.held_eq_some_iff hleft.nodup
    have hr : Precedence.held RelationDescriptor.id right descriptor.id = some descriptor ↔ _ :=
      Precedence.held_eq_some_iff hright.nodup
    rw [h] at hl
    simpa using hl.symm.trans hr
  have hperm : left.Perm right := (List.perm_ext_iff_of_nodup hleft.nodup.of_map
    hright.nodup.of_map).2 hmem
  exact hperm.eq_of_pairwise (fun a b _ _ hab hba => absurd hab hba.not_gt) hleft hright

/-- Sorting a list does not change what it keeps. -/
theorem held_sortById {table : List RelationDescriptor}
    (hnodup : (table.map RelationDescriptor.id).Nodup) :
    Precedence.held RelationDescriptor.id
        (sortBy (fun a b : RelationDescriptor => bytesLess a.id b.id) table) =
      Precedence.held RelationDescriptor.id table := by
  funext id
  have hsorted := (((sortBy_perm (fun a b : RelationDescriptor => bytesLess a.id b.id) table).map
    RelationDescriptor.id).nodup_iff).2 hnodup
  refine Option.ext fun descriptor => ?_
  rw [Precedence.held_eq_some_iff hsorted, Precedence.held_eq_some_iff hnodup, mem_sortBy]

/-- Batches come to what all of their descriptors come to in one batch. -/
theorem foldlM_mergeRequirements {destination : List RelationDescriptor}
    (hdestination : Ordered destination) (batches : List (List RelationDescriptor)) :
    ((∃ error, batches.foldlM mergeRequirements destination = .error error) ↔
      minors.addAll RelationDescriptor.id destination batches.flatten = none) ∧
    ∀ retained, batches.foldlM mergeRequirements destination = .ok retained →
      Ordered retained ∧
      ∀ table, minors.addAll RelationDescriptor.id destination batches.flatten = some table →
        Precedence.held RelationDescriptor.id retained =
          Precedence.held RelationDescriptor.id table := by
  induction batches generalizing destination with
  | nil =>
      refine ⟨by simp [Precedence.addAll, pure, Except.pure], ?_⟩
      intro retained hretained
      obtain rfl := Except.ok.inj hretained
      refine ⟨hdestination, fun table htable => ?_⟩
      rw [Option.some.inj htable]
  | cons batch batches ih =>
      have hflatten : minors.addAll RelationDescriptor.id destination (batch :: batches).flatten =
          (minors.addAll RelationDescriptor.id destination batch).bind fun middle =>
            minors.addAll RelationDescriptor.id middle batches.flatten := by
        rw [List.flatten_cons]
        exact List.foldlM_append
      have hbatch := toOption_foldlM_mergeRequirement destination batch
      rw [hflatten, List.foldlM_cons, mergeRequirements]
      cases hmerged : batch.foldlM mergeRequirement destination with
      | error error =>
          rw [hmerged] at hbatch
          simp [← hbatch]
      | ok merged =>
          rw [hmerged, toOption_ok] at hbatch
          have hnodup := Precedence.nodup_addAll hbatch.symm hdestination.nodup
          have hsorted : Ordered (sortBy (fun a b : RelationDescriptor => bytesLess a.id b.id)
              merged) := sortBy_pairwise_lt idLess_compares hnodup
          obtain ⟨hfails, hkeeps⟩ := ih hsorted
          obtain ⟨hnone, hheld⟩ := Precedence.held_addAll_congr (P := minors)
            (held_sortById hnodup) batches.flatten
          simp only [ok_bind, ← hbatch, Option.bind_some]
          refine ⟨hfails.trans hnone, fun retained hretained => ?_⟩
          obtain ⟨hordered, hsame⟩ := hkeeps retained hretained
          refine ⟨hordered, fun table htable => ?_⟩
          cases hother : minors.addAll RelationDescriptor.id
              (sortBy (fun a b : RelationDescriptor => bytesLess a.id b.id) merged)
              batches.flatten with
          | none => simp [hnone.1 hother] at htable
          | some other => exact (hsame other hother).trans (hheld other table hother htable)

/-! ## Orders -/

/-- One requirement for each relation, of the highest minor, and it stands for the others. -/
structure HighestMinors (requirements retained : List RelationDescriptor) : Prop where
  distinct : (retained.map RelationDescriptor.id).Nodup
  mem : ∀ descriptor ∈ retained, descriptor ∈ requirements
  highest : ∀ descriptor ∈ requirements, ∃ top ∈ retained, top.id = descriptor.id ∧
    descriptor.version.minor ≤ top.version.minor ∧
    (sameContract top descriptor = true ∨ additiveOptionalMinor descriptor top = true)

/-- The order in which the requirements are merged, and the batches they come in, do not show. -/
def PermutationInvariant (requirements : List RelationDescriptor) : Prop :=
  (∀ batches, batches.flatten.Perm requirements → ∃ error, mergeBatches batches = .error error) ∨
  ∃ retained, HighestMinors requirements retained ∧
    ∀ batches, batches.flatten.Perm requirements → mergeBatches batches = .ok retained

theorem ordered_nil : Ordered [] :=
  List.Pairwise.nil

theorem mergeBatches_fails_iff (batches : List (List RelationDescriptor)) :
    (∃ error, mergeBatches batches = .error error) ↔
      minors.addAll RelationDescriptor.id [] batches.flatten = none :=
  (foldlM_mergeRequirements ordered_nil batches).1

/-- Batches that succeed keep what the table of all their descriptors keeps. -/
theorem mergeBatches_eq_ok {batches : List (List RelationDescriptor)}
    {retained : List RelationDescriptor} (h : mergeBatches batches = .ok retained) :
    Ordered retained ∧ ∃ table,
      minors.addAll RelationDescriptor.id [] batches.flatten = some table ∧
      Precedence.held RelationDescriptor.id retained =
        Precedence.held RelationDescriptor.id table := by
  obtain ⟨hordered, hkeeps⟩ := (foldlM_mergeRequirements ordered_nil batches).2 retained h
  refine ⟨hordered, ?_⟩
  cases htable : minors.addAll RelationDescriptor.id [] batches.flatten with
  | none =>
      obtain ⟨error, herror⟩ := (mergeBatches_fails_iff batches).2 htable
      rw [h] at herror
      cases herror
  | some table => exact ⟨table, rfl, hkeeps table htable⟩

theorem exists_mergeBatches {batches : List (List RelationDescriptor)}
    {table : List RelationDescriptor}
    (h : minors.addAll RelationDescriptor.id [] batches.flatten = some table) :
    ∃ retained, mergeBatches batches = .ok retained := by
  cases hmerged : mergeBatches batches with
  | error error =>
      have hnone := (mergeBatches_fails_iff batches).1 ⟨error, hmerged⟩
      rw [h] at hnone
      cases hnone
  | ok retained => exact ⟨retained, rfl⟩

/-- Agreeing requirements come to their highest minors. -/
theorem mergeBatches_of_agreeing {requirements : List RelationDescriptor}
    {batches : List (List RelationDescriptor)} (hperm : batches.flatten.Perm requirements)
    (h : minors.Agreeing RelationDescriptor.id requirements) :
    ∃ retained, mergeBatches batches = .ok retained ∧ Ordered retained ∧
      (∀ descriptor ∈ retained,
        minors.Highest RelationDescriptor.id requirements descriptor.id descriptor) ∧
      ∀ descriptor ∈ requirements, ∃ top ∈ retained, top.id = descriptor.id := by
  obtain ⟨table, htable, hhighest, hkept⟩ := Precedence.addAll_of_agreeing hperm h
  obtain ⟨retained, hretained⟩ := exists_mergeBatches htable
  obtain ⟨hordered, other, hother, hheld⟩ := mergeBatches_eq_ok hretained
  obtain rfl := Option.some.inj (htable.symm.trans hother)
  refine ⟨retained, hretained, hordered, fun descriptor hdescriptor => ?_,
    fun descriptor hdescriptor => ?_⟩
  · refine hhighest descriptor.id descriptor ?_
    rw [← hheld]
    exact (Precedence.held_eq_some_iff hordered.nodup).2 ⟨hdescriptor, rfl⟩
  · obtain ⟨top, htop⟩ := hkept descriptor hdescriptor
    rw [← hheld] at htop
    exact ⟨top, (Precedence.held_eq_some htop).1, (Precedence.held_eq_some htop).2⟩

theorem permutationInvariant_of_agreeing {requirements : List RelationDescriptor}
    (h : minors.Agreeing RelationDescriptor.id requirements) :
    PermutationInvariant requirements := by
  have hone : [requirements].flatten.Perm requirements := by simp
  obtain ⟨retained, hretained, hordered, hhighest, hkept⟩ := mergeBatches_of_agreeing hone h
  refine Or.inr ⟨retained, ⟨hordered.nodup, fun descriptor hdescriptor =>
    (hhighest descriptor hdescriptor).mem, fun descriptor hdescriptor => ?_⟩, fun batches hperm => ?_⟩
  · obtain ⟨top, htop, hid⟩ := hkept descriptor hdescriptor
    have hcovers := (hhighest top htop).covers h hdescriptor hid.symm
    exact ⟨top, htop, hid, UInt32.le_iff_toNat_le.2 hcovers.rank_le, hcovers⟩
  · obtain ⟨other, hother, hotherOrdered, hotherHighest, hotherKept⟩ :=
      mergeBatches_of_agreeing hperm h
    rw [hother]
    -- Both lists hold the one highest descriptor of each relation.
    have hsub : ∀ left right : List RelationDescriptor,
        (∀ descriptor ∈ left,
          minors.Highest RelationDescriptor.id requirements descriptor.id descriptor) →
        (∀ descriptor ∈ right,
          minors.Highest RelationDescriptor.id requirements descriptor.id descriptor) →
        (∀ descriptor ∈ requirements, ∃ top ∈ right, top.id = descriptor.id) →
        ∀ descriptor ∈ left, descriptor ∈ right := by
      intro left right hleft hright hkeeps descriptor hdescriptor
      have htop := hleft descriptor hdescriptor
      obtain ⟨top, hmem, hid⟩ := hkeeps descriptor htop.mem
      have hsame := htop.unique (hid ▸ hright top hmem) h
      exact hsame ▸ hmem
    refine congrArg Except.ok (hotherOrdered.eq_of_held hordered ?_)
    funext id
    refine Option.ext fun descriptor => ?_
    rw [Precedence.held_eq_some_iff hotherOrdered.nodup,
      Precedence.held_eq_some_iff hordered.nodup]
    constructor
    · intro hheld
      exact ⟨hsub other retained hotherHighest hhighest hkept _ hheld.1, hheld.2⟩
    · intro hheld
      exact ⟨hsub retained other hhighest hotherHighest hotherKept _ hheld.1, hheld.2⟩

/-- **The order of the requirements does not show exactly when any two requirements of one relation
    are reconciled, or those of some relation are not in any order.** In the first case requirements
    that count as one must be equal, unless a higher minor stands for them; in the second no chain
    of ascending minors covers the requirements of the relation. -/
theorem permutationInvariant_iff (requirements : List RelationDescriptor) :
    PermutationInvariant requirements ↔
      minors.Agreeing RelationDescriptor.id requirements ∨
        ∃ id, ¬ minors.Laddered RelationDescriptor.id requirements id := by
  constructor
  · intro h
    by_cases hladder : ∃ id, ¬ minors.Laddered RelationDescriptor.id requirements id
    · exact Or.inr hladder
    · push Not at hladder
      obtain ⟨order, table, hperm, htable⟩ := Precedence.exists_addAll hladder
      cases h with
      | inl hfails =>
          have hbatch := hfails [order] (by simpa using hperm)
          rw [mergeBatches_fails_iff] at hbatch
          simp [htable] at hbatch
      | inr hkeeps =>
          obtain ⟨retained, -, hkeeps⟩ := hkeeps
          refine Or.inl (@Precedence.agreeing_of_addAll _ _ _ _ _ _
            (Precedence.held RelationDescriptor.id retained) fun other hother => ?_)
          have hbatch := hkeeps [other] (by simpa using hother)
          obtain ⟨-, otherTable, hotherTable, hheld⟩ := mergeBatches_eq_ok hbatch
          refine ⟨otherTable, by simpa using hotherTable, fun id => (congrFun hheld id).symm⟩
  · intro h
    cases h with
    | inl hagreeing => exact permutationInvariant_of_agreeing hagreeing
    | inr hladder =>
        obtain ⟨id, hid⟩ := hladder
        refine Or.inl fun batches hperm => ?_
        rw [mergeBatches_fails_iff]
        exact Precedence.addAll_eq_none hperm hid

/-- A minor of a relation with a key column and optional columns. -/
def sampleMinor (minor : UInt32) (optional : List Bytes) (digest : Bytes) : RelationDescriptor where
  id := "a.b.v1"
  name := "a.b"
  version := { major := 1, minor := minor, patch := 0 }
  semantics := "ab/1"
  ownerNamespace := "a"
  descriptorDigest := digest
  columns := { id := "a.b.v1.k", name := "k", type := {}, role := .claimKey } ::
    optional.map fun name =>
      { id := ascii "a.b.v1." ++ name, name := name, type := { optional := true },
        required := false, role := .auxiliary }
  keyColumns := ["a.b.v1.k"]

/-- Two minors that add a column each, and one above both of them. -/
def forkedMinors : List RelationDescriptor :=
  [sampleMinor 0 ["p"] "semantic-v2:sha256:40", sampleMinor 1 ["q"] "semantic-v2:sha256:91",
    sampleMinor 2 ["p", "q"] "semantic-v2:sha256:13"]

/-- The fork fails when its two branches meet before the minor above both has come in. -/
theorem forkedMinors_not_invariant :
    (∀ descriptor ∈ forkedMinors, descriptor.validate sampleHash = .ok ()) ∧
      (mergeBatches [forkedMinors]).isOk = false ∧
      (mergeBatches [[sampleMinor 0 ["p"] "semantic-v2:sha256:40",
        sampleMinor 2 ["p", "q"] "semantic-v2:sha256:13",
        sampleMinor 1 ["q"] "semantic-v2:sha256:91"]]).isOk = true ∧
      ¬ PermutationInvariant forkedMinors := by
  have hfails : (mergeBatches [forkedMinors]).isOk = false := by decide
  have hsucceeds : (mergeBatches [[sampleMinor 0 ["p"] "semantic-v2:sha256:40",
      sampleMinor 2 ["p", "q"] "semantic-v2:sha256:13",
      sampleMinor 1 ["q"] "semantic-v2:sha256:91"]]).isOk = true := by decide
  have hperm : [[sampleMinor 0 ["p"] "semantic-v2:sha256:40",
      sampleMinor 2 ["p", "q"] "semantic-v2:sha256:13",
      sampleMinor 1 ["q"] "semantic-v2:sha256:91"]].flatten.Perm forkedMinors :=
    (List.Perm.swap _ _ []).cons _
  refine ⟨by decide +kernel, hfails, hsucceeds, fun h => ?_⟩
  cases h with
  | inl hall =>
      obtain ⟨error, herror⟩ := hall _ hperm
      rw [herror] at hsucceeds
      exact absurd hsucceeds Bool.false_ne_true
  | inr hall =>
      obtain ⟨retained, -, hall⟩ := hall
      rw [hall [forkedMinors] (by simp)] at hfails
      exact absurd hfails.symm Bool.false_ne_true

end Cxxlens.Sdk.Query
