import Cxxlens.Sdk.Claim.Commit
import Cxxlens.Sdk.Store.Payload

set_option autoImplicit false

/-! # Envelopes in their canonical order

Canonicalising an envelope only reorders it, and doing so again changes nothing. What is written of
it are the same spans in another order. -/

namespace Cxxlens.Sdk.Store

open Fallible Sorting
open Query (SnapshotCoverageUnit)

/-! ## Claims -/

/-- The claims by their projections. -/
def claimsInOrder (claims : List Claim) : List Claim :=
  sortBy (fun left right => bytesLess (occurrenceBytes left) (occurrenceBytes right)) claims

/-- Two claims and more are only compared when all of them have a projection. -/
theorem sortExisting_eq_ok_iff {claims ordered : List Claim} :
    sortExisting claims = .ok ordered ↔
      (2 ≤ claims.length → ∀ value ∈ claims, Projected value) ∧ ordered = claimsInOrder claims := by
  rw [sortExisting]
  by_cases hshort : claims.length < 2
  · rw [if_pos hshort, claimsInOrder, sortBy_eq_self_of_length hshort, Except.ok.injEq]
    exact ⟨fun h => ⟨fun hlong => absurd hshort (by omega), h.symm⟩, fun h => h.2.symm⟩
  · rw [if_neg hshort, sortClaimOccurrences_eq_ok_iff, claimsInOrder,
      ← map_snd_sortBy_pairs bytesLess occurrenceBytes claims]
    exact and_congr_left fun _ => ⟨fun h _ => h, fun h => h (by omega)⟩

/-! ## Coverage -/

section Hash

variable {hash : Bytes → Bytes}

/-- The canonical form of a unit, `[]` where there is none. -/
def coverageKey (hash : Bytes → Bytes) (unit : SnapshotCoverageUnit) : Bytes :=
  (coverageCanonicalForm hash unit).toOption.getD []

/-- The units by their canonical forms. -/
def coverageInOrder (hash : Bytes → Bytes) (units : List SnapshotCoverageUnit) :
    List SnapshotCoverageUnit :=
  sortBy (fun left right => bytesLess (coverageKey hash left) (coverageKey hash right)) units

/-- A unit has a canonical form. -/
def HasForm (hash : Bytes → Bytes) (unit : SnapshotCoverageUnit) : Prop :=
  ∃ form, coverageCanonicalForm hash unit = .ok form

theorem coverageForms_eq_ok_iff {units : List SnapshotCoverageUnit} {forms : List Bytes} :
    coverageForms hash units = .ok forms ↔
      (∀ unit ∈ units, HasForm hash unit) ∧ forms = units.map (coverageKey hash) := by
  rw [coverageForms]
  induction units generalizing forms with
  | nil => simp [pure, Except.pure, eq_comm]
  | cons unit rest ih =>
      rw [List.mapM_cons, bind_eq_ok_iff, List.forall_mem_cons, List.map_cons]
      constructor
      · rintro ⟨form, hform, h⟩
        rw [bind_eq_ok_iff] at h
        obtain ⟨others, hothers, h⟩ := h
        obtain ⟨hall, rfl⟩ := ih.1 hothers
        refine ⟨⟨⟨form, hform⟩, hall⟩, (Except.ok.inj h).symm.trans ?_⟩
        rw [coverageKey, hform]
        rfl
      · rintro ⟨⟨⟨form, hform⟩, hall⟩, rfl⟩
        refine ⟨form, hform, ?_⟩
        rw [ih.2 ⟨hall, rfl⟩, ok_bind, coverageKey, hform]
        rfl

theorem sortCoverageUnits_eq_ok_iff {units ordered : List SnapshotCoverageUnit} :
    sortCoverageUnits hash units = .ok ordered ↔
      (2 ≤ units.length → ∀ unit ∈ units, HasForm hash unit) ∧
        ordered = coverageInOrder hash units := by
  rw [sortCoverageUnits]
  by_cases hshort : units.length < 2
  · rw [if_pos hshort, coverageInOrder, sortBy_eq_self_of_length hshort, Except.ok.injEq]
    exact ⟨fun h => ⟨fun hlong => absurd hshort (by omega), h.symm⟩, fun h => h.2.symm⟩
  · rw [if_neg hshort, bind_eq_ok_iff]
    have hzip : (units.map (coverageKey hash)).zip units =
        units.map fun unit => (coverageKey hash unit, unit) := by
      have h := List.zip_map' (f := coverageKey hash) (g := id) (l := units)
      rwa [List.map_id] at h
    have hsorted := map_snd_sortBy_pairs bytesLess (coverageKey hash) units
    constructor
    · rintro ⟨forms, hforms, h⟩
      obtain ⟨hall, rfl⟩ := coverageForms_eq_ok_iff.1 hforms
      rw [hzip, hsorted, Except.ok.injEq] at h
      exact ⟨fun _ => hall, h.symm⟩
    · rintro ⟨hall, rfl⟩
      refine ⟨_, coverageForms_eq_ok_iff.2 ⟨hall (by omega), rfl⟩, ?_⟩
      rw [hzip, hsorted]
      rfl

/-! ## Envelopes -/

/-- An envelope in its canonical order. -/
def envelopeInOrder (hash : Bytes → Bytes) (draft : PartitionDraft) : PartitionDraft :=
  { draft with
    claims := claimsInOrder draft.claims
    coverage := coverageInOrder hash draft.coverage
    unresolved := sortBy (fun left right => decide (left.tie < right.tie)) draft.unresolved }

/-- All that is compared has a key. -/
structure Orderable (hash : Bytes → Bytes) (draft : PartitionDraft) : Prop where
  claims : 2 ≤ draft.claims.length → ∀ value ∈ draft.claims, Projected value
  coverage : 2 ≤ draft.coverage.length → ∀ unit ∈ draft.coverage, HasForm hash unit

theorem canonicalizePartitionEnvelope_eq_ok_iff {draft found : PartitionDraft} :
    canonicalizePartitionEnvelope hash draft = .ok found ↔
      Orderable hash draft ∧ found = envelopeInOrder hash draft := by
  rw [canonicalizePartitionEnvelope, bind_eq_ok_iff]
  simp only [dereferenced_eq_ok_iff, sortExisting_eq_ok_iff]
  constructor
  · rintro ⟨claims, ⟨hclaims, rfl⟩, h⟩
    rw [bind_eq_ok_iff] at h
    obtain ⟨coverage, hcoverage, h⟩ := h
    obtain ⟨hforms, rfl⟩ := sortCoverageUnits_eq_ok_iff.1 hcoverage
    exact ⟨⟨hclaims, hforms⟩, (Except.ok.inj h).symm⟩
  · rintro ⟨horderable, rfl⟩
    refine ⟨_, ⟨horderable.claims, rfl⟩, ?_⟩
    rw [sortCoverageUnits_eq_ok_iff.2 ⟨horderable.coverage, rfl⟩]
    rfl

theorem compares_tie : Compares (fun left right : UnresolvedReference =>
    decide (left.tie < right.tie)) UnresolvedReference.tie :=
  fun _ _ => decide_eq_true_iff

theorem compares_bytes {α : Type} (key : α → Bytes) :
    Compares (fun left right => bytesLess (key left) (key right)) key :=
  fun left right => bytesLess_compares (key left) (key right)

/-- Sorting a sorted envelope changes nothing. -/
theorem envelopeInOrder_idem (draft : PartitionDraft) :
    envelopeInOrder hash (envelopeInOrder hash draft) = envelopeInOrder hash draft := by
  simp only [envelopeInOrder, claimsInOrder, coverageInOrder, sortBy_idem (compares_bytes _),
    sortBy_idem compares_tie]

theorem Orderable.inOrder {draft : PartitionDraft} (h : Orderable hash draft) :
    Orderable hash (envelopeInOrder hash draft) where
  claims := by
    intro hlong value hvalue
    rw [envelopeInOrder, claimsInOrder, length_sortBy] at hlong
    exact h.claims hlong value ((mem_sortBy _ _ _).1 hvalue)
  coverage := by
    intro hlong unit hunit
    rw [envelopeInOrder, coverageInOrder, length_sortBy] at hlong
    exact h.coverage hlong unit ((mem_sortBy _ _ _).1 hunit)

/-- A canonical envelope is the canonical form of itself. -/
theorem canonicalizePartitionEnvelope_idem {draft found : PartitionDraft}
    (h : canonicalizePartitionEnvelope hash draft = .ok found) :
    canonicalizePartitionEnvelope hash found = .ok found := by
  obtain ⟨horderable, rfl⟩ := canonicalizePartitionEnvelope_eq_ok_iff.1 h
  exact canonicalizePartitionEnvelope_eq_ok_iff.2
    ⟨horderable.inOrder, (envelopeInOrder_idem draft).symm⟩

/-! ## Their spans -/

theorem range_perm {α : Type} (encode : α → Spans) {left right : List α} (h : left.Perm right) :
    (BinaryWriter.range encode left).Perm (BinaryWriter.range encode right) := by
  rw [BinaryWriter.range, BinaryWriter.range, h.length_eq]
  exact (h.flatMap_right encode).append_left _

theorem encodeEnvelope_perm (key : Bytes) (draft : PartitionDraft) :
    (encodeEnvelope (key, envelopeInOrder hash draft)).Perm (encodeEnvelope (key, draft)) := by
  have hclaims := range_perm encodeClaim (sortBy_perm (fun left right =>
    bytesLess (occurrenceBytes left) (occurrenceBytes right)) draft.claims)
  have hcoverage := range_perm encodeCoverageUnit (sortBy_perm (fun left right =>
    bytesLess (coverageKey hash left) (coverageKey hash right)) draft.coverage)
  have hunresolved := range_perm encodeUnresolved (sortBy_perm (fun left right =>
    decide (left.tie < right.tie)) draft.unresolved)
  exact ((hclaims.append_left _).append hcoverage).append hunresolved

theorem canonicalEnvelopes_eq_ok_iff {entries found : List (Bytes × PartitionDraft)} :
    canonicalEnvelopes hash entries = .ok found ↔
      (∀ entry ∈ entries, Orderable hash entry.2) ∧
        found = entries.map fun entry => (entry.1, envelopeInOrder hash entry.2) := by
  rw [canonicalEnvelopes, OrderedMap.traverseEntries_eq_ok_iff]
  simp only [canonicalizePartitionEnvelope_eq_ok_iff]
  induction entries generalizing found with
  | nil => simp [eq_comm]
  | cons entry rest ih =>
      rw [List.forall₂_cons_left_iff, List.forall_mem_cons, List.map_cons]
      constructor
      · rintro ⟨⟨key, draft⟩, others, ⟨rfl, horderable, rfl⟩, hothers, rfl⟩
        obtain ⟨hall, rfl⟩ := ih.1 hothers
        exact ⟨⟨horderable, hall⟩, rfl⟩
      · rintro ⟨⟨horderable, hall⟩, rfl⟩
        exact ⟨(entry.1, envelopeInOrder hash entry.2), _, ⟨rfl, horderable, rfl⟩,
          ih.2 ⟨hall, rfl⟩, rfl⟩

/-- The envelopes of a payload only differ in their order from those of the graph. -/
theorem encodeSnapshotWith_perm (entries : List (Bytes × PartitionDraft)) (schema : PayloadSchema)
    (value : SnapshotData) :
    (encodeSnapshotWith (entries.map fun entry => (entry.1, envelopeInOrder hash entry.2)) schema
      value).Perm (encodeSnapshotWith entries schema value) := by
  have hentries : ((entries.map fun entry => (entry.1, envelopeInOrder hash entry.2)).flatMap
      encodeEnvelope).Perm (entries.flatMap encodeEnvelope) := by
    induction entries with
    | nil => exact List.Perm.refl _
    | cons entry rest ih =>
        rw [List.map_cons, List.flatMap_cons, List.flatMap_cons]
        exact (encodeEnvelope_perm entry.1 entry.2).append ih
  rw [encodeSnapshotWith, encodeSnapshotWith]
  refine List.Perm.append_left _ ?_
  split_ifs
  · rw [BinaryWriter.range, BinaryWriter.range, List.length_map]
    exact hentries.append_left _
  · exact List.Perm.refl _

theorem sortedSpans_perm {schema : PayloadSchema} {value : SnapshotData} {spans : Spans}
    (h : sortedSpans hash schema value = .ok spans) : spans.Perm (plainSpans schema value) := by
  rw [sortedSpans] at h
  split_ifs at h with hschema
  · rw [bind_eq_ok_iff] at h
    obtain ⟨envelopes, henvelopes, h⟩ := h
    obtain ⟨-, rfl⟩ := canonicalEnvelopes_eq_ok_iff.1 henvelopes
    obtain rfl := Except.ok.inj h
    exact encodeSnapshotWith_perm _ schema value
  · rw [Except.ok.inj h]

end Hash

end Cxxlens.Sdk.Store
