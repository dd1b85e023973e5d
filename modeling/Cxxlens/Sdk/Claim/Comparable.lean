import Cxxlens.Sdk.Claim.Reported

set_option autoImplicit false

/-! # When the comparisons succeed

A commit fails when it has to compare two claims whose conditions are of different universes, or whose
payloads have no digest. `Comparable` says when a pair does not fail; like `Disagree` it depends on the
contents only, so all the comparisons of a commit succeed exactly when all pairs of its claims are
comparable. -/

namespace Cxxlens.Sdk

open Fallible Collections

section Comparable

variable {hash : Bytes → Bytes} {engine : RelationEngine hash}

/-! ## One pair -/

theorem exists_overlap_iff (a b : ClaimCondition) :
    (∃ fragments, a.overlap b = .ok fragments) ↔
      a.validate = .ok () ∧ b.validate = .ok () ∧ a.universe = b.universe := by
  unfold ClaimCondition.overlap
  constructor
  · intro ⟨fragments, h⟩
    rw [seq_eq_ok_iff, seq_eq_ok_iff, guard_eq_ok_iff, not_not] at h
    exact ⟨h.1, h.2.1, h.2.2.1⟩
  · intro ⟨ha, hb, huniverse⟩
    refine ⟨setIntersection a.fragments b.fragments, ?_⟩
    rw [seq_eq_ok_iff, seq_eq_ok_iff, guard_eq_ok_iff, not_not]
    exact ⟨ha, hb, huniverse, rfl⟩

/-- The payloads of two claims can be compared, and their conditions if the payloads differ. -/
def PayloadsComparable (descriptor : RelationDescriptor) (hash : Bytes → Bytes) (x y : Claim) :
    Prop :=
  ∃ left right, functionalPayloadDigest hash descriptor x.row = .ok left ∧
    functionalPayloadDigest hash descriptor y.row = .ok right ∧
    (left = right ∨ ∃ fragments, x.presence.overlap y.presence = .ok fragments)

/-- The comparison of two claims does not fail. -/
def Comparable (engine : RelationEngine hash) (x y : Claim) : Prop :=
  x.content = y.content ∨ x.descriptor ≠ y.descriptor ∨ x.semanticKey ≠ y.semanticKey ∨
    ∃ descriptor, engine.requireId x.descriptor = .ok descriptor ∧
      (descriptor.merge ≠ .functionalAssertion ∨ PayloadsComparable descriptor hash x y)

theorem PayloadsComparable.symm {descriptor : RelationDescriptor} {x y : Claim}
    (h : PayloadsComparable descriptor hash x y) : PayloadsComparable descriptor hash y x := by
  obtain ⟨left, right, hleft, hright, h⟩ := h
  refine ⟨right, left, hright, hleft, ?_⟩
  rcases h with rfl | h
  · exact .inl rfl
  · obtain ⟨hx, hy, huniverse⟩ := (exists_overlap_iff _ _).1 h
    exact .inr ((exists_overlap_iff _ _).2 ⟨hy, hx, huniverse.symm⟩)

theorem Comparable.symm {x y : Claim} (h : Comparable engine x y) : Comparable engine y x := by
  by_cases hdescriptor : x.descriptor = y.descriptor
  · rcases h with h | h | h | ⟨descriptor, hfound, h⟩
    · exact .inl h.symm
    · exact absurd hdescriptor h
    · exact .inr (.inr (.inl h.symm))
    · exact .inr (.inr (.inr ⟨descriptor, hdescriptor ▸ hfound, h.imp_right fun h => h.symm⟩))
  · exact .inr (.inl fun heq => hdescriptor heq.symm)

theorem classifyOrdered_isOk_iff (x y : Claim) :
    (∃ found, classifyOrdered engine x y = .ok found) ↔ Comparable engine x y := by
  unfold classifyOrdered Comparable
  by_cases hdiffer : x.content = y.content ∨ x.descriptor ≠ y.descriptor ∨
      x.semanticKey ≠ y.semanticKey
  · rw [if_pos hdiffer]
    refine iff_of_true ⟨[], rfl⟩ ?_
    tauto
  · rw [if_neg hdiffer]
    simp only [not_or, not_not] at hdiffer
    obtain ⟨hcontent, hdescriptor, hkey⟩ := hdiffer
    rw [or_iff_right hcontent, or_iff_right (not_not.2 hdescriptor), or_iff_right (not_not.2 hkey)]
    simp only [bind_eq_ok_iff]
    constructor
    · intro ⟨found, descriptor, hfound, h⟩
      refine ⟨descriptor, hfound, ?_⟩
      split_ifs at h with hmerge
      · exact .inl hmerge
      all_goals
        rw [bind_eq_ok_iff] at h
        obtain ⟨left, hleft, h⟩ := h
        rw [bind_eq_ok_iff] at h
        obtain ⟨right, hright, h⟩ := h
        refine .inr ⟨left, right, hleft, hright, ?_⟩
        by_cases heq : left = right
        · exact .inl heq
        · rw [if_neg heq, bind_eq_ok_iff] at h
          obtain ⟨overlap, hoverlap, -⟩ := h
          exact .inr ⟨overlap, hoverlap⟩
    · intro ⟨descriptor, hfound, h⟩
      by_cases hmerge : descriptor.merge = .functionalAssertion
      · obtain ⟨left, right, hleft, hright, h⟩ := h.resolve_left (not_not.2 hmerge)
        by_cases heq : left = right
        · refine ⟨[], descriptor, hfound, ?_⟩
          rw [if_neg (not_not.2 hmerge), hleft, ok_bind, hright, ok_bind, if_pos heq]
        · obtain ⟨overlap, hoverlap⟩ := h.resolve_left heq
          rw [exists_comm]
          refine ⟨descriptor, ?_⟩
          rw [exists_and_left, if_neg (not_not.2 hmerge), hleft, ok_bind, hright, ok_bind, if_neg heq,
            hoverlap, ok_bind]
          refine ⟨hfound, ?_⟩
          split_ifs
          · exact ⟨_, rfl⟩
          · exact ⟨_, rfl⟩
          · exact ⟨_, rfl⟩
      · refine ⟨[], descriptor, hfound, ?_⟩
        rw [if_pos hmerge]

theorem classifyPair_isOk_iff (x y : Claim) :
    (∃ found, classifyPair engine x y = .ok found) ↔
      Projected x ∧ Projected y ∧ Comparable engine x y := by
  unfold classifyPair
  constructor
  · intro ⟨found, h⟩
    rw [bind_eq_ok_iff] at h
    obtain ⟨swapped, hless, h⟩ := h
    unfold claimOccurrenceLess at hless
    rw [bind_eq_ok_iff] at hless
    obtain ⟨right, hright, hless⟩ := hless
    rw [bind_eq_ok_iff] at hless
    obtain ⟨left, hleft, -⟩ := hless
    refine ⟨⟨left, hleft⟩, ⟨right, hright⟩, ?_⟩
    split_ifs at h
    · exact ((classifyOrdered_isOk_iff y x).1 ⟨found, h⟩).symm
    · exact (classifyOrdered_isOk_iff x y).1 ⟨found, h⟩
  · intro ⟨⟨left, hleft⟩, ⟨right, hright⟩, h⟩
    rw [claimOccurrenceLess, hright, ok_bind, hleft, ok_bind, ok_bind]
    split_ifs
    · exact (classifyOrdered_isOk_iff y x).2 h.symm
    · exact (classifyOrdered_isOk_iff x y).2 h

/-! ## Representatives -/

theorem Represents.symm {other value : Claim} (h : Represents engine other value) :
    Represents engine value other := by
  obtain ⟨descriptor, hfound, hsame⟩ := h.same
  refine ⟨⟨descriptor, hsame.descriptor ▸ hfound, hsame.symm⟩, ?_⟩
  rcases h.projected with heq | ⟨hother, hvalue⟩
  · exact .inl heq.symm
  · exact .inr ⟨hvalue, hother⟩

/-- The digest of a conflict payload is the same for a representative. -/
theorem Represents.functionalPayloadDigest {other value : Claim}
    (h : Represents engine other value) {descriptor : RelationDescriptor}
    (hfound : engine.requireId value.descriptor = .ok descriptor)
    (hmerge : descriptor.merge = .functionalAssertion) :
    functionalPayloadDigest hash descriptor other.row =
      functionalPayloadDigest hash descriptor value.row := by
  obtain ⟨found, hother, hsame⟩ := h.same
  obtain rfl := Except.ok.inj (hfound.symm.trans hother)
  unfold Sdk.functionalPayloadDigest
  rw [hsame.conflictPayload (engine.valid _ (requireId_eq_ok hfound).2) hmerge]

theorem Represents.comparable {x x' y y' : Claim} (hx : Represents engine x' x)
    (hy : Represents engine y' y) (h : Comparable engine x y) : Comparable engine x' y' := by
  obtain ⟨dx, hdx, hsamex⟩ := hx.same
  obtain ⟨dy, hdy, hsamey⟩ := hy.same
  unfold Comparable
  rw [← hsamex.content, ← hsamey.content, ← hsamex.descriptor, ← hsamey.descriptor,
    ← hsamex.semanticKey, ← hsamey.semanticKey]
  by_cases hdescriptor : x.descriptor = y.descriptor
  · refine h.imp_right fun h => h.imp_right fun h => h.imp_right ?_
    intro ⟨descriptor, hfound, h⟩
    refine ⟨descriptor, hfound, ?_⟩
    by_cases hmerge : descriptor.merge = .functionalAssertion
    · refine .inr ?_
      unfold PayloadsComparable
      rw [hx.functionalPayloadDigest hfound hmerge,
        hy.functionalPayloadDigest (hdescriptor ▸ hfound) hmerge, ← hsamex.presence,
        ← hsamey.presence]
      exact h.resolve_left (not_not.2 hmerge)
    · exact .inl hmerge
  · exact .inr (.inl hdescriptor)

/-! ## All pairs -/

theorem isFunctional_congr {x y : Claim} (h : functionalKey x = functionalKey y) :
    isFunctional engine x = isFunctional engine y := by
  unfold isFunctional
  rw [show x.descriptor = y.descriptor from congrArg Prod.fst h]

/-- The new claims can be compared with each other exactly when all pairs of one key are
    comparable. -/
theorem classifyAdded_isOk_iff {claims : List Claim} (hprojected : ∀ x ∈ claims, Projected x) :
    (∃ found, classifyAdded engine (addedByKey engine claims) = .ok found) ↔
      ∀ x ∈ claims, ∀ y ∈ claims, isFunctional engine x = true →
        functionalKey x = functionalKey y → Comparable engine x y := by
  have hsymm : ∀ x y : Claim, ¬ Comparable engine x y → ¬ Comparable engine y x :=
    fun x y h hyx => h hyx.symm
  have hirrefl : ∀ x : Claim, ¬ ¬ Comparable engine x x := fun x h => h (.inl rfl)
  unfold classifyAdded
  rw [collect_isOk_iff]
  constructor
  · intro h x hx y hy hfunctional hkey
    obtain ⟨group, hgroup, -, hmem⟩ := exists_group hx hfunctional
    have hpairs := (collect_isOk_iff _ _).1 (h group hgroup)
    by_contra hnot
    -- the pair is compared in one order or the other
    obtain ⟨pair, hpair, hnot⟩ := (exists_mem_pairs_iff hsymm hirrefl group.2).2
      ⟨x, (hmem x).2 ⟨hx, hfunctional, rfl⟩, y,
        (hmem y).2 ⟨hy, isFunctional_congr hkey ▸ hfunctional, hkey.symm⟩, hnot⟩
    exact hnot ((classifyPair_isOk_iff _ _).1 (hpairs pair hpair)).2.2
  · intro h group hgroup
    rw [collect_isOk_iff]
    intro pair hpair
    obtain ⟨hx, hy⟩ := mem_of_mem_pairs hpair
    rw [((mem_addedByKey_iff claims group).1 hgroup).2] at hx hy
    simp only [List.mem_filter, decide_eq_true_iff] at hx hy
    exact (classifyPair_isOk_iff _ _).2 ⟨hprojected _ hx.1.1, hprojected _ hy.1.1,
      h _ hx.1.1 _ hy.1.1 hx.1.2 (hx.2.trans hy.2.symm)⟩

/-- The same for new and existing claims. -/
theorem classifyExisting_isOk_iff {claims prior : List Claim} :
    (∃ found, classifyExisting engine (addedByKey engine claims) prior = .ok found) ↔
      ∀ x ∈ claims, ∀ y ∈ prior, isFunctional engine x = true →
        functionalKey x = functionalKey y → Projected x ∧ Projected y ∧ Comparable engine x y := by
  unfold classifyExisting
  simp only [collect_isOk_iff, findGroup_groupBy, List.mem_filter, decide_eq_true_iff]
  constructor
  · intro h x hx y hy hfunctional hkey
    obtain ⟨group, hgroup, hgroupKey, hmem⟩ := exists_group hx hfunctional
    exact (classifyPair_isOk_iff _ _).1 (h group hgroup x ((hmem x).2 ⟨hx, hfunctional, rfl⟩) y
      ⟨hy, hkey.symm.trans hgroupKey.symm⟩)
  · intro h group hgroup x hx y hy
    rw [((mem_addedByKey_iff claims group).1 hgroup).2] at hx
    simp only [List.mem_filter, decide_eq_true_iff] at hx
    exact (classifyPair_isOk_iff _ _).2
      (h x hx.1.1 y hy.1 hx.1.2 (hx.2.trans hy.2.symm))

end Comparable

end Cxxlens.Sdk
