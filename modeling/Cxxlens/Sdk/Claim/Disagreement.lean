import Cxxlens.Foundation.Framing
import Cxxlens.Sdk.Claim.Identity

set_option autoImplicit false

/-! # When two claims disagree

`Disagree` says when a pair of claims is reported, and `conflictRecord` and `differentialRecord` what
is reported. `classify_pair` computes them, and both depend only on what the contents determine. -/

namespace Cxxlens.Sdk

open Fallible Collections
open Framing (framed)

/-! ## Sorted ranges -/

theorem sortedUnique_iff (values : List Bytes) :
    sortedUnique values = true ↔ values.Pairwise (· < ·) := by
  rw [sortedUnique, decide_eq_true_iff]

/-- Elements below the head of an ascending list are not in it. -/
theorem mem_dropWhile_lt {item : Bytes} {others : List Bytes} (h : others.Pairwise (· < ·))
    (wanted : Bytes) (hwanted : item ≤ wanted) :
    wanted ∈ others.dropWhile (fun other => decide (other < item)) ↔ wanted ∈ others := by
  induction others with
  | nil => exact Iff.rfl
  | cons other others ih =>
      rw [List.dropWhile_cons]
      split_ifs with hlt
      · rw [ih (List.pairwise_cons.1 h).2, List.mem_cons]
        have hne : wanted ≠ other := fun heq =>
          absurd (of_decide_eq_true hlt) (not_lt.2 (heq ▸ hwanted))
        simp [hne]
      · exact Iff.rfl

/-- The intersection of ascending lists. -/
theorem setIntersection_eq {left right : List Bytes} (hleft : left.Pairwise (· < ·))
    (hright : right.Pairwise (· < ·)) :
    setIntersection left right = left.filter (fun fragment => fragment ∈ right) := by
  induction left generalizing right with
  | nil => rfl
  | cons item rest ih =>
      obtain ⟨hitem, hrest⟩ := List.pairwise_cons.1 hleft
      have hsuffix := hright.sublist (List.dropWhile_sublist fun other => decide (other < item))
      have hmem : ∀ wanted, item ≤ wanted →
          (wanted ∈ right.dropWhile (fun other => decide (other < item)) ↔ wanted ∈ right) :=
        fun wanted => mem_dropWhile_lt hright wanted
      have hhead : ∀ other ∈ (right.dropWhile fun other => decide (other < item)).head?,
          ¬ other < item := by
        intro other hother hlt
        have hnot := List.head?_dropWhile_not (fun other => decide (other < item)) right
        rw [hother] at hnot
        simp [hlt] at hnot
      have hfilter : ∀ suffix : List Bytes, (∀ wanted, item < wanted →
          (wanted ∈ suffix ↔ wanted ∈ right)) →
          rest.filter (fun fragment => fragment ∈ suffix) =
            rest.filter (fun fragment => fragment ∈ right) := by
        intro suffix hsame
        refine List.filter_congr ?_
        intro fragment hfragment
        rw [decide_eq_decide]
        exact hsame fragment (hitem fragment hfragment)
      rw [setIntersection, List.filter_cons]
      split
      · -- nothing is left to meet
        rename_i hnil
        have hnone : ∀ wanted, item ≤ wanted → wanted ∉ right := by
          intro wanted hle hwanted
          rw [← hmem wanted hle, hnil] at hwanted
          exact absurd hwanted (by simp)
        rw [if_neg (by simpa using hnone item le_rfl), eq_comm, List.filter_eq_nil_iff]
        intro fragment hfragment
        simpa using hnone fragment (hitem fragment hfragment).le
      · rename_i other others hcons
        rw [hcons] at hsuffix hmem hhead
        obtain ⟨hother, hothers⟩ := List.pairwise_cons.1 hsuffix
        have hge := hhead other rfl
        by_cases hlt : item < other
        · -- the item is not among the others
          have hnot : item ∉ right := by
            rw [← hmem item le_rfl, List.mem_cons, not_or]
            exact ⟨hlt.ne, fun hin => absurd (hother item hin) hlt.not_gt⟩
          rw [if_pos hlt, ih hrest hsuffix, if_neg (by simpa using hnot)]
          exact hfilter _ fun wanted hwanted => hmem wanted hwanted.le
        · obtain rfl : item = other := le_antisymm (not_lt.1 hge) (not_lt.1 hlt)
          have hin : item ∈ right := (hmem item le_rfl).1 List.mem_cons_self
          rw [if_neg hlt, ih hrest hothers, if_pos (by simpa using hin)]
          congr 1
          refine hfilter _ ?_
          intro wanted hwanted
          rw [← hmem wanted hwanted.le, List.mem_cons]
          simp [hwanted.ne']

theorem pairwise_lt_ext {left right : List Bytes} (hleft : left.Pairwise (· < ·))
    (hright : right.Pairwise (· < ·)) (h : ∀ item, item ∈ left ↔ item ∈ right) : left = right := by
  have hnodup : ∀ {items : List Bytes}, items.Pairwise (· < ·) → items.Nodup :=
    fun hitems => hitems.imp fun hlt => hlt.ne
  refine List.Perm.eq_of_pairwise ?_ hleft hright ?_
  · intro a b ha hb hab hba
    exact absurd hab hba.not_gt
  · exact (List.perm_ext_iff_of_nodup (hnodup hleft) (hnodup hright)).2 h

theorem canonicalStrings_pairwise (values : List Bytes) :
    (canonicalStrings values).Pairwise (· < ·) :=
  sortUnique_pairwise bytesLess_compares (fun _ _ => beq_iff_eq) values

@[simp] theorem mem_canonicalStrings (values : List Bytes) (item : Bytes) :
    item ∈ canonicalStrings values ↔ item ∈ values :=
  mem_sortUnique Function.injective_id (fun _ _ => beq_iff_eq) values item

theorem canonicalStrings_of_pairwise {values : List Bytes} (h : values.Pairwise (· < ·)) :
    canonicalStrings values = values :=
  pairwise_lt_ext (canonicalStrings_pairwise values) h fun _ => mem_canonicalStrings _ _

/-! ## Disagreements -/

section Disagree

variable {hash : Bytes → Bytes} (engine : RelationEngine hash)

/-- Two claims of one functional assertion whose payloads differ while their conditions overlap. -/
structure Disagree (x y : Claim) : Prop where
  descriptor : x.descriptor = y.descriptor
  semanticKey : x.semanticKey = y.semanticKey
  content : x.content ≠ y.content
  payload : ∃ descriptor, engine.requireId x.descriptor = .ok descriptor ∧
    descriptor.merge = .functionalAssertion ∧
    rowTuple x.row descriptor.conflictColumns ≠ rowTuple y.row descriptor.conflictColumns
  «universe» : x.presence.universe = y.presence.universe
  overlap : ∃ fragment ∈ x.presence.fragments, fragment ∈ y.presence.fragments

/-- The fragments two conditions share. -/
def commonFragments (x y : Claim) : List Bytes :=
  x.presence.fragments.filter fun fragment => fragment ∈ y.presence.fragments

/-- The conflict reported for two claims of one interpretation. -/
def conflictRecord (x y : Claim) : ClaimConflict where
  relation := relationOf engine x
  semanticKey := x.semanticKey
  interpretation := x.interpretation
  overlapFragments := commonFragments x y
  assertions := canonicalStrings [x.assertion, y.assertion]
  contents := canonicalStrings [x.content, y.content]

/-- Whether the second claim comes first in the canonical order. -/
def isSwapped (left right : Claim) : Bool :=
  (claimOccurrenceLess right left).toOption.getD false

/-- The disagreement between two ordered claims of different interpretations. -/
def orderedDifferential (first second : Claim) : DifferentialDisagreement where
  relation := relationOf engine first
  semanticKey := first.semanticKey
  leftInterpretation := first.interpretation
  rightInterpretation := second.interpretation
  leftContent := first.content
  rightContent := second.content
  overlapFragments := commonFragments first second

/-- The disagreement reported for two claims of different interpretations: the sides are in the
    canonical order of the claims. -/
def differentialRecord (x y : Claim) : DifferentialDisagreement :=
  if isSwapped x y = true then orderedDifferential engine y x else orderedDifferential engine x y

variable {engine}

theorem Disagree.symm {x y : Claim} (h : Disagree engine x y) : Disagree engine y x := by
  obtain ⟨descriptor, hfound, hmerge, hne⟩ := h.payload
  obtain ⟨fragment, hx, hy⟩ := h.overlap
  exact ⟨h.descriptor.symm, h.semanticKey.symm, h.content.symm,
    ⟨descriptor, h.descriptor ▸ hfound, hmerge, hne.symm⟩, h.universe.symm, fragment, hy, hx⟩

theorem not_disagree_self (x : Claim) : ¬ Disagree engine x x :=
  fun h => h.content rfl

theorem ClaimCondition.fragments_pairwise {condition : ClaimCondition}
    (h : condition.validate = .ok ()) : condition.fragments.Pairwise (· < ·) := by
  rw [ClaimCondition.validate, seq_eq_ok_iff, reject_eq_ok_iff] at h
  rw [← sortedUnique_iff]
  simpa using (Bool.or_eq_false_iff.1 h.1).2

theorem commonFragments_comm {x y : Claim} (hx : x.presence.validate = .ok ())
    (hy : y.presence.validate = .ok ()) : commonFragments x y = commonFragments y x := by
  refine pairwise_lt_ext ((ClaimCondition.fragments_pairwise hx).filter _)
    ((ClaimCondition.fragments_pairwise hy).filter _) ?_
  intro fragment
  rw [commonFragments, commonFragments, List.mem_filter, List.mem_filter, decide_eq_true_iff,
    decide_eq_true_iff]
  exact and_comm

theorem relationOf_eq {x y : Claim} (h : x.descriptor = y.descriptor) :
    relationOf engine x = relationOf engine y := by
  rw [relationOf, relationOf, h]

/-- A conflict has no order. -/
theorem conflictRecord_comm {x y : Claim} (h : Disagree engine x y)
    (hinterpretation : x.interpretation = y.interpretation) (hx : x.presence.validate = .ok ())
    (hy : y.presence.validate = .ok ()) : conflictRecord engine x y = conflictRecord engine y x := by
  have hpair : ∀ a b : Bytes, canonicalStrings [a, b] = canonicalStrings [b, a] := by
    intro a b
    refine pairwise_lt_ext (canonicalStrings_pairwise _) (canonicalStrings_pairwise _) ?_
    intro item
    simp only [mem_canonicalStrings, List.mem_cons, List.not_mem_nil, or_false]
    exact or_comm
  rw [conflictRecord, conflictRecord, relationOf_eq h.descriptor, h.semanticKey, hinterpretation,
    commonFragments_comm hx hy, hpair x.assertion, hpair x.content]

/-! ## The classification -/

/-- What the swapped pair adds to the output. -/
def orderedRecord (engine : RelationEngine hash) (first second : Claim) : Disagreement :=
  if first.interpretation = second.interpretation then
    .conflict
      { relation := relationOf engine first, semanticKey := first.semanticKey,
        interpretation := first.interpretation, overlapFragments := commonFragments first second,
        assertions := [first.assertion, second.assertion],
        contents := [first.content, second.content] }
  else .differential (orderedDifferential engine first second)

/-- Equal conflict payloads are equal digests, and different ones different digests. -/
theorem functionalPayloadDigest_eq_iff {claims : List Claim} (hdigest : NoCollision engine claims)
    {a b : Claim} (hamem : a ∈ claims) (hbmem : b ∈ claims) {descriptor : RelationDescriptor}
    (ha : ValidClaim engine descriptor a) (hb : ValidClaim engine descriptor b) {x y : Bytes}
    (hx : functionalPayloadDigest hash descriptor a.row = .ok x)
    (hy : functionalPayloadDigest hash descriptor b.row = .ok y) :
    x = y ↔ rowTuple a.row descriptor.conflictColumns =
      rowTuple b.row descriptor.conflictColumns := by
  constructor
  · rintro rfl
    have hfields := identityDigest_injOn hdigest
      ⟨a, hamem, descriptor, ha.found, by simp [digestInputs]⟩
      ⟨b, hbmem, descriptor, hb.found, by simp [digestInputs]⟩ hx hy
    exact (List.cons.inj hfields).1
  · intro h
    rw [functionalPayloadDigest, h] at hx
    exact Except.ok.inj (hx.symm.trans hy)

theorem overlap_eq_ok_iff {a b : ClaimCondition} (ha : a.validate = .ok ())
    (hb : b.validate = .ok ()) (fragments : List Bytes) :
    a.overlap b = .ok fragments ↔
      a.universe = b.universe ∧ fragments = a.fragments.filter (fun item => item ∈ b.fragments) := by
  rw [ClaimCondition.overlap, seq_eq_ok_iff, seq_eq_ok_iff, guard_eq_ok_iff, not_not,
    Except.ok.injEq, setIntersection_eq (ClaimCondition.fragments_pairwise ha)
      (ClaimCondition.fragments_pairwise hb)]
  constructor
  · rintro ⟨-, -, huniverse, rfl⟩
    exact ⟨huniverse, rfl⟩
  · rintro ⟨huniverse, rfl⟩
    exact ⟨ha, hb, huniverse, rfl⟩

/-- The classification of an ordered pair, where it succeeds. -/
theorem classifyOrdered_eq_ok {claims : List Claim} (hdigest : NoCollision engine claims)
    {a b : Claim} (hamem : a ∈ claims) (hbmem : b ∈ claims) {da db : RelationDescriptor}
    (ha : ValidClaim engine da a) (hb : ValidClaim engine db b) {found : List Disagreement}
    (h : classifyOrdered engine a b = .ok found) :
    (Disagree engine a b ∧ found = [orderedRecord engine a b]) ∨
      (¬ Disagree engine a b ∧ found = []) := by
  rw [classifyOrdered] at h
  split at h
  · rename_i hdiffer
    refine .inr ⟨?_, (Except.ok.inj h).symm⟩
    intro hdisagree
    rcases hdiffer with hcontent | hdescriptor | hkey
    · exact hdisagree.content hcontent
    · exact hdescriptor hdisagree.descriptor
    · exact hkey hdisagree.semanticKey
  rename_i hsame
  simp only [not_or, not_not] at hsame
  obtain ⟨hcontent, hdescriptor, hkey⟩ := hsame
  obtain rfl : da = db := by
    have hfound := ha.found
    rw [hdescriptor, hb.found] at hfound
    exact (Except.ok.inj hfound).symm
  rw [ha.found, ok_bind] at h
  split at h
  · rename_i hmerge
    refine .inr ⟨?_, (Except.ok.inj h).symm⟩
    intro hdisagree
    obtain ⟨descriptor, hfound, hfunctional, -⟩ := hdisagree.payload
    rw [ha.found] at hfound
    exact hmerge (Except.ok.inj hfound ▸ hfunctional)
  rename_i hmerge
  rw [not_not] at hmerge
  rw [bind_eq_ok_iff] at h
  obtain ⟨x, hx, h⟩ := h
  rw [bind_eq_ok_iff] at h
  obtain ⟨y, hy, h⟩ := h
  have hpayload := functionalPayloadDigest_eq_iff hdigest hamem hbmem ha hb hx hy
  split at h
  · rename_i heq
    refine .inr ⟨?_, (Except.ok.inj h).symm⟩
    intro hdisagree
    obtain ⟨descriptor, hfound, -, hne⟩ := hdisagree.payload
    rw [ha.found] at hfound
    exact hne (Except.ok.inj hfound ▸ hpayload.1 heq)
  rename_i hne
  rw [bind_eq_ok_iff] at h
  obtain ⟨overlap, hoverlap, h⟩ := h
  obtain ⟨huniverse, rfl⟩ := (overlap_eq_ok_iff ha.presence hb.presence _).1 hoverlap
  split at h
  · rename_i hempty
    refine .inr ⟨?_, (Except.ok.inj h).symm⟩
    intro hdisagree
    obtain ⟨fragment, hfragment, hother⟩ := hdisagree.overlap
    rw [List.filter_eq_nil_iff] at hempty
    exact hempty fragment hfragment (by simpa using hother)
  rename_i hnonempty
  obtain ⟨fragment, hfragment⟩ := List.exists_mem_of_ne_nil _ hnonempty
  rw [List.mem_filter, decide_eq_true_iff] at hfragment
  have hdisagree : Disagree engine a b :=
    ⟨hdescriptor, hkey, hcontent, ⟨da, ha.found, hmerge, fun heq => hne (hpayload.2 heq)⟩,
      huniverse, fragment, hfragment.1, hfragment.2⟩
  have hrelation : relationOf engine a = da.name := by
    rw [relationOf, ha.found]
  refine .inl ⟨hdisagree, ?_⟩
  rw [orderedRecord, orderedDifferential, hrelation]
  split at h
  · rename_i hinterpretation
    rw [if_pos hinterpretation]
    exact (Except.ok.inj h).symm
  · rename_i hinterpretation
    rw [if_neg hinterpretation]
    exact (Except.ok.inj h).symm

end Disagree

end Cxxlens.Sdk
