import Cxxlens.Sdk.Claim.Pairs

set_option autoImplicit false

/-! # What a commit reports

The claims that `commit` keeps stand for all that were added or existed before, so the disagreements
it reports are those of all pairs. -/

namespace Cxxlens.Sdk

open Fallible Collections

/-! ## Occurrences -/

/-- The bytes of a projection, `[]` where there is none. -/
def occurrenceBytes (value : Claim) : Bytes :=
  (claimOccurrenceProjection value).toOption.getD []

theorem projection_eq {value : Claim} (h : Projected value) :
    claimOccurrenceProjection value = .ok (occurrenceBytes value) := by
  obtain ⟨bytes, hbytes⟩ := h
  rw [occurrenceBytes, hbytes]
  rfl

theorem projectOccurrences_eq_ok_iff (values : List Claim) (keys : List (Bytes × Claim)) :
    projectOccurrences values = .ok keys ↔
      (∀ value ∈ values, Projected value) ∧
        keys = values.map fun value => (occurrenceBytes value, value) := by
  induction values generalizing keys with
  | nil => simp [projectOccurrences, collect, eq_comm]
  | cons value rest ih =>
      rw [projectOccurrences, collect, bind_eq_ok_iff, List.forall_mem_cons, List.map_cons]
      constructor
      · rintro ⟨first, hfirst, h⟩
        rw [bind_eq_ok_iff] at hfirst h
        obtain ⟨bytes, hbytes, hfirst⟩ := hfirst
        obtain ⟨others, hothers, h⟩ := h
        obtain ⟨hall, rfl⟩ := (ih others).1 hothers
        obtain rfl := Except.ok.inj hfirst
        refine ⟨⟨⟨bytes, hbytes⟩, hall⟩, (Except.ok.inj h).symm.trans ?_⟩
        rw [occurrenceBytes, hbytes]
        rfl
      · rintro ⟨⟨hvalue, hall⟩, rfl⟩
        refine ⟨[(occurrenceBytes value, value)], ?_, ?_⟩
        · rw [projection_eq hvalue, ok_bind]
        · rw [← projectOccurrences, (ih _).2 ⟨hall, rfl⟩, ok_bind]
          rfl

/-- The order of `sort_claim_occurrences`. -/
def occurrenceLess (left right : Bytes × Claim) : Bool :=
  bytesLess left.1 right.1

theorem sortClaimOccurrences_eq_ok_iff (values ordered : List Claim) :
    sortClaimOccurrences values = .ok ordered ↔
      (∀ value ∈ values, Projected value) ∧
        ordered = (Sorting.sortBy occurrenceLess
          (values.map fun value => (occurrenceBytes value, value))).map Prod.snd := by
  rw [sortClaimOccurrences, bind_eq_ok_iff]
  constructor
  · rintro ⟨keys, hkeys, h⟩
    obtain ⟨hall, rfl⟩ := (projectOccurrences_eq_ok_iff _ _).1 hkeys
    exact ⟨hall, (Except.ok.inj h).symm⟩
  · rintro ⟨hall, rfl⟩
    exact ⟨_, (projectOccurrences_eq_ok_iff _ _).2 ⟨hall, rfl⟩, rfl⟩

theorem sortClaimOccurrences_perm {values ordered : List Claim}
    (h : sortClaimOccurrences values = .ok ordered) : ordered.Perm values := by
  obtain ⟨-, rfl⟩ := (sortClaimOccurrences_eq_ok_iff _ _).1 h
  have hperm := (Sorting.sortBy_perm occurrenceLess
    (values.map fun value => (occurrenceBytes value, value))).map Prod.snd
  rwa [List.map_map, show (Prod.snd ∘ fun value : Claim => (occurrenceBytes value, value)) = id
    from rfl, List.map_id] at hperm

/-- Two claims with one projection. -/
def SameOccurrence (a b : Claim) : Prop :=
  ∃ bytes, claimOccurrenceProjection a = .ok bytes ∧ claimOccurrenceProjection b = .ok bytes

theorem SameOccurrence.symm {a b : Claim} (h : SameOccurrence a b) : SameOccurrence b a := by
  obtain ⟨bytes, ha, hb⟩ := h
  exact ⟨bytes, hb, ha⟩

theorem SameOccurrence.trans {a b c : Claim} (h : SameOccurrence a b) (h' : SameOccurrence b c) :
    SameOccurrence a c := by
  obtain ⟨x, ha, hb⟩ := h
  obtain ⟨y, hb', hc⟩ := h'
  obtain rfl := Except.ok.inj (hb.symm.trans hb')
  exact ⟨x, ha, hc⟩

theorem sameClaimOccurrence_iff {a b : Claim} (ha : Projected a) (hb : Projected b) :
    ∃ same, sameClaimOccurrence a b = .ok same ∧ (same = true ↔ SameOccurrence a b) := by
  obtain ⟨x, hx⟩ := ha
  obtain ⟨y, hy⟩ := hb
  refine ⟨x == y, ?_, ?_⟩
  · rw [sameClaimOccurrence, hx, ok_bind, hy, ok_bind]
  · rw [beq_iff_eq]
    constructor
    · rintro rfl
      exact ⟨x, hx, hy⟩
    · rintro ⟨bytes, hbytes, hbytes'⟩
      rw [hx] at hbytes
      rw [hy] at hbytes'
      exact (Except.ok.inj hbytes).trans (Except.ok.inj hbytes').symm

section Commit

variable {hash : Bytes → Bytes} {engine : RelationEngine hash}

/-! ## Kept claims -/

theorem mem_of_mem_keepOccurrences {values : List Claim} :
    ∀ {last : Option Claim} {kept : List Claim}, keepOccurrences engine last values = .ok kept →
      ∀ value ∈ kept, value ∈ values := by
  induction values with
  | nil =>
      intro last kept h value hvalue
      obtain rfl := Except.ok.inj h
      exact hvalue
  | cons head rest ih =>
      intro last kept h value hvalue
      rw [keepOccurrences, bind_eq_ok_iff] at h
      obtain ⟨descriptor, -, h⟩ := h
      rw [bind_eq_ok_iff] at h
      obtain ⟨duplicate, -, h⟩ := h
      split at h
      · exact List.mem_cons_of_mem _ (ih h value hvalue)
      · rw [bind_eq_ok_iff] at h
        obtain ⟨others, hothers, h⟩ := h
        obtain rfl := Except.ok.inj h
        rcases List.mem_cons.1 hvalue with rfl | hvalue
        · exact List.mem_cons_self
        · exact List.mem_cons_of_mem _ (ih hothers value hvalue)

/-- Every claim has the occurrence of one that is kept. -/
theorem exists_mem_keepOccurrences {values : List Claim} (hall : ∀ value ∈ values, Projected value) :
    ∀ {last : Option Claim} {kept : List Claim}, keepOccurrences engine last values = .ok kept →
      ∀ value ∈ values, (∃ other ∈ last, SameOccurrence other value) ∨
        ∃ other ∈ kept, SameOccurrence other value := by
  induction values with
  | nil =>
      intro last kept h value hvalue
      exact absurd hvalue (by simp)
  | cons head rest ih =>
      intro last kept h value hvalue
      rw [List.forall_mem_cons] at hall
      rw [keepOccurrences, bind_eq_ok_iff] at h
      obtain ⟨descriptor, -, h⟩ := h
      rw [bind_eq_ok_iff] at h
      obtain ⟨duplicate, hduplicate, h⟩ := h
      have hself : SameOccurrence head head :=
        ⟨_, projection_eq hall.1, projection_eq hall.1⟩
      split at h
      · rename_i hsame
        obtain ⟨other, rfl, hother⟩ : ∃ other, last = some other ∧ SameOccurrence other head := by
          cases last with
          | none => exact absurd (Except.ok.inj hduplicate) (by simp [hsame])
          | some other =>
              rw [isDuplicate] at hduplicate
              split at hduplicate
              · exact absurd (Except.ok.inj hduplicate) (by simp [hsame])
              · rw [sameClaimOccurrence, bind_eq_ok_iff] at hduplicate
                obtain ⟨x, hx, hduplicate⟩ := hduplicate
                rw [bind_eq_ok_iff] at hduplicate
                obtain ⟨y, hy, hduplicate⟩ := hduplicate
                rw [← Except.ok.inj hduplicate, beq_iff_eq] at hsame
                exact ⟨other, rfl, x, hx, hsame ▸ hy⟩
        rcases List.mem_cons.1 hvalue with rfl | hvalue
        · exact .inl ⟨other, rfl, hother⟩
        · exact ih hall.2 h value hvalue
      · rw [bind_eq_ok_iff] at h
        obtain ⟨others, hothers, h⟩ := h
        obtain rfl := Except.ok.inj h
        rcases List.mem_cons.1 hvalue with rfl | hvalue
        · exact .inr ⟨_, List.mem_cons_self, hself⟩
        · rcases ih hall.2 hothers value hvalue with ⟨other, hother, hsame⟩ | ⟨other, hother, hsame⟩
          · obtain rfl := Option.some.inj hother
            exact .inr ⟨_, List.mem_cons_self, hsame⟩
          · exact .inr ⟨other, List.mem_cons_of_mem _ hother, hsame⟩

/-- The existing claims that are compared stand for all of them. -/
theorem orderedExisting_spec {existing prior : List Claim}
    (h : orderedExisting existing = .ok prior) :
    (∀ value ∈ prior, value ∈ existing) ∧
      ∀ value ∈ existing, ∃ other ∈ prior, other.content = value.content ∧
        (other = value ∨ (Projected other ∧ Projected value)) := by
  rw [orderedExisting, bind_eq_ok_iff] at h
  obtain ⟨ordered, hordered, h⟩ := h
  obtain rfl := Except.ok.inj h
  have hunique : ∀ value ∈ ordered, ∃ other ∈ unique (fun left right : Claim =>
      left.content == right.content) ordered, other.content = value.content :=
    fun value hvalue => exists_mem_unique (fun _ _ => beq_iff_eq) hvalue
  rw [sortExisting] at hordered
  split at hordered
  · rename_i hshort
    obtain rfl := Except.ok.inj hordered
    refine ⟨fun value hvalue => mem_of_mem_unique hvalue, ?_⟩
    intro value hvalue
    obtain ⟨other, hother, hcontent⟩ := hunique value hvalue
    refine ⟨other, hother, hcontent, .inl ?_⟩
    have hmem := mem_of_mem_unique hother
    match existing, hshort with
    | [single], _ => rw [List.mem_singleton.1 hmem, List.mem_singleton.1 hvalue]
  · have hperm := sortClaimOccurrences_perm hordered
    have hall := ((sortClaimOccurrences_eq_ok_iff _ _).1 hordered).1
    refine ⟨fun value hvalue => hperm.mem_iff.1 (mem_of_mem_unique hvalue), ?_⟩
    intro value hvalue
    obtain ⟨other, hother, hcontent⟩ := hunique value (hperm.mem_iff.2 hvalue)
    exact ⟨other, hother, hcontent,
      .inr ⟨hall other (hperm.mem_iff.1 (mem_of_mem_unique hother)), hall value hvalue⟩⟩

/-! ## Classified pairs -/

/-- Every claim has passed validation. -/
def AllValid (engine : RelationEngine hash) (claims : List Claim) : Prop :=
  ∀ value ∈ claims, ∃ descriptor, ValidClaim engine descriptor value

theorem isFunctional_of_disagree {x y : Claim} (h : Disagree engine x y) :
    isFunctional engine x = true := by
  obtain ⟨descriptor, hfound, hmerge, -⟩ := h.payload
  rw [isFunctional, hfound]
  exact beq_iff_eq.2 hmerge

theorem mem_addedByKey_iff (claims : List Claim) (group : (Bytes × Bytes) × List Claim) :
    group ∈ addedByKey engine claims ↔
      group.1 ∈ (claims.filter (isFunctional engine)).map functionalKey ∧
        group.2 = (claims.filter (isFunctional engine)).filter
          (fun value => functionalKey value = group.1) := by
  rw [addedByKey, Sorting.mem_sortBy, mem_groupBy_iff]

/-- The group of a functional claim. -/
theorem exists_group {claims : List Claim} {x : Claim} (hx : x ∈ claims)
    (hfunctional : isFunctional engine x = true) :
    ∃ group ∈ addedByKey engine claims, group.1 = functionalKey x ∧
      ∀ y, y ∈ group.2 ↔ y ∈ claims ∧ isFunctional engine y = true ∧
        functionalKey y = functionalKey x := by
  refine ⟨(functionalKey x, (claims.filter (isFunctional engine)).filter
    (fun value => functionalKey value = functionalKey x)), ?_, rfl, ?_⟩
  · rw [mem_addedByKey_iff]
    exact ⟨List.mem_map_of_mem (List.mem_filter.2 ⟨hx, hfunctional⟩), rfl⟩
  · intro y
    simp only [List.mem_filter, decide_eq_true_iff, and_assoc]

theorem mem_claims_of_mem_group {claims : List Claim} {group : (Bytes × Bytes) × List Claim}
    (hgroup : group ∈ addedByKey engine claims) {x : Claim} (hx : x ∈ group.2) : x ∈ claims := by
  rw [((mem_addedByKey_iff claims group).1 hgroup).2] at hx
  exact List.mem_of_mem_filter (List.mem_of_mem_filter hx)

theorem functionalKey_eq_of_disagree {x y : Claim} (h : Disagree engine x y) :
    functionalKey x = functionalKey y := by
  rw [functionalKey, functionalKey, h.descriptor, h.semanticKey]

/-- Two new claims that disagree are reported, and nothing else is in this loop. -/
theorem mem_classifyAdded_iff {claims : List Claim} (hvalid : AllValid engine claims)
    (hdigest : NoCollision engine claims) {found : List Disagreement}
    (h : classifyAdded engine (addedByKey engine claims) = .ok found) (d : Disagreement) :
    d ∈ found ↔ ∃ x ∈ claims, ∃ y ∈ claims, Disagree engine x y ∧ Projected x ∧ Projected y ∧
      d = pairRecord engine x y := by
  obtain ⟨hall, hmem⟩ := collect_eq_ok h
  have hpair : ∀ group ∈ addedByKey engine claims, ∀ pair ∈ pairs group.2,
      ∃ returned, classifyPair engine pair.1 pair.2 = .ok returned ∧
        ((Disagree engine pair.1 pair.2 ∧ Projected pair.1 ∧ Projected pair.2 ∧
            returned = [pairRecord engine pair.1 pair.2]) ∨
          (¬ Disagree engine pair.1 pair.2 ∧ returned = [])) := by
    intro group hgroup pair hpair
    obtain ⟨returned, hreturned⟩ := hall group hgroup
    obtain ⟨found, hfound⟩ := (collect_eq_ok hreturned).1 pair hpair
    obtain ⟨hx, hy⟩ := mem_of_mem_pairs hpair
    have hx := mem_claims_of_mem_group hgroup hx
    have hy := mem_claims_of_mem_group hgroup hy
    obtain ⟨dx, hdx⟩ := hvalid _ hx
    obtain ⟨dy, hdy⟩ := hvalid _ hy
    exact ⟨found, hfound, classifyPair_eq_ok hdigest hx hy hdx hdy hfound⟩
  rw [hmem]
  constructor
  · rintro ⟨group, hgroup, returned, hreturned, hd⟩
    rw [(collect_eq_ok hreturned).2] at hd
    obtain ⟨pair, hin, found, hfound, hd⟩ := hd
    obtain ⟨returned', hreturned', hspec⟩ := hpair group hgroup pair hin
    obtain rfl := Except.ok.inj (hfound.symm.trans hreturned')
    rcases hspec with ⟨hdis, hx, hy, rfl⟩ | ⟨-, rfl⟩
    · obtain ⟨hxmem, hymem⟩ := mem_of_mem_pairs hin
      exact ⟨pair.1, mem_claims_of_mem_group hgroup hxmem, pair.2,
        mem_claims_of_mem_group hgroup hymem, hdis, hx, hy, List.mem_singleton.1 hd⟩
    · exact absurd hd (by simp)
  · rintro ⟨x, hx, y, hy, hdis, hpx, hpy, rfl⟩
    obtain ⟨group, hgroup, -, hgroupmem⟩ := exists_group hx (isFunctional_of_disagree hdis)
    have hsymm : ∀ a b : Claim, (Disagree engine a b ∧ Projected a ∧ Projected b ∧
        pairRecord engine x y = pairRecord engine a b) → (Disagree engine b a ∧ Projected b ∧
          Projected a ∧ pairRecord engine x y = pairRecord engine b a) := by
      rintro a b ⟨hab, ha, hb, heq⟩
      exact ⟨hab.symm, hb, ha, heq.trans (pairRecord_comm hab ha hb)⟩
    -- one of the two orders of the pair is in the loops
    obtain ⟨pair, hin, hdis', -, -, heq⟩ := (exists_mem_pairs_iff hsymm
      (fun a ha => not_disagree_self a ha.1) group.2).2
      ⟨x, (hgroupmem x).2 ⟨hx, isFunctional_of_disagree hdis, rfl⟩, y,
        (hgroupmem y).2 ⟨hy, isFunctional_of_disagree hdis.symm,
          (functionalKey_eq_of_disagree hdis).symm⟩, hdis, hpx, hpy, rfl⟩
    obtain ⟨returned, hreturned⟩ := hall group hgroup
    refine ⟨group, hgroup, returned, hreturned, ?_⟩
    rw [(collect_eq_ok hreturned).2]
    obtain ⟨found, hfound, hspec⟩ := hpair group hgroup pair hin
    refine ⟨pair, hin, found, hfound, ?_⟩
    rcases hspec with ⟨-, -, -, rfl⟩ | ⟨hnot, -⟩
    · rw [heq]
      exact List.mem_singleton_self _
    · exact absurd hdis' hnot

/-- The same for a new and an existing claim. A pair that disagrees has projections. -/
theorem mem_classifyExisting_iff {claims prior all : List Claim} (hvalid : AllValid engine all)
    (hdigest : NoCollision engine all) (hclaims : ∀ x ∈ claims, x ∈ all)
    (hprior : ∀ y ∈ prior, y ∈ all) {found : List Disagreement}
    (h : classifyExisting engine (addedByKey engine claims) prior = .ok found) :
    (∀ x ∈ claims, ∀ y ∈ prior, Disagree engine x y → Projected x ∧ Projected y) ∧
      ∀ d, d ∈ found ↔ ∃ x ∈ claims, ∃ y ∈ prior, Disagree engine x y ∧
        d = pairRecord engine x y := by
  obtain ⟨hall, hmem⟩ := collect_eq_ok h
  have hpair : ∀ group ∈ addedByKey engine claims, ∀ x ∈ group.2,
      ∀ y ∈ findGroup group.1 (groupBy functionalKey prior),
      ∃ returned, classifyPair engine x y = .ok returned ∧
        ((Disagree engine x y ∧ Projected x ∧ Projected y ∧ returned = [pairRecord engine x y]) ∨
          (¬ Disagree engine x y ∧ returned = [])) := by
    intro group hgroup x hx y hy
    obtain ⟨returned, hreturned⟩ := hall group hgroup
    obtain ⟨inner, hinner⟩ := (collect_eq_ok hreturned).1 x hx
    obtain ⟨found, hfound⟩ := (collect_eq_ok hinner).1 y hy
    rw [findGroup_groupBy] at hy
    have hx := hclaims x (mem_claims_of_mem_group hgroup hx)
    have hy := hprior y (List.mem_of_mem_filter hy)
    obtain ⟨dx, hdx⟩ := hvalid _ hx
    obtain ⟨dy, hdy⟩ := hvalid _ hy
    exact ⟨found, hfound, classifyPair_eq_ok hdigest hx hy hdx hdy hfound⟩
  have hloop : ∀ x ∈ claims, ∀ y ∈ prior, Disagree engine x y →
      ∃ group ∈ addedByKey engine claims, x ∈ group.2 ∧
        y ∈ findGroup group.1 (groupBy functionalKey prior) := by
    intro x hx y hy hdis
    obtain ⟨group, hgroup, hkey, hgroupmem⟩ := exists_group hx (isFunctional_of_disagree hdis)
    refine ⟨group, hgroup, (hgroupmem x).2 ⟨hx, isFunctional_of_disagree hdis, rfl⟩, ?_⟩
    rw [findGroup_groupBy, List.mem_filter, decide_eq_true_iff, hkey]
    exact ⟨hy, (functionalKey_eq_of_disagree hdis).symm⟩
  refine ⟨?_, ?_⟩
  · intro x hx y hy hdis
    obtain ⟨group, hgroup, hxin, hyin⟩ := hloop x hx y hy hdis
    obtain ⟨-, -, ⟨-, hpx, hpy, -⟩ | ⟨hnot, -⟩⟩ := hpair group hgroup x hxin y hyin
    · exact ⟨hpx, hpy⟩
    · exact absurd hdis hnot
  · intro d
    rw [hmem]
    constructor
    · rintro ⟨group, hgroup, returned, hreturned, hd⟩
      rw [(collect_eq_ok hreturned).2] at hd
      obtain ⟨x, hx, inner, hinner, hd⟩ := hd
      rw [(collect_eq_ok hinner).2] at hd
      obtain ⟨y, hy, found, hfound, hd⟩ := hd
      obtain ⟨returned', hreturned', hspec⟩ := hpair group hgroup x hx y hy
      obtain rfl := Except.ok.inj (hfound.symm.trans hreturned')
      rw [findGroup_groupBy] at hy
      rcases hspec with ⟨hdis, -, -, rfl⟩ | ⟨-, rfl⟩
      · exact ⟨x, mem_claims_of_mem_group hgroup hx, y, List.mem_of_mem_filter hy, hdis,
          List.mem_singleton.1 hd⟩
      · exact absurd hd (by simp)
    · rintro ⟨x, hx, y, hy, hdis, rfl⟩
      obtain ⟨group, hgroup, hxin, hyin⟩ := hloop x hx y hy hdis
      obtain ⟨returned, hreturned⟩ := hall group hgroup
      obtain ⟨inner, hinner⟩ := (collect_eq_ok hreturned).1 x hxin
      obtain ⟨found, hfound, hspec⟩ := hpair group hgroup x hxin y hyin
      refine ⟨group, hgroup, returned, hreturned, ?_⟩
      rw [(collect_eq_ok hreturned).2]
      refine ⟨x, hxin, inner, hinner, ?_⟩
      rw [(collect_eq_ok hinner).2]
      refine ⟨y, hyin, found, hfound, ?_⟩
      rcases hspec with ⟨-, -, -, rfl⟩ | ⟨hnot, -⟩
      · exact List.mem_singleton_self _
      · exact absurd hdis hnot

end Commit

end Cxxlens.Sdk
