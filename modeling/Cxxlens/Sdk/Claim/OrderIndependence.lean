import Cxxlens.Sdk.Claim.Comparable
import Cxxlens.Sdk.Claim.References

set_option autoImplicit false

/-! # The order of a batch

A commit sorts what it is given by occurrence, and claims with one occurrence are interchangeable in
everything it computes. So the order in which claims are added, and in which the existing claims come,
has no influence on the outcome (`commit_perm`). -/

namespace Cxxlens.Sdk

open Fallible Collections

/-! ## Claims with one occurrence -/

theorem SameOccurrence.descriptor {a b : Claim} (h : SameOccurrence a b) :
    a.descriptor = b.descriptor := by
  obtain ⟨bytes, ha, hb⟩ := h
  have hvalues := congrArg CanonicalValue.tuple (occurrence_eq ha hb)
  simp only [Claim.occurrence, CanonicalValue.fromTuple, List.cons.injEq] at hvalues
  exact fromString_injective hvalues.1

theorem SameOccurrence.content {a b : Claim} (h : SameOccurrence a b) : a.content = b.content := by
  obtain ⟨bytes, ha, hb⟩ := h
  exact content_eq_of_projection ha hb

theorem SameOccurrence.bytes {a b : Claim} (h : SameOccurrence a b) :
    occurrenceBytes a = occurrenceBytes b := by
  obtain ⟨bytes, ha, hb⟩ := h
  unfold occurrenceBytes
  rw [ha, hb]

/-- Lists of claims with the same occurrences, one by one. -/
def SameOccurrences : List Claim → List Claim → Prop :=
  List.Forall₂ SameOccurrence

theorem sameOccurrences_of_map {values : List Claim} :
    ∀ {values' : List Claim}, (∀ value ∈ values, Projected value) →
      (∀ value ∈ values', Projected value) →
      values.map occurrenceBytes = values'.map occurrenceBytes → SameOccurrences values values' := by
  induction values with
  | nil =>
      intro values' hall hall' h
      obtain rfl := List.map_eq_nil_iff.1 h.symm
      exact .nil
  | cons value rest ih =>
      intro values' hall hall' h
      cases values' with
      | nil => exact absurd h (by simp)
      | cons value' rest' =>
          rw [List.forall_mem_cons] at hall hall'
          rw [List.map_cons, List.map_cons, List.cons.injEq] at h
          refine .cons ?_ (ih hall.2 hall'.2 h.2)
          exact ⟨_, projection_eq hall.1, h.1 ▸ projection_eq hall'.1⟩

theorem sort_occurrences (values : List Claim) :
    ((Sorting.sortBy occurrenceLess
      (values.map fun value => (occurrenceBytes value, value))).map Prod.snd).map occurrenceBytes =
        Sorting.sortBy bytesLess (values.map occurrenceBytes) := by
  have hfst : ((Sorting.sortBy occurrenceLess
      (values.map fun value => (occurrenceBytes value, value))).map Prod.snd).map occurrenceBytes =
      (Sorting.sortBy occurrenceLess
        (values.map fun value => (occurrenceBytes value, value))).map Prod.fst := by
    rw [List.map_map]
    refine List.map_congr_left ?_
    intro entry hentry
    rw [Sorting.mem_sortBy, List.mem_map] at hentry
    obtain ⟨value, -, rfl⟩ := hentry
    rfl
  have hless : ∀ a b : Bytes × Claim, bytesLess a.1 b.1 = occurrenceLess a b := fun _ _ => rfl
  rw [hfst, Sorting.map_sortBy Prod.fst hless, List.map_map]
  rfl

/-- Claims in any order are sorted to the same occurrences. -/
theorem sortClaimOccurrences_congr {values values' ordered : List Claim} (hperm : values.Perm values')
    (h : sortClaimOccurrences values = .ok ordered) :
    ∃ ordered', sortClaimOccurrences values' = .ok ordered' ∧ SameOccurrences ordered ordered' := by
  obtain ⟨hall, rfl⟩ := (sortClaimOccurrences_eq_ok_iff _ _).1 h
  have hall' : ∀ value ∈ values', Projected value :=
    fun value hvalue => hall value (hperm.mem_iff.2 hvalue)
  have h' := (sortClaimOccurrences_eq_ok_iff values' _).2 ⟨hall', rfl⟩
  refine ⟨_, h', sameOccurrences_of_map ?_ ?_ ?_⟩
  · intro value hvalue
    exact hall value ((sortClaimOccurrences_perm h).mem_iff.1 hvalue)
  · intro value hvalue
    exact hall' value ((sortClaimOccurrences_perm h').mem_iff.1 hvalue)
  · rw [sort_occurrences, sort_occurrences]
    exact Sorting.sortBy_eq_of_perm bytesLess_compares (hperm.map occurrenceBytes)
      fun a _ b _ hab => hab

section Commit

variable {hash : Bytes → Bytes} {engine : RelationEngine hash}

theorem sameClaimOccurrence_congr {a a' b b' : Claim} (ha : SameOccurrence a a')
    (hb : SameOccurrence b b') : sameClaimOccurrence a b = sameClaimOccurrence a' b' := by
  obtain ⟨x, hx, hx'⟩ := ha
  obtain ⟨y, hy, hy'⟩ := hb
  unfold sameClaimOccurrence
  rw [hx, hx', hy, hy']

/-- The claims that are kept have the same occurrences. -/
theorem keepOccurrences_congr {values values' : List Claim} (h : SameOccurrences values values') :
    ∀ {last last' : Option Claim} {kept : List Claim}, Option.Rel SameOccurrence last last' →
      keepOccurrences engine last values = .ok kept →
      ∃ kept', keepOccurrences engine last' values' = .ok kept' ∧ SameOccurrences kept kept' := by
  induction h with
  | nil =>
      intro last last' kept hlast hkept
      obtain rfl := Except.ok.inj hkept
      exact ⟨[], rfl, .nil⟩
  | cons hvalue hrest ih =>
      rename_i value value' rest rest'
      intro last last' kept hlast hkept
      rw [keepOccurrences, bind_eq_ok_iff] at hkept
      obtain ⟨descriptor, hfound, hkept⟩ := hkept
      rw [bind_eq_ok_iff] at hkept
      obtain ⟨duplicate, hduplicate, hkept⟩ := hkept
      have hduplicate' : isDuplicate descriptor last' value' = .ok duplicate := by
        rw [← hduplicate]
        cases hlast with
        | none => rfl
        | some hlast =>
            unfold isDuplicate
            dsimp only
            rw [sameClaimOccurrence_congr hlast hvalue]
      rw [keepOccurrences, ← hvalue.descriptor, hfound, ok_bind, hduplicate', ok_bind]
      split_ifs at hkept ⊢ with hsame
      · exact ih hlast hkept
      · rw [bind_eq_ok_iff] at hkept
        obtain ⟨others, hothers, hkept⟩ := hkept
        obtain rfl := Except.ok.inj hkept
        obtain ⟨others', hothers', hsameOthers⟩ := ih (.some hvalue) hothers
        exact ⟨value' :: others', by rw [hothers', ok_bind], .cons hvalue hsameOthers⟩

theorem sameOccurrences_projection {values values' : List Claim}
    (h : SameOccurrences values values') :
    values.map claimOccurrenceProjection = values'.map claimOccurrenceProjection := by
  induction h with
  | nil => rfl
  | cons hvalue hrest ih =>
      obtain ⟨bytes, hleft, hright⟩ := hvalue
      rw [List.map_cons, List.map_cons, hleft, hright, ih]

/-! ## The content digest -/

/-- What the records of the claims are made of. -/
def claimKey (entry : Bytes × Claim) : Bytes × Bytes :=
  (entry.1, entry.2.content)

theorem sortedKeys_congr {values values' : List Claim} (h : SameOccurrences values values') :
    ∃ keys keys', projectOccurrences values = .ok keys ∧ projectOccurrences values' = .ok keys' ∧
      (Sorting.sortBy (fun a b => bytesLess a.1 b.1) keys).map claimKey =
        (Sorting.sortBy (fun a b => bytesLess a.1 b.1) keys').map claimKey := by
  have hall : (∀ value ∈ values, Projected value) ∧ (∀ value ∈ values', Projected value) ∧
      (values.map fun value => (occurrenceBytes value, value.content)) =
        values'.map fun value => (occurrenceBytes value, value.content) := by
    induction h with
    | nil => exact ⟨by simp, by simp, rfl⟩
    | cons hvalue hrest ih =>
        obtain ⟨hvalues, hvalues', hkeys⟩ := ih
        refine ⟨List.forall_mem_cons.2 ⟨?_, hvalues⟩, List.forall_mem_cons.2 ⟨?_, hvalues'⟩, ?_⟩
        · obtain ⟨bytes, hleft, -⟩ := hvalue
          exact ⟨bytes, hleft⟩
        · obtain ⟨bytes, -, hright⟩ := hvalue
          exact ⟨bytes, hright⟩
        · rw [List.map_cons, List.map_cons, hkeys, hvalue.bytes, hvalue.content]
  obtain ⟨hvalues, hvalues', hkeys⟩ := hall
  refine ⟨_, _, (projectOccurrences_eq_ok_iff _ _).2 ⟨hvalues, rfl⟩,
    (projectOccurrences_eq_ok_iff _ _).2 ⟨hvalues', rfl⟩, ?_⟩
  have hless : ∀ a b : Bytes × Claim,
      bytesLess (claimKey a).1 (claimKey b).1 = bytesLess a.1 b.1 := fun _ _ => rfl
  have hsort : ∀ keys : List (Bytes × Claim),
      (Sorting.sortBy (fun a b => bytesLess a.1 b.1) keys).map claimKey =
        Sorting.sortBy (fun a b => bytesLess a.1 b.1) (keys.map claimKey) :=
    fun keys => Sorting.map_sortBy claimKey hless keys
  rw [hsort, hsort, List.map_map, List.map_map]
  exact congrArg _ hkeys

/-- The digest sees the occurrences of the claims only. -/
theorem claimBatchContentDigest_congr {values values' : List Claim}
    (h : SameOccurrences values values') (unresolved : List UnresolvedReference)
    (conflicts : List ClaimConflict) (differential : List DifferentialDisagreement) :
    claimBatchContentDigest hash values unresolved conflicts differential =
      claimBatchContentDigest hash values' unresolved conflicts differential := by
  obtain ⟨keys, keys', hkeys, hkeys', hsorted⟩ := sortedKeys_congr h
  have hrecords : (Sorting.sortBy (fun a b => bytesLess a.1 b.1) keys).map
      (fun entry : Bytes × Claim => CanonicalValue.fromTuple
        [.fromString "claim", .fromString entry.2.content, .fromBytes entry.1]) =
      (Sorting.sortBy (fun a b => bytesLess a.1 b.1) keys').map
        (fun entry : Bytes × Claim => CanonicalValue.fromTuple
          [.fromString "claim", .fromString entry.2.content, .fromBytes entry.1]) := by
    have hmap := congrArg (List.map fun key : Bytes × Bytes => CanonicalValue.fromTuple
      [.fromString "claim", .fromString key.2, .fromBytes key.1]) hsorted
    rwa [List.map_map, List.map_map] at hmap
  unfold claimBatchContentDigest claimBatchContentEncoding
  rw [hkeys, hkeys', ok_bind, ok_bind]
  dsimp only
  rw [hrecords]

/-! ## The outcome -/

theorem Represents.functionalKey {other value : Claim} (h : Represents engine other value) :
    functionalKey value = functionalKey other := by
  obtain ⟨descriptor, -, hsame⟩ := h.same
  unfold Sdk.functionalKey
  rw [hsame.descriptor, hsame.semanticKey]

/-- All pairs a commit has to look at are comparable, not only those it compared. -/
theorem Compared.comparable {added existing claims : List Claim} {found : List Disagreement}
    (h : Compared engine added existing claims found)
    (hdigest : NoCollision engine (added ++ existing)) :
    (∀ x ∈ added, Projected x) ∧
      ∀ x ∈ added, ∀ y ∈ added ++ existing, isFunctional engine x = true →
        functionalKey x = functionalKey y → Projected x ∧ Projected y ∧ Comparable engine x y := by
  obtain ⟨hvalid, ⟨ordered, hordered, hclaims⟩, among, prior, against, hamong, hprior, hagainst, -⟩ := h
  have hprojected := ((sortClaimOccurrences_eq_ok_iff _ _).1 hordered).1
  have hsubset : ∀ x ∈ claims, x ∈ added := fun x hx =>
    (sortClaimOccurrences_perm hordered).mem_iff.1 (mem_of_mem_keepOccurrences hclaims x hx)
  obtain ⟨hcover, hcoverall⟩ := exists_representative hvalid hdigest hordered hclaims hprior
  have hadded := (classifyAdded_isOk_iff fun x hx => hprojected x (hsubset x hx)).1 ⟨among, hamong⟩
  have hexisting := classifyExisting_isOk_iff.1 ⟨against, hagainst⟩
  refine ⟨hprojected, ?_⟩
  intro x hx y hy hfunctional hkey
  obtain ⟨x', hx', hrepx⟩ := hcover x hx
  obtain ⟨y', hy', hrepy⟩ := hcoverall y hy
  have hfunctional' : isFunctional engine x' = true :=
    isFunctional_congr hrepx.functionalKey ▸ hfunctional
  have hkey' : functionalKey x' = functionalKey y' := by
    rw [← hrepx.functionalKey, ← hrepy.functionalKey, hkey]
  rcases List.mem_append.1 hy' with hy' | hy'
  · exact ⟨hprojected x hx, hrepy.projected_of (hprojected y' (hsubset y' hy')),
      hrepx.symm.comparable hrepy.symm (hadded x' hx' y' hy' hfunctional' hkey')⟩
  · obtain ⟨-, hpy, hcomparable⟩ := hexisting x' hx' y' hy' hfunctional' hkey'
    exact ⟨hprojected x hx, hrepy.projected_of hpy, hrepx.symm.comparable hrepy.symm hcomparable⟩

theorem orderedExisting_congr {existing existing' prior : List Claim}
    (hperm : existing.Perm existing') (h : orderedExisting existing = .ok prior) :
    ∃ prior', orderedExisting existing' = .ok prior' := by
  unfold orderedExisting at h ⊢
  rw [bind_eq_ok_iff] at h
  obtain ⟨ordered, hordered, -⟩ := h
  unfold sortExisting at hordered ⊢
  rw [← hperm.length_eq]
  split_ifs at hordered ⊢ with hshort
  · exact ⟨_, rfl⟩
  · obtain ⟨ordered', hordered', -⟩ := sortClaimOccurrences_congr hperm hordered
    exact ⟨_, by rw [hordered', ok_bind]⟩

/-- The comparisons get to their end in every order, with the same occurrences. -/
theorem Compared.perm {added added' existing existing' claims : List Claim}
    {found : List Disagreement} (hadded : added.Perm added') (hexisting : existing.Perm existing')
    (hdigest : NoCollision engine (added ++ existing))
    (h : Compared engine added existing claims found) :
    ∃ claims' found', Compared engine added' existing' claims' found' ∧
      SameOccurrences claims claims' := by
  obtain ⟨hprojected, hcomparable⟩ := h.comparable hdigest
  obtain ⟨hvalid, ⟨ordered, hordered, hclaims⟩, among, prior, against, hamong, hprior, hagainst, -⟩ := h
  obtain ⟨ordered', hordered', hsame⟩ := sortClaimOccurrences_congr hadded hordered
  obtain ⟨claims', hclaims', hsameClaims⟩ := keepOccurrences_congr hsame .none hclaims
  obtain ⟨prior', hprior'⟩ := orderedExisting_congr hexisting hprior
  have hsubset : ∀ x ∈ claims', x ∈ added := fun x hx => hadded.mem_iff.2
    ((sortClaimOccurrences_perm hordered').mem_iff.1 (mem_of_mem_keepOccurrences hclaims' x hx))
  have hpriorsubset : ∀ y ∈ prior', y ∈ existing := fun y hy =>
    hexisting.mem_iff.2 ((orderedExisting_spec hprior').1 y hy)
  obtain ⟨among', hamong'⟩ : ∃ found, classifyAdded engine (addedByKey engine claims') = .ok found :=
    (classifyAdded_isOk_iff fun x hx => hprojected x (hsubset x hx)).2
      fun x hx y hy hfunctional hkey => (hcomparable x (hsubset x hx) y
        (List.mem_append_left _ (hsubset y hy)) hfunctional hkey).2.2
  obtain ⟨against', hagainst'⟩ :
      ∃ found, classifyExisting engine (addedByKey engine claims') prior' = .ok found :=
    classifyExisting_isOk_iff.2 fun x hx y hy hfunctional hkey => hcomparable x (hsubset x hx) y
      (List.mem_append_right _ (hpriorsubset y hy)) hfunctional hkey
  refine ⟨claims', among' ++ against', ⟨?_, ⟨ordered', hordered', hclaims'⟩,
    ⟨among', prior', against', hamong', hprior', hagainst', rfl⟩⟩, hsameClaims⟩
  intro value hvalue
  exact hvalid value ((hadded.append hexisting).mem_iff.2 hvalue)

/-- Results that agree, their claims occurrence by occurrence. -/
structure SameResult (left right : ClaimBatchResult) : Prop where
  claims : left.claims.map claimOccurrenceProjection = right.claims.map claimOccurrenceProjection
  unresolved : left.unresolved = right.unresolved
  conflicts : left.conflicts = right.conflicts
  differentialDisagreements : left.differentialDisagreements = right.differentialDisagreements
  contentDigest : left.contentDigest = right.contentDigest

theorem SameResult.symm {left right : ClaimBatchResult} (h : SameResult left right) :
    SameResult right left :=
  ⟨h.claims.symm, h.unresolved.symm, h.conflicts.symm, h.differentialDisagreements.symm,
    h.contentDigest.symm⟩

/-- Records with a canonical order are equal as lists when they are equal as sets. -/
theorem sortUnique_tie_eq {α κ : Type} [DecidableEq α] [LinearOrder κ] {tie : α → κ}
    (htie : Function.Injective tie) {left right : List α} (h : ∀ a, a ∈ left ↔ a ∈ right) :
    sortUnique (fun a b => decide (tie a < tie b)) (· == ·) left =
      sortUnique (fun a b => decide (tie a < tie b)) (· == ·) right :=
  sortUnique_eq_of_mem_iff (fun _ _ => decide_eq_true_iff) htie (same_iff_tie htie) h

theorem commit_congr {added added' existing existing' : List Claim} {result : ClaimBatchResult}
    (hadded : added.Perm added') (hexisting : existing.Perm existing')
    (hdigest : NoCollision engine (added ++ existing))
    (h : commit engine added existing = .ok result) :
    ∃ result', commit engine added' existing' = .ok result' ∧ SameResult result result' := by
  obtain ⟨found, hcompared, hconflicts, hdifferential⟩ := compared_of_commit h
  obtain ⟨hvalid, hvalidExisting, unresolved, -, -, -, -, hunresolved, -, -, -, -, -, hresolved, -, -,
    hcontent⟩ := commit_eq_ok_iff.1 h
  obtain ⟨claims', found', hcompared', hclaims⟩ := hcompared.perm hadded hexisting hdigest
  obtain ⟨unresolved', hunresolved', hmem⟩ := resolveClaims_congr
    (fun value => (hexisting.append hadded).mem_iff) (fun value => hadded.mem_iff) hunresolved
  have hdigest' : NoCollision engine (added' ++ existing') :=
    hdigest.mono fun value hvalue => (hadded.append hexisting).mem_iff.2 hvalue
  have hsame : ∀ value, value ∈ added ++ existing ↔ value ∈ added' ++ existing' :=
    fun value => (hadded.append hexisting).mem_iff
  have hunresolvedEq : canonicalUnresolved unresolved = canonicalUnresolved unresolved' :=
    sortUnique_tie_eq UnresolvedReference.tie_injective hmem
  have hconflictsEq : canonicalizeClaimConflicts (conflictsOf found) =
      canonicalizeClaimConflicts (conflictsOf found') := by
    refine sortUnique_tie_eq ClaimConflict.tie_injective ?_
    intro conflict
    rw [List.mem_map, List.mem_map, ← mem_canonicalizeClaimConflicts,
      ← mem_canonicalizeClaimConflicts, hcompared.conflict_iff hdigest,
      hcompared'.conflict_iff hdigest']
    unfold ReportedConflict
    simp only [hadded.mem_iff, hsame]
  have hdifferentialEq : canonicalDifferential (differentialOf found) =
      canonicalDifferential (differentialOf found') := by
    refine sortUnique_tie_eq DifferentialDisagreement.tie_injective ?_
    intro differential
    rw [← mem_canonicalDifferential (differentialOf found),
      ← mem_canonicalDifferential (differentialOf found'), hcompared.differential_iff hdigest,
      hcompared'.differential_iff hdigest']
    unfold ReportedDifferential
    simp only [hadded.mem_iff, hsame]
  obtain ⟨ordered', hordered', hclaims'⟩ := hcompared'.kept
  obtain ⟨among', prior', against', hamong', hprior', hagainst', hfound'⟩ := hcompared'.compared
  refine ⟨{ claims := claims', unresolved := result.unresolved, conflicts := result.conflicts,
            differentialDisagreements := result.differentialDisagreements,
            contentDigest := result.contentDigest }, commit_eq_ok_iff.2 ⟨?_, ?_, unresolved', ordered',
    among', prior', against', hunresolved', hordered', hclaims', hamong', hprior', hagainst', ?_, ?_,
    ?_, ?_⟩, ⟨sameOccurrences_projection hclaims, rfl, rfl, rfl, rfl⟩⟩
  · exact fun value hvalue => hvalid value (hadded.mem_iff.2 hvalue)
  · exact fun value hvalue => hvalidExisting value (hexisting.mem_iff.2 hvalue)
  · exact hresolved.trans hunresolvedEq
  · rw [← hfound']
    exact hconflicts.trans hconflictsEq
  · rw [← hfound']
    exact hdifferential.trans hdifferentialEq
  · exact (claimBatchContentDigest_congr hclaims _ _ _).symm.trans hcontent

/-- The outcome of a commit does not depend on the order in which the new claims were added, nor on
    the order of the existing ones. -/
theorem commit_perm {added added' existing existing' : List Claim} (hadded : added.Perm added')
    (hexisting : existing.Perm existing') (hdigest : NoCollision engine (added ++ existing)) :
    (∀ result, commit engine added existing = .ok result →
      ∃ result', commit engine added' existing' = .ok result' ∧ SameResult result result') ∧
    ∀ result', commit engine added' existing' = .ok result' →
      ∃ result, commit engine added existing = .ok result ∧ SameResult result result' := by
  refine ⟨fun result h => commit_congr hadded hexisting hdigest h, ?_⟩
  intro result' h'
  have hdigest' : NoCollision engine (added' ++ existing') :=
    hdigest.mono fun value hvalue => (hadded.append hexisting).mem_iff.2 hvalue
  obtain ⟨result, h, hsame⟩ := commit_congr hadded.symm hexisting.symm hdigest' h'
  exact ⟨result, h, hsame.symm⟩

theorem commit_perm_sample :
    ∃ result result', commit sampleEngine [firstSample, secondSample] [] = .ok result ∧
      commit sampleEngine [secondSample, firstSample] [] = .ok result' ∧
      SameResult result result' := by
  obtain ⟨-, -, -, -, hcommits⟩ := samples_commit
  rw [List.singleton_append] at hcommits
  obtain ⟨result, h⟩ := exists_eq_ok_of_isOk hcommits
  obtain ⟨result', h', hsame⟩ := (commit_perm (List.Perm.swap _ _ _) (List.Perm.refl _)
    (List.append_nil [firstSample, secondSample] ▸ noCollision_samples)).1 result h
  exact ⟨result, result', h, h', hsame⟩

end Commit

end Cxxlens.Sdk
