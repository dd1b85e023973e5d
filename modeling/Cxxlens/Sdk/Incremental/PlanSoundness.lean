import Cxxlens.Sdk.Claim.Identity
import Cxxlens.Sdk.Incremental.Exactness
import Cxxlens.Sdk.Incremental.Plan

set_option autoImplicit false

/-! # A plan reuses what is unchanged

A partition is reused if nothing that is compared has changed, the plan passes its own validation,
and it does not depend on the order of the candidates. -/

namespace Cxxlens.Sdk.Incremental

open Sorting Fallible

/-! ## Digests are ASCII -/

theorem rfind_prefix {pattern value : Bytes} {position : Nat}
    (h : rfind pattern value = some position) : pattern <+: value.drop position := by
  induction value generalizing position with
  | nil =>
      rw [rfind] at h
      split_ifs at h with hpattern
      exact hpattern ▸ List.nil_prefix
  | cons byte rest ih =>
      rw [rfind] at h
      rcases hrest : rfind pattern rest with _ | found
      · simp only [hrest] at h
        split_ifs at h with hprefix
        obtain rfl := Option.some.inj h
        exact List.isPrefixOf_iff_prefix.1 hprefix
      · simp only [hrest] at h
        obtain rfl := Option.some.inj h
        exact ih hrest

/-- What stands in front of the hexadecimal part is ASCII. -/
theorem hexOffset_ascii {value : Bytes} {offset : Nat} (h : hexOffset value = some offset) :
    ∀ byte ∈ value.take offset, byte.toNat < 0x80 := by
  rw [hexOffset] at h
  split_ifs at h with hplain
  · obtain rfl := Option.some.inj h
    obtain ⟨rest, rfl⟩ := List.isPrefixOf_iff_prefix.1 hplain
    rw [List.take_left' (by rfl)]
    exact ascii_lt (by simp)
  · rcases hfind : rfind (ascii ":sha256:") value with _ | marker
    · simp [hfind] at h
    · simp only [hfind] at h
      split_ifs at h with hzero hsymbols
      obtain rfl := Option.some.inj h
      obtain ⟨rest, hrest⟩ := rfind_prefix hfind
      -- the name of the algorithm, then the marker
      have hsplit : value.take (marker + 8) = value.take marker ++ ascii ":sha256:" := by
        rw [List.take_add, ← hrest, List.take_left' (by rfl)]
      intro byte hbyte
      rw [hsplit, List.mem_append] at hbyte
      rcases hbyte with hbyte | hbyte
      · exact isSymbolByte_ascii (List.all_eq_true.1 hsymbols byte hbyte)
      · exact ascii_lt (by simp) byte hbyte

theorem digestLike_validUtf8 {value : Bytes} (h : digestLike value = true) :
    validUtf8 value = true := by
  rw [digestLike] at h
  rcases hoffset : hexOffset value with _ | offset
  · simp [hoffset] at h
  · simp only [hoffset, Bool.and_eq_true, List.all_eq_true] at h
    refine validUtf8_of_ascii fun byte hbyte => ?_
    rw [← List.take_append_drop offset value, List.mem_append] at hbyte
    rcases hbyte with hbyte | hbyte
    · exact hexOffset_ascii hoffset byte hbyte
    · exact isLowerHex_ascii (h.2 byte hbyte)

/-! ## Fingerprints -/

theorem validate_input_iff (input : InputFingerprint) : input.validate = .ok () ↔
    (∀ field ∈ digestFields, digestLike (field.1 input) = true) ∧
      input.normalizerVersion ≠ [] ∧ input.precisionProfile ≠ [] := by
  simp [InputFingerprint.validate, seq_eq_ok_iff, reject_eq_ok_iff, firstError_eq_ok_iff]

/-- The fields of a fingerprint tell it apart from every other. -/
theorem InputFingerprint.fields_injective :
    Function.Injective InputFingerprint.fields := by
  intro a b h
  simp only [InputFingerprint.fields, List.cons.injEq, and_true] at h
  rcases a with ⟨⟩
  rcases b with ⟨⟩
  simpa only [InputFingerprint.mk.injEq, fromString_injective.eq_iff] using h

/-- The digest of a valid fingerprint exists when its two texts are UTF-8 and a vector has room
    for the fields. -/
theorem digest_exists_iff (hash : Bytes → Bytes) {input : InputFingerprint}
    (hvalid : input.validate = .ok ()) :
    (∃ digest, input.digest hash = .ok digest) ↔
      validUtf8 input.normalizerVersion = true ∧ validUtf8 input.precisionProfile = true ∧
        (CanonicalValue.appendCanonical (.fromTuple input.fields)).length ≤
          CanonicalValue.vectorMaxSize := by
  have hkind : ¬ (ascii "incremental-input" = [] ∨
      validUtf8 (ascii "incremental-input") = false) := by
    rw [validUtf8_literal (by simp)]
    simp [ascii]
  have hdigests := ((validate_input_iff input).1 hvalid).1
  simp only [digestFields, List.forall_mem_cons] at hdigests
  obtain ⟨h1, h2, h3, h4, h5, h6, h7, h8, h9, h10, h11, h12, h13, h14, h15, h16, -⟩ := hdigests
  have hfields : (CanonicalValue.fromTuple input.fields).validate = .ok () ↔
      validUtf8 input.normalizerVersion = true ∧ validUtf8 input.precisionProfile = true := by
    simp only [CanonicalValue.validate_fromTuple_iff, InputFingerprint.fields,
      List.forall_mem_cons, CanonicalValue.validate_fromString_iff]
    simp [digestLike_validUtf8 h1, digestLike_validUtf8 h2, digestLike_validUtf8 h3,
      digestLike_validUtf8 h4, digestLike_validUtf8 h5, digestLike_validUtf8 h6,
      digestLike_validUtf8 h7, digestLike_validUtf8 h8, digestLike_validUtf8 h9,
      digestLike_validUtf8 h10, digestLike_validUtf8 h11, digestLike_validUtf8 h12,
      digestLike_validUtf8 h13, digestLike_validUtf8 h14, digestLike_validUtf8 h15,
      digestLike_validUtf8 h16]
  rw [InputFingerprint.digest, hvalid, ok_bind, ← and_assoc, ← hfields]
  constructor
  · rintro ⟨digest, hdigest⟩
    obtain ⟨hvalidate, hsize, -⟩ := identityDigest_eq_ok hdigest
    exact ⟨hvalidate, hsize⟩
  · rintro ⟨hvalidate, hsize⟩
    rw [canonicalIdentityDigest, if_neg hkind, CanonicalValue.canonicalBinary, hvalidate, ok_bind,
      if_neg (not_lt.2 hsize), ok_bind]
    exact ⟨_, rfl⟩

/-- Two digests that exist are equal exactly for equal fingerprints. -/
theorem digest_eq_iff {hash : Bytes → Bytes} {inputs : Set Bytes} (hinj : Set.InjOn hash inputs)
    {prior current : InputFingerprint} {digest digest' : Bytes}
    (hmem : identityInput "incremental-input" prior.fields ∈ inputs)
    (hmem' : identityInput "incremental-input" current.fields ∈ inputs)
    (h : prior.digest hash = .ok digest) (h' : current.digest hash = .ok digest') :
    digest = digest' ↔ prior = current := by
  constructor
  · rintro rfl
    rw [InputFingerprint.digest, seq_eq_ok_iff] at h h'
    exact InputFingerprint.fields_injective (identityDigest_injOn hinj hmem hmem' h.2 h'.2)
  · rintro rfl
    exact Except.ok.inj (h.symm.trans h')

/-! ## Reasons -/

theorem comparisons_all_iff (prior current : InputFingerprint) :
    (∀ comparison ∈ comparisons, comparison.1 prior = comparison.1 current) ↔
      prior = current := by
  rcases prior with ⟨⟩
  rcases current with ⟨⟩
  simp [comparisons]

/-- Every reason of a comparison is one that a plan admits. -/
theorem comparisons_admitted :
    ∀ comparison ∈ comparisons, comparison.2 ∈ recomputeReasons ∧ comparison.2 ≠ [] := by
  have hreasons : ∀ reason ∈ comparisons.map Prod.snd, reason ∈ recomputeReasons ∧ reason ≠ [] := by
    decide
  exact fun comparison hmem => hreasons _ (List.mem_map_of_mem hmem)

theorem changedReason_eq_nil_iff (prior current : InputFingerprint) :
    changedReason prior current = [] ↔ prior = current := by
  rw [changedReason]
  rcases hfind : comparisons.find? fun comparison => comparison.1 prior != comparison.1 current
    with _ | comparison <;> simp only [hfind]
  · refine iff_of_true trivial ((comparisons_all_iff prior current).1 fun comparison hmem => ?_)
    simpa using List.find?_eq_none.1 hfind comparison hmem
  · have hmem := List.mem_of_find?_eq_some hfind
    have hchanged := List.find?_some hfind
    refine iff_of_false (comparisons_admitted comparison hmem).2 fun heq => ?_
    rw [(comparisons_all_iff prior current).2 heq comparison hmem] at hchanged
    simp at hchanged

theorem changedReason_admitted {prior current : InputFingerprint} (h : prior ≠ current) :
    changedReason prior current ∈ recomputeReasons := by
  have hne := mt (changedReason_eq_nil_iff prior current).1 h
  rw [changedReason] at hne ⊢
  rcases hfind : comparisons.find? fun comparison => comparison.1 prior != comparison.1 current
    with _ | comparison
  · simp [hfind] at hne
  · simp only [hfind]
    exact (comparisons_admitted comparison (List.mem_of_find?_eq_some hfind)).1

/-! ## One partition -/

/-- The partition of a candidate can be reused. -/
structure PartitionCandidate.Unchanged (candidate : PartitionCandidate)
    (prior : PartitionState) : Prop where
  found : candidate.prior = some prior
  priorSound : prior.corruptionDetected = false
  currentSound : candidate.current.corruptionDetected = false
  input : prior.input = candidate.current.input
  coverage : prior.coverageDigest = candidate.current.coverageDigest
  closure : prior.closureDigest = candidate.current.closureDigest

/-- What the entry of a candidate says. -/
structure PlanEntry.Plans (entry : PlanEntry) (candidate : PartitionCandidate) : Prop where
  partitionId : entry.partitionId = candidate.current.partitionId
  strong : notStrongId entry.partitionId = false
  decision : entry.decision = .reuse ↔ ∃ prior, candidate.Unchanged prior
  reused : entry.decision = .reuse → entry.reason = ascii "sdk.incremental-exact-reuse"
  recomputed : entry.decision = .recompute → entry.reason ∈ recomputeReasons

theorem planAgainst_plans {candidate : PartitionCandidate} {prior : PartitionState}
    (hprior : candidate.prior = some prior)
    (hstrong : notStrongId candidate.current.partitionId = false) :
    (planAgainst prior candidate.current).Plans candidate := by
  have hiff : (∃ prior, candidate.Unchanged prior) ↔ candidate.Unchanged prior := by
    refine ⟨?_, fun h => ⟨prior, h⟩⟩
    rintro ⟨found, h⟩
    exact Option.some.inj (h.found.symm.trans hprior) ▸ h
  -- the branches in the order of the source; each names what has changed
  unfold planAgainst
  split_ifs with hcorrupt hinput hcoverage hclosure
  · refine ⟨rfl, hstrong, iff_of_false nofun (hiff.not.2 fun h => ?_), nofun,
      fun _ => by simp [recomputeReasons]⟩
    rw [h.priorSound, h.currentSound] at hcorrupt
    exact absurd hcorrupt (by decide)
  · have hne := mt (changedReason_eq_nil_iff _ _).2 hinput
    exact ⟨rfl, hstrong, iff_of_false nofun (hiff.not.2 fun h => hne h.input), nofun,
      fun _ => changedReason_admitted hne⟩
  · exact ⟨rfl, hstrong, iff_of_false nofun (hiff.not.2 fun h => hcoverage h.coverage), nofun,
      fun _ => by simp [recomputeReasons]⟩
  · exact ⟨rfl, hstrong, iff_of_false nofun (hiff.not.2 fun h => hclosure h.closure), nofun,
      fun _ => by simp [recomputeReasons]⟩
  · rw [Bool.or_eq_true, not_or, Bool.not_eq_true, Bool.not_eq_true] at hcorrupt
    have hsame := (changedReason_eq_nil_iff _ _).1 (not_not.1 hinput)
    exact ⟨rfl, hstrong, iff_of_true rfl (hiff.2 ⟨hprior, hcorrupt.1, hcorrupt.2, hsame,
      not_not.1 hcoverage, not_not.1 hclosure⟩), fun _ => rfl, nofun⟩

theorem validate_state_iff (state : PartitionState) : state.validate = .ok () ↔
    notStrongId state.partitionId = false ∧ state.input.validate = .ok () ∧
      digestLike state.coverageDigest = true ∧ digestLike state.closureDigest = true := by
  simp [PartitionState.validate, seq_eq_ok_iff, reject_eq_ok_iff]

theorem planEntry_plans {candidate : PartitionCandidate} {entry : PlanEntry}
    (h : planEntry candidate = .ok entry) : entry.Plans candidate := by
  rw [planEntry, seq_eq_ok_iff] at h
  obtain ⟨hcurrent, h⟩ := h
  have hstrong := ((validate_state_iff _).1 hcurrent).1
  rcases hprior : candidate.prior with _ | prior
  · simp only [hprior, Except.ok.injEq] at h
    subst h
    refine ⟨rfl, hstrong, iff_of_false nofun ?_, nofun, fun _ => by simp [recomputeReasons]⟩
    rintro ⟨prior, hfound⟩
    simp [hfound.found] at hprior
  · simp only [hprior, seq_eq_ok_iff, Except.ok.injEq] at h
    obtain ⟨-, -, rfl⟩ := h
    exact planAgainst_plans hprior hstrong

/-- The states of a candidate that is planned are valid. -/
theorem planEntry_valid {candidate : PartitionCandidate} {entry : PlanEntry}
    (h : planEntry candidate = .ok entry) : candidate.current.validate = .ok () ∧
      ∀ prior, candidate.prior = some prior → prior.validate = .ok () := by
  rw [planEntry, seq_eq_ok_iff] at h
  refine ⟨h.1, fun prior hprior => ?_⟩
  simp only [hprior, seq_eq_ok_iff] at h
  exact h.2.1

/-! ## All partitions -/

theorem planEntries_eq_ok_iff {candidates : List PartitionCandidate} {entries : List PlanEntry} :
    planEntries candidates = .ok entries ↔
      List.Forall₂ (fun candidate entry => planEntry candidate = .ok entry) candidates
        entries := by
  induction candidates generalizing entries with
  | nil =>
      rw [planEntries, List.forall₂_nil_left_iff, Except.ok.injEq, eq_comm]
  | cons candidate rest ih =>
      simp only [planEntries, bind_eq_ok_iff, Except.ok.injEq, List.forall₂_cons_left_iff, ih]
      constructor
      · rintro ⟨entry, hentry, planned, hplanned, rfl⟩
        exact ⟨entry, planned, hentry, hplanned, rfl⟩
      · rintro ⟨entry, planned, hentry, hplanned, rfl⟩
        exact ⟨entry, hentry, planned, hplanned, rfl⟩

/-- Every element on the right has its own on the left. -/
theorem exists_of_forall₂ {α β : Type} {R : α → β → Prop} {left : List α} {right : List β} {b : β}
    (h : List.Forall₂ R left right) (hmem : b ∈ right) : ∃ a ∈ left, R a b := by
  induction h with
  | nil => cases hmem
  | cons hab _ ih =>
      rcases List.mem_cons.1 hmem with rfl | hrest
      · exact ⟨_, List.mem_cons_self, hab⟩
      · obtain ⟨a, ha, hR⟩ := ih hrest
        exact ⟨a, List.mem_cons_of_mem _ ha, hR⟩

/-- Candidates in another order have their entries in that order. -/
theorem planEntries_perm {candidates other : List PartitionCandidate} {entries : List PlanEntry}
    (hperm : candidates.Perm other) (h : planEntries candidates = .ok entries) :
    ∃ entries', planEntries other = .ok entries' ∧ entries.Perm entries' := by
  have hcomp := List.perm_comp_forall₂ hperm.symm (planEntries_eq_ok_iff.1 h)
  obtain ⟨entries', hforall, hentries⟩ := hcomp
  exact ⟨entries', planEntries_eq_ok_iff.2 hforall, hentries.symm⟩

/-! ## The order of the entries -/

theorem entryLess_compares : Compares entryLess PlanEntry.partitionId :=
  fun _ _ => decide_eq_true_iff

theorem entriesSorted_of_pairwise : ∀ {entries : List PlanEntry},
    entries.Pairwise (fun a b => a.partitionId ≤ b.partitionId) → entriesSorted entries = true
  | [], _ => rfl
  | [_], _ => rfl
  | left :: right :: rest, h => by
      rw [List.pairwise_cons] at h
      have hle := h.1 right List.mem_cons_self
      rw [entriesSorted, entriesSorted_of_pairwise h.2, Bool.and_true, Bool.not_eq_true',
        decide_eq_false_iff_not, not_lt]
      exact hle

/-- In sorted entries equal ids are neighbours. -/
theorem entriesRepeat_eq_false_iff : ∀ {entries : List PlanEntry},
    entries.Pairwise (fun a b => a.partitionId ≤ b.partitionId) →
      (entriesRepeat entries = false ↔ (entries.map PlanEntry.partitionId).Nodup)
  | [], _ => by simp [entriesRepeat]
  | [_], _ => by simp [entriesRepeat]
  | left :: right :: rest, h => by
      rw [List.pairwise_cons] at h
      have hcons : ((left :: right :: rest).map PlanEntry.partitionId).Nodup ↔
          left.partitionId ∉ (right :: rest).map PlanEntry.partitionId ∧
            ((right :: rest).map PlanEntry.partitionId).Nodup := List.nodup_cons
      rw [entriesRepeat, Bool.or_eq_false_iff, entriesRepeat_eq_false_iff h.2, hcons,
        beq_eq_false_iff_ne]
      refine and_congr_left fun _ => ?_
      constructor
      · intro hne hmem
        obtain ⟨entry, hentry, heq⟩ := List.mem_map.1 hmem
        have hle := h.1 right List.mem_cons_self
        rcases List.mem_cons.1 hentry with rfl | htail
        · exact hne heq.symm
        · have hge := (List.pairwise_cons.1 h.2).1 entry htail
          exact hne (le_antisymm hle (heq ▸ hge))
      · intro hnot heq
        exact hnot (heq ▸ List.mem_map_of_mem List.mem_cons_self)

theorem checkEntries_eq_ok_iff {entries : List PlanEntry} {seen : List Bytes} :
    checkEntries seen entries = .ok () ↔
      (∀ entry ∈ entries, entry.invalid [] = false ∧ entry.partitionId ∉ seen) ∧
        (entries.map PlanEntry.partitionId).Nodup := by
  induction entries generalizing seen with
  | nil => simp [checkEntries]
  | cons entry rest ih =>
      have hsplit : entry.invalid seen = false ↔
          entry.invalid [] = false ∧ entry.partitionId ∉ seen := by
        simp only [PlanEntry.invalid, Bool.or_eq_false_iff, List.contains_eq_mem,
          decide_eq_false_iff_not, List.not_mem_nil]
        tauto
      rw [checkEntries, seq_eq_ok_iff, reject_eq_ok_iff, ih, hsplit, List.forall_mem_cons,
        List.map_cons, List.nodup_cons]
      simp only [List.mem_cons, not_or, List.mem_map, not_exists, not_and]
      grind

/-! ## Plans -/

/-- What a plan is made of. -/
theorem makeMaterializationPlan_eq_ok_iff {hash : Bytes → Bytes}
    {candidates : List PartitionCandidate} {plan : MaterializationPlan} :
    makeMaterializationPlan hash candidates = .ok plan ↔
      candidates ≠ [] ∧ ∃ planned, planEntries candidates = .ok planned ∧
        plan.entries = sortBy entryLess planned ∧
        (planned.map PlanEntry.partitionId).Nodup ∧
        plan.frontendProviderExecutions = recomputed plan.entries ∧
        plan.warmZero = (recomputed plan.entries == 0) ∧
        digestPlan hash plan.entries plan.frontendProviderExecutions plan.warmZero =
          .ok plan.planDigest := by
  have hrepeat : ∀ planned, entriesRepeat (sortBy entryLess planned) = false ↔
      (planned.map PlanEntry.partitionId).Nodup := by
    intro planned
    rw [entriesRepeat_eq_false_iff (sortBy_pairwise entryLess_compares planned)]
    exact ((sortBy_perm entryLess planned).map _).nodup_iff
  rw [makeMaterializationPlan, seq_eq_ok_iff, reject_eq_ok_iff, List.isEmpty_eq_false_iff,
    bind_eq_ok_iff]
  refine and_congr_right fun _ => exists_congr fun planned => and_congr_right fun _ => ?_
  simp only [seq_eq_ok_iff, reject_eq_ok_iff, hrepeat]
  rw [bind_eq_ok_iff]
  rcases plan with ⟨entries, executions, warmZero, planDigest⟩
  simp only [Except.ok.injEq, MaterializationPlan.mk.injEq]
  constructor
  · rintro ⟨hnodup, digest, hdigest, rfl, rfl, rfl, rfl⟩
    exact ⟨rfl, hnodup, rfl, rfl, hdigest⟩
  · rintro ⟨rfl, hnodup, rfl, rfl, hdigest⟩
    exact ⟨hnodup, planDigest, hdigest, rfl, rfl, rfl, rfl⟩

theorem makeMaterializationPlan_validate {hash : Bytes → Bytes}
    {candidates : List PartitionCandidate} {plan : MaterializationPlan}
    (h : makeMaterializationPlan hash candidates = .ok plan) :
    plan.validate hash = .ok () := by
  obtain ⟨hne, planned, hplanned, hentries, hnodup, hexecutions, hwarm, hdigest⟩ :=
    makeMaterializationPlan_eq_ok_iff.1 h
  have hforall := planEntries_eq_ok_iff.1 hplanned
  have hperm : plan.entries.Perm planned := hentries ▸ sortBy_perm entryLess planned
  have hnonempty : plan.entries ≠ [] := by
    intro hnil
    rw [hnil] at hperm
    rw [← hperm.nil_eq] at hforall
    exact hne (List.forall₂_nil_right_iff.1 hforall)
  have hsorted : entriesSorted plan.entries = true :=
    entriesSorted_of_pairwise (hentries ▸ sortBy_pairwise entryLess_compares planned)
  have hinvalid : ∀ entry ∈ plan.entries, entry.invalid [] = false := by
    intro entry hentry
    obtain ⟨candidate, -, hplan⟩ := exists_of_forall₂ hforall (hperm.mem_iff.1 hentry)
    have hplans := planEntry_plans hplan
    rcases hdecision : entry.decision with _ | _
    · simp [PlanEntry.invalid, hplans.strong, hdecision, hplans.reused hdecision]
    · simp [PlanEntry.invalid, hplans.strong, hdecision, hplans.recomputed hdecision]
  have hcheck : checkEntries [] plan.entries = .ok () :=
    checkEntries_eq_ok_iff.2 ⟨fun entry hentry => ⟨hinvalid entry hentry, by simp⟩,
      (hperm.map _).nodup_iff.2 hnodup⟩
  simp [MaterializationPlan.validate, seq_eq_ok_iff, reject_eq_ok_iff, hnonempty, hsorted, hcheck,
    hexecutions, hwarm, hexecutions ▸ hwarm ▸ hdigest]

/-- Candidates in another order have the same plan, or none either. -/
theorem makeMaterializationPlan_perm (hash : Bytes → Bytes)
    {candidates other : List PartitionCandidate} (hperm : candidates.Perm other) :
    (makeMaterializationPlan hash candidates).toOption =
      (makeMaterializationPlan hash other).toOption := by
  have hforward : ∀ {candidates other : List PartitionCandidate} {plan : MaterializationPlan},
      candidates.Perm other → makeMaterializationPlan hash candidates = .ok plan →
        makeMaterializationPlan hash other = .ok plan := by
    intro candidates other plan hperm h
    obtain ⟨hne, planned, hplanned, hentries, hnodup, hrest⟩ :=
      makeMaterializationPlan_eq_ok_iff.1 h
    obtain ⟨planned', hplanned', hsame⟩ := planEntries_perm hperm hplanned
    -- the ids tell the entries apart, so both sort to one list
    have hsorted := sortBy_eq_of_perm entryLess_compares hsame
      fun a ha b hb heq => List.inj_on_of_nodup_map hnodup ha hb heq
    exact makeMaterializationPlan_eq_ok_iff.2 ⟨fun hnil => hne (hnil ▸ hperm).eq_nil, planned',
      hplanned', hentries.trans hsorted, ((hsame.map _).nodup_iff).1 hnodup, hrest⟩
  ext plan
  rw [toOption_eq_some_iff, toOption_eq_some_iff]
  exact ⟨hforward hperm, hforward hperm.symm⟩

/-! ## Reuse -/

/-- What the digests of the fingerprints hash. -/
def fingerprintInputs (candidates : List PartitionCandidate) : Set Bytes :=
  {bytes | ∃ candidate ∈ candidates, ∃ state : PartitionState,
    (state = candidate.current ∨ candidate.prior = some state) ∧
      bytes = identityInput "incremental-input" state.input.fields}

/-- A plan has one entry for each candidate, which is reused exactly when nothing that is compared
    has changed; fingerprints compare like their digests where both have one, which is where the
    texts are UTF-8 and fit. -/
theorem materializationPlan_sound (hash : Bytes → Bytes) (candidates : List PartitionCandidate) :
    (∀ plan, makeMaterializationPlan hash candidates = .ok plan →
      (plan.entries.map PlanEntry.partitionId).Perm
          (candidates.map fun candidate => candidate.current.partitionId) ∧
        (plan.entries.map PlanEntry.partitionId).Nodup ∧
        (∀ candidate ∈ candidates, ∃ entry ∈ plan.entries,
          entry.partitionId = candidate.current.partitionId ∧
            (entry.decision = .reuse ↔ ∃ prior, candidate.Unchanged prior)) ∧
        (∀ candidate ∈ candidates, ∀ state : PartitionState,
          state = candidate.current ∨ candidate.prior = some state →
            ((∃ digest, state.input.digest hash = .ok digest) ↔
              validUtf8 state.input.normalizerVersion = true ∧
                validUtf8 state.input.precisionProfile = true ∧
                (CanonicalValue.appendCanonical (.fromTuple state.input.fields)).length ≤
                  CanonicalValue.vectorMaxSize)) ∧
        (Set.InjOn hash (fingerprintInputs candidates) →
          ∀ candidate ∈ candidates, ∀ prior, candidate.prior = some prior →
            ∀ digest digest', prior.input.digest hash = .ok digest →
              candidate.current.input.digest hash = .ok digest' →
                (digest = digest' ↔ prior.input = candidate.current.input)) ∧
        plan.validate hash = .ok () ∧
        plan.frontendProviderExecutions =
          plan.entries.countP (fun entry => entry.decision = .recompute)) ∧
      ∀ other, candidates.Perm other →
        (makeMaterializationPlan hash other).toOption =
          (makeMaterializationPlan hash candidates).toOption := by
  refine ⟨fun plan h => ?_, fun other hperm => (makeMaterializationPlan_perm hash hperm).symm⟩
  obtain ⟨-, planned, hplanned, hentries, hnodup, hexecutions, -⟩ :=
    makeMaterializationPlan_eq_ok_iff.1 h
  have hforall := planEntries_eq_ok_iff.1 hplanned
  have hperm : plan.entries.Perm planned := hentries ▸ sortBy_perm entryLess planned
  have hplan : ∀ candidate ∈ candidates, ∃ entry ∈ plan.entries,
      planEntry candidate = .ok entry := by
    intro candidate hmem
    obtain ⟨entry, hentry, hplan⟩ := exists_of_forall₂ hforall.flip hmem
    exact ⟨entry, hperm.mem_iff.2 hentry, hplan⟩
  have hids : planned.map PlanEntry.partitionId =
      candidates.map fun candidate => candidate.current.partitionId := by
    rw [eq_comm, ← List.forall₂_eq_eq_eq, List.forall₂_map_left_iff, List.forall₂_map_right_iff]
    exact hforall.imp fun _ _ hentry => (planEntry_plans hentry).partitionId.symm
  refine ⟨hids ▸ hperm.map _, (hperm.map _).nodup_iff.2 hnodup, ?_, ?_, ?_,
    makeMaterializationPlan_validate h, ?_⟩
  · intro candidate hmem
    obtain ⟨entry, hentry, hcandidate⟩ := hplan candidate hmem
    have hplans := planEntry_plans hcandidate
    exact ⟨entry, hentry, hplans.partitionId, hplans.decision⟩
  · intro candidate hmem state hstate
    obtain ⟨entry, -, hcandidate⟩ := hplan candidate hmem
    have hvalid := planEntry_valid hcandidate
    have hstateValid : state.validate = .ok () := by
      rcases hstate with rfl | hprior
      · exact hvalid.1
      · exact hvalid.2 state hprior
    exact digest_exists_iff hash ((validate_state_iff state).1 hstateValid).2.1
  · intro hinj candidate hmem prior hprior digest digest' hdigest hdigest'
    exact digest_eq_iff hinj ⟨candidate, hmem, prior, .inr hprior, rfl⟩
      ⟨candidate, hmem, candidate.current, .inl rfl, rfl⟩ hdigest hdigest'
  · rw [hexecutions, recomputed]
    rfl

/-! ## Texts that are not UTF-8 -/

/-- The digest of sixty-four zeros. -/
def zeroDigest : Bytes :=
  ascii "sha256:" ++ List.replicate 64 0x30

/-- A fingerprint with the version of its normalizer. -/
def sampleInput (normalizerVersion : Bytes) : InputFingerprint :=
  { sourceDigest := zeroDigest
    dependencyDigest := zeroDigest
    invocationDigest := zeroDigest
    toolchainDigest := zeroDigest
    conditionUniverseDigest := zeroDigest
    variantDigest := zeroDigest
    providerSetDigest := zeroDigest
    registryDigest := zeroDigest
    interpretationPolicyDigest := zeroDigest
    refreshPolicyDigest := zeroDigest
    environmentDigest := zeroDigest
    providerBinaryDigest := zeroDigest
    providerSemanticsDigest := zeroDigest
    relationDescriptorDigest := zeroDigest
    normalizerVersion := normalizerVersion
    modelDigest := zeroDigest
    assumptionDigest := zeroDigest
    precisionProfile := "exact" }

def sampleState (normalizerVersion : Bytes) : PartitionState :=
  ⟨"part", sampleInput normalizerVersion, zeroDigest, zeroDigest, false⟩

def sampleCandidate (prior current : Bytes) : PartitionCandidate :=
  ⟨sampleState current, some (sampleState prior)⟩

theorem zeroDigest_like : digestLike zeroDigest = true := by
  decide_cbv

theorem sampleState_valid {version : Bytes} (h : version ≠ []) :
    (sampleState version).validate = .ok () := by
  have hstrong : notStrongId (ascii "part") = false := by
    decide_cbv
  rw [validate_state_iff]
  refine ⟨hstrong, (validate_input_iff _).2 ⟨?_, h, ?_⟩, zeroDigest_like, zeroDigest_like⟩
  · simp only [digestFields, List.forall_mem_cons]
    simp [sampleState, sampleInput, zeroDigest_like]
  · simp [sampleState, sampleInput, ascii]

/-- The plan for a sample, if its entry has a digest. -/
theorem sample_plan {prior current : Bytes} {entry : PlanEntry} {executions : Nat}
    {warmZero : Bool} (hprior : prior ≠ []) (hcurrent : current ≠ [])
    (hexecutions : executions = recomputed [entry])
    (hwarm : warmZero = (recomputed [entry] == 0))
    (hentry : planAgainst (sampleState prior) (sampleState current) = entry)
    (hdigest : (digestPlan id [entry] executions warmZero).isOk = true) :
    ∃ plan, makeMaterializationPlan id [sampleCandidate prior current] = .ok plan ∧
      plan.entries = [entry] := by
  obtain ⟨digest, hdigest⟩ := exists_eq_ok_of_isOk hdigest
  have hplanned : planEntries [sampleCandidate prior current] = .ok [entry] := by
    rw [planEntries_eq_ok_iff, List.forall₂_cons]
    refine ⟨?_, List.Forall₂.nil⟩
    rw [planEntry]
    simp only [sampleCandidate, sampleState_valid hprior, sampleState_valid hcurrent, ok_bind,
      hentry]
    rw [reject, if_neg (by simp [sampleState]), ok_bind]
  exact ⟨⟨[entry], executions, warmZero, digest⟩, makeMaterializationPlan_eq_ok_iff.2
    ⟨by simp, [entry], hplanned, rfl, by simp, hexecutions, hwarm, hdigest⟩, rfl⟩

/-- The entry of a sample that is reused. -/
def reuseEntry : PlanEntry :=
  ⟨"part", .reuse, "sdk.incremental-exact-reuse"⟩

/-- The entry of a sample with another normalizer. -/
def normalizerEntry : PlanEntry :=
  ⟨"part", .recompute, "sdk.incremental-normalizer-changed"⟩

/-- Unchanged inputs are reused. -/
theorem sample_reuse {version : Bytes} (h : version ≠ []) :
    ∃ plan, makeMaterializationPlan id [sampleCandidate version version] = .ok plan ∧
      plan.entries = [reuseEntry] := by
  have hsame := (changedReason_eq_nil_iff (sampleInput version) (sampleInput version)).2 rfl
  have hentry : planAgainst (sampleState version) (sampleState version) = reuseEntry := by
    simp [planAgainst, sampleState, hsame, reuseEntry]
  have hdigest : (digestPlan id [reuseEntry] 0 true).isOk = true := by
    decide_cbv
  have hexecutions : 0 = recomputed [reuseEntry] := rfl
  have hwarm : true = (recomputed [reuseEntry] == 0) := rfl
  exact sample_plan h h hexecutions hwarm hentry hdigest

/-- Another normalizer makes a partition stale. -/
theorem sample_recompute :
    ∃ plan, makeMaterializationPlan id [sampleCandidate [0xff] [0xfe]] = .ok plan ∧
      plan.entries = [normalizerEntry] := by
  have hentry : planAgainst (sampleState [0xff]) (sampleState [0xfe]) = normalizerEntry := rfl
  have hdigest : (digestPlan id [normalizerEntry] 1 false).isOk = true := by
    decide_cbv
  have hexecutions : 1 = recomputed [normalizerEntry] := rfl
  have hwarm : false = (recomputed [normalizerEntry] == 0) := rfl
  exact sample_plan (by simp) (by simp) hexecutions hwarm hentry hdigest

/-- The plan that reuses a partition of unchanged inputs is valid, and their digests agree. -/
theorem materializationPlan_sound_sample :
    ∃ plan, makeMaterializationPlan id [sampleCandidate [0x31] [0x31]] = .ok plan ∧
      plan.validate id = .ok () ∧
      ∀ digest digest', (sampleInput [0x31]).digest id = .ok digest →
        (sampleInput [0x31]).digest id = .ok digest' →
          (digest = digest' ↔ sampleInput [0x31] = sampleInput [0x31]) := by
  have hversion : ([0x31] : Bytes) ≠ [] := by simp
  obtain ⟨plan, hplan, -⟩ := sample_reuse hversion
  have hsound := (materializationPlan_sound id [sampleCandidate [0x31] [0x31]]).1 plan hplan
  obtain ⟨-, -, -, -, hdigests, hvalidate, -⟩ := hsound
  have hprior : (sampleCandidate [0x31] [0x31]).prior = some (sampleState [0x31]) := rfl
  exact ⟨plan, hplan, hvalidate,
    hdigests Function.injective_id.injOn _ List.mem_cons_self (sampleState [0x31]) hprior⟩

/-- A partition is reused though its fingerprint has no digest, and another one is not though the
    digests of its fingerprints are one and the same error. -/
theorem reuse_without_digest :
    (∃ plan, makeMaterializationPlan id [sampleCandidate [0xff] [0xff]] = .ok plan ∧
      plan.entries = [reuseEntry]) ∧
    (∃ plan, makeMaterializationPlan id [sampleCandidate [0xff] [0xfe]] = .ok plan ∧
      plan.entries = [normalizerEntry]) ∧
    (sampleInput [0xff]).digest id =
      .error (CanonicalValue.failure "tuple[14]" "invalid-utf8") ∧
    (sampleInput [0xfe]).digest id =
      .error (CanonicalValue.failure "tuple[14]" "invalid-utf8") := by
  refine ⟨sample_reuse (by simp), sample_recompute, ?_, ?_⟩
  · decide_cbv
  · decide_cbv

end Cxxlens.Sdk.Incremental
