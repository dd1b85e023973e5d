import Cxxlens.Sdk.Claim.Commit

set_option autoImplicit false

/-! # References of a batch

A commit resolves references through indexes that it builds when it first needs them. `Resolves` says
what a lookup means without an index; an index that is kept does not change the answer
(`IndexesOf`), and the answer depends only on which claims there are, not on their order. -/

namespace Cxxlens.Sdk

open Fallible Collections

section References

variable {hash : Bytes → Bytes} {engine : RelationEngine hash}

/-! ## Indexes -/

theorem findGroup_buildIndex (columns : List Bytes) (targets : List Claim) (key : ReferenceKey) :
    findGroup key (buildIndex columns targets) =
      targets.filter (fun target => targetKey columns target = some key) := by
  have hbuild : buildIndex columns targets = targets.foldl (fun index target =>
      (targetKey columns target).elim index fun key => pushBack key target index) [] := by
    unfold buildIndex
    congr 1
    funext index target
    rcases targetKey columns target <;> rfl
  have hfold : ∀ index : ReferenceIndex, findGroup key (targets.foldl (fun index target =>
      (targetKey columns target).elim index fun key => pushBack key target index) index) =
      findGroup key index ++ targets.filter (fun target => targetKey columns target = some key) := by
    clear hbuild
    induction targets with
    | nil =>
        intro index
        rw [List.foldl_nil, List.filter_nil, List.append_nil]
    | cons target rest ih =>
        intro index
        rw [List.foldl_cons, ih, List.filter_cons]
        cases hkey : targetKey columns target with
        | none => simp
        | some found =>
            rw [Option.elim_some, findGroup_pushBack, List.append_assoc]
            by_cases heq : found = key
            · simp [heq]
            · simp [heq]
  rw [hbuild]
  exact hfold []

/-- Every index that is kept is the one of its columns. -/
def IndexesOf (targets : List (Bytes × List Claim)) (indexes : ReferenceIndexes) : Prop :=
  ∀ projection index, indexes.lookup projection = some index →
    index = buildIndex projection.2 (findGroup projection.1 targets)

theorem indexesOf_nil (targets : List (Bytes × List Claim)) : IndexesOf targets [] := by
  intro projection index h
  exact absurd h (by simp)

theorem findIndex_spec {targets : List (Bytes × List Claim)} {indexes : ReferenceIndexes}
    (h : IndexesOf targets indexes) (reference : RelationReferenceDescriptor) :
    (findIndex targets indexes reference).1 =
        buildIndex reference.targetColumns (findGroup reference.targetRelation targets) ∧
      IndexesOf targets (findIndex targets indexes reference).2 := by
  unfold findIndex
  dsimp only
  split
  · rename_i index hindex
    exact ⟨h _ _ hindex, h⟩
  · rename_i hnone
    refine ⟨rfl, ?_⟩
    intro projection index hlookup
    rw [List.lookup_append] at hlookup
    cases hold : indexes.lookup projection with
    | some found =>
        rw [hold] at hlookup
        exact h projection index (hold.trans hlookup)
    | none =>
        rw [hold, Option.none_or, List.lookup_cons] at hlookup
        split at hlookup
        · rename_i heq
          obtain rfl := beq_iff_eq.1 heq
          exact (Option.some.inj hlookup).symm
        · exact absurd hlookup (by simp)

/-! ## Resolution -/

/-- The key that is looked up: the element in every column, or the values of the source. -/
def soughtKey (value : Claim) (reference : RelationReferenceDescriptor) (element : Option Bytes) :
    Option (List ScalarValue) :=
  match element with
  | some element => some (List.replicate reference.sourceColumns.length (.string element))
  | none => projectedValues value reference.sourceColumns

theorem targetResolves_eq (targets : List (Bytes × List Claim)) (value : Claim)
    (reference : RelationReferenceDescriptor) (indexes : ReferenceIndexes)
    (element : Option Bytes) :
    targetResolves targets value reference indexes element =
      (match soughtKey value reference element with
        | none => false
        | some key => (findGroup (value.interpretation, value.presence.universe, key)
            (findIndex targets indexes reference).1).any
              fun target => referenceMatch value reference target element,
        (findIndex targets indexes reference).2) := by
  unfold targetResolves soughtKey
  cases element with
  | some element => rfl
  | none =>
      dsimp only
      cases projectedValues value reference.sourceColumns with
      | none => rfl
      | some key => rfl

/-- A claim of the target relation has the key that is looked up, and matches. -/
def Resolves (engine : RelationEngine hash) (space : List Claim) (value : Claim)
    (reference : RelationReferenceDescriptor) (element : Option Bytes) : Prop :=
  ∃ key, soughtKey value reference element = some key ∧ ∃ target ∈ space,
    relationOf engine target = reference.targetRelation ∧
    targetKey reference.targetColumns target =
      some (value.interpretation, value.presence.universe, key) ∧
    referenceMatch value reference target element = true

/-- What `resolved` tests. -/
def ReferenceResolved (engine : RelationEngine hash) (space : List Claim) (value : Claim)
    (reference : RelationReferenceDescriptor) : Prop :=
  if reference.containerElements = true then
    ∃ elements, (value.row.find (reference.sourceColumns.headD [])).bind canonicalSetElements =
      some elements ∧ ∀ element ∈ elements, Resolves engine space value reference (some element)
  else Resolves engine space value reference none

theorem targetResolves_spec {space : List Claim} {indexes : ReferenceIndexes}
    (h : IndexesOf (groupBy (relationOf engine) space) indexes) (value : Claim)
    (reference : RelationReferenceDescriptor) (element : Option Bytes) :
    ((targetResolves (groupBy (relationOf engine) space) value reference indexes element).1 = true ↔
        Resolves engine space value reference element) ∧
      IndexesOf (groupBy (relationOf engine) space)
        (targetResolves (groupBy (relationOf engine) space) value reference indexes element).2 := by
  obtain ⟨hindex, hindexes⟩ := findIndex_spec h reference
  rw [targetResolves_eq, hindex]
  unfold Resolves
  cases hkey : soughtKey value reference element with
  | none =>
      refine ⟨?_, hindexes⟩
      simp
  | some key =>
      refine ⟨?_, hindexes⟩
      rw [List.any_eq_true, findGroup_buildIndex, findGroup_groupBy]
      constructor
      · rintro ⟨target, htarget, hmatch⟩
        rw [List.mem_filter, List.mem_filter, decide_eq_true_iff, decide_eq_true_iff] at htarget
        exact ⟨key, rfl, target, htarget.1.1, htarget.1.2, htarget.2, hmatch⟩
      · rintro ⟨found, hfound, target, htarget, hrelation, htargetKey, hmatch⟩
        obtain rfl := Option.some.inj hfound
        refine ⟨target, ?_, hmatch⟩
        rw [List.mem_filter, List.mem_filter, decide_eq_true_iff, decide_eq_true_iff]
        exact ⟨⟨htarget, hrelation⟩, htargetKey⟩

theorem allResolve_spec {space : List Claim} (value : Claim)
    (reference : RelationReferenceDescriptor) (elements : List Bytes) :
    ∀ {indexes : ReferenceIndexes}, IndexesOf (groupBy (relationOf engine) space) indexes →
      ((allResolve (groupBy (relationOf engine) space) value reference indexes elements).1 = true ↔
          ∀ element ∈ elements, Resolves engine space value reference (some element)) ∧
        IndexesOf (groupBy (relationOf engine) space)
          (allResolve (groupBy (relationOf engine) space) value reference indexes elements).2 := by
  induction elements with
  | nil =>
      intro indexes h
      exact ⟨by simp [allResolve], h⟩
  | cons element rest ih =>
      intro indexes h
      obtain ⟨hfirst, hindexes⟩ := targetResolves_spec h value reference (some element)
      rw [allResolve, List.forall_mem_cons, ← hfirst]
      split
      · rename_i next heq
        rw [heq] at hindexes ⊢
        exact ⟨by simp, hindexes⟩
      · rename_i next heq
        rw [heq] at hindexes ⊢
        obtain ⟨hrest, hnext⟩ := ih hindexes
        exact ⟨by rw [hrest]; simp, hnext⟩

theorem resolveReference_spec {space : List Claim} {indexes : ReferenceIndexes}
    (h : IndexesOf (groupBy (relationOf engine) space) indexes) (value : Claim)
    (reference : RelationReferenceDescriptor) :
    ((resolveReference (groupBy (relationOf engine) space) value reference indexes).1 = true ↔
        ReferenceResolved engine space value reference) ∧
      IndexesOf (groupBy (relationOf engine) space)
        (resolveReference (groupBy (relationOf engine) space) value reference indexes).2 := by
  unfold resolveReference ReferenceResolved
  split_ifs
  · split
    · rename_i hnone
      refine ⟨?_, h⟩
      rw [hnone]
      simp
    · rename_i elements hsome
      obtain ⟨hall, hindexes⟩ := allResolve_spec value reference elements h
      refine ⟨hall.trans ?_, hindexes⟩
      rw [hsome]
      simp
  · exact targetResolves_spec h value reference none

/-! ## Unresolved references -/

/-- The record of a reference that does not resolve. -/
def unresolvedRecord (value : Claim) (reference : RelationReferenceDescriptor) :
    UnresolvedReference where
  sourceAssertion := value.assertion
  sourceRelation := value.descriptor
  targetRelation := reference.targetRelation
  sourceColumns := reference.sourceColumns
  reason := "soft-reference-missing"

/-- A reference that must be resolved, and is not. -/
def Missing (engine : RelationEngine hash) (space : List Claim) (value : Claim)
    (reference : RelationReferenceDescriptor) : Prop :=
  referenceAbsent value reference = false ∧ ¬ ReferenceResolved engine space value reference

theorem resolveReferences_cons {targets : List (Bytes × List Claim)} {value : Claim}
    {reference : RelationReferenceDescriptor} (h : referenceAbsent value reference = false)
    (indexes : ReferenceIndexes) (rest : List RelationReferenceDescriptor) :
    resolveReferences targets value indexes (reference :: rest) =
      if (resolveReference targets value reference indexes).1 = false ∧ reference.strength = .hard then
        .error (claimError "sdk.hard-reference-missing" value.assertion reference.targetRelation)
      else
        resolveReferences targets value (resolveReference targets value reference indexes).2 rest >>=
          fun output =>
            .ok (if (resolveReference targets value reference indexes).1 = false then
              unresolvedRecord value reference :: output.1 else output.1, output.2) := by
  rw [resolveReferences, if_neg (by simp [h])]
  dsimp only
  split_ifs with hhard hresolved
  · rfl
  · rfl
  · rfl

/-- The references of a claim, where the loop gets to its end. -/
theorem resolveReferences_eq_ok {space : List Claim} {value : Claim}
    {references : List RelationReferenceDescriptor} :
    ∀ {indexes : ReferenceIndexes} {output : List UnresolvedReference × ReferenceIndexes},
      IndexesOf (groupBy (relationOf engine) space) indexes →
      resolveReferences (groupBy (relationOf engine) space) value indexes references = .ok output →
      (∀ reference ∈ references, Missing engine space value reference →
          reference.strength ≠ .hard) ∧
        IndexesOf (groupBy (relationOf engine) space) output.2 ∧
        ∀ record, record ∈ output.1 ↔ ∃ reference ∈ references,
          Missing engine space value reference ∧ record = unresolvedRecord value reference := by
  induction references with
  | nil =>
      intro indexes output h hok
      obtain rfl := Except.ok.inj hok
      exact ⟨by simp, h, by simp⟩
  | cons reference rest ih =>
      intro indexes output h hok
      by_cases habsent : referenceAbsent value reference = true
      · rw [resolveReferences, if_pos habsent] at hok
        obtain ⟨hhard, hindexes, hmem⟩ := ih h hok
        have hnot : ¬ Missing engine space value reference :=
          fun hmissing => absurd habsent (by simp [hmissing.1])
        refine ⟨List.forall_mem_cons.2 ⟨fun hmissing => absurd hmissing hnot, hhard⟩, hindexes, ?_⟩
        intro record
        rw [hmem]
        simp [hnot]
      · rw [Bool.not_eq_true] at habsent
        obtain ⟨hresolved, hnext⟩ := resolveReference_spec h value reference
        rw [resolveReferences_cons habsent, guard_eq_ok_iff, bind_eq_ok_iff] at hok
        obtain ⟨hguard, tail, htail, hok⟩ := hok
        obtain rfl := Except.ok.inj hok
        obtain ⟨hhard, hindexes, hmem⟩ := ih hnext htail
        have hmissing : Missing engine space value reference ↔
            (resolveReference (groupBy (relationOf engine) space) value reference indexes).1 =
              false := by
          rw [Missing, ← hresolved, Bool.not_eq_true]
          exact and_iff_right habsent
        refine ⟨List.forall_mem_cons.2 ⟨?_, hhard⟩, hindexes, ?_⟩
        · intro hmiss hstrength
          exact hguard ⟨hmissing.1 hmiss, hstrength⟩
        · intro record
          dsimp only
          simp only [List.mem_cons, exists_eq_or_imp, hmissing]
          split_ifs with hfalse
          · simp [hfalse, hmem]
          · simp [hfalse, hmem]

theorem exists_resolveReferences {space : List Claim} {value : Claim}
    {references : List RelationReferenceDescriptor} :
    ∀ {indexes : ReferenceIndexes}, IndexesOf (groupBy (relationOf engine) space) indexes →
      (∀ reference ∈ references, Missing engine space value reference →
        reference.strength ≠ .hard) →
      ∃ output,
        resolveReferences (groupBy (relationOf engine) space) value indexes references =
          .ok output := by
  induction references with
  | nil =>
      intro indexes h hhard
      exact ⟨_, rfl⟩
  | cons reference rest ih =>
      intro indexes h hhard
      rw [List.forall_mem_cons] at hhard
      by_cases habsent : referenceAbsent value reference = true
      · rw [resolveReferences, if_pos habsent]
        exact ih h hhard.2
      · rw [Bool.not_eq_true] at habsent
        obtain ⟨hresolved, hnext⟩ := resolveReference_spec h value reference
        obtain ⟨output, houtput⟩ := ih hnext hhard.2
        rw [resolveReferences_cons habsent, if_neg, houtput, ok_bind]
        · exact ⟨_, rfl⟩
        · rintro ⟨hfalse, hstrength⟩
          refine hhard.1 ⟨habsent, ?_⟩ hstrength
          rw [← hresolved, hfalse]
          exact Bool.false_ne_true

/-- What resolution of the new claims asks of one of them. -/
def HardResolved (engine : RelationEngine hash) (space : List Claim) (value : Claim) : Prop :=
  ∃ descriptor, engine.requireId value.descriptor = .ok descriptor ∧
    ∀ reference ∈ descriptor.references, Missing engine space value reference →
      reference.strength ≠ .hard

/-- An unresolved reference of a claim. -/
def UnresolvedIn (engine : RelationEngine hash) (space : List Claim) (value : Claim)
    (record : UnresolvedReference) : Prop :=
  ∃ descriptor, engine.requireId value.descriptor = .ok descriptor ∧
    ∃ reference ∈ descriptor.references, Missing engine space value reference ∧
      record = unresolvedRecord value reference

theorem resolveClaims_eq_ok {space claims : List Claim} :
    ∀ {indexes : ReferenceIndexes} {unresolved : List UnresolvedReference},
      IndexesOf (groupBy (relationOf engine) space) indexes →
      resolveClaims engine (groupBy (relationOf engine) space) indexes claims = .ok unresolved →
      (∀ value ∈ claims, HardResolved engine space value) ∧
        ∀ record, record ∈ unresolved ↔ ∃ value ∈ claims, UnresolvedIn engine space value record := by
  induction claims with
  | nil =>
      intro indexes unresolved h hok
      obtain rfl := Except.ok.inj hok
      exact ⟨by simp, by simp⟩
  | cons value rest ih =>
      intro indexes unresolved h hok
      rw [resolveClaims, bind_eq_ok_iff] at hok
      obtain ⟨descriptor, hfound, hok⟩ := hok
      rw [bind_eq_ok_iff] at hok
      obtain ⟨output, houtput, hok⟩ := hok
      rw [bind_eq_ok_iff] at hok
      obtain ⟨others, hothers, hok⟩ := hok
      obtain rfl := Except.ok.inj hok
      obtain ⟨hhard, hindexes, hmem⟩ := resolveReferences_eq_ok h houtput
      obtain ⟨hrest, hmemrest⟩ := ih hindexes hothers
      refine ⟨List.forall_mem_cons.2 ⟨⟨descriptor, hfound, hhard⟩, hrest⟩, ?_⟩
      intro record
      have hvalue : UnresolvedIn engine space value record ↔ record ∈ output.1 := by
        rw [hmem]
        constructor
        · rintro ⟨other, hother, hreference⟩
          obtain rfl := Except.ok.inj (hfound.symm.trans hother)
          exact hreference
        · intro hreference
          exact ⟨descriptor, hfound, hreference⟩
      rw [List.mem_append, hmemrest, ← hvalue]
      simp

theorem exists_resolveClaims {space claims : List Claim} :
    ∀ {indexes : ReferenceIndexes}, IndexesOf (groupBy (relationOf engine) space) indexes →
      (∀ value ∈ claims, HardResolved engine space value) →
      ∃ unresolved,
        resolveClaims engine (groupBy (relationOf engine) space) indexes claims =
          .ok unresolved := by
  induction claims with
  | nil =>
      intro indexes h hhard
      exact ⟨_, rfl⟩
  | cons value rest ih =>
      intro indexes h hhard
      obtain ⟨⟨descriptor, hfound, hreferences⟩, hrest⟩ := List.forall_mem_cons.1 hhard
      obtain ⟨output, houtput⟩ := exists_resolveReferences h hreferences
      obtain ⟨others, hothers⟩ := ih (resolveReferences_eq_ok h houtput).2.1 hrest
      refine ⟨output.1 ++ others, ?_⟩
      rw [resolveClaims, hfound, ok_bind, houtput, ok_bind]
      exact congrArg (fun result : Result (List UnresolvedReference) => do
        let others ← result
        .ok (output.1 ++ others)) hothers

/-! ## The order of the claims -/

theorem resolves_congr {space space' : List Claim} (h : ∀ value, value ∈ space ↔ value ∈ space')
    (value : Claim) (reference : RelationReferenceDescriptor) (element : Option Bytes) :
    Resolves engine space value reference element ↔
      Resolves engine space' value reference element := by
  unfold Resolves
  simp only [h]

theorem missing_congr {space space' : List Claim} (h : ∀ value, value ∈ space ↔ value ∈ space')
    (value : Claim) (reference : RelationReferenceDescriptor) :
    Missing engine space value reference ↔ Missing engine space' value reference := by
  unfold Missing ReferenceResolved
  simp only [resolves_congr h]

/-- Resolution sees the claims as a set: the same sets resolve alike. -/
theorem resolveClaims_congr {space space' claims claims' : List Claim}
    (hspace : ∀ value, value ∈ space ↔ value ∈ space')
    (hclaims : ∀ value, value ∈ claims ↔ value ∈ claims') {unresolved : List UnresolvedReference}
    (h : resolveClaims engine (groupBy (relationOf engine) space) [] claims = .ok unresolved) :
    ∃ unresolved',
      resolveClaims engine (groupBy (relationOf engine) space') [] claims' = .ok unresolved' ∧
      ∀ record, record ∈ unresolved ↔ record ∈ unresolved' := by
  obtain ⟨hhard, hmem⟩ := resolveClaims_eq_ok (indexesOf_nil _) h
  have hhard' : ∀ value ∈ claims', HardResolved engine space' value := by
    intro value hvalue
    obtain ⟨descriptor, hfound, hreferences⟩ := hhard value ((hclaims value).2 hvalue)
    exact ⟨descriptor, hfound, fun reference hreference hmissing =>
      hreferences reference hreference ((missing_congr hspace value reference).2 hmissing)⟩
  obtain ⟨unresolved', h'⟩ := exists_resolveClaims (indexesOf_nil _) hhard'
  refine ⟨unresolved', h', ?_⟩
  intro record
  rw [hmem, (resolveClaims_eq_ok (indexesOf_nil _) h').2]
  unfold UnresolvedIn
  simp only [hclaims, missing_congr hspace]

end References

end Cxxlens.Sdk
