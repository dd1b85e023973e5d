import Cxxlens.Sdk.Claim.OrderIndependence
import Cxxlens.Sdk.Claim.Coverage

set_option autoImplicit false

/-! # Indexed and naive resolution

A lookup in the index of a reference finds what a scan over all claims of the target relation finds:
`reference_match` compares the interpretations, the universes and the values of the columns, and these
are the key of the index. -/

namespace Cxxlens.Sdk

open Fallible Collections

section NaiveScan

variable {hash : Bytes → Bytes} (engine : RelationEngine hash)

/-- Some claim of the target relation satisfies `reference_match`. -/
def naiveMatch (space : List Claim) (value : Claim) (reference : RelationReferenceDescriptor)
    (element : Option Bytes) : Bool :=
  space.any fun target => relationOf engine target == reference.targetRelation &&
    referenceMatch value reference target element

/-- What a scan over all claims resolves: a scalar, or every element of a set. -/
def naiveResolved (space : List Claim) (value : Claim) (reference : RelationReferenceDescriptor) :
    Bool :=
  if reference.containerElements = true then
    match (value.row.find (reference.sourceColumns.headD [])).bind canonicalSetElements with
    | none => false
    | some elements => elements.all fun element =>
        naiveMatch engine space value reference (some element)
  else naiveMatch engine space value reference none

/-- The record of a reference that does not resolve, if there is one. -/
def naiveRecord (space : List Claim) (value : Claim) (reference : RelationReferenceDescriptor) :
    Result (List UnresolvedReference) :=
  if referenceAbsent value reference = true ∨ naiveResolved engine space value reference = true then
    .ok []
  else if reference.strength = .hard then
    .error (claimError "sdk.hard-reference-missing" value.assertion reference.targetRelation)
  else .ok [unresolvedRecord value reference]

/-- The references of the new claims, resolved without an index. -/
def naiveClaims (space claims : List Claim) : Result (List UnresolvedReference) :=
  collect (fun value => do
    let descriptor ← engine.requireId value.descriptor
    collect (naiveRecord engine space value) descriptor.references) claims

variable {engine}

/-! ## The key of a match -/

theorem referenceMatch_iff (source target : Claim) (reference : RelationReferenceDescriptor)
    (element : Option Bytes) : referenceMatch source reference target element = true ↔
      source.interpretation = target.interpretation ∧
        source.presence.universe = target.presence.universe ∧
        includes target.presence.fragments source.presence.fragments = true ∧
        ∀ columns ∈ reference.sourceColumns.zip reference.targetColumns,
          columnsMatch source target reference.containerElements element columns = true := by
  unfold referenceMatch
  by_cases hapart : source.interpretation ≠ target.interpretation ∨
      source.presence.universe ≠ target.presence.universe ∨
      includes target.presence.fragments source.presence.fragments = false
  · rw [if_pos hapart]
    simp only [Bool.false_eq_true, false_iff]
    rintro ⟨hinterpretation, huniverse, hincludes, -⟩
    rcases hapart with h | h | h
    · exact h hinterpretation
    · exact h huniverse
    · rw [hincludes] at h
      cases h
  · rw [if_neg hapart, List.all_eq_true]
    simp only [not_or, not_not, Bool.not_eq_false] at hapart
    obtain ⟨hinterpretation, huniverse, hincludes⟩ := hapart
    exact ⟨fun h => ⟨hinterpretation, huniverse, hincludes, h⟩, fun h => h.2.2.2⟩

/-- A pair of columns that match have present cells with values. -/
theorem columnsMatch_cells {source target : Claim} {containerElements : Bool} {element : Option Bytes}
    {left right : Bytes} (h : columnsMatch source target containerElements element (left, right) = true) :
    ∃ leftCell rightCell leftValue rightValue,
      source.row.find left = some leftCell ∧ leftCell.state = .present ∧
        leftCell.value = some leftValue ∧
        target.row.find right = some rightCell ∧ rightCell.state = .present ∧
        rightCell.value = some rightValue ∧
        if containerElements = true then
          ∃ wanted, element = some wanted ∧ rightValue = .string wanted
        else leftValue = rightValue := by
  unfold columnsMatch at h
  cases hleft : source.row.find left with
  | none => simp [hleft] at h
  | some leftCell =>
      cases hright : target.row.find right with
      | none => simp [hleft, hright] at h
      | some rightCell =>
          simp only [hleft, hright] at h
          split_ifs at h with hmissing hcontainer
          · simp only [not_or, not_not] at hmissing
            obtain ⟨hleftState, hrightState, hleftValue, hrightValue⟩ := hmissing
            obtain ⟨leftValue, hleftValue⟩ := Option.ne_none_iff_exists'.1 hleftValue
            refine ⟨leftCell, rightCell, leftValue, ?_⟩
            cases element with
            | none => simp at h
            | some wanted =>
                rw [hleftValue]
                cases hvalue : rightCell.value with
                | none => simp [hvalue] at h
                | some rightValue =>
                    cases rightValue with
                    | string text =>
                        simp only [hvalue, beq_iff_eq] at h
                        exact ⟨.string text, rfl, hleftState, rfl, rfl, hrightState, rfl,
                          by simp [hcontainer, h]⟩
                    | _ => simp [hvalue] at h
          · simp only [not_or, not_not] at hmissing
            obtain ⟨hleftState, hrightState, hleftValue, hrightValue⟩ := hmissing
            obtain ⟨leftValue, hleftValue⟩ := Option.ne_none_iff_exists'.1 hleftValue
            obtain ⟨rightValue, hrightValue⟩ := Option.ne_none_iff_exists'.1 hrightValue
            rw [hleftValue, hrightValue, beq_iff_eq, Option.some_inj] at h
            exact ⟨leftCell, rightCell, leftValue, rightValue, rfl, hleftState, hleftValue, rfl,
              hrightState, hrightValue, by simp [hcontainer, h]⟩

theorem projectedValues_cons {value : Claim} {column : Bytes} {columns : List Bytes}
    {cell : DetachedCell} {item : ScalarValue} (hfind : value.row.find column = some cell)
    (hstate : cell.state = .present) (hvalue : cell.value = some item) :
    projectedValues value (column :: columns) =
      (projectedValues value columns).map (item :: ·) := by
  simp [projectedValues, hfind, hstate, hvalue]

/-- The values of the source are the values of a scalar match. -/
theorem projectedValues_of_match {source target : Claim} :
    ∀ {left right : List Bytes}, left.length = right.length →
      (∀ columns ∈ left.zip right, columnsMatch source target false none columns = true) →
      ∃ key, projectedValues source left = some key ∧ projectedValues target right = some key
  | [], [], _, _ => ⟨[], rfl, rfl⟩
  | first :: left, second :: right, hlength, h => by
      rw [List.zip_cons_cons, List.forall_mem_cons] at h
      obtain ⟨key, hsource, htarget⟩ :=
        projectedValues_of_match (by simpa using hlength) h.2
      obtain ⟨_, _, leftValue, _, hfind, hstate, hvalue, hfind', hstate', hvalue', rfl⟩ :=
        columnsMatch_cells h.1
      refine ⟨leftValue :: key, ?_, ?_⟩
      · rw [projectedValues_cons hfind hstate hvalue, hsource, Option.map_some]
      · rw [projectedValues_cons hfind' hstate' hvalue', htarget, Option.map_some]

/-- Every value of a match of an element is the element. -/
theorem projectedValues_of_element {source target : Claim} {element : Bytes} :
    ∀ {left right : List Bytes}, left.length = right.length →
      (∀ columns ∈ left.zip right,
        columnsMatch source target true (some element) columns = true) →
      projectedValues target right = some (List.replicate left.length (.string element))
  | [], [], _, _ => rfl
  | first :: left, second :: right, hlength, h => by
      rw [List.zip_cons_cons, List.forall_mem_cons] at h
      have hrest := projectedValues_of_element (by simpa using hlength) h.2
      obtain ⟨_, _, _, rightValue, -, -, -, hfind, hstate, hvalue, helement⟩ :=
        columnsMatch_cells h.1
      obtain ⟨wanted, hwanted, rfl⟩ := by simpa using helement
      rw [projectedValues_cons hfind hstate hvalue, hrest, Option.map_some, List.length_cons,
        List.replicate_succ]

/-- A valid reference has a target column for every source column. -/
theorem length_columns {descriptor : RelationDescriptor} {reference : RelationReferenceDescriptor}
    (hvalid : descriptor.validate hash = .ok ()) (h : reference ∈ descriptor.references) :
    reference.sourceColumns.length = reference.targetColumns.length := by
  have hreferences : ∀ reference ∈ descriptor.references,
      descriptor.validateReference reference = .ok () := by
    simp only [RelationDescriptor.validate, seq_eq_ok_iff, firstError_eq_ok_iff] at hvalid
    tauto
  have hreference := hreferences reference h
  rw [RelationDescriptor.validateReference] at hreference
  simp only [seq_eq_ok_iff, reject_eq_ok_iff, Bool.or_eq_false_iff, bne_eq_false_iff_eq]
    at hreference
  exact hreference.1.1.2

theorem naiveMatch_iff {space : List Claim} {value : Claim} {reference : RelationReferenceDescriptor}
    {element : Option Bytes} : naiveMatch engine space value reference element = true ↔
      ∃ target ∈ space, relationOf engine target = reference.targetRelation ∧
        referenceMatch value reference target element = true := by
  simp [naiveMatch]

/-- A lookup finds what the scan finds. -/
theorem resolves_iff {space : List Claim} {value : Claim} {reference : RelationReferenceDescriptor}
    (hlength : reference.sourceColumns.length = reference.targetColumns.length)
    {element : Option Bytes} (helement : element.isSome = reference.containerElements) :
    Resolves engine space value reference element ↔
      naiveMatch engine space value reference element = true := by
  rw [naiveMatch_iff]
  constructor
  · rintro ⟨-, -, target, htarget, hrelation, -, hmatch⟩
    exact ⟨target, htarget, hrelation, hmatch⟩
  · rintro ⟨target, htarget, hrelation, hmatch⟩
    obtain ⟨hinterpretation, huniverse, -, hcolumns⟩ :=
      (referenceMatch_iff value target reference element).1 hmatch
    -- the key that is looked up is the key the target is filed under
    obtain ⟨key, hsought, hkey⟩ : ∃ key, soughtKey value reference element = some key ∧
        projectedValues target reference.targetColumns = some key := by
      cases element with
      | none =>
          rw [← helement] at hcolumns
          exact projectedValues_of_match hlength hcolumns
      | some wanted =>
          rw [← helement] at hcolumns
          exact ⟨_, rfl, projectedValues_of_element hlength hcolumns⟩
    refine ⟨key, hsought, target, htarget, hrelation, ?_, hmatch⟩
    rw [targetKey, hkey, Option.map_some, hinterpretation, huniverse]

theorem referenceResolved_iff {space : List Claim} {value : Claim}
    {reference : RelationReferenceDescriptor}
    (hlength : reference.sourceColumns.length = reference.targetColumns.length) :
    ReferenceResolved engine space value reference ↔
      naiveResolved engine space value reference = true := by
  unfold ReferenceResolved naiveResolved
  by_cases hcontainer : reference.containerElements = true
  · rw [if_pos hcontainer, if_pos hcontainer]
    have hone (element : Bytes) : Resolves engine space value reference (some element) ↔
        naiveMatch engine space value reference (some element) = true :=
      resolves_iff hlength (by rw [hcontainer]; rfl)
    simp only [hone]
    cases (value.row.find (reference.sourceColumns.headD [])).bind canonicalSetElements with
    | none => simp
    | some elements => simp
  · rw [if_neg hcontainer, if_neg hcontainer]
    exact resolves_iff hlength (by simpa using hcontainer)

/-! ## The loops -/

/-- A loop over the references of a claim, with indexes or without. -/
theorem resolveReferences_eq_naive {space : List Claim} {value : Claim} :
    ∀ {references : List RelationReferenceDescriptor} {indexes : ReferenceIndexes},
      (∀ reference ∈ references,
        reference.sourceColumns.length = reference.targetColumns.length) →
      IndexesOf (groupBy (relationOf engine) space) indexes →
      ∃ next, IndexesOf (groupBy (relationOf engine) space) next ∧
        resolveReferences (groupBy (relationOf engine) space) value indexes references =
          (collect (naiveRecord engine space value) references >>= fun unresolved =>
            .ok (unresolved, next))
  | [], indexes, _, h => ⟨indexes, h, rfl⟩
  | reference :: rest, indexes, hlength, h => by
      rw [List.forall_mem_cons] at hlength
      by_cases habsent : referenceAbsent value reference = true
      · obtain ⟨next, hnext, hrest⟩ := resolveReferences_eq_naive hlength.2 h
        refine ⟨next, hnext, ?_⟩
        rw [resolveReferences, if_pos habsent, hrest, collect, naiveRecord, if_pos (Or.inl habsent),
          ok_bind]
        cases collect (naiveRecord engine space value) rest with
        | error error => rfl
        | ok unresolved => rfl
      · rw [Bool.not_eq_true] at habsent
        obtain ⟨hresolved, hindexes⟩ := resolveReference_spec h value reference
        rw [referenceResolved_iff hlength.1] at hresolved
        obtain ⟨next, hnext, hrest⟩ := resolveReferences_eq_naive hlength.2 hindexes
        refine ⟨next, hnext, ?_⟩
        rw [resolveReferences_cons habsent, hrest, collect, naiveRecord]
        by_cases hnaive : naiveResolved engine space value reference = true
        · have hfound := hresolved.2 hnaive
          simp only [hfound, hnaive, or_true, if_true, ok_bind, Bool.true_eq_false, false_and,
            if_false]
          cases collect (naiveRecord engine space value) rest with
          | error error => rfl
          | ok unresolved => rfl
        · have hmissing : (resolveReference (groupBy (relationOf engine) space) value reference
              indexes).1 = false := by
            rw [← Bool.not_eq_true, hresolved]
            exact hnaive
          simp only [habsent, hnaive, hmissing, Bool.false_eq_true, or_false, if_false, true_and,
            if_true]
          by_cases hhard : reference.strength = .hard
          · rw [if_pos hhard, if_pos hhard]
            rfl
          · rw [if_neg hhard, if_neg hhard, ok_bind]
            cases collect (naiveRecord engine space value) rest with
            | error error => rfl
            | ok unresolved => rfl

theorem resolveClaims_eq_naive {space : List Claim} :
    ∀ {claims : List Claim} {indexes : ReferenceIndexes},
      IndexesOf (groupBy (relationOf engine) space) indexes →
      resolveClaims engine (groupBy (relationOf engine) space) indexes claims =
        naiveClaims engine space claims
  | [], _, _ => rfl
  | value :: rest, indexes, h => by
      rw [resolveClaims, naiveClaims, collect]
      cases hfound : engine.requireId value.descriptor with
      | error error => rfl
      | ok descriptor =>
          have hvalid := engine.valid descriptor (requireId_eq_ok hfound).2
          obtain ⟨next, hnext, hreferences⟩ := resolveReferences_eq_naive
            (fun reference hreference => length_columns hvalid hreference) h
          rw [ok_bind, ok_bind, hreferences]
          cases collect (naiveRecord engine space value) descriptor.references with
          | error error => rfl
          | ok unresolved =>
              rw [ok_bind, ok_bind, ok_bind]
              dsimp only
              rw [resolveClaims_eq_naive hnext]
              rfl

/-! ## Commits -/

variable (engine) in
/-- A reference of one of the claims. -/
def ReferenceOf (claims : List Claim) (value : Claim) (reference : RelationReferenceDescriptor) :
    Prop :=
  value ∈ claims ∧ ∃ descriptor, engine.requireId value.descriptor = .ok descriptor ∧
    reference ∈ descriptor.references

variable (engine) in
/-- A reference that is not absent, and that the scan does not resolve. -/
def NaiveMissing (space : List Claim) (value : Claim) (reference : RelationReferenceDescriptor) :
    Prop :=
  referenceAbsent value reference = false ∧ naiveResolved engine space value reference = false

theorem missing_iff {space claims : List Claim} {value : Claim}
    {reference : RelationReferenceDescriptor} (h : ReferenceOf engine claims value reference) :
    Missing engine space value reference ↔ NaiveMissing engine space value reference := by
  obtain ⟨-, descriptor, hfound, hreference⟩ := h
  have hlength := length_columns (engine.valid descriptor (requireId_eq_ok hfound).2) hreference
  rw [Missing, NaiveMissing, referenceResolved_iff hlength, Bool.not_eq_true]

/-- A commit lists the records of the references that the scan does not resolve. -/
theorem mem_unresolved_iff {added existing : List Claim} {result : ClaimBatchResult}
    (h : commit engine added existing = .ok result) (record : UnresolvedReference) :
    record ∈ result.unresolved ↔ ∃ value reference, ReferenceOf engine added value reference ∧
      NaiveMissing engine (existing ++ added) value reference ∧
      record = unresolvedRecord value reference := by
  obtain ⟨-, -, unresolved, -, -, -, -, hunresolved, -, -, -, -, -, hresult, -⟩ :=
    commit_eq_ok_iff.1 h
  rw [hresult, canonicalUnresolved, mem_sortUnique UnresolvedReference.tie_injective
    (same_iff_tie UnresolvedReference.tie_injective),
    (resolveClaims_eq_ok (indexesOf_nil _) hunresolved).2]
  constructor
  · rintro ⟨value, hvalue, descriptor, hfound, reference, hreference, hmissing, rfl⟩
    have hof : ReferenceOf engine added value reference := ⟨hvalue, descriptor, hfound, hreference⟩
    exact ⟨value, reference, hof, (missing_iff hof).1 hmissing, rfl⟩
  · rintro ⟨value, reference, hof, hmissing, rfl⟩
    have hmissing := (missing_iff hof).2 hmissing
    obtain ⟨hvalue, descriptor, hfound, hreference⟩ := hof
    exact ⟨value, hvalue, descriptor, hfound, reference, hreference, hmissing, rfl⟩

theorem unresolved_nodup {added existing : List Claim} {result : ClaimBatchResult}
    (h : commit engine added existing = .ok result) : result.unresolved.Nodup := by
  obtain ⟨-, -, unresolved, -, -, -, -, -, -, -, -, -, -, hresult, -⟩ := commit_eq_ok_iff.1 h
  rw [hresult]
  exact sortUnique_nodup (fun _ _ => decide_eq_true_iff)
    (same_iff_tie UnresolvedReference.tie_injective) unresolved

/-- Only the hard reference it names makes a claim fail to resolve. -/
theorem naiveRecord_error {space : List Claim} {value : Claim}
    {reference : RelationReferenceDescriptor} {error : Error}
    (h : naiveRecord engine space value reference = .error error) :
    error.code = "sdk.hard-reference-missing" := by
  unfold naiveRecord at h
  split_ifs at h
  obtain rfl := Except.error.inj h
  rfl

theorem naiveClaims_error {space claims : List Claim} {error : Error}
    (hfound : ∀ value ∈ claims, ∃ descriptor, engine.requireId value.descriptor = .ok descriptor)
    (h : naiveClaims engine space claims = .error error) :
    error.code = "sdk.hard-reference-missing" := by
  obtain ⟨value, hvalue, herror⟩ := exists_of_collect_eq_error h
  obtain ⟨descriptor, hdescriptor⟩ := hfound value hvalue
  rw [hdescriptor, ok_bind] at herror
  obtain ⟨reference, -, herror⟩ := exists_of_collect_eq_error herror
  exact naiveRecord_error herror

theorem naiveClaims_hard {space claims : List Claim} {value : Claim}
    {reference : RelationReferenceDescriptor} (hof : ReferenceOf engine claims value reference)
    (hmissing : NaiveMissing engine space value reference) (hhard : reference.strength = .hard) :
    ∃ error, naiveClaims engine space claims = .error error := by
  obtain ⟨hvalue, descriptor, hfound, hreference⟩ := hof
  cases hclaims : naiveClaims engine space claims with
  | error error => exact ⟨error, rfl⟩
  | ok unresolved =>
      obtain ⟨returned, hreturned⟩ := (collect_eq_ok hclaims).1 value hvalue
      rw [hfound, ok_bind] at hreturned
      obtain ⟨records, hrecords⟩ := (collect_eq_ok hreturned).1 reference hreference
      rw [naiveRecord, if_neg (by simp [hmissing.1, hmissing.2]), if_pos hhard] at hrecords
      cases hrecords

theorem commit_hard {added existing : List Claim} {value : Claim}
    {reference : RelationReferenceDescriptor} (hof : ReferenceOf engine added value reference)
    (hmissing : NaiveMissing engine (existing ++ added) value reference)
    (hhard : reference.strength = .hard) :
    ∃ error, commit engine added existing = .error error ∧
      ((∀ value ∈ added ++ existing, validateClaim engine value = .ok ()) →
        error.code = "sdk.hard-reference-missing") := by
  obtain ⟨reported, hreported⟩ := naiveClaims_hard hof hmissing hhard
  rw [← resolveClaims_eq_naive (indexesOf_nil _)] at hreported
  cases hcommit : commit engine added existing with
  | ok result =>
      obtain ⟨-, -, unresolved, -, -, -, -, hunresolved, -⟩ := commit_eq_ok_iff.1 hcommit
      rw [hreported] at hunresolved
      cases hunresolved
  | error error =>
      refine ⟨error, rfl, ?_⟩
      intro hvalid
      rw [List.forall_mem_append] at hvalid
      -- the checks before the references pass, so the error is the one of the references
      rw [commit, (firstError_eq_ok_iff _ _).2 hvalid.1, ok_bind,
        (firstError_eq_ok_iff _ _).2 hvalid.2, ok_bind]
        at hcommit
      dsimp only at hcommit
      rw [hreported, error_bind] at hcommit
      obtain rfl := Except.error.inj hcommit
      rw [resolveClaims_eq_naive (indexesOf_nil _)] at hreported
      refine naiveClaims_error ?_ hreported
      intro other hother
      obtain ⟨descriptor, hdescriptor⟩ := exists_validClaim (hvalid.1 other hother)
      exact ⟨descriptor, hdescriptor.found⟩

/-- In a list without repetitions, a property of one element only selects that element. -/
theorem filter_eq_singleton {α : Type} {p : α → Prop} [DecidablePred p] {items : List α} {a : α}
    (hnodup : items.Nodup) (ha : a ∈ items) (h : ∀ b ∈ items, p b ↔ b = a) :
    items.filter (fun b => p b) = [a] := by
  have hperm : (items.filter (fun b => p b)).Perm [a] := by
    rw [List.perm_ext_iff_of_nodup (hnodup.filter _) (List.nodup_singleton a)]
    intro b
    rw [List.mem_filter, List.mem_singleton, decide_eq_true_iff]
    exact ⟨fun hb => (h b hb.1).1 hb.2, fun hb => hb ▸ ⟨ha, (h a ha).2 rfl⟩⟩
  exact List.perm_singleton.1 hperm

/-- Claims of a batch with one assertion have one descriptor. -/
theorem descriptor_eq_of_assertion {claims : List Claim} {a b : Claim}
    (hdigest : NoCollision engine claims) (ha : a ∈ claims) (hb : b ∈ claims)
    (hvalid : ∀ value ∈ claims, validateClaim engine value = .ok ())
    (h : a.assertion = b.assertion) : a.descriptor = b.descriptor := by
  obtain ⟨da, hvalida⟩ := exists_validClaim (hvalid a ha)
  obtain ⟨db, hvalidb⟩ := exists_validClaim (hvalid b hb)
  have hpair : NoCollision engine [a, b] := by
    refine hdigest.mono ?_
    intro value hvalue
    rcases List.mem_pair.1 hvalue with rfl | rfl
    · exact ha
    · exact hb
  exact ((assertion_eq_iff hpair hvalida hvalidb).1 h).key.1

/-- **Resolution through the indexes is the scan of `reference_match` over the claims of the target
    relation.** A hard reference that the scan does not resolve fails the commit, and a soft one has
    one record. -/
theorem resolution_eq_scan (engine : RelationEngine hash) (added existing : List Claim) :
    (resolveClaims engine (groupBy (relationOf engine) (existing ++ added)) [] added =
      naiveClaims engine (existing ++ added) added) ∧
    (∀ value reference indexes, ReferenceOf engine added value reference →
      IndexesOf (groupBy (relationOf engine) (existing ++ added)) indexes →
      (resolveReference (groupBy (relationOf engine) (existing ++ added)) value reference
        indexes).1 = naiveResolved engine (existing ++ added) value reference) ∧
    (∀ value reference, ReferenceOf engine added value reference →
      NaiveMissing engine (existing ++ added) value reference → reference.strength = .hard →
      ∃ error, commit engine added existing = .error error ∧
        ((∀ value ∈ added ++ existing, validateClaim engine value = .ok ()) →
          error.code = "sdk.hard-reference-missing")) ∧
    ∀ result, commit engine added existing = .ok result →
      (∀ record, record ∈ result.unresolved ↔ ∃ value reference,
        ReferenceOf engine added value reference ∧
          NaiveMissing engine (existing ++ added) value reference ∧
          record = unresolvedRecord value reference) ∧
      ∀ value reference, ReferenceOf engine added value reference →
        NaiveMissing engine (existing ++ added) value reference →
        (result.unresolved.filter fun record =>
          record.sourceAssertion = value.assertion ∧ record.sourceRelation = value.descriptor ∧
            record.targetRelation = reference.targetRelation ∧
            record.sourceColumns = reference.sourceColumns) = [unresolvedRecord value reference] ∧
        (NoCollision engine added →
          (result.unresolved.filter fun record =>
            record.sourceAssertion = value.assertion ∧
              record.targetRelation = reference.targetRelation ∧
              record.sourceColumns = reference.sourceColumns) =
            [unresolvedRecord value reference]) := by
  refine ⟨resolveClaims_eq_naive (indexesOf_nil _), ?_, fun _ _ => commit_hard, ?_⟩
  · rintro value reference indexes ⟨-, descriptor, hfound, hreference⟩ hindexes
    rw [Bool.eq_iff_iff, (resolveReference_spec hindexes value reference).1]
    exact referenceResolved_iff
      (length_columns (engine.valid descriptor (requireId_eq_ok hfound).2) hreference)
  · intro result hcommit
    have hmem := mem_unresolved_iff hcommit
    have hvalid := (commit_eq_ok_iff.1 hcommit).1
    refine ⟨hmem, ?_⟩
    intro value reference hof hmissing
    have hrecord : unresolvedRecord value reference ∈ result.unresolved :=
      (hmem _).2 ⟨value, reference, hof, hmissing, rfl⟩
    constructor
    · refine filter_eq_singleton (unresolved_nodup hcommit) hrecord ?_
      intro record hlisted
      obtain ⟨other, otherReference, -, -, rfl⟩ := (hmem record).1 hlisted
      simp [unresolvedRecord]
    · intro hdigest
      refine filter_eq_singleton (unresolved_nodup hcommit) hrecord ?_
      intro record hlisted
      obtain ⟨other, otherReference, hofOther, -, rfl⟩ := (hmem record).1 hlisted
      have hdescriptor : other.assertion = value.assertion → other.descriptor = value.descriptor :=
        descriptor_eq_of_assertion hdigest hofOther.1 hof.1 hvalid
      simp only [unresolvedRecord, UnresolvedReference.mk.injEq, and_true]
      tauto

end NaiveScan

end Cxxlens.Sdk
