import Cxxlens.Sdk.Decimal
import Cxxlens.Sdk.Incremental.Rounds

set_option autoImplicit false

/-! # A closure is exact

The rows of a closure are the paths its rounds have room for, a certified closure has every path with
all of its evidence, and the result is valid whatever order the request came in. -/

namespace Cxxlens.Sdk.Incremental

open Sorting Saturation Fallible

/-! ## Valid requests -/

theorem notStrongId_eq_false {value : Bytes} (h : notStrongId value = false) :
    validUtf8 value = true := by
  rw [notStrongId, Bool.not_eq_false'] at h
  obtain ⟨⟨⟩, hvalid⟩ := exists_eq_ok_of_isOk h
  unfold validateStrongId at hvalid
  split_ifs at hvalid with hempty
  rw [seq_eq_ok_iff, validateUtf8Text, guard_eq_ok_iff] at hvalid
  simpa using hvalid.1.1

/-- What `closure_edge::validate` checks. -/
structure ClosureEdge.Valid (edge : ClosureEdge) : Prop where
  «from» : notStrongId edge.from = false
  «to» : notStrongId edge.to = false
  conditions : edge.conditionFragments ≠ []
  interpretation : notStrongId edge.interpretation = false
  evidences : edge.evidence ≠ []
  condition : ∀ fragment ∈ edge.conditionFragments, notStrongId fragment = false
  evidence : ∀ item ∈ edge.evidence, notStrongId item = false

theorem ClosureEdge.valid_of_validate {edge : ClosureEdge} (h : edge.validate = .ok ()) :
    edge.Valid := by
  simp only [ClosureEdge.validate, seq_eq_ok_iff, reject_eq_ok_iff, firstError_eq_ok_iff,
    Bool.or_eq_false_iff, List.isEmpty_eq_false_iff] at h
  obtain ⟨hfrom, hto, ⟨⟨hconditions, hinterpretation⟩, hevidences⟩, hcondition, hevidence⟩ := h
  exact ⟨hfrom, hto, hconditions, hinterpretation, hevidences, hcondition, hevidence⟩

/-- What `closure_request::validate` checks. -/
structure ClosureRequest.Valid (request : ClosureRequest) : Prop where
  kind : request.closureKind ∈ derivedKinds
  roots : ∀ root ∈ request.roots, notStrongId root = false
  edges : ∀ edge ∈ request.edges, edge.Valid

theorem validate_request_iff (request : ClosureRequest) : request.validate = .ok () ↔
    (request.roots ≠ [] ∧ request.maxIterations ≠ 0 ∧ request.maxEdges ≠ 0) ∧
      request.closureKind ∈ derivedKinds ∧ (∀ root ∈ request.roots, notStrongId root = false) ∧
      ∀ edge ∈ request.edges, edge.validate = .ok () := by
  simp [ClosureRequest.validate, seq_eq_ok_iff, reject_eq_ok_iff, firstError_eq_ok_iff, and_assoc]

theorem ClosureRequest.valid_of_validate {request : ClosureRequest}
    (h : request.validate = .ok ()) : request.Valid := by
  obtain ⟨-, hkind, hroots, hedges⟩ := (validate_request_iff request).1 h
  exact ⟨hkind, hroots, fun edge hedge => ClosureEdge.valid_of_validate (hedges edge hedge)⟩

/-! ## The exploration of a request -/

section Request

variable {request : ClosureRequest}

/-- The loop on all the edges of a request. -/
def exploration (request : ClosureRequest) : Exploration :=
  explored (canonicalStrings request.roots) (sortedEdges request.edges) request.maxIterations

theorem exploration_explores (request : ClosureRequest) :
    Explores (canonicalStrings request.roots) (sortedEdges request.edges) (exploration request) := by
  refine explore_explores ⟨fun _ => none, Graph.Rounds.start (List.Perm.refl _), Mirrors.empty, ?_⟩
    (by simp)
  exact fun row hrow => initialFrontier_ordered hrow

theorem length_sortedEdges (edges : List ClosureEdge) :
    (sortedEdges edges).length = edges.length := by
  rw [sortedEdges, length_sortBy, List.length_map]

/-- Within the budget no edge is dropped. -/
theorem closureOutput_eq (hbudget : request.edges.length ≤ request.maxEdges.toNat) :
    closureOutput request =
      { closureKind := request.closureKind
        rows := sortBy rowLess ((exploration request).reached.entries.map Prod.snd)
        iterations := (exploration request).iterations
        closureCertified := (exploration request).frontier.isEmpty
        unresolved := iterationBudget (exploration request).frontier request.maxIterations
        resultDigest := [] } := by
  have hlength := length_sortedEdges request.edges
  have htake : (sortedEdges request.edges).take request.maxEdges.toNat = sortedEdges request.edges :=
    List.take_of_length_le (hlength ▸ hbudget)
  have hnone : edgeBudget (sortedEdges request.edges) request.maxEdges = [] :=
    if_neg (by omega)
  have hcertified : ∀ frontier : List ClosureRow,
      (frontier.isEmpty && (iterationBudget frontier request.maxIterations).isEmpty) =
        frontier.isEmpty := by
    intro frontier
    cases frontier <;> simp [iterationBudget]
  simp only [closureOutput, htake, hnone, List.nil_append, hcertified]
  rfl

/-- A row of a closure is the row its key has reached. -/
theorem mem_rows {table : Graph.Table Key Bytes} (h : Mirrors (exploration request).reached table)
    (row : ClosureRow) :
    row ∈ sortBy rowLess ((exploration request).reached.entries.map Prod.snd) ↔
      (exploration request).reached.find row.key = some row := by
  rw [mem_sortBy, List.mem_map]
  constructor
  · rintro ⟨⟨key, held⟩, hentry, rfl⟩
    have hfind := ((exploration request).reached.find_eq_some_iff).2 hentry
    dsimp only
    rwa [(h.keyed key held hfind).1]
  · intro hfind
    exact ⟨_, ((exploration request).reached.find_eq_some_iff).1 hfind, rfl⟩

theorem requestGraph_path_iff (hvalid : request.Valid) {n : Nat} {root target interpretation : Bytes}
    {condition : List Bytes} {evidence : Finset Bytes} :
    (requestGraph request).Path n (pathKey root target interpretation condition) evidence ↔
      ∃ path, path.length = n ∧ PathOf request root target interpretation condition path ∧
        evidence = collectedEvidence path := by
  constructor
  · intro h
    have hconditions := fun edge hedge => (hvalid.edges edge hedge).conditions
    obtain ⟨_, _, _, _, path, hkey, hlength, hpath, hevidence⟩ := pathOf_of_path hconditions h
    obtain ⟨rfl, rfl, rfl, rfl⟩ := by
      simpa [pathKey, Prod.ext_iff] using hkey
    exact ⟨path, hlength, hpath, hevidence⟩
  · rintro ⟨path, rfl, hpath, rfl⟩
    exact path_of_pathOf hpath

/-! ## Rows and paths -/

/-- A closure has a row for a root, a target, an interpretation and a condition. -/
def ClosureResult.HasRow (output : ClosureResult) (root target interpretation : Bytes)
    (condition : List Bytes) : Prop :=
  ∃ row ∈ output.rows, row.root = root ∧ row.target = target ∧
    row.interpretation = interpretation ∧ row.conditionFragments = condition

variable {table : Graph.Table Key Bytes}

/-- The rows are the keys that are reached. -/
theorem hasRow_iff (hbudget : request.edges.length ≤ request.maxEdges.toNat)
    (h : Mirrors (exploration request).reached table) (root target interpretation : Bytes)
    (condition : List Bytes) :
    (closureOutput request).HasRow root target interpretation condition ↔
      (table (pathKey root target interpretation condition)).isSome = true := by
  rw [closureOutput_eq hbudget, ClosureResult.HasRow, h.collected, Option.isSome_map,
    Option.isSome_iff_exists]
  constructor
  · rintro ⟨row, hrow, rfl, rfl, rfl, rfl⟩
    exact ⟨row, (mem_rows h row).1 hrow⟩
  · rintro ⟨row, hfind⟩
    have hkey := (h.keyed _ _ hfind).1
    obtain ⟨hroot, htarget, hinterpretation, hcondition⟩ :
        row.root = root ∧ row.target = target ∧ row.interpretation = interpretation ∧
          row.conditionFragments = condition := by
      simpa [ClosureRow.key, pathKey, Prod.ext_iff] using hkey
    exact ⟨row, (mem_rows h row).2 (hkey ▸ hfind), hroot, htarget, hinterpretation, hcondition⟩

/-- The rows are the paths of at most as many edges as there were rounds. -/
theorem hasRow_iff_path (hvalid : request.Valid)
    (hbudget : request.edges.length ≤ request.maxEdges.toNat) (root target interpretation : Bytes)
    (condition : List Bytes) :
    (closureOutput request).HasRow root target interpretation condition ↔
      ∃ path, path.length ≤ (closureOutput request).iterations.toNat ∧
        PathOf request root target interpretation condition path := by
  obtain ⟨table, hrounds, hmirrors, -⟩ := exploration_explores request
  have hiterations : (closureOutput request).iterations = (exploration request).iterations := by
    rw [closureOutput_eq hbudget]
  rw [hasRow_iff hbudget hmirrors, hrounds.reached_iff, hiterations]
  constructor
  · rintro ⟨m, hm, evidence, hpath⟩
    obtain ⟨path, rfl, hpath, -⟩ := (requestGraph_path_iff hvalid).1 hpath
    exact ⟨path, hm, hpath⟩
  · rintro ⟨path, hlength, hpath⟩
    exact ⟨path.length, hlength, _, path_of_pathOf hpath⟩

/-- The row of a path with what the path has as evidence, for what holds of the table. -/
theorem row_path (h : Mirrors (exploration request).reached table)
    (hbudget : request.edges.length ≤ request.maxEdges.toNat) {row : ClosureRow}
    (hrow : row ∈ (closureOutput request).rows) :
    table (pathKey row.root row.target row.interpretation row.conditionFragments) =
      some row.evidence.toFinset ∧ row.Ordered := by
  rw [closureOutput_eq hbudget] at hrow
  have hfind := (mem_rows h row).1 hrow
  exact ⟨h.find_eq_some hfind, (h.keyed _ _ hfind).2⟩

/-- A certified closure has stopped because nothing waited. -/
theorem frontier_eq_nil (hbudget : request.edges.length ≤ request.maxEdges.toNat)
    (hcertified : (closureOutput request).closureCertified = true) :
    (exploration request).frontier = [] := by
  rw [closureOutput_eq hbudget] at hcertified
  exact List.isEmpty_iff.1 hcertified

/-- A certified closure has every path. -/
theorem hasRow_iff_of_certified (hvalid : request.Valid)
    (hbudget : request.edges.length ≤ request.maxEdges.toNat)
    (hcertified : (closureOutput request).closureCertified = true)
    (root target interpretation : Bytes) (condition : List Bytes) :
    (closureOutput request).HasRow root target interpretation condition ↔
      ∃ path, PathOf request root target interpretation condition path := by
  constructor
  · intro h
    obtain ⟨path, -, hpath⟩ := (hasRow_iff_path hvalid hbudget _ _ _ _).1 h
    exact ⟨path, hpath⟩
  · rintro ⟨path, hpath⟩
    obtain ⟨table, hrounds, hmirrors, -⟩ := exploration_explores request
    rw [frontier_eq_nil hbudget hcertified, List.map_nil] at hrounds
    obtain ⟨known, hknown, -⟩ := hrounds.saturated _ (path_of_pathOf hpath)
    rw [hasRow_iff hbudget hmirrors, hknown]
    rfl

/-- A row of a certified closure has the evidence of all its paths. -/
theorem mem_evidence_iff (hvalid : request.Valid)
    (hbudget : request.edges.length ≤ request.maxEdges.toNat)
    (hcertified : (closureOutput request).closureCertified = true) {row : ClosureRow}
    (hrow : row ∈ (closureOutput request).rows) (item : Bytes) :
    item ∈ row.evidence ↔
      ∃ path, PathOf request row.root row.target row.interpretation row.conditionFragments path ∧
        ∃ edge ∈ path, item ∈ edge.evidence := by
  obtain ⟨table, hrounds, hmirrors, -⟩ := exploration_explores request
  rw [frontier_eq_nil hbudget hcertified, List.map_nil] at hrounds
  obtain ⟨htable, -⟩ := row_path hmirrors hbudget hrow
  have hcollected (path : List ClosureEdge) :
      item ∈ collectedEvidence path ↔ ∃ edge ∈ path, item ∈ edge.evidence := by
    rw [collectedEvidence, List.mem_toFinset, List.mem_flatMap]
  constructor
  · intro hitem
    obtain ⟨m, -, evidence, hreach, hin⟩ :=
      (hrounds.sound.1 _ _ htable).2 item (List.mem_toFinset.2 hitem)
    obtain ⟨path, -, hpath, rfl⟩ := (requestGraph_path_iff hvalid).1 hreach
    exact ⟨path, hpath, (hcollected path).1 hin⟩
  · rintro ⟨path, hpath, hedge⟩
    obtain ⟨known, hknown, hsub⟩ := hrounds.saturated _ (path_of_pathOf hpath)
    rw [htable, Option.some_inj] at hknown
    exact List.mem_toFinset.1 (hknown ▸ hsub ((hcollected path).2 hedge))

/-! ## The result is valid -/

theorem Walk.mem {edges path : List ClosureEdge} {root interpretation target : Bytes}
    (h : Walk edges root interpretation path target) :
    ∀ edge ∈ path, edge ∈ edges ∧ edge.interpretation = interpretation := by
  induction h with
  | edge hmem _ hinterpretation =>
      intro other hother
      rw [List.mem_singleton.1 hother]
      exact ⟨hmem, hinterpretation⟩
  | step _ hmem _ hinterpretation ih =>
      intro other hother
      rcases List.mem_append.1 hother with hold | hlast
      · exact ih other hold
      · rw [List.mem_singleton.1 hlast]
        exact ⟨hmem, hinterpretation⟩

theorem Walk.target {edges path : List ClosureEdge} {root interpretation target : Bytes}
    (h : Walk edges root interpretation path target) : ∃ edge ∈ path, edge.to = target := by
  cases h with
  | edge => exact ⟨_, List.mem_singleton_self _, rfl⟩
  | step => exact ⟨_, List.mem_append_right _ (List.mem_singleton_self _), rfl⟩

/-- The identities on a path are strong. -/
theorem PathOf.strong (hvalid : request.Valid) {root target interpretation : Bytes}
    {condition : List Bytes} {path : List ClosureEdge}
    (h : PathOf request root target interpretation condition path) :
    notStrongId root = false ∧ notStrongId target = false ∧ notStrongId interpretation = false ∧
      (∀ fragment ∈ condition, notStrongId fragment = false) ∧
      (∀ item ∈ collectedEvidence path, notStrongId item = false) ∧
      (collectedEvidence path).Nonempty := by
  have hedges := fun edge hedge => hvalid.edges edge (h.walk.mem edge hedge).1
  obtain ⟨last, hlast, htarget⟩ := h.walk.target
  have hlastValid := hedges last hlast
  refine ⟨hvalid.roots root h.isRoot, htarget ▸ hlastValid.to, ?_, ?_, ?_, ?_⟩
  · exact (h.walk.mem last hlast).2 ▸ hlastValid.interpretation
  · intro fragment hfragment
    rw [h.shared, mem_sharedFragments h.walk.ne_nil] at hfragment
    exact hlastValid.condition fragment (hfragment last hlast)
  · intro item hitem
    obtain ⟨edge, hedge, hin⟩ := List.mem_flatMap.1 (List.mem_toFinset.1 hitem)
    exact (hedges edge hedge).evidence item hin
  · obtain ⟨item, hitem⟩ := List.exists_mem_of_ne_nil _ hlastValid.evidences
    exact ⟨item, List.mem_toFinset.2 (List.mem_flatMap.2 ⟨last, hlast, hitem⟩)⟩

/-- A row of a closure with strong identities in place. -/
structure ClosureRow.Complete (row : ClosureRow) : Prop where
  root : notStrongId row.root = false
  target : notStrongId row.target = false
  conditions : row.conditionFragments ≠ []
  interpretation : notStrongId row.interpretation = false
  evidences : row.evidence ≠ []
  condition : ∀ fragment ∈ row.conditionFragments, notStrongId fragment = false
  evidence : ∀ item ∈ row.evidence, notStrongId item = false

theorem ClosureRow.Complete.incomplete {row : ClosureRow} (h : row.Complete) :
    row.incomplete = false := by
  simp only [ClosureRow.incomplete, Bool.or_eq_false_iff, List.any_eq_false, h.root, h.target,
    h.interpretation, List.isEmpty_eq_false_iff]
  refine ⟨⟨⟨⟨⟨⟨trivial, trivial⟩, h.conditions⟩, trivial⟩, h.evidences⟩, ?_⟩, ?_⟩
  · exact fun fragment hfragment => by simp [h.condition fragment hfragment]
  · exact fun item hitem => by simp [h.evidence item hitem]

theorem row_complete (hvalid : request.Valid)
    (hbudget : request.edges.length ≤ request.maxEdges.toNat) {row : ClosureRow}
    (hrow : row ∈ (closureOutput request).rows) : row.Complete := by
  obtain ⟨table, hrounds, hmirrors, -⟩ := exploration_explores request
  obtain ⟨htable, -⟩ := row_path hmirrors hbudget hrow
  obtain ⟨⟨m, -, evidence, hreach, hsub⟩, hevidence⟩ := hrounds.sound.1 _ _ htable
  obtain ⟨path, -, hpath, rfl⟩ := (requestGraph_path_iff hvalid).1 hreach
  obtain ⟨hroot, htarget, hinterpretation, hcondition, -, item, hitem⟩ := hpath.strong hvalid
  refine ⟨hroot, htarget, hpath.nonempty, hinterpretation, ?_, hcondition, ?_⟩
  · exact List.ne_nil_of_mem (List.mem_toFinset.1 (hsub hitem))
  · intro other hother
    obtain ⟨_, -, _, hreach, hin⟩ := hevidence other (List.mem_toFinset.2 hother)
    obtain ⟨path, -, hpath, rfl⟩ := (requestGraph_path_iff hvalid).1 hreach
    exact (hpath.strong hvalid).2.2.2.2.1 other hin

theorem ClosureRow.tie_injective : Function.Injective ClosureRow.tie := by
  intro a b h
  cases a
  cases b
  simp only [ClosureRow.tie, toLex_inj, Prod.mk.injEq] at h
  obtain ⟨rfl, rfl, rfl, rfl, rfl⟩ := h
  rfl

theorem ClosureEdge.tie_injective : Function.Injective ClosureEdge.tie := by
  intro a b h
  cases a
  cases b
  simp only [ClosureEdge.tie, toLex_inj, Prod.mk.injEq] at h
  obtain ⟨rfl, rfl, rfl, rfl, rfl⟩ := h
  rfl

theorem rowLess_compares : Compares rowLess ClosureRow.tie := fun _ _ => decide_eq_true_iff

theorem rowsSorted_of_pairwise : ∀ {rows : List ClosureRow},
    rows.Pairwise (fun a b => a.tie ≤ b.tie) → rowsSorted rows = true
  | [], _ => rfl
  | [_], _ => rfl
  | left :: right :: rest, h => by
      obtain ⟨hleft, hrest⟩ := List.pairwise_cons.1 h
      have hle := hleft right List.mem_cons_self
      rw [rowsSorted, (rowLess_compares.eq_false_iff left right).2 hle, rowsSorted_of_pairwise hrest]
      rfl

theorem rowsRepeat_of_nodup : ∀ {rows : List ClosureRow}, rows.Nodup → rowsRepeat rows = false
  | [], _ => rfl
  | [_], _ => rfl
  | left :: right :: rest, h => by
      obtain ⟨hleft, hrest⟩ := List.nodup_cons.1 h
      have hne : left ≠ right := fun heq => hleft (heq ▸ List.mem_cons_self)
      rw [rowsRepeat, rowsRepeat_of_nodup hrest]
      simpa using hne

theorem rows_nodup (h : Mirrors (exploration request).reached table)
    (hbudget : request.edges.length ≤ request.maxEdges.toNat) :
    (closureOutput request).rows.Nodup := by
  rw [closureOutput_eq hbudget]
  refine (sortBy_perm rowLess _).nodup_iff.2 (List.Nodup.of_map ClosureRow.key ?_)
  have hkeys : ((exploration request).reached.entries.map Prod.snd).map ClosureRow.key =
      (exploration request).reached.entries.map Prod.fst := by
    rw [List.map_map]
    refine List.map_congr_left fun entry hentry => ?_
    exact (h.keyed entry.1 entry.2 (((exploration request).reached.find_eq_some_iff).2 hentry)).1
  rw [hkeys]
  exact (exploration request).reached.ordered.imp fun hlt => hlt.ne

/-- What is unresolved within the edge budget. -/
theorem unresolved_eq (hbudget : request.edges.length ≤ request.maxEdges.toNat) :
    (closureOutput request).unresolved =
      iterationBudget (exploration request).frontier request.maxIterations := by
  rw [closureOutput_eq hbudget]

/-- The output passes `closure_result::validate` with the digest of itself. -/
theorem validate_output (hash : Bytes → Bytes) (hvalid : request.Valid)
    (hbudget : request.edges.length ≤ request.maxEdges.toNat) {digest : Bytes}
    (hdigest : digestClosure hash (closureOutput request) = .ok digest) :
    ClosureResult.validate hash { closureOutput request with resultDigest := digest } = .ok () := by
  obtain ⟨table, -, hmirrors, -⟩ := exploration_explores request
  have hkind : (closureOutput request).closureKind ∈ derivedKinds := hvalid.kind
  have hsorted : rowsSorted (closureOutput request).rows = true :=
    rowsSorted_of_pairwise (sortBy_pairwise rowLess_compares _)
  have hcertified : ((closureOutput request).closureCertified ==
      !(closureOutput request).unresolved.isEmpty) = false := by
    rw [closureOutput_eq hbudget]
    cases (exploration request).frontier <;> simp [iterationBudget]
  have hunresolved : ∀ item ∈ (closureOutput request).unresolved, unknownBudget item = false := by
    rw [unresolved_eq hbudget, iterationBudget]
    split_ifs
    · simp
    · simp [unknownBudget]
  simp only [ClosureResult.validate, seq_eq_ok_iff, reject_eq_ok_iff, firstError_eq_ok_iff]
  refine ⟨?_, by rw [hsorted]; rfl, hcertified, ?_, hunresolved,
    rowsRepeat_of_nodup (rows_nodup hmirrors hbudget), ?_⟩
  · simp only [derivedKinds, List.mem_cons, List.not_mem_nil, or_false] at hkind
    rcases hkind with h | h | h <;> rw [h] <;> decide
  · exact fun row hrow => (row_complete hvalid hbudget hrow).incomplete
  · rw [decide_eq_false_iff_not, not_not]
    exact congrArg Except.toOption hdigest

/-! ## The digest -/

theorem validate_stringTuple {values : List Bytes}
    (h : ∀ value ∈ values, notStrongId value = false) : (stringTuple values).validate = .ok () := by
  rw [stringTuple, CanonicalValue.validate_fromTuple_iff]
  intro item hitem
  obtain ⟨value, hvalue, rfl⟩ := List.mem_map.1 hitem
  exact (CanonicalValue.validate_fromString_iff value).2 (notStrongId_eq_false (h value hvalue))

theorem ClosureRow.Complete.validate_encoded {row : ClosureRow} (h : row.Complete) :
    row.encoded.validate = .ok () := by
  rw [ClosureRow.encoded, CanonicalValue.validate_fromTuple_iff]
  simp only [List.forall_mem_cons, CanonicalValue.validate_fromString_iff]
  exact ⟨notStrongId_eq_false h.root, notStrongId_eq_false h.target, validate_stringTuple h.condition,
    notStrongId_eq_false h.interpretation, validate_stringTuple h.evidence, by simp⟩

theorem validUtf8_decimal (value : Nat) : validUtf8 (CanonicalValue.decimal value) = true := by
  refine validUtf8_of_ascii fun byte hbyte => ?_
  have hdigit := isDigit_decimal hbyte
  omega

theorem fields_valid (hvalid : request.Valid)
    (hbudget : request.edges.length ≤ request.maxEdges.toNat) :
    (CanonicalValue.fromTuple (closureOutput request).fields).validate = .ok () := by
  have hkind : validUtf8 (closureOutput request).closureKind = true := by
    have hmem : (closureOutput request).closureKind ∈ derivedKinds := hvalid.kind
    simp only [derivedKinds, List.mem_cons, List.not_mem_nil, or_false] at hmem
    rcases hmem with h | h | h <;> rw [h] <;> exact validUtf8_literal (by simp)
  have hrows : (CanonicalValue.fromTuple
      ((closureOutput request).rows.map ClosureRow.encoded)).validate = .ok () := by
    rw [CanonicalValue.validate_fromTuple_iff]
    intro item hitem
    obtain ⟨row, hrow, rfl⟩ := List.mem_map.1 hitem
    exact (row_complete hvalid hbudget hrow).validate_encoded
  have hunresolved : (CanonicalValue.fromTuple
      ((closureOutput request).unresolved.map errorEncoded)).validate = .ok () := by
    have hcode : validUtf8 (ascii "sdk.closure-iteration-budget") = true := validUtf8_literal (by simp)
    have hfield : validUtf8 (ascii "max_iterations") = true := validUtf8_literal (by simp)
    rw [unresolved_eq hbudget, iterationBudget, CanonicalValue.validate_fromTuple_iff]
    split_ifs
    · simp
    · simp [errorEncoded, CanonicalValue.validate_fromTuple_iff,
        CanonicalValue.validate_fromString_iff, validUtf8_decimal, hcode, hfield]
  rw [ClosureResult.fields, CanonicalValue.validate_fromTuple_iff]
  intro item hitem
  simp only [List.mem_cons, List.not_mem_nil, or_false] at hitem
  rcases hitem with rfl | rfl | rfl | rfl | rfl
  · exact (CanonicalValue.validate_fromString_iff _).2 hkind
  · exact hrows
  · exact CanonicalValue.validate_fromInteger _
  · exact CanonicalValue.validate_fromBoolean _
  · exact hunresolved

/-- The digest of valid fields has no error but the exception of a vector that outgrows its
    size. -/
theorem canonicalIdentityDigest_total (hash : Bytes → Bytes) {identityKind : Bytes}
    {fields : List CanonicalValue} (hkind : ¬ (identityKind = [] ∨ validUtf8 identityKind = false))
    (hfields : (CanonicalValue.fromTuple fields).validate = .ok ()) :
    (∃ digest, canonicalIdentityDigest hash identityKind fields = .ok digest) ∨
      canonicalIdentityDigest hash identityKind fields = .error CanonicalValue.lengthError := by
  rw [canonicalIdentityDigest, if_neg hkind, CanonicalValue.canonicalBinary, hfields, ok_bind]
  by_cases hsize : (CanonicalValue.appendCanonical (.fromTuple fields)).length >
      CanonicalValue.vectorMaxSize
  · exact Or.inr (by rw [if_pos hsize, error_bind])
  · exact Or.inl ⟨_, by rw [if_neg hsize, ok_bind]⟩

/-- The digest of an output has no error but the exception of a vector that outgrows its size. -/
theorem digestClosure_output (hash : Bytes → Bytes) (hvalid : request.Valid)
    (hbudget : request.edges.length ≤ request.maxEdges.toNat) :
    (∃ digest, digestClosure hash (closureOutput request) = .ok digest) ∨
      digestClosure hash (closureOutput request) = .error CanonicalValue.lengthError := by
  have hkind : ¬ (ascii "bounded-closure-result" = [] ∨
      validUtf8 (ascii "bounded-closure-result") = false) := by
    rw [validUtf8_literal (by simp)]
    simp [ascii]
  exact canonicalIdentityDigest_total hash hkind (fields_valid hvalid hbudget)

/-! ## The order of a request -/

/-- Two requests that differ in the order of their roots and edges at most. -/
structure Reordered (request other : ClosureRequest) : Prop where
  roots : request.roots.Perm other.roots
  edges : request.edges.Perm other.edges
  closureKind : request.closureKind = other.closureKind
  maxIterations : request.maxIterations = other.maxIterations
  maxEdges : request.maxEdges = other.maxEdges

theorem Reordered.validate {other : ClosureRequest} (h : Reordered request other)
    (hvalid : request.validate = .ok ()) : other.validate = .ok () := by
  rw [validate_request_iff] at hvalid ⊢
  obtain ⟨⟨hroots, hiterations, hedges⟩, hkind, hrootsValid, hedgesValid⟩ := hvalid
  refine ⟨⟨?_, h.maxIterations ▸ hiterations, h.maxEdges ▸ hedges⟩, h.closureKind ▸ hkind, ?_, ?_⟩
  · exact fun hnil => hroots (List.Perm.eq_nil (hnil ▸ h.roots))
  · exact fun root hroot => hrootsValid root (h.roots.mem_iff.2 hroot)
  · exact fun edge hedge => hedgesValid edge (h.edges.mem_iff.2 hedge)

theorem Reordered.sortedEdges {other : ClosureRequest} (h : Reordered request other) :
    sortedEdges request.edges = sortedEdges other.edges :=
  sortBy_eq_of_perm (fun _ _ => decide_eq_true_iff) (h.edges.map ClosureEdge.canonical)
    fun _ _ _ _ heq => ClosureEdge.tie_injective heq

theorem Reordered.closureOutput {other : ClosureRequest} (h : Reordered request other) :
    closureOutput request = closureOutput other := by
  have hroots : canonicalStrings request.roots = canonicalStrings other.roots := by
    refine pairwise_lt_ext (canonicalStrings_pairwise _) (canonicalStrings_pairwise _) fun root => ?_
    rw [mem_canonicalStrings, mem_canonicalStrings, h.roots.mem_iff]
  rw [Incremental.closureOutput, Incremental.closureOutput, h.sortedEdges, hroots, h.closureKind,
    h.maxIterations, h.maxEdges]

end Request

/-! ## Exactness -/

/-- What a closure promises about its rows. -/
structure ExactClosure (hash : Bytes → Bytes) (request : ClosureRequest) (output : ClosureResult) :
    Prop where
  bounded : ∀ root target interpretation condition,
    output.HasRow root target interpretation condition ↔
      ∃ path, path.length ≤ output.iterations.toNat ∧
        PathOf request root target interpretation condition path
  complete : output.closureCertified = true → ∀ root target interpretation condition,
    output.HasRow root target interpretation condition ↔
      ∃ path, PathOf request root target interpretation condition path
  evidence : output.closureCertified = true → ∀ row ∈ output.rows,
    row.evidence.Pairwise (· < ·) ∧ ∀ item, item ∈ row.evidence ↔
      ∃ path, PathOf request row.root row.target row.interpretation row.conditionFragments path ∧
        ∃ edge ∈ path, item ∈ edge.evidence
  valid : output.validate hash = .ok ()

theorem evidence_pairwise {request : ClosureRequest}
    (hbudget : request.edges.length ≤ request.maxEdges.toNat) {row : ClosureRow}
    (hrow : row ∈ (closureOutput request).rows) : row.evidence.Pairwise (· < ·) := by
  obtain ⟨table, -, hmirrors, -⟩ := exploration_explores request
  exact (row_path hmirrors hbudget hrow).2.evidence

/-- **A bounded closure is exact.** A valid request within its edge budget gets a result, unless
    the digest input outgrows a vector. The rows are then the paths of at most as many edges as there
    were rounds; when the closure is certified they are all paths, each with the evidence of all
    paths of its key; the result is valid, and does not depend on the order of roots and edges. -/
theorem bounded_transitive_closure_exact (hash : Bytes → Bytes) (request : ClosureRequest)
    (hvalid : request.validate = .ok ())
    (hbudget : request.edges.length ≤ request.maxEdges.toNat) :
    ((∃ output, boundedTransitiveClosure hash request = .ok output) ∨
        boundedTransitiveClosure hash request = .error CanonicalValue.lengthError) ∧
      (∀ output, boundedTransitiveClosure hash request = .ok output →
        ExactClosure hash request output) ∧
      ∀ other, Reordered request other →
        boundedTransitiveClosure hash other = boundedTransitiveClosure hash request := by
  have hvalidRequest := ClosureRequest.valid_of_validate hvalid
  have hrun : boundedTransitiveClosure hash request =
      (digestClosure hash (closureOutput request) >>= fun digest =>
        .ok { closureOutput request with resultDigest := digest }) := by
    rw [boundedTransitiveClosure, hvalid, ok_bind]
  refine ⟨?_, ?_, ?_⟩
  · rw [hrun]
    rcases digestClosure_output hash hvalidRequest hbudget with ⟨digest, hdigest⟩ | hlength
    · exact Or.inl ⟨_, by rw [hdigest, ok_bind]⟩
    · exact Or.inr (by rw [hlength, error_bind])
  · intro output houtput
    rw [hrun, bind_eq_ok_iff] at houtput
    obtain ⟨digest, hdigest, rfl⟩ := by
      simpa only [Except.ok.injEq] using houtput
    refine ⟨hasRow_iff_path hvalidRequest hbudget, fun hcertified => ?_, fun hcertified => ?_,
      validate_output hash hvalidRequest hbudget hdigest⟩
    · exact hasRow_iff_of_certified hvalidRequest hbudget hcertified
    · exact fun row hrow => ⟨evidence_pairwise hbudget hrow,
        mem_evidence_iff hvalidRequest hbudget hcertified hrow⟩
  · intro other hother
    rw [hrun, boundedTransitiveClosure, hother.validate hvalid, ok_bind, hother.closureOutput]

/-- A cycle of two edges that share a fragment. -/
def sampleRequest : ClosureRequest where
  roots := ["a"]
  closureKind := "call-target-set"
  edges := [⟨"b", "a", ["y", "z"], "i", ["e2"]⟩, ⟨"a", "b", ["x", "y"], "i", ["e1"]⟩]
  maxIterations := 10
  maxEdges := 10

theorem bounded_transitive_closure_exact_cycle :
    ∃ output, boundedTransitiveClosure (fun _ => []) sampleRequest = .ok output ∧
      output.closureCertified = true ∧ output.rows.length = 3 ∧
      ExactClosure (fun _ => []) sampleRequest output := by
  have hrun : ∃ output, boundedTransitiveClosure (fun _ => []) sampleRequest = .ok output ∧
      output.closureCertified = true ∧ output.rows.length = 3 := by
    have hfound : ((boundedTransitiveClosure (fun _ => []) sampleRequest).toOption.any fun output =>
        output.closureCertified && output.rows.length == 3) = true := by
      set_option maxRecDepth 20000 in decide_cbv
    cases h : boundedTransitiveClosure (fun _ => []) sampleRequest with
    | error error => rw [h] at hfound; simp at hfound
    | ok output =>
        rw [h] at hfound
        exact ⟨output, rfl, by simpa using hfound⟩
  obtain ⟨output, houtput, hcertified, hrows⟩ := hrun
  refine ⟨output, houtput, hcertified, hrows, ?_⟩
  exact (bounded_transitive_closure_exact (fun _ => []) sampleRequest (by decide)
    (by decide)).2.1 output houtput

end Cxxlens.Sdk.Incremental
