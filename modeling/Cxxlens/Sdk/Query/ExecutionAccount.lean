import Cxxlens.Sdk.Query.ExecutionMoments

set_option autoImplicit false

/-! # What an execution makes of its budget

Every moment of an execution is accounted for, and the peak is the greatest number of bytes so far.
An execution that runs out of memory, rows or scans has no rows to show; too many rows for the output
are cut off instead. -/

namespace Cxxlens.Sdk.Query

open Trails Stopping Sorting Fallible

/-! ## All moments -/

/-- The moments behind the start. -/
def laterMoments (preparation : Preparation) : List Moment :=
  planMoments preparation.inputs (startRun preparation) preparation.plan ++
    andThen (runPlan preparation.inputs (startRun preparation) preparation.plan) fun run =>
      if run.state.failed = true then [] else terminalMoments preparation run

/-- The moments of an execution. -/
def executionMoments (preparation : Preparation) : List Moment :=
  (startRun preparation).moment :: laterMoments preparation

/-- The moment at the end. -/
def endMoment (preparation : Preparation) : Result Moment := do
  let run ← runPlan preparation.inputs (startRun preparation) preparation.plan
  if run.state.failed = true then .ok run.moment
  else (terminalRun preparation run).map (Run.moment (run.others preparation.query.root))

theorem laterMoments_reaches (preparation : Preparation) :
    Reaches (Linked preparation.inputs.budget) (startRun preparation).moment
      (laterMoments preparation) (endMoment preparation) := by
  have hmap : ∀ result : Result Moment, result.map id = result := by
    intro result
    cases result <;> rfl
  rw [← hmap (endMoment preparation)]
  refine (planMoments_reaches preparation.inputs (startRun preparation) preparation.plan).bind
    fun run _ => ?_
  rw [hmap]
  by_cases hfailed : run.state.failed = true
  · rw [if_pos hfailed, if_pos hfailed]
    exact reaches_ok_iff.2 rfl
  · rw [if_neg hfailed, if_neg hfailed]
    exact terminalMoments_reaches preparation run

theorem accounted_start (preparation : Preparation) :
    Accounted preparation.inputs.budget (startRun preparation).moment := by
  refine ⟨rfl, ?_, rfl, le_refl _, Nat.zero_le _⟩
  intro evaluation hevaluation
  rw [List.mem_singleton.1 hevaluation]
  exact counted_empty

/-- Every moment is accounted for, and its peak is the greatest number of bytes up to it. -/
theorem executionMoments_accounted (preparation : Preparation) {before after : List Moment}
    {moment : Moment} (h : executionMoments preparation = before ++ moment :: after) :
    Accounted preparation.inputs.budget moment ∧
      IsGreatest {bytes | ∃ point ∈ before ++ [moment], point.retained = bytes} moment.peak := by
  obtain ⟨final, hleads, -⟩ := laterMoments_reaches preparation
  have hstart := accounted_start preparation
  have hgreatest : IsGreatest {(startRun preparation).moment.retained}
      (startRun preparation).moment.peak := isGreatest_singleton
  cases before with
  | nil =>
      obtain ⟨rfl, -⟩ := List.cons.inj h
      refine ⟨hstart, ?_⟩
      simpa [eq_comm] using hgreatest
  | cons first others =>
      obtain ⟨rfl, hlater⟩ := List.cons.inj h
      rw [hlater] at hleads
      have hmoment := hleads.split.1
      refine ⟨hmoment.invariant (fun hlinked => hlinked.accounted) hstart, ?_⟩
      have hmark := hmoment.isGreatest (fun hlinked => hlinked.accounted)
        (fun hlinked => hlinked.peak) hstart hgreatest
      have hset : {bytes | ∃ point ∈ (startRun preparation).moment :: others ++ [moment],
          point.retained = bytes} = {(startRun preparation).moment.retained} ∪
            {bytes | ∃ point ∈ others ++ [moment], point.retained = bytes} := by
        ext bytes
        simp only [List.cons_append, List.mem_cons, exists_eq_or_imp, Set.mem_ofPred_eq,
          Set.mem_union, Set.mem_singleton_iff, eq_comm]
      rw [hset]
      exact hmark

/-- A failure lasts to the end. -/
theorem failed_at_end {preparation : Preparation} {moment final : Moment}
    (hmoment : moment ∈ executionMoments preparation) (hfailed : moment.run.failed = true)
    (hend : endMoment preparation = .ok final) : final.run.failed = true := by
  obtain ⟨reached, hleads, hreached⟩ := laterMoments_reaches preparation
  rw [← hreached final hend]
  rcases List.mem_cons.1 hmoment with rfl | hlater
  · exact hleads.invariant (fun hlinked => hlinked.failed) hfailed
  · obtain ⟨before, after, hsplit⟩ := List.append_of_mem hlater
    rw [hsplit] at hleads
    exact hleads.split.2.invariant (fun hlinked => hlinked.failed) hfailed

theorem end_mem {preparation : Preparation} {final : Moment}
    (hend : endMoment preparation = .ok final) : final ∈ executionMoments preparation := by
  obtain ⟨reached, hleads, hreached⟩ := laterMoments_reaches preparation
  rw [← hreached final hend]
  exact hleads.mem

/-! ## Results -/

/-- The result has no rows, and says that there are none. -/
structure Unpublished (result : QueryResult) : Prop where
  rows : result.rows = []
  status : result.status = .failedBeforeResult

section Hash

variable {hash : Bytes → Bytes}

theorem unpublished_failedResult (result : QueryResult) (emptyProofs : List ContributorEdge)
    (code subject : Bytes) (h : result.rows = []) :
    Unpublished (failedResult hash result emptyProofs code subject) :=
  ⟨h, rfl⟩

/-- What `prepare` passes on of the budget, and the rows that it starts from. -/
theorem prepare_budget {snapshot : Snapshot} {query : LogicalQueryIr} {budget : ExecutionBudget}
    {preparation : Preparation} (h : prepare hash snapshot query budget = .ok preparation) :
    preparation.inputs.budget = budget ∧ preparation.base.rows = [] := by
  simp only [prepare, bind_eq_ok_iff] at h
  obtain ⟨-, -, schemaPlan, -, descriptors, -, columnTypes, -, closures, -, ready, -, emptyProofs, -,
    heq⟩ := h
  rw [Except.ok.injEq] at heq
  subst heq
  exact ⟨rfl, rfl⟩

/-- An execution stops before it runs, or fails at its end, or publishes the rows that it has
    there. -/
theorem execute_cases {snapshot : Snapshot} {query : LogicalQueryIr} {request : ExecutionRequest}
    {preparation : Preparation} {result : QueryResult}
    (hprepare : prepare hash snapshot query request.budget = .ok preparation)
    (h : execute hash snapshot query request = .ok result) :
    (request.stopRequested .beforeExecution = true ∧ Unpublished result) ∨
      ∃ final, endMoment preparation = .ok final ∧
        ((final.run.failed = true ∧ Unpublished result) ∨
          (final.run.failed = false ∧ ∃ base, result = publish hash request preparation
            (stableId preparation.plan preparation.query.root) base final.run.output)) := by
  have hbase := (prepare_budget hprepare).2
  rw [execute, hprepare, ok_bind] at h
  by_cases hstop : request.stopRequested .beforeExecution = true
  · rw [if_pos hstop, Except.ok.injEq] at h
    subst h
    exact Or.inl ⟨hstop, unpublished_failedResult _ _ _ _ hbase⟩
  · rw [if_neg hstop] at h
    obtain ⟨run, hrun, hfinish⟩ := bind_eq_ok_iff.1 h
    refine Or.inr ?_
    unfold endMoment
    rw [hrun, ok_bind]
    unfold finish at hfinish
    by_cases hfailed : run.state.failed = true
    · rw [if_pos hfailed, Except.ok.injEq] at hfinish
      rw [if_pos hfailed]
      subst hfinish
      exact ⟨run.moment, rfl, Or.inl ⟨hfailed, unpublished_failedResult _ _ _ _ hbase⟩⟩
    · rw [if_neg hfailed] at hfinish
      rw [if_neg hfailed]
      obtain ⟨conflicts, -, hconflicts⟩ := bind_eq_ok_iff.1 hfinish
      obtain ⟨disagreements, -, hdisagreements⟩ := bind_eq_ok_iff.1 hconflicts
      obtain ⟨terminal, hterminal, hpublished⟩ := bind_eq_ok_iff.1 hdisagreements
      rw [hterminal]
      refine ⟨terminal.moment (run.others preparation.query.root), rfl, ?_⟩
      by_cases hended : terminal.failed = true
      · rw [if_pos hended, Except.ok.injEq] at hpublished
        subst hpublished
        exact Or.inl ⟨hended, unpublished_failedResult _ _ _ _ hbase⟩
      · rw [if_neg hended, Except.ok.injEq] at hpublished
        exact Or.inr ⟨Bool.eq_false_iff.2 hended, _, hpublished.symm⟩

theorem publishRows_of_unstopped {stopRequested : ExecutionCheckpoint → Bool}
    (h : ∀ checkpoint, stopRequested checkpoint = false) (rows : List AnnotatedRow) :
    ∀ index, publishRows stopRequested index rows = (rows, false) := by
  induction rows with
  | nil =>
      intro index
      rfl
  | cons row rest ih =>
      intro index
      rw [publishRows, h, ih (index + 1)]
      rfl

/-- Without a stop, the rows of the root are published as far as the output has room. -/
theorem publish_of_unstopped {request : ExecutionRequest}
    (h : ∀ checkpoint, request.stopRequested checkpoint = false) (preparation : Preparation)
    (normalizedRoot : Bytes) (base : QueryResult) (output : Evaluation) :
    let result := publish hash request preparation normalizedRoot base output
    result.rows = (sealedRows output).take request.budget.maxRowsOutput.toNat ∧
      result.status =
        if request.budget.maxRowsOutput.toNat < output.rows.length then .truncated
        else .complete := by
  have hlength : (sealedRows output).length = output.rows.length := by
    unfold sealedRows
    split_ifs
    · rfl
    · exact (sortBy_perm _ _).length_eq
  dsimp only
  unfold publish cancel
  rw [publishRows_of_unstopped h, if_pos rfl]
  unfold truncate
  dsimp only
  rw [hlength]
  by_cases hlonger : request.budget.maxRowsOutput.toNat < output.rows.length
  · rw [if_pos hlonger, if_pos hlonger]
    exact ⟨rfl, rfl⟩
  · rw [if_neg hlonger, if_neg hlonger]
    refine ⟨?_, rfl⟩
    rw [List.take_of_length_le (by omega)]
    rfl

end Hash

/-! ## Samples

A relation with a key alone, two claims of it, and a scan of them. -/

def sampleScan : LogicalQueryIr where
  relationRequirements := [sampleMinor 0 [] "semantic-v2:sha256:40"]
  nodes :=
    [{ id := "s"
       operatorId := "query.scan.v1"
       arguments := "\x7b\"alias\":\"x\",\"descriptor_id\":\"a.b.v1\"\x7d" }]
  root := "s"
  outputSchema :=
    [{ descriptorId := "a.b.v1", columnId := "a.b.v1.k", type := {}, sourceAlias := "x" }]

def sampleSource (key : Bytes) : SnapshotClaimAnnotation where
  row :=
    { descriptorId := "a.b.v1"
      cells := [("a.b.v1.k", { type := {}, value := some (.string key) })]
      ordered := by simp }
  presence := { «universe» := "u", fragments := ["f"] }
  interpretation := "i"
  semanticKey := key
  assertion := key
  content := key
  producer := { id := "p", semanticContract := "p/1" }
  provenanceRoot := "r"
  guarantee :=
    { approximation := "exact", scope := "s", assumptions := "a", verificationModalities := [] }

def sampleSnapshot : Snapshot where
  id := "snapshot"
  publicationId := "publication"
  descriptors := OrderedMap.empty.assign "a.b.v1" (sampleMinor 0 [] "semantic-v2:sha256:40")
  annotations := OrderedMap.empty.assign "a.b.v1" [sampleSource "m", sampleSource "n"]

/-- A hash of one byte that is always the same. -/
def constantHash (_ : Bytes) : Bytes :=
  [0x40]

/-- The scan is prepared, and what it returns with room for two rows and for one. -/
theorem sampleScan_runs :
    (prepare constantHash sampleSnapshot sampleScan { maxMemoryBytes := 700 }).isOk = true ∧
      (execute constantHash sampleSnapshot sampleScan
        { budget := { maxRowsOutput := 2 } }).toOption.map
          (fun result => (result.rows.length, result.status)) = some (2, .complete) ∧
      (execute constantHash sampleSnapshot sampleScan
        { budget := { maxRowsOutput := 1 } }).toOption.map
          (fun result => (result.rows.length, result.status)) = some (1, .truncated) := by
  decide +kernel

end Cxxlens.Sdk.Query
