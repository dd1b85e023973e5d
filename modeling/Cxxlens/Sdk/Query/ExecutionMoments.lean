import Cxxlens.Sdk.Query.Moments

set_option autoImplicit false

/-! # The account of an execution

The moments of the operators, of the nodes and of the implicit projection, one behind the other, and
what holds at every one of them. -/

namespace Cxxlens.Sdk.Query

open Trails Stopping Sorting Fallible

/-! ## Operators -/

/-- A change of what is known of the rows of a node, or of their order. -/
structure Settled (before after : Run) : Prop where
  state : after.state = before.state
  output : after.output.Alike before.output

theorem linked_settled {budget : ExecutionBudget} (held : List Evaluation) {before after : Run}
    (h : Settled before after) : Linked budget (before.moment held) (after.moment held) := by
  have hstate := h.state
  refine linked_run ?_ ?_ ?_ ?_ h.output
  · rw [hstate, Run.moment]
  · rw [hstate, Run.moment]
  · rw [hstate, Run.moment]
  · intro hfailed
    rwa [Run.failed, hstate]

theorem settled_likeInput (run : Run) (input : Evaluation) : Settled run (run.likeInput input) :=
  ⟨rfl, List.Perm.refl _, rfl⟩

theorem settled_limitedBy (run : Run) (limited : Bool) : Settled run (run.limitedBy limited) :=
  ⟨rfl, List.Perm.refl _, rfl⟩

theorem settled_likeLeft (run : Run) (left right : Evaluation) :
    Settled run (run.likeLeft left right) :=
  ⟨rfl, List.Perm.refl _, rfl⟩

/-- The last step of an operator settles its evaluation. -/
theorem settle_reaches {budget : ExecutionBudget} {held : List Evaluation} {start : Moment}
    {trail : List Moment} {loop : Result Run} {operator : Result (ColumnTypes × Run)}
    (types : ColumnTypes) (settle : Run → Run)
    (h : Reaches (Linked budget) start trail (loop.map (Run.moment held)))
    (hoperator : operator = loop >>= fun run => .ok (types, settle run))
    (hsettled : ∀ run, Settled run (settle run)) :
    Reaches (Linked budget) start
      (trail ++ behind (fun ran : ColumnTypes × Run => ran.2.moment held) operator)
      (operator.map fun ran => ran.2.moment held) := by
  rw [hoperator]
  refine Reaches.behind h fun before after hafter => ?_
  rw [Except.ok.injEq] at hafter
  exact hafter ▸ linked_settled held (hsettled before)

section Nodes

variable (inputs : RunInputs)

/-- The moments of the operators that take a predicate, up to the last row. -/
def predicateMoments (planned : PlannedNode) (held : List Evaluation) (columnTypes : ColumnTypes)
    (left right : Evaluation) (run : Run) (predicate : DecodedPredicate) : List Moment :=
  if planned.node.operatorId = "query.inner_join.v1" then
    innerJoinMoments inputs.budget planned.stableId held columnTypes predicate left right run
  else if planned.node.operatorId = "query.semi_join.v1" then
    semiJoinMoments inputs.budget planned.stableId held columnTypes predicate left right run
  else if planned.node.operatorId = "query.anti_join.v1" then
    if inputs.readyAntiJoins.contains planned.stableId = false then []
    else
      appendMoments inputs.budget planned.stableId held
        (keepUnwitnessed columnTypes predicate right) run left.rows
  else
    appendMoments inputs.budget planned.stableId held
      (keepIf fun row => evaluatePredicate row columnTypes predicate) run left.rows

/-- The moments of an operator, up to the last row. -/
def rowMoments (planned : PlannedNode) (held : List Evaluation) (columnTypes : ColumnTypes)
    (left right : Evaluation) (run : Run) : OperatorArguments → List Moment
  | .scan descriptorId scanAlias =>
    scanMoments inputs.budget planned.stableId held inputs.snapshot inputs.descriptors descriptorId
      scanAlias run
  | .predicate predicate =>
    predicateMoments inputs planned held columnTypes left right run predicate
  | .project items =>
    andThen (projectMapping columnTypes OrderedMap.empty items) fun projected =>
      appendMoments inputs.budget planned.stableId held
        (fun row => .ok (some (projectRow projected.1
          (items.map fun item => (item.column, item.output)) row))) run left.rows
  | .empty =>
    if planned.node.operatorId = "query.union.v1" then
      appendMoments inputs.budget planned.stableId held (keepIf fun _ => true) run
        (left.rows ++ right.rows)
    else distinctMoments inputs.budget planned.stableId held left run
  | .order _ =>
    appendMoments inputs.budget planned.stableId held (keepIf fun _ => true) run left.rows
  | .limit count =>
    appendMoments inputs.budget planned.stableId held (keepIf fun _ => true) run
      (left.rows.take count.toNat)
  | .condition conditionUniverse alternatives =>
    appendMoments inputs.budget planned.stableId held
      (restrictCondition { «universe» := conditionUniverse, fragments := alternatives }) run
      left.rows
  | .interpretation interpretation =>
    appendMoments inputs.budget planned.stableId held
      (keepIf fun row => row.interpretation == interpretation) run left.rows

/-- The moments of an operator. -/
def operatorMoments (planned : PlannedNode) (held : List Evaluation) (columnTypes : ColumnTypes)
    (left right : Evaluation) (run : Run) (arguments : OperatorArguments) : List Moment :=
  rowMoments inputs planned held columnTypes left right run arguments ++
    behind (fun ran : ColumnTypes × Run => ran.2.moment held)
      (runOperator inputs planned columnTypes left right run arguments)

theorem predicateMoments_reaches (planned : PlannedNode) (held : List Evaluation)
    (columnTypes : ColumnTypes) (left right : Evaluation) (run : Run)
    (predicate : DecodedPredicate) :
    Reaches (Linked inputs.budget) (run.moment held)
      (operatorMoments inputs planned held columnTypes left right run (.predicate predicate))
      ((runOperator inputs planned columnTypes left right run (.predicate predicate)).map
        fun ran => ran.2.moment held) := by
  unfold operatorMoments rowMoments predicateMoments runOperator runPredicate
  dsimp only
  by_cases hinner : planned.node.operatorId = "query.inner_join.v1"
  · rw [if_pos hinner, if_pos hinner]
    refine settle_reaches columnTypes (fun run => run.limitedBy (left.limited || right.limited))
      (innerJoinMoments_reaches inputs.budget planned.stableId held columnTypes predicate left right
        run) ?_ fun run => settled_limitedBy run (left.limited || right.limited)
    rw [runInnerJoin, bind_assoc]
    rfl
  · rw [if_neg hinner, if_neg hinner]
    by_cases hsemi : planned.node.operatorId = "query.semi_join.v1"
    · rw [if_pos hsemi, if_pos hsemi]
      refine settle_reaches columnTypes (fun run => run.likeLeft left right)
        (semiJoinMoments_reaches inputs.budget planned.stableId held columnTypes predicate left
          right run) ?_ fun run => settled_likeLeft run left right
      rw [runSemiJoin, bind_assoc]
      rfl
    · rw [if_neg hsemi, if_neg hsemi]
      by_cases hanti : planned.node.operatorId = "query.anti_join.v1"
      · rw [if_pos hanti, if_pos hanti]
        unfold runAntiJoin
        by_cases hready : inputs.readyAntiJoins.contains planned.stableId = false
        · rw [if_pos hready, if_pos hready]
          have hnone : Reaches (Linked inputs.budget) (run.moment held) []
              ((Except.ok run : Result Run).map (Run.moment held)) := reaches_ok_iff.2 rfl
          exact settle_reaches columnTypes (fun run => run.likeLeft left right) hnone rfl
            fun run => settled_likeLeft run left right
        · rw [if_neg hready, if_neg hready]
          refine settle_reaches columnTypes (fun run => run.likeLeft left right)
            (appendMoments_reaches inputs.budget planned.stableId held
              (keepUnwitnessed columnTypes predicate right) run left.rows) ?_
            fun run => settled_likeLeft run left right
          rw [bind_assoc]
          rfl
      · rw [if_neg hanti, if_neg hanti]
        refine settle_reaches columnTypes (fun run => run.likeInput left)
          (appendMoments_reaches inputs.budget planned.stableId held
            (keepIf fun row => evaluatePredicate row columnTypes predicate) run left.rows) ?_
          fun run => settled_likeInput run left
        rw [runFilter, bind_assoc]
        rfl

/-- The moments of an operator lead to its result. -/
theorem operatorMoments_reaches (planned : PlannedNode) (held : List Evaluation)
    (columnTypes : ColumnTypes) (left right : Evaluation) (run : Run)
    (arguments : OperatorArguments) :
    Reaches (Linked inputs.budget) (run.moment held)
      (operatorMoments inputs planned held columnTypes left right run arguments)
      ((runOperator inputs planned columnTypes left right run arguments).map
        fun ran => ran.2.moment held) := by
  have happend := @appendMoments_reaches inputs.budget planned.stableId held AnnotatedRow
  cases arguments with
  | predicate predicate =>
      exact predicateMoments_reaches inputs planned held columnTypes left right run predicate
  | scan descriptorId scanAlias =>
      exact settle_reaches columnTypes id (scanMoments_reaches inputs.budget planned.stableId held
        inputs.snapshot inputs.descriptors descriptorId scanAlias run) rfl
        fun run => ⟨rfl, List.Perm.refl _, rfl⟩
  | project items =>
      unfold operatorMoments rowMoments runOperator runProject
      dsimp only
      cases projectMapping columnTypes OrderedMap.empty items with
      | error e => exact reaches_error
      | ok projected =>
          exact settle_reaches projected.1 _ (happend _ run left.rows) rfl
            fun run => ⟨rfl, List.Perm.refl _, rfl⟩
  | empty =>
      unfold operatorMoments rowMoments runOperator runEmpty
      dsimp only
      by_cases hunion : planned.node.operatorId = "query.union.v1"
      · rw [if_pos hunion, if_pos hunion]
        refine settle_reaches columnTypes (fun run => run.limitedBy (left.limited || right.limited))
          (happend _ run (left.rows ++ right.rows)) ?_
          fun run => settled_limitedBy run (left.limited || right.limited)
        rw [runUnion, bind_assoc]
        rfl
      · rw [if_neg hunion, if_neg hunion]
        refine settle_reaches columnTypes (fun run => run.limitedBy left.limited)
          (distinctMoments_reaches inputs.budget planned.stableId held left run) ?_
          fun run => settled_limitedBy run left.limited
        rw [runDistinct, distinctRows, bind_assoc, bind_assoc]
        rfl
  | order keys =>
      refine settle_reaches columnTypes (fun run => { run with
        output := { run.output with
          rows :=
            if run.failed = true then run.output.rows
            else sortBy (rowLess columnTypes keys) run.output.rows
          ordered := true, orderKeys := keys, limited := left.limited } })
        (happend _ run left.rows) ?_ fun run => ⟨rfl, ?_, rfl⟩
      · rw [runOperator, runOrder, bind_assoc]
        rfl
      · dsimp only
        split_ifs
        · exact List.Perm.refl _
        · exact sortBy_perm _ _
  | limit count =>
      refine settle_reaches columnTypes (fun run => (run.likeInput left).limitedBy
        (left.limited || decide (count.toNat < left.rows.length)))
        (happend _ run (left.rows.take count.toNat)) ?_ fun run => ⟨rfl, List.Perm.refl _, rfl⟩
      rw [runOperator, runLimit, bind_assoc]
      rfl
  | condition conditionUniverse alternatives =>
      refine settle_reaches columnTypes (fun run => run.likeInput left) (happend _ run left.rows) ?_
        fun run => settled_likeInput run left
      rw [runOperator, runCondition, bind_assoc]
      rfl
  | interpretation interpretation =>
      refine settle_reaches columnTypes (fun run => run.likeInput left) (happend _ run left.rows) ?_
        fun run => settled_likeInput run left
      rw [runOperator, runInterpretation, bind_assoc]
      rfl

/-! ## Nodes -/

/-- The moment between two nodes. -/
def PlanRun.moment (run : PlanRun) : Moment :=
  ({ state := run.state, output := {} } : Run).moment (run.evaluations.map Prod.snd)

/-- The moments of a node, with the one where its evaluation is held. -/
def nodeMoments (run : PlanRun) (planned : PlannedNode) : List Moment :=
  andThen (decodeArguments planned.node.operatorId planned.node.arguments) fun arguments =>
    operatorMoments inputs planned (run.evaluations.map Prod.snd) run.columnTypes
        (run.evaluation (planned.inputs.headD [])) (run.evaluation (planned.inputs.tail.headD []))
        { state := run.state, output := {} } arguments ++
      behind PlanRun.moment (runNode inputs run planned)

theorem nodeMoments_reaches (run : PlanRun) (planned : PlannedNode) :
    Reaches (Linked inputs.budget) run.moment (nodeMoments inputs run planned)
      ((runNode inputs run planned).map PlanRun.moment) := by
  unfold nodeMoments runNode
  cases decodeArguments planned.node.operatorId planned.node.arguments with
  | error e => exact reaches_error
  | ok arguments =>
      rw [ok_bind]
      refine Reaches.behind (operatorMoments_reaches inputs planned (run.evaluations.map Prod.snd)
        run.columnTypes _ _ { state := run.state, output := {} } arguments)
        fun before after hafter => ?_
      rw [Except.ok.injEq] at hafter
      subst hafter
      have hrecord := @linked_record inputs.budget (run.evaluations.map Prod.snd) before.2
      simpa only [PlanRun.moment, PlanRun.record, Run.moment, List.map_append, List.map_cons,
        List.map_nil] using hrecord

/-- The moments of the nodes of a plan. -/
def planMoments (run : PlanRun) (plan : List PlannedNode) : List Moment :=
  visits (fun run : PlanRun => run.state.failed) (runNode inputs) (nodeMoments inputs) run plan

theorem planMoments_reaches (run : PlanRun) (plan : List PlannedNode) :
    Reaches (Linked inputs.budget) run.moment (planMoments inputs run plan)
      ((runPlan inputs run plan).map PlanRun.moment) :=
  visits_reaches (fun run planned _ => nodeMoments_reaches inputs run planned) plan run

end Nodes

/-! ## The implicit projection -/

/-- The body of the loop over the rows of the implicit projection. -/
def projectStep (budget : ExecutionBudget) (outputSchema : List ColumnRef)
    (columnTypes : ColumnTypes) (run : Run) (index : Nat) : Result Run :=
  match run.output.rows[index]? with
  | none => .ok run
  | some row =>
    .ok (replaceRow budget "implicit-terminal-project" run index
      (projectTerminalRow outputSchema columnTypes row))

/-- The moments of the loop. -/
def projectMoments (budget : ExecutionBudget) (held : List Evaluation)
    (outputSchema : List ColumnRef) (columnTypes : ColumnTypes) (run : Run) : List Moment :=
  visits Run.failed (projectStep budget outputSchema columnTypes)
    (fun run index =>
      behind (Run.moment held) (projectStep budget outputSchema columnTypes run index))
    run (List.range run.output.rows.length)

theorem projectMoments_reaches (budget : ExecutionBudget) (held : List Evaluation)
    (outputSchema : List ColumnRef) (columnTypes : ColumnTypes) (run : Run) :
    Reaches (Linked budget) (run.moment held)
      (projectMoments budget held outputSchema columnTypes run)
      ((projectRows budget outputSchema columnTypes run).map (Run.moment held)) := by
  refine visits_reaches (fun before index hbefore => behind_reaches fun after hafter => ?_) _ run
  unfold projectStep at hafter
  cases hrow : before.output.rows[index]? with
  | none =>
      rw [hrow, Except.ok.injEq] at hafter
      exact hafter ▸ Linked.refl _
  | some row =>
      rw [hrow, Except.ok.injEq] at hafter
      exact hafter ▸ linked_replaceRow _ _ _ before _ hbefore hrow

/-- The evaluations but the one of a node. -/
def PlanRun.others (run : PlanRun) (id : Bytes) : List Evaluation :=
  (run.evaluations.eraseP fun entry => entry.1 == id).map Prod.snd

/-- The run behind the plan, with the evaluation of the root taken out. -/
def PlanRun.evaluated (run : PlanRun) (root : Bytes) : Run where
  state := run.state
  output := run.evaluation root

/-- The moments of the implicit projection. -/
def terminalMoments (preparation : Preparation) (run : PlanRun) : List Moment :=
  (run.evaluated preparation.query.root).moment (run.others preparation.query.root) ::
    if preparation.implicitProjection = true then
      projectMoments preparation.inputs.budget (run.others preparation.query.root)
        preparation.query.outputSchema run.columnTypes (run.evaluated preparation.query.root)
    else []

/-- The evaluation of a node is one of those that are held, if there is one. -/
theorem evaluation_perm (run : PlanRun) (id : Bytes) :
    (run.evaluations.map Prod.snd).Perm (run.evaluation id :: run.others id) ∨
      run.evaluation id = {} ∧ run.others id = run.evaluations.map Prod.snd := by
  unfold PlanRun.evaluation PlanRun.others
  induction run.evaluations with
  | nil => exact Or.inr ⟨rfl, rfl⟩
  | cons entry rest ih =>
      obtain ⟨key, value⟩ := entry
      by_cases hkey : key = id
      · subst hkey
        simp
      · have hlookup : (id == key) = false := beq_eq_false_iff_ne.2 (Ne.symm hkey)
        have herase : (key == id) = false := beq_eq_false_iff_ne.2 hkey
        rw [List.lookup_cons, hlookup, List.eraseP_cons_of_neg (by simp [herase])]
        rcases ih with hperm | ⟨hnone, hall⟩
        · exact Or.inl ((hperm.cons value).trans (List.Perm.swap _ _ _))
        · refine Or.inr ⟨hnone, ?_⟩
          rw [List.map_cons, hall, List.map_cons]

theorem terminalMoments_reaches (preparation : Preparation) (run : PlanRun) :
    Reaches (Linked preparation.inputs.budget) run.moment (terminalMoments preparation run)
      ((terminalRun preparation run).map (Run.moment (run.others preparation.query.root))) := by
  have htaken := @linked_take preparation.inputs.budget _ _ _ run.state
    (evaluation_perm run preparation.query.root)
  unfold terminalMoments terminalRun
  by_cases himplicit : preparation.implicitProjection = true
  · rw [if_pos himplicit]
    dsimp only
    rw [if_pos himplicit]
    obtain ⟨final, hleads, hfinal⟩ := projectMoments_reaches preparation.inputs.budget
      (run.others preparation.query.root) preparation.query.outputSchema run.columnTypes
      (run.evaluated preparation.query.root)
    exact ⟨final, ⟨htaken, hleads⟩, hfinal⟩
  · rw [if_neg himplicit]
    dsimp only
    rw [if_neg himplicit]
    exact reaches_ok_iff.2 (leads_singleton htaken)

end Cxxlens.Sdk.Query
