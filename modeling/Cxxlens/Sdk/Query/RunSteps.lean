import Cxxlens.Sdk.Query.Execution
import Cxxlens.Sdk.Query.PlanOrder

set_option autoImplicit false

/-! # The steps of a run

A run that does not fail evaluates every node of its plan, and each from the evaluations that its
inputs keep to the end. -/

namespace Cxxlens.Sdk.Query

open Stopping Fallible

/-! ## The types of the columns -/

/-- The types of the columns behind a node. -/
def typesBehind (columnTypes : ColumnTypes) (entry : PlannedNode) : ColumnTypes :=
  match decodeArguments entry.node.operatorId entry.node.arguments with
  | .ok (.project items) =>
    ((projectMapping columnTypes OrderedMap.empty items).toOption.map Prod.fst).getD columnTypes
  | _ => columnTypes

/-- The types of the columns behind the nodes of a plan. -/
def plannedTypes (columnTypes : ColumnTypes) (plan : List PlannedNode) : ColumnTypes :=
  plan.foldl typesBehind columnTypes

/-- An operator leaves behind the types that the arguments alone determine. -/
theorem runOperator_types {inputs : RunInputs} {entry : PlannedNode} {columnTypes types : ColumnTypes}
    {left right : Evaluation} {run ran : Run} {arguments : OperatorArguments}
    (harguments : decodeArguments entry.node.operatorId entry.node.arguments = .ok arguments)
    (h : runOperator inputs entry columnTypes left right run arguments = .ok (types, ran)) :
    types = typesBehind columnTypes entry := by
  have hkept : ∀ {result : Result Run}, (result >>= fun run => .ok (columnTypes, run)) =
      .ok (types, ran) → types = columnTypes := by
    intro result hresult
    obtain ⟨run', -, heq⟩ := bind_eq_ok_iff.1 hresult
    rw [Except.ok.injEq, Prod.mk.injEq] at heq
    exact heq.1.symm
  unfold typesBehind
  rw [harguments]
  cases arguments with
  | project items =>
    unfold runOperator runProject at h
    obtain ⟨⟨types', mapping⟩, hmapping, hrest⟩ := bind_eq_ok_iff.1 h
    obtain ⟨run', -, heq⟩ := bind_eq_ok_iff.1 hrest
    rw [Except.ok.injEq, Prod.mk.injEq] at heq
    show types = ((projectMapping columnTypes OrderedMap.empty items).toOption.map
      Prod.fst).getD columnTypes
    rw [hmapping]
    exact heq.1.symm
  | scan descriptorId scanAlias => exact hkept h
  | predicate predicate => exact hkept h
  | empty => exact hkept h
  | order keys => exact hkept h
  | limit count => exact hkept h
  | condition conditionUniverse alternatives => exact hkept h
  | interpretation interpretation => exact hkept h

/-! ## Consistent runs -/

/-- The evaluation of a node is what its operator made of the evaluations of its inputs. -/
def Ran (inputs : RunInputs) (columnTypes : ColumnTypes) (run : PlanRun) (entry : PlannedNode) :
    Prop :=
  ∃ arguments state ran,
    decodeArguments entry.node.operatorId entry.node.arguments = .ok arguments ∧
    runOperator inputs entry columnTypes (run.evaluation (entry.inputs.headD []))
      (run.evaluation (entry.inputs.tail.headD [])) { state := state, output := {} } arguments =
        .ok (typesBehind columnTypes entry, ran) ∧
    ran.failed = false ∧ run.evaluation entry.node.id = ran.output

/-- A run that evaluated every node of a plan. -/
structure Consistent (inputs : RunInputs) (columnTypes : ColumnTypes) (plan : List PlannedNode)
    (run : PlanRun) : Prop where
  evaluated : run.evaluations.map Prod.fst = plan.map fun entry => entry.node.id
  types : run.columnTypes = plannedTypes columnTypes plan
  ran : ∀ before entry after, plan = before ++ entry :: after →
    Ran inputs (plannedTypes columnTypes before) run entry

theorem lookup_append_of_mem {entries more : List (Bytes × Evaluation)} {id : Bytes}
    (h : id ∈ entries.map Prod.fst) : (entries ++ more).lookup id = entries.lookup id := by
  induction entries with
  | nil => exact absurd h (by simp)
  | cons entry rest ih =>
    obtain ⟨key, value⟩ := entry
    rw [List.cons_append, List.lookup_cons, List.lookup_cons]
    by_cases hkey : id == key
    · rw [hkey]
    · have hrest : id ∈ rest.map Prod.fst := by
        cases List.mem_cons.1 h with
        | inl heq => exact absurd heq (by simpa using hkey)
        | inr hmem => exact hmem
      rw [Bool.eq_false_iff.2 hkey]
      exact ih hrest

theorem lookup_append_self {entries : List (Bytes × Evaluation)} {id : Bytes} {value : Evaluation}
    (h : id ∉ entries.map Prod.fst) : (entries ++ [(id, value)]).lookup id = some value := by
  induction entries with
  | nil => simp [List.lookup_cons]
  | cons entry rest ih =>
    obtain ⟨key, other⟩ := entry
    rw [List.map_cons, List.mem_cons, not_or] at h
    rw [List.cons_append, List.lookup_cons, beq_eq_false_iff_ne.2 h.1]
    exact ih h.2

theorem mem_ids_of_planned {plan : List PlannedNode} {id : Bytes} (h : planned plan id = true) :
    id ∈ plan.map fun entry => entry.node.id := by
  obtain ⟨entry, hentry, heq⟩ := planned_iff.1 h
  exact List.mem_map.2 ⟨entry, hentry, heq⟩

/-- The evaluations of the other nodes stay as they are. -/
theorem evaluation_record {run : PlanRun} {entry : PlannedNode} {columnTypes : ColumnTypes}
    {ran : Run} {id : Bytes} (h : id ∈ run.evaluations.map Prod.fst ∨ id ≠ entry.node.id) :
    (run.record entry columnTypes ran).evaluation id = run.evaluation id := by
  unfold PlanRun.evaluation PlanRun.record
  by_cases hmem : id ∈ run.evaluations.map Prod.fst
  · rw [lookup_append_of_mem hmem]
  · have hne := h.resolve_left hmem
    rw [List.lookup_append, List.lookup_cons, beq_eq_false_iff_ne.2 hne]
    simp

theorem evaluation_record_self {run : PlanRun} {entry : PlannedNode} {columnTypes : ColumnTypes}
    {ran : Run} (h : entry.node.id ∉ run.evaluations.map Prod.fst) :
    (run.record entry columnTypes ran).evaluation entry.node.id = ran.output := by
  unfold PlanRun.evaluation PlanRun.record
  rw [lookup_append_self h, Option.getD_some]

/-- An input of a planned node was evaluated before it; the name of a missing input is no node. -/
theorem input_settled {plan : List PlannedNode} {inputs : List Bytes} {id : Bytes} (hid : id ≠ [])
    (hplanned : ∀ input ∈ inputs, planned plan input = true) (input : Bytes)
    (hinput : input = inputs.headD [] ∨ input = inputs.tail.headD []) :
    input ∈ (plan.map fun entry => entry.node.id) ∨ input ≠ id := by
  have hcases : input ∈ inputs ∨ input = [] := by
    cases inputs with
    | nil => simpa using hinput
    | cons first rest =>
      cases rest with
      | nil => simpa using hinput
      | cons second others =>
        refine Or.inl ?_
        cases hinput with
        | inl h => simp [h]
        | inr h => simp [h]
  cases hcases with
  | inl hmem => exact Or.inl (mem_ids_of_planned (hplanned input hmem))
  | inr hnil => exact Or.inr fun heq => hid (heq ▸ hnil)

/-- The inputs of every node of a plan are planned before it. -/
theorem PlanOrder.behind_of_split {hash : Bytes → Bytes} {nodes : List IrNode}
    {plan : List PlannedNode} (h : PlanOrder hash nodes plan) :
    ∀ before entry after, plan = before ++ entry :: after →
      PlanOrder hash nodes before ∧ findNode nodes entry.node.id = some entry.node ∧
        entry.inputs = canonicalInputs hash nodes entry.node ∧
        (∀ input ∈ entry.inputs, planned before input = true) ∧
        planned before entry.node.id = false ∧
        entry.stableId = ascii "n" ++ CanonicalValue.decimal before.length := by
  induction h with
  | nil =>
    intro before entry after hsplit
    exact absurd hsplit (by simp)
  | @snoc plan last hplan hfresh hnode hinputs hbehind hnumber ih =>
    intro before entry after hsplit
    cases after using List.reverseRecOn with
    | nil =>
      obtain ⟨rfl, heq⟩ := List.append_inj' hsplit rfl
      obtain rfl := List.singleton_inj.1 heq
      exact ⟨hplan, hnode, hinputs, hbehind, hfresh, hnumber⟩
    | append_singleton others final =>
      rw [← List.cons_append, ← List.append_assoc] at hsplit
      obtain ⟨hrest, -⟩ := List.append_inj' hsplit rfl
      exact ih before entry others hrest

/-- The run of a plan that does not fail is consistent. -/
theorem runPlan_consistent {hash : Bytes → Bytes} {nodes : List IrNode}
    (hnodes : OrderedNodes nodes) {inputs : RunInputs} {start : PlanRun}
    (hstart : start.evaluations = []) {plan : List PlannedNode} (hplan : PlanOrder hash nodes plan) :
    ∀ {run : PlanRun}, runPlan inputs start plan = .ok run → run.state.failed = false →
      Consistent inputs start.columnTypes plan run := by
  induction hplan with
  | nil =>
    intro run hrun hfailed
    rw [runPlan, untilFailed, Except.ok.injEq] at hrun
    subst hrun
    refine ⟨by simp [hstart], rfl, ?_⟩
    intro before entry after hsplit
    exact absurd hsplit (by simp)
  | @snoc plan last hbefore hfresh hnode hinputs hbehind hnumber ih =>
    intro run hrun hfailed
    obtain ⟨mid, hmid, hnot, hlast⟩ :=
      @untilFailed_concat_eq_ok _ _ _ (fun run : PlanRun => run.state.failed) _ _ _ _ hfailed _ hrun
    have hconsistent := ih hmid hnot
    obtain ⟨arguments, harguments, hrest⟩ := bind_eq_ok_iff.1 hlast
    obtain ⟨⟨types, ran⟩, hoperator, heq⟩ := bind_eq_ok_iff.1 hrest
    have htypes := runOperator_types harguments hoperator
    rw [Except.ok.injEq] at heq
    subst heq
    have hid : last.node.id ≠ [] := hnodes.named last.node (findNode_eq_some hnode).1
    have hnew : last.node.id ∉ mid.evaluations.map Prod.fst := by
      rw [hconsistent.evaluated]
      intro hmem
      obtain ⟨entry, hentry, hsame⟩ := List.mem_map.1 hmem
      rw [planned_iff.2 ⟨entry, hentry, hsame⟩] at hfresh
      exact Bool.false_ne_true hfresh.symm
    -- what the nodes of the plan read is the same behind the last node
    have hkept : ∀ entry : PlannedNode, (∀ input ∈ entry.inputs, planned plan input = true) →
        ∀ input, input = entry.inputs.headD [] ∨ input = entry.inputs.tail.headD [] →
          (mid.record last types ran).evaluation input = mid.evaluation input := by
      intro entry hentry input hinput
      refine evaluation_record ?_
      rw [hconsistent.evaluated]
      exact input_settled hid hentry input hinput
    refine ⟨?_, ?_, ?_⟩
    · simp [PlanRun.record, hconsistent.evaluated]
    · show types = (plan ++ [last]).foldl typesBehind start.columnTypes
      rw [List.foldl_append, htypes, hconsistent.types]
      rfl
    · intro before entry after hsplit
      cases after using List.reverseRecOn with
      | nil =>
        obtain ⟨rfl, heq⟩ := List.append_inj' hsplit rfl
        obtain rfl := List.singleton_inj.1 heq
        refine ⟨arguments, mid.state, ran, harguments, ?_, hfailed, evaluation_record_self hnew⟩
        rw [hkept last hbehind _ (Or.inl rfl), hkept last hbehind _ (Or.inr rfl),
          ← hconsistent.types, ← htypes]
        exact hoperator
      | append_singleton others final =>
        rw [← List.cons_append, ← List.append_assoc] at hsplit
        obtain ⟨hsplit', -⟩ := List.append_inj' hsplit rfl
        obtain ⟨arguments', state', ran', harguments', hoperator', hfailed', heq'⟩ :=
          hconsistent.ran before entry others hsplit'
        obtain ⟨hstarts, -, -, hentry, -⟩ := hbefore.behind_of_split before entry others hsplit'
        have hentry' : ∀ input ∈ entry.inputs, planned plan input = true := fun input hinput =>
          planned_of_prefix ⟨entry :: others, hsplit'.symm⟩ (hentry input hinput)
        refine ⟨arguments', state', ran', harguments', ?_, hfailed', ?_⟩
        · rw [hkept entry hentry' _ (Or.inl rfl), hkept entry hentry' _ (Or.inr rfl)]
          exact hoperator'
        · rw [evaluation_record, heq']
          refine Or.inl ?_
          rw [hconsistent.evaluated, hsplit']
          simp

end Cxxlens.Sdk.Query
