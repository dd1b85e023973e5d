import Cxxlens.Foundation.Fallible
import Cxxlens.Sdk.Query.Plan

set_option autoImplicit false

/-! # The order of a plan

What validation promises of the nodes of a query, and what the plan makes of it: every node below the
root is planned once, behind its inputs. -/

namespace Cxxlens.Sdk.Query

open Sorting Collections Fallible

/-! ## Ordered nodes -/

/-- The position of the node with an identifier. -/
def rank (nodes : List IrNode) (id : Bytes) : Nat :=
  (nodes.map IrNode.id).idxOf id

/-- The nodes of a query that passed the first loop of `validate`. -/
structure OrderedNodes (nodes : List IrNode) : Prop where
  nodup : (nodes.map IrNode.id).Nodup
  named : ∀ node ∈ nodes, node.id ≠ []
  earlier : ∀ node ∈ nodes, ∀ input ∈ node.inputs,
    input ∈ nodes.map IrNode.id ∧ rank nodes input < rank nodes node.id
  arity : ∀ node ∈ nodes, arities.lookup node.operatorId = some node.inputs.length
  arguments : ∀ node ∈ nodes, ∃ arguments,
    decodeArguments node.operatorId node.arguments = .ok arguments

theorem validateNode_eq_ok_iff {seen : List Bytes} {node : IrNode} {arguments : OperatorArguments} :
    validateNode seen node = .ok arguments ↔
      (∀ input ∈ node.inputs, input ∈ seen) ∧ node.id ≠ [] ∧
        arities.lookup node.operatorId = some node.inputs.length ∧ node.id ∉ seen ∧
        decodeArguments node.operatorId node.arguments = .ok arguments := by
  unfold validateNode
  rw [seq_eq_ok_iff, seq_eq_ok_iff, firstError_eq_ok_iff, reject_eq_ok_iff]
  simp only [reject_eq_ok_iff, Bool.not_eq_false', Bool.or_eq_false_iff,
    List.isEmpty_eq_false_iff, bne_eq_false_iff_eq, List.contains_eq_mem, decide_eq_false_iff_not,
    decide_eq_true_eq, and_assoc]

/-- The first loop checked every node against the ones before it. -/
theorem validateNode_of_structural {version : SemanticVersion} {nodes : List IrNode} :
    ∀ {seen aliases : List Bytes}, structuralScanAliases version seen nodes = .ok aliases →
      ∀ before node after, nodes = before ++ node :: after →
        ∃ arguments, validateNode (seen ++ before.map IrNode.id) node = .ok arguments := by
  induction nodes with
  | nil =>
    intro seen aliases h before node after hsplit
    exact absurd hsplit (by simp)
  | cons first rest ih =>
    intro seen aliases h before node after hsplit
    rw [structuralScanAliases, seq_eq_ok_iff] at h
    obtain ⟨arguments, harguments, hrest⟩ := bind_eq_ok_iff.1 h.2
    obtain ⟨others, hothers, -⟩ := bind_eq_ok_iff.1 hrest
    cases before with
    | nil =>
      obtain ⟨rfl, rfl⟩ := List.cons.inj hsplit
      exact ⟨arguments, by simpa using harguments⟩
    | cons head tail =>
      obtain ⟨rfl, htail⟩ := List.cons.inj hsplit
      obtain ⟨found, hfound⟩ := ih hothers tail node after htail
      exact ⟨found, by simpa using hfound⟩

theorem rank_append_cons {before after : List IrNode} {node : IrNode}
    (h : node.id ∉ before.map IrNode.id) :
    rank (before ++ node :: after) node.id = before.length := by
  unfold rank
  rw [List.map_append, List.map_cons, List.idxOf_append_of_notMem h, List.idxOf_cons_self,
    List.length_map, Nat.add_zero]

theorem rank_lt_of_mem {before after : List IrNode} {id : Bytes}
    (h : id ∈ before.map IrNode.id) : rank (before ++ after) id < before.length := by
  unfold rank
  rw [List.map_append, List.idxOf_append_of_mem h]
  simpa using List.idxOf_lt_length_iff.2 h

/-- Each element is new behind the ones before it. -/
theorem nodup_of_fresh {α : Type} {items : List α}
    (h : ∀ before item after, items = before ++ item :: after → item ∉ before) : items.Nodup := by
  induction items using List.reverseRecOn with
  | nil => exact List.nodup_nil
  | append_singleton items last ih =>
    have hlast := h items last [] rfl
    have hitems : items.Nodup := ih fun before item after heq =>
      h before item (after ++ [last]) (by rw [heq, List.append_assoc, List.cons_append])
    rw [← List.concat_eq_append]
    exact hitems.concat hlast

/-- What the first loop of `validate` establishes. -/
theorem orderedNodes_of_structural {version : SemanticVersion} {nodes : List IrNode}
    {aliases : List Bytes} (h : structuralScanAliases version [] nodes = .ok aliases) :
    OrderedNodes nodes := by
  have hchecked : ∀ before node after, nodes = before ++ node :: after →
      ∃ arguments, validateNode (before.map IrNode.id) node = .ok arguments := by
    simpa using validateNode_of_structural h
  refine ⟨?_, ?_, ?_, ?_, ?_⟩
  · refine nodup_of_fresh ?_
    intro before id after hsplit
    obtain ⟨front, back, rfl, rfl, hback⟩ := List.map_eq_append_iff.1 hsplit
    obtain ⟨node, rest, rfl, rfl, rfl⟩ := List.map_eq_cons_iff.1 hback
    obtain ⟨arguments, harguments⟩ := hchecked front node rest rfl
    exact (validateNode_eq_ok_iff.1 harguments).2.2.2.1
  · intro node hnode
    obtain ⟨before, after, rfl⟩ := List.append_of_mem hnode
    obtain ⟨arguments, harguments⟩ := hchecked before node after rfl
    exact (validateNode_eq_ok_iff.1 harguments).2.1
  · intro node hnode input hinput
    obtain ⟨before, after, rfl⟩ := List.append_of_mem hnode
    obtain ⟨arguments, harguments⟩ := hchecked before node after rfl
    obtain ⟨hseen, -, -, hfresh, -⟩ := validateNode_eq_ok_iff.1 harguments
    have hbefore := hseen input hinput
    refine ⟨?_, ?_⟩
    · rw [List.map_append]
      exact List.mem_append_left _ hbefore
    · rw [rank_append_cons hfresh]
      exact rank_lt_of_mem hbefore
  · intro node hnode
    obtain ⟨before, after, rfl⟩ := List.append_of_mem hnode
    obtain ⟨arguments, harguments⟩ := hchecked before node after rfl
    exact (validateNode_eq_ok_iff.1 harguments).2.2.1
  · intro node hnode
    obtain ⟨before, after, rfl⟩ := List.append_of_mem hnode
    obtain ⟨arguments, harguments⟩ := hchecked before node after rfl
    exact ⟨arguments, (validateNode_eq_ok_iff.1 harguments).2.2.2.2⟩

theorem findNode_eq_some {nodes : List IrNode} {id : Bytes} {node : IrNode}
    (h : findNode nodes id = some node) : node ∈ nodes ∧ node.id = id :=
  ⟨List.mem_of_find?_eq_some h, by simpa using List.find?_some h⟩

theorem OrderedNodes.findNode_eq {nodes : List IrNode} (hnodes : OrderedNodes nodes)
    {node : IrNode} (h : node ∈ nodes) : findNode nodes node.id = some node := by
  cases hfound : findNode nodes node.id with
  | none => exact absurd (List.find?_eq_none.1 hfound node h) (by simp)
  | some found =>
    obtain ⟨hmem, hid⟩ := findNode_eq_some hfound
    exact congrArg some (List.inj_on_of_nodup_map hnodes.nodup hmem h hid)

theorem OrderedNodes.exists_findNode {nodes : List IrNode} (hnodes : OrderedNodes nodes)
    {id : Bytes} (h : id ∈ nodes.map IrNode.id) : ∃ node, findNode nodes id = some node := by
  obtain ⟨node, hnode, rfl⟩ := List.mem_map.1 h
  exact ⟨node, hnodes.findNode_eq hnode⟩

/-! ## Below a node -/

/-- A node is below another one if it is an input of it, or below an input. -/
def Below (nodes : List IrNode) : Bytes → Bytes → Prop :=
  Relation.ReflTransGen fun parent child =>
    ∃ node, findNode nodes parent = some node ∧ child ∈ node.inputs

theorem Below.rank_le {nodes : List IrNode} (hnodes : OrderedNodes nodes) {parent child : Bytes}
    (h : Below nodes parent child) : rank nodes child ≤ rank nodes parent := by
  induction h with
  | refl => exact le_rfl
  | tail hbelow hinput ih =>
    obtain ⟨node, hfound, hmem⟩ := hinput
    obtain ⟨hnode, rfl⟩ := findNode_eq_some hfound
    exact (hnodes.earlier node hnode _ hmem).2.le.trans ih

/-! ## The plan -/

section Plan

variable (hash : Bytes → Bytes) (nodes : List IrNode)

/-- A plan in which every node stands behind its inputs, under the number of its place. -/
inductive PlanOrder : List PlannedNode → Prop
  | nil : PlanOrder []
  | snoc {plan : List PlannedNode} {entry : PlannedNode} (before : PlanOrder plan)
      (fresh : planned plan entry.node.id = false)
      (node : findNode nodes entry.node.id = some entry.node)
      (inputs : entry.inputs = canonicalInputs hash nodes entry.node)
      (behind : ∀ input ∈ entry.inputs, planned plan input = true)
      (number : entry.stableId = ascii "n" ++ CanonicalValue.decimal plan.length) :
      PlanOrder (plan ++ [entry])

variable {hash nodes}

theorem planned_iff {plan : List PlannedNode} {id : Bytes} :
    planned plan id = true ↔ ∃ entry ∈ plan, entry.node.id = id := by
  unfold planned
  simp

theorem planned_of_prefix {plan plan' : List PlannedNode} (h : plan <+: plan') {id : Bytes}
    (hid : planned plan id = true) : planned plan' id = true := by
  obtain ⟨entry, hentry, heq⟩ := planned_iff.1 hid
  exact planned_iff.2 ⟨entry, h.subset hentry, heq⟩

theorem mem_canonicalInputs {node : IrNode} {input : Bytes} :
    input ∈ canonicalInputs hash nodes node ↔ input ∈ node.inputs := by
  unfold canonicalInputs
  split_ifs
  · exact (sortBy_perm _ _).mem_iff
  · exact Iff.rfl

/-- What appending the nodes below `id` does to a plan. -/
structure Extends (hash : Bytes → Bytes) (nodes : List IrNode) (below : Bytes → Prop)
    (plan plan' : List PlannedNode) : Prop where
  order : PlanOrder hash nodes plan'
  kept : plan <+: plan'
  added : ∀ entry ∈ plan', entry ∈ plan ∨ below entry.node.id

/-- The loop over the inputs of a node. -/
theorem extends_foldl (append : List PlannedNode → Bytes → List PlannedNode)
    (below : Bytes → Prop) (inputs : List Bytes)
    (hstep : ∀ input ∈ inputs, ∀ plan, PlanOrder hash nodes plan →
      Extends hash nodes below plan (append plan input) ∧
        planned (append plan input) input = true) :
    ∀ {plan : List PlannedNode}, PlanOrder hash nodes plan →
      Extends hash nodes below plan (inputs.foldl append plan) ∧
        ∀ input ∈ inputs, planned (inputs.foldl append plan) input = true := by
  induction inputs with
  | nil =>
    intro plan hplan
    exact ⟨⟨hplan, List.prefix_rfl, fun entry hentry => Or.inl hentry⟩, fun input hinput =>
      absurd hinput (by simp)⟩
  | cons first rest ih =>
    intro plan hplan
    obtain ⟨hfirst, hplanned⟩ := hstep first List.mem_cons_self plan hplan
    obtain ⟨hrest, hothers⟩ :=
      ih (fun input hinput => hstep input (List.mem_cons_of_mem _ hinput)) hfirst.order
    refine ⟨⟨hrest.order, hfirst.kept.trans hrest.kept, ?_⟩, ?_⟩
    · intro entry hentry
      cases hrest.added entry hentry with
      | inl hbefore => exact hfirst.added entry hbefore
      | inr hbelow => exact Or.inr hbelow
    · intro input hinput
      cases List.mem_cons.1 hinput with
      | inl heq =>
        subst heq
        exact planned_of_prefix hrest.kept hplanned
      | inr hmem => exact hothers input hmem

/-- A node is planned behind all that is below it, and nothing else is planned with it. -/
theorem appendPlannedNode_spec (hnodes : OrderedNodes nodes) :
    ∀ (fuel : Nat) {id : Bytes} {plan : List PlannedNode}, id ∈ nodes.map IrNode.id →
      rank nodes id < fuel → PlanOrder hash nodes plan →
        Extends hash nodes (Below nodes id) plan (appendPlannedNode hash nodes fuel plan id) ∧
          planned (appendPlannedNode hash nodes fuel plan id) id = true := by
  intro fuel
  induction fuel with
  | zero =>
    intro id plan hid hrank hplan
    exact absurd hrank (Nat.not_lt_zero _)
  | succ fuel ih =>
    intro id plan hid hrank hplan
    unfold appendPlannedNode
    by_cases hplanned : planned plan id = true
    · rw [if_pos hplanned]
      exact ⟨⟨hplan, List.prefix_rfl, fun entry hentry => Or.inl hentry⟩, hplanned⟩
    · obtain ⟨node, hfound⟩ := hnodes.exists_findNode hid
      obtain ⟨hnode, hnodeId⟩ := findNode_eq_some hfound
      rw [if_neg hplanned, hfound]
      have hbelow : ∀ input ∈ canonicalInputs hash nodes node, Below nodes id input :=
        fun input hinput => .single ⟨node, hfound, mem_canonicalInputs.1 hinput⟩
      have hearlier : ∀ input ∈ canonicalInputs hash nodes node,
          input ∈ nodes.map IrNode.id ∧ rank nodes input < rank nodes id := fun input hinput =>
        hnodeId ▸ hnodes.earlier node hnode input (mem_canonicalInputs.1 hinput)
      obtain ⟨hfold, hinputs⟩ := extends_foldl (appendPlannedNode hash nodes fuel)
        (fun other => Below nodes id other ∧ rank nodes other < rank nodes id)
        (canonicalInputs hash nodes node)
        (by
          intro input hinput plan' hplan'
          obtain ⟨hmem, hlt⟩ := hearlier input hinput
          obtain ⟨hextends, hself⟩ := ih hmem (by omega) hplan'
          refine ⟨⟨hextends.order, hextends.kept, ?_⟩, hself⟩
          intro entry hentry
          refine Or.imp_right ?_ (hextends.added entry hentry)
          intro hentryBelow
          exact ⟨(hbelow input hinput).trans hentryBelow, (hentryBelow.rank_le hnodes).trans_lt hlt⟩)
        hplan
      -- the node itself is not below its inputs
      have hfresh : planned ((canonicalInputs hash nodes node).foldl
          (appendPlannedNode hash nodes fuel) plan) node.id = false := by
        by_contra hnot
        obtain ⟨entry, hentry, heq⟩ := planned_iff.1 (by simpa using hnot)
        cases hfold.added entry hentry with
        | inl hold => exact hplanned (planned_iff.2 ⟨entry, hold, heq.trans hnodeId⟩)
        | inr hnew =>
          rw [heq, hnodeId] at hnew
          exact lt_irrefl _ hnew.2
      refine ⟨⟨?_, ?_, ?_⟩, ?_⟩
      · exact .snoc hfold.order hfresh (by rw [hnodeId]; exact hfound) rfl hinputs rfl
      · exact hfold.kept.trans (List.prefix_append _ _)
      · intro entry hentry
        cases List.mem_append.1 hentry with
        | inl hbefore => exact Or.imp_right And.left (hfold.added entry hbefore)
        | inr hlast =>
          rw [List.mem_singleton.1 hlast, hnodeId]
          exact Or.inr .refl
      · exact planned_iff.2 ⟨_, List.mem_append_right _ List.mem_cons_self, hnodeId⟩

/-- The root is planned, and every planned node is below it. -/
theorem executionPlan_spec {query : LogicalQueryIr} (hnodes : OrderedNodes query.nodes)
    (hroot : query.root ∈ query.nodes.map IrNode.id) :
    PlanOrder hash query.nodes (executionPlan hash query) ∧
      planned (executionPlan hash query) query.root = true ∧
      ∀ entry ∈ executionPlan hash query, Below query.nodes query.root entry.node.id := by
  have hrank : rank query.nodes query.root < query.nodes.length := by
    simpa [rank] using List.idxOf_lt_length_iff.2 hroot
  obtain ⟨hextends, hplanned⟩ := appendPlannedNode_spec hnodes _ hroot hrank PlanOrder.nil
  refine ⟨hextends.order, hplanned, ?_⟩
  intro entry hentry
  exact (hextends.added entry hentry).resolve_left (by simp)

end Plan

end Cxxlens.Sdk.Query
