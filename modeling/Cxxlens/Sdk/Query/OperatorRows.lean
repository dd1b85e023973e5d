import Cxxlens.Sdk.Query.RunSteps

set_option autoImplicit false

/-! # What the operators return

The rows of an operator that did not fail, without the account that the run keeps of them. -/

namespace Cxxlens.Sdk.Query

open Stopping Fallible

/-! ## Appending -/

/-- Evaluations that differ in their rows only. -/
structure SameOrder (before behind : Evaluation) : Prop where
  ordered : behind.ordered = before.ordered
  orderKeys : behind.orderKeys = before.orderKeys
  limited : behind.limited = before.limited

theorem SameOrder.refl (output : Evaluation) : SameOrder output output :=
  ⟨rfl, rfl, rfl⟩

theorem SameOrder.trans {first second third : Evaluation} (h : SameOrder first second)
    (h' : SameOrder second third) : SameOrder first third :=
  ⟨h'.ordered.trans h.ordered, h'.orderKeys.trans h.orderKeys, h'.limited.trans h.limited⟩

section Append

variable {budget : ExecutionBudget} {subject : Bytes}

theorem reserveMemory_annotations (state : RuntimeState) (bytes : UInt64) :
    (reserveMemory budget subject state bytes).sourceAnnotations = state.sourceAnnotations := by
  unfold reserveMemory RuntimeState.fail
  split_ifs
  · rfl
  · rfl

/-- A row that is appended stands behind the others. -/
theorem appendRow_rows {run : Run} {row : AnnotatedRow}
    (h : (appendRow budget subject run row).failed = false) :
    (appendRow budget subject run row).output.rows = run.output.rows ++ [row] ∧
      SameOrder run.output (appendRow budget subject run row).output := by
  unfold appendRow at h ⊢
  by_cases hrows : rowsExceed run.output.rows budget.maxIntermediateRows = true
  · rw [if_pos hrows] at h
    exact absurd h (by simp)
  · rw [if_neg hrows] at h ⊢
    dsimp only at h ⊢
    generalize reserveMemory budget subject run.state (rowAccountingBytes row) = state at h ⊢
    cases hstate : state.failed with
    | true =>
      rw [if_pos hstate, Run.failed, hstate] at h
      exact absurd h (by simp)
    | false =>
      rw [if_neg (by simp [hstate])]
      exact ⟨rfl, rfl, rfl, rfl⟩

/-- The row that a step makes of an item. -/
def produced {α : Type} (make : α → Result (Option AnnotatedRow)) (item : α) :
    Option AnnotatedRow :=
  (make item).toOption.getD none

theorem produced_eq {α : Type} {make : α → Result (Option AnnotatedRow)} {item : α}
    {row : Option AnnotatedRow} (h : make item = .ok row) : produced make item = row := by
  unfold produced
  rw [h]
  rfl

/-- A loop that did not fail appended the rows that its steps made. -/
theorem appendEach_rows {α : Type} {make : α → Result (Option AnnotatedRow)} {items : List α}
    {run ran : Run} (h : appendEach budget subject make run items = .ok ran)
    (hfailed : ran.failed = false) :
    (∀ item ∈ items, ∃ row, make item = .ok row) ∧
      ran.output.rows = run.output.rows ++ items.filterMap (produced make) ∧
      SameOrder run.output ran.output := by
  have hspec := @untilFailed_spec _ _ _ Run.failed _
    (fun done ran => (∀ item ∈ done, ∃ row, make item = .ok row) ∧
      ran.output.rows = run.output.rows ++ done.filterMap (produced make) ∧
      SameOrder run.output ran.output)
    (by
      intro done before item behind hnot hinv hbody hbehind
      obtain ⟨hmade, hrows, hsame⟩ := hinv
      obtain ⟨row, hrow, hrest⟩ := bind_eq_ok_iff.1 hbody
      have hitems : ∀ other ∈ done ++ [item], ∃ row, make other = .ok row := by
        intro other hother
        cases List.mem_append.1 hother with
        | inl hdone => exact hmade other hdone
        | inr hlast => exact (List.mem_singleton.1 hlast) ▸ ⟨row, hrow⟩
      refine ⟨hitems, ?_⟩
      rw [List.filterMap_append, ← List.append_assoc, ← hrows]
      cases row with
      | none =>
        rw [Except.ok.injEq] at hrest
        subst hrest
        refine ⟨?_, hsame⟩
        simp [produced_eq hrow]
      | some row =>
        rw [Except.ok.injEq] at hrest
        subst hrest
        obtain ⟨happended, hkept⟩ := appendRow_rows hbehind
        refine ⟨?_, hsame.trans hkept⟩
        simp [produced_eq hrow, happended])
    items [] run ran ⟨by simp, by simp, SameOrder.refl _⟩ h hfailed
  simpa using hspec

end Append

/-! ## One input -/

section Operators

variable {budget : ExecutionBudget} {subject : Bytes}

/-- The start of an operator. -/
def Run.fresh (run : Run) : Prop :=
  run.output = {}

theorem keepIf_rows (test : AnnotatedRow → Bool) (rows : List AnnotatedRow) :
    rows.filterMap (produced (keepIf test)) = rows.filter test := by
  rw [← List.filterMap_eq_filter]
  refine List.filterMap_congr ?_
  intro row hrow
  simp [produced, keepIf, Option.guard]

theorem failed_likeInput (run : Run) (input : Evaluation) :
    (run.likeInput input).failed = run.failed := rfl

/-- A loop over rows that are kept or left out, from the start of an operator. -/
theorem appendKept_rows {test : AnnotatedRow → Bool} {rows : List AnnotatedRow} {run ran : Run}
    (hfresh : run.fresh) (h : appendEach budget subject (keepIf test) run rows = .ok ran)
    (hfailed : ran.failed = false) : ran.output.rows = rows.filter test := by
  obtain ⟨-, hrows, -⟩ := appendEach_rows h hfailed
  rw [hrows, hfresh, keepIf_rows]
  rfl

theorem runFilter_rows {columnTypes : ColumnTypes} {predicate : DecodedPredicate}
    {input : Evaluation} {run ran : Run} (hfresh : run.fresh)
    (h : runFilter budget subject columnTypes predicate input run = .ok ran)
    (hfailed : ran.failed = false) :
    ran.output.rows = input.rows.filter (fun row => evaluatePredicate row columnTypes predicate) ∧
      ran.output.limited = input.limited := by
  obtain ⟨run', hrun, heq⟩ := bind_eq_ok_iff.1 h
  rw [Except.ok.injEq] at heq
  subst heq
  have hrows := appendKept_rows hfresh hrun hfailed
  exact ⟨hrows, rfl⟩

theorem runInterpretation_rows {interpretation : Bytes} {input : Evaluation} {run ran : Run}
    (hfresh : run.fresh) (h : runInterpretation budget subject interpretation input run = .ok ran)
    (hfailed : ran.failed = false) :
    ran.output.rows = input.rows.filter (fun row => row.interpretation == interpretation) ∧
      ran.output.limited = input.limited := by
  obtain ⟨run', hrun, heq⟩ := bind_eq_ok_iff.1 h
  rw [Except.ok.injEq] at heq
  subst heq
  have hrows := appendKept_rows hfresh hrun hfailed
  exact ⟨hrows, rfl⟩

theorem runLimit_rows {count : UInt64} {input : Evaluation} {run ran : Run} (hfresh : run.fresh)
    (h : runLimit budget subject count input run = .ok ran) (hfailed : ran.failed = false) :
    ran.output.rows = input.rows.take count.toNat ∧
      ran.output.limited = (input.limited || decide (count.toNat < input.rows.length)) := by
  obtain ⟨run', hrun, heq⟩ := bind_eq_ok_iff.1 h
  rw [Except.ok.injEq] at heq
  subst heq
  refine ⟨?_, rfl⟩
  have hrows := appendKept_rows hfresh hrun hfailed
  rw [List.filter_eq_self.2 (fun row hrow => rfl)] at hrows
  exact hrows

theorem runUnion_rows {left right : Evaluation} {run ran : Run} (hfresh : run.fresh)
    (h : runUnion budget subject left right run = .ok ran) (hfailed : ran.failed = false) :
    ran.output.rows = left.rows ++ right.rows ∧
      ran.output.limited = (left.limited || right.limited) := by
  obtain ⟨run', hrun, heq⟩ := bind_eq_ok_iff.1 h
  rw [Except.ok.injEq] at heq
  subst heq
  refine ⟨?_, rfl⟩
  have hrows := appendKept_rows hfresh hrun hfailed
  rw [List.filter_eq_self.2 (fun row hrow => rfl)] at hrows
  exact hrows

theorem runCondition_rows {conditionUniverse : Bytes} {alternatives : List Bytes}
    {input : Evaluation} {run ran : Run} (hfresh : run.fresh)
    (h : runCondition budget subject conditionUniverse alternatives input run = .ok ran)
    (hfailed : ran.failed = false) :
    (∀ row ∈ input.rows, ∃ made, restrictCondition
        { «universe» := conditionUniverse, fragments := alternatives } row = .ok made) ∧
      ran.output.rows = input.rows.filterMap (produced (restrictCondition
        { «universe» := conditionUniverse, fragments := alternatives })) ∧
      ran.output.limited = input.limited := by
  obtain ⟨run', hrun, heq⟩ := bind_eq_ok_iff.1 h
  rw [Except.ok.injEq] at heq
  subst heq
  obtain ⟨hmade, hrows, -⟩ := appendEach_rows hrun hfailed
  refine ⟨hmade, ?_, rfl⟩
  show run'.output.rows = _
  rw [hrows, hfresh]
  rfl

theorem runProject_rows {columnTypes types : ColumnTypes} {items : List ProjectionItem}
    {input : Evaluation} {run ran : Run} (hfresh : run.fresh)
    (h : runProject budget subject columnTypes items input run = .ok (types, ran))
    (hfailed : ran.failed = false) :
    ran.output.rows =
        input.rows.map (projectRow types (items.map fun item => (item.column, item.output))) ∧
      ran.output.limited = input.limited := by
  obtain ⟨⟨types', mapping⟩, hmapping, hrest⟩ := bind_eq_ok_iff.1 h
  obtain ⟨run', hrun, heq⟩ := bind_eq_ok_iff.1 hrest
  rw [Except.ok.injEq, Prod.mk.injEq] at heq
  obtain ⟨rfl, rfl⟩ := heq
  refine ⟨?_, rfl⟩
  obtain ⟨-, hrows, -⟩ := appendEach_rows hrun hfailed
  show run'.output.rows = _
  rw [hrows, hfresh]
  exact congrFun List.filterMap_eq_map input.rows

theorem runOrder_rows {columnTypes : ColumnTypes} {keys : List OrderKey} {input : Evaluation}
    {run ran : Run} (hfresh : run.fresh)
    (h : runOrder budget subject columnTypes keys input run = .ok ran)
    (hfailed : ran.failed = false) :
    ran.output.rows = Sorting.sortBy (rowLess columnTypes keys) input.rows ∧
      ran.output.limited = input.limited := by
  obtain ⟨run', hrun, heq⟩ := bind_eq_ok_iff.1 h
  rw [Except.ok.injEq] at heq
  subst heq
  have hnot : run'.failed = false := hfailed
  refine ⟨?_, rfl⟩
  have hrows := appendKept_rows hfresh hrun hnot
  rw [List.filter_eq_self.2 (fun row hrow => rfl)] at hrows
  simp [hnot, hrows]

/-! ## Two inputs -/

variable {columnTypes : ColumnTypes} {predicate : DecodedPredicate}

theorem runInnerJoin_rows {left right : Evaluation} {run ran : Run} (hfresh : run.fresh)
    (h : runInnerJoin budget subject columnTypes predicate left right run = .ok ran)
    (hfailed : ran.failed = false) :
    (∀ row ∈ left.rows, ∀ other ∈ right.rows, ∃ joined,
        joinRow columnTypes predicate row other = .ok joined) ∧
      ran.output.rows = left.rows.flatMap (fun row =>
        right.rows.filterMap (produced (joinRow columnTypes predicate row))) ∧
      ran.output.limited = (left.limited || right.limited) := by
  obtain ⟨run', hrun, heq⟩ := bind_eq_ok_iff.1 h
  rw [Except.ok.injEq] at heq
  subst heq
  have hspec := @untilFailed_spec _ _ _ Run.failed _
    (fun done ran => (∀ row ∈ done, ∀ other ∈ right.rows, ∃ joined,
        joinRow columnTypes predicate row other = .ok joined) ∧
      ran.output.rows = done.flatMap (fun row =>
        right.rows.filterMap (produced (joinRow columnTypes predicate row))))
    (by
      intro done before row behind hnot hinv hbody hbehind
      obtain ⟨hmade, hrows, -⟩ := appendEach_rows hbody hbehind
      refine ⟨?_, ?_⟩
      · intro other hother
        cases List.mem_append.1 hother with
        | inl hdone => exact hinv.1 other hdone
        | inr hlast => exact (List.mem_singleton.1 hlast) ▸ hmade
      · rw [hrows, hinv.2, List.flatMap_append]
        simp)
    left.rows [] run run' ⟨by simp, by rw [hfresh]; rfl⟩ hrun hfailed
  exact ⟨hspec.1, hspec.2, rfl⟩

theorem witnessed_eq_ok {row : AnnotatedRow} {rows : List AnnotatedRow} {found : Bool}
    (h : witnessed columnTypes predicate row rows = .ok found) :
    (found = false → ∀ other ∈ rows, joinRow columnTypes predicate row other = .ok none) := by
  induction rows with
  | nil =>
    intro hfound other hother
    exact absurd hother (by simp)
  | cons first rest ih =>
    intro hfound other hother
    obtain ⟨joined, hjoined, hrest⟩ := bind_eq_ok_iff.1 h
    cases joined with
    | some joined =>
      rw [Except.ok.injEq, hfound] at hrest
      exact absurd hrest (by simp)
    | none =>
      cases List.mem_cons.1 hother with
      | inl heq => exact heq ▸ hjoined
      | inr hmem => exact ih hrest hfound other hmem

/-- An anti-join that is not ready returns nothing. -/
theorem runAntiJoin_unready {left right : Evaluation} {run ran : Run} (hfresh : run.fresh)
    (h : runAntiJoin budget subject columnTypes predicate false left right run = .ok ran) :
    ran.output.rows = [] ∧ ran.output.limited = (left.limited || right.limited) := by
  unfold runAntiJoin at h
  rw [if_pos rfl, Except.ok.injEq] at h
  subst h
  refine ⟨?_, rfl⟩
  show run.output.rows = []
  rw [hfresh]

/-- An anti-join that is ready returns left rows that no right row joins. -/
theorem runAntiJoin_ready {left right : Evaluation} {run ran : Run} (hfresh : run.fresh)
    (h : runAntiJoin budget subject columnTypes predicate true left right run = .ok ran)
    (hfailed : ran.failed = false) :
    (∀ row ∈ ran.output.rows, row ∈ left.rows ∧
        ∀ other ∈ right.rows, joinRow columnTypes predicate row other = .ok none) ∧
      ran.output.limited = (left.limited || right.limited) := by
  unfold runAntiJoin at h
  rw [if_neg (by simp)] at h
  obtain ⟨run', hrun, heq⟩ := bind_eq_ok_iff.1 h
  rw [Except.ok.injEq] at heq
  subst heq
  obtain ⟨hmade, hrows, -⟩ := appendEach_rows hrun hfailed
  refine ⟨?_, rfl⟩
  intro row hrow
  have hrow' : row ∈ run'.output.rows := hrow
  rw [hrows, hfresh] at hrow'
  obtain ⟨item, hitem, hproduced⟩ := List.mem_filterMap.1 (by simpa using hrow')
  obtain ⟨kept, hkept⟩ := hmade item hitem
  rw [produced_eq hkept] at hproduced
  subst hproduced
  obtain ⟨found, hfound, hrest⟩ := bind_eq_ok_iff.1 hkept
  cases found with
  | true => simp at hrest
  | false =>
    have hsame : item = row := by simpa using hrest
    subst hsame
    exact ⟨hitem, witnessed_eq_ok hfound rfl⟩

/-! ## Scan and distinct -/

theorem appendRow_sameOrder (run : Run) (row : AnnotatedRow) :
    SameOrder run.output (appendRow budget subject run row).output := by
  unfold appendRow
  dsimp only
  split_ifs
  · exact SameOrder.refl _
  · exact SameOrder.refl _
  · exact ⟨rfl, rfl, rfl⟩

theorem replaceRow_sameOrder (run : Run) (index : Nat) (row : AnnotatedRow) :
    SameOrder run.output (replaceRow budget subject run index row).output := by
  unfold replaceRow
  dsimp only
  split_ifs <;> exact ⟨rfl, rfl, rfl⟩

theorem appendSourceAnnotation_output (run : Run) (annotated : SnapshotClaimAnnotation) :
    ( appendSourceAnnotation budget subject run annotated).output = run.output := by
  unfold appendSourceAnnotation
  cases annotationAccountingBytes annotated with
  | none => rfl
  | some bytes =>
    dsimp only
    split_ifs
    · rfl
    · rfl

theorem recordAnnotation_sameOrder (preserveMultiplicity : Bool) (scanAlias : Bytes)
    (scan : ScanRun) (annotated : SnapshotClaimAnnotation) :
    SameOrder scan.run.output
      ( recordAnnotation budget subject preserveMultiplicity scanAlias scan annotated).run.output := by
  have hscanned : scan.run.scanned.output = scan.run.output := rfl
  have hreplace := fun index row => @replaceRow_sameOrder budget subject scan.run.scanned index row
  have happend := fun row => @appendRow_sameOrder budget subject scan.run.scanned row
  rw [hscanned] at hreplace happend
  unfold recordAnnotation
  cases existingRow preserveMultiplicity scan annotated with
  | none =>
    have hrow := happend (scanRow scanAlias annotated)
    generalize appendRow budget subject scan.run.scanned (scanRow scanAlias annotated) = ran at *
    exact hrow
  | some index =>
    dsimp only
    cases scan.run.output.rows[index]? with
    | none => exact SameOrder.refl _
    | some row =>
      dsimp only
      have hrow := hreplace index ( addAnnotation row annotated)
      generalize replaceRow budget subject scan.run.scanned index ( addAnnotation row annotated) =
        ran at *
      exact hrow

theorem scanAnnotation_sameOrder (preserveMultiplicity : Bool) (scanAlias : Bytes) (scan : ScanRun)
    (annotated : SnapshotClaimAnnotation) :
    SameOrder scan.run.output
      ( scanAnnotation budget subject preserveMultiplicity scanAlias scan annotated).run.output := by
  have hrecord := @recordAnnotation_sameOrder budget subject preserveMultiplicity scanAlias scan
    annotated
  unfold scanAnnotation
  generalize recordAnnotation budget subject preserveMultiplicity scanAlias scan annotated = scanned
    at hrecord ⊢
  dsimp only
  split_ifs
  · exact hrecord
  · rw [appendSourceAnnotation_output]
    exact hrecord

/-- A scan is not limited. -/
theorem runScan_limited {snapshot : Snapshot} {descriptors : List (Bytes × RelationDescriptor)}
    {descriptorId scanAlias : Bytes} {run ran : Run} (hfresh : run.fresh)
    (h : runScan budget subject snapshot descriptors descriptorId scanAlias run = .ok ran) :
    ran.output.limited = false := by
  obtain ⟨annotations, -, hrest⟩ := bind_eq_ok_iff.1 h
  obtain ⟨scan, hscan, heq⟩ := bind_eq_ok_iff.1 hrest
  rw [Except.ok.injEq] at heq
  subst heq
  refine @untilFailed_invariant _ _ _ (fun scan : ScanRun => scan.run.failed) _
    (fun scan => scan.run.output.limited = false) ?_ annotations { run := run } scan ?_ hscan
  · intro before annotated behind hnot hbefore hbody
    unfold scanStep at hbody
    split_ifs at hbody
    · rw [Except.ok.injEq] at hbody
      exact hbody ▸ hbefore
    · rw [Except.ok.injEq] at hbody
      exact hbody ▸ hbefore
    · rw [Except.ok.injEq] at hbody
      rw [← hbody, (scanAnnotation_sameOrder _ _ _ _).limited]
      exact hbefore
  · rw [hfresh]

theorem runDistinct_limited {input : Evaluation} {run ran : Run}
    (h : runDistinct budget subject input run = .ok ran) :
    ran.output.limited = input.limited := by
  obtain ⟨distinct, -, heq⟩ := bind_eq_ok_iff.1 h
  rw [Except.ok.injEq] at heq
  rw [← heq]
  rfl

/-! ## Semi-join -/

/-- The rows that a left row makes with the right ones. -/
def witnesses (columnTypes : ColumnTypes) (predicate : DecodedPredicate) (row : AnnotatedRow)
    (others : List AnnotatedRow) : List AnnotatedRow :=
  others.filterMap (produced (joinRow columnTypes predicate row))

/-- The row that is selected with a list of witnesses. -/
def selectedBy (row : AnnotatedRow) (witnesses : List AnnotatedRow) : Option AnnotatedRow :=
  if witnesses = [] then none else some (witnesses.foldl mergeRow (unwitnessed row))

theorem selectedBy_concat (row : AnnotatedRow) (before : List AnnotatedRow)
    (witness : AnnotatedRow) :
    selectedBy row (before ++ [witness]) =
      some (mergeRow ((selectedBy row before).getD (unwitnessed row)) witness) := by
  unfold selectedBy
  by_cases hbefore : before = []
  · simp [hbefore]
  · simp [hbefore, List.foldl_append]

theorem candidateFitsMemory_eq {run : Run} {row : AnnotatedRow}
    (h : (candidateFitsMemory budget subject run row).failed = false) :
    candidateFitsMemory budget subject run row = run := by
  unfold candidateFitsMemory at h ⊢
  split_ifs at h ⊢ with hmemory
  · exact absurd h (by simp)
  · rfl

/-- The loop of a semi-join over the right rows. -/
theorem semiStep_rows {row : AnnotatedRow} {others : List AnnotatedRow} {run : Run} {semi : SemiRun}
    (h : untilFailed (fun semi : SemiRun => semi.run.failed)
      (semiStep budget subject columnTypes predicate row) { run := run } others = .ok semi)
    (hfailed : semi.run.failed = false) :
    (∀ other ∈ others, ∃ joined, joinRow columnTypes predicate row other = .ok joined) ∧
      semi.run = run ∧ semi.selected = selectedBy row (witnesses columnTypes predicate row others) := by
  have hspec := @untilFailed_spec _ _ _ (fun semi : SemiRun => semi.run.failed) _
    (fun done semi =>
      (∀ other ∈ done, ∃ joined, joinRow columnTypes predicate row other = .ok joined) ∧
      semi.run = run ∧ semi.selected = selectedBy row (witnesses columnTypes predicate row done))
    (by
      intro done before other behind hnot hinv hbody hbehind
      obtain ⟨hmade, hrun, hselected⟩ := hinv
      obtain ⟨joined, hjoined, hrest⟩ := bind_eq_ok_iff.1 hbody
      have hothers : ∀ item ∈ done ++ [other], ∃ joined,
          joinRow columnTypes predicate row item = .ok joined := by
        intro item hitem
        cases List.mem_append.1 hitem with
        | inl hdone => exact hmade item hdone
        | inr hlast => exact (List.mem_singleton.1 hlast) ▸ ⟨joined, hjoined⟩
      refine ⟨hothers, ?_⟩
      unfold witnesses at hselected ⊢
      rw [List.filterMap_append]
      cases joined with
      | none =>
        rw [Except.ok.injEq] at hrest
        subst hrest
        refine ⟨hrun, ?_⟩
        simp [produced_eq hjoined, hselected]
      | some witness =>
        dsimp only at hrest
        split_ifs at hrest with hfull
        · rw [Except.ok.injEq] at hrest
          subst hrest
          exact absurd hbehind (by simp)
        · rw [Except.ok.injEq] at hrest
          have hran : behind.run = candidateFitsMemory budget subject before.run
              (mergeRow (before.selected.getD (unwitnessed row)) witness) := by rw [← hrest]
          have hnext : behind.selected =
              some (mergeRow (before.selected.getD (unwitnessed row)) witness) := by rw [← hrest]
          have hfits : behind.run.failed = false := hbehind
          rw [hran] at hfits
          rw [hran, hnext]
          refine ⟨(candidateFitsMemory_eq hfits).trans hrun, ?_⟩
          have hlast : [other].filterMap (produced (joinRow columnTypes predicate row)) =
              [witness] := by
            simp [produced_eq hjoined]
          rw [hlast, selectedBy_concat, hselected])
    others [] { run := run } semi ⟨by simp, rfl, rfl⟩ h hfailed
  simpa using hspec

/-- The row of a semi-join for a left row. -/
def semiResult (columnTypes : ColumnTypes) (predicate : DecodedPredicate)
    (others : List AnnotatedRow) (row : AnnotatedRow) : Option AnnotatedRow :=
  (selectedBy row (witnesses columnTypes predicate row others)).map selectRow

theorem runSemiJoin_rows {left right : Evaluation} {run ran : Run} (hfresh : run.fresh)
    (h : runSemiJoin budget subject columnTypes predicate left right run = .ok ran)
    (hfailed : ran.failed = false) :
    (∀ row ∈ left.rows, ∀ other ∈ right.rows, ∃ joined,
        joinRow columnTypes predicate row other = .ok joined) ∧
      ran.output.rows = left.rows.filterMap (semiResult columnTypes predicate right.rows) ∧
      ran.output.limited = (left.limited || right.limited) := by
  obtain ⟨run', hrun, heq⟩ := bind_eq_ok_iff.1 h
  rw [Except.ok.injEq] at heq
  subst heq
  have hspec := @untilFailed_spec _ _ _ Run.failed _
    (fun done ran => (∀ row ∈ done, ∀ other ∈ right.rows, ∃ joined,
        joinRow columnTypes predicate row other = .ok joined) ∧
      ran.output.rows = done.filterMap (semiResult columnTypes predicate right.rows))
    (by
      intro done before row behind hnot hinv hbody hbehind
      obtain ⟨semi, hsemi, hrest⟩ := bind_eq_ok_iff.1 hbody
      split_ifs at hrest with hstopped
      · rw [Except.ok.injEq] at hrest
        rw [hrest, hbehind] at hstopped
        exact absurd hstopped (by simp)
      · obtain ⟨hmade, hsame, hselected⟩ := semiStep_rows hsemi (by simpa using hstopped)
        refine ⟨?_, ?_⟩
        · intro other hother
          cases List.mem_append.1 hother with
          | inl hdone => exact hinv.1 other hdone
          | inr hlast => exact (List.mem_singleton.1 hlast) ▸ hmade
        · have hresult : semiResult columnTypes predicate right.rows row =
              semi.selected.map selectRow := by
            rw [hselected]
            rfl
          rw [List.filterMap_append, ← hinv.2]
          cases hcase : semi.selected with
          | none =>
            rw [hcase] at hrest hresult
            rw [Except.ok.injEq] at hrest
            rw [← hrest, hsame]
            simp [hresult]
          | some selected =>
            rw [hcase] at hrest hresult
            rw [Except.ok.injEq] at hrest
            rw [← hrest] at hbehind ⊢
            rw [(appendRow_rows hbehind).1, hsame]
            simp [hresult])
    left.rows [] run run' ⟨by simp, by rw [hfresh]; rfl⟩ hrun hfailed
  exact ⟨hspec.1, hspec.2, rfl⟩

end Operators

end Cxxlens.Sdk.Query
