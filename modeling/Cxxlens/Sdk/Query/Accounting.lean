import Cxxlens.Foundation.Trails
import Cxxlens.Sdk.Query.Runtime

set_option autoImplicit false

/-! # The account of memory

What a run holds at a moment, and what its counters say about that. Every change that a run makes
keeps the two together: `append_row`, `replace_row`, `append_source_annotation`, the keys of a
`distinct` and their return, and what only moves rows about. -/

namespace Cxxlens.Sdk.Query

open Trails

/-! ## Moments -/

/-- The size of a row, as it is counted in 64 bits. -/
def AnnotatedRow.size (row : AnnotatedRow) : Nat :=
  (rowAccountingBytes row).toNat

/-- The size of rows. -/
def rowsSize (rows : List AnnotatedRow) : Nat :=
  (rows.map AnnotatedRow.size).sum

/-- The size of the keys of a `distinct`. -/
def keysSize (keys : List Bytes) : Nat :=
  (keys.map fun key => (UInt64.ofNat key.length).toNat).sum

/-- A moment of a run: the evaluations of the nodes before, the run of the node, and the keys of a
    `distinct` that runs with the bytes that it has charged for them. -/
structure Moment where
  held : List Evaluation := []
  run : Run
  keys : List Bytes := []
  scratchBytes : UInt64 := 0
  deriving DecidableEq

/-- Everything that holds rows. -/
def Moment.evaluations (moment : Moment) : List Evaluation :=
  moment.held ++ [moment.run.output]

/-- `retained_memory_bytes` -/
def Moment.retained (moment : Moment) : Nat :=
  moment.run.state.retainedMemoryBytes.toNat

/-- `peak_memory_bytes` -/
def Moment.peak (moment : Moment) : Nat :=
  moment.run.state.peakMemoryBytes.toNat

/-- What is held: rows, annotations of the source, and keys. -/
def Moment.size (moment : Moment) : Nat :=
  (moment.evaluations.map fun evaluation => rowsSize evaluation.rows).sum +
    (moment.run.state.sourceAnnotations.map annotationBytes).sum + keysSize moment.keys

/-- An evaluation within the budget that knows the size of its rows. -/
structure Evaluation.Counted (budget : ExecutionBudget) (evaluation : Evaluation) : Prop where
  memory : evaluation.memoryBytes.toNat = rowsSize evaluation.rows
  rows : evaluation.rows.length ≤ budget.maxIntermediateRows.toNat

/-- The counters say what is held, and the budget holds. -/
structure Accounted (budget : ExecutionBudget) (moment : Moment) : Prop where
  retained : moment.retained = moment.size
  evaluations : ∀ evaluation ∈ moment.evaluations, evaluation.Counted budget
  scratch : moment.scratchBytes.toNat = keysSize moment.keys
  peak : moment.retained ≤ moment.peak
  bounded : moment.peak ≤ budget.maxMemoryBytes.toNat

/-- A change that keeps the account and the peak, and takes no failure back. -/
structure Linked (budget : ExecutionBudget) (before behind : Moment) : Prop where
  accounted : Accounted budget before → Accounted budget behind
  peak : Accounted budget before → behind.peak = max before.peak behind.retained
  failed : before.run.failed = true → behind.run.failed = true

/-! ## Sizes -/

theorem rowsSize_append (rows more : List AnnotatedRow) :
    rowsSize (rows ++ more) = rowsSize rows + rowsSize more := by
  simp [rowsSize]

theorem rowsSize_perm {rows others : List AnnotatedRow} (h : rows.Perm others) :
    rowsSize rows = rowsSize others :=
  (h.map _).sum_eq

/-- A row in the place of another. -/
theorem rowsSize_set {rows : List AnnotatedRow} {row : AnnotatedRow} (other : AnnotatedRow) :
    ∀ {index : Nat}, rows[index]? = some row →
      rowsSize (rows.set index other) + row.size = rowsSize rows + other.size := by
  induction rows with
  | nil =>
      intro index h
      exact absurd h (by simp)
  | cons first rest ih =>
      intro index h
      cases index with
      | zero =>
          rw [List.getElem?_cons_zero, Option.some.injEq] at h
          subst h
          simp only [rowsSize, List.set_cons_zero, List.map_cons, List.sum_cons]
          omega
      | succ index =>
          have hrest := @ih index (by simpa using h)
          simp only [rowsSize, List.set_cons_succ, List.map_cons, List.sum_cons] at hrest ⊢
          omega

theorem size_le_rowsSize {rows : List AnnotatedRow} {row : AnnotatedRow} {index : Nat}
    (h : rows[index]? = some row) : row.size ≤ rowsSize rows :=
  List.single_le_sum (by simp) _ (List.mem_map_of_mem (List.mem_of_getElem? h))

/-- The size of a moment apart from the rows of the node that runs. -/
theorem Moment.size_eq (moment : Moment) :
    moment.size = rowsSize moment.run.output.rows +
      ((moment.held.map fun evaluation => rowsSize evaluation.rows).sum +
        (moment.run.state.sourceAnnotations.map annotationBytes).sum + keysSize moment.keys) := by
  simp only [Moment.size, Moment.evaluations, List.map_append, List.map_cons, List.map_nil,
    List.sum_append, List.sum_cons, List.sum_nil]
  omega

theorem toNat_max (left right : UInt64) : (max left right).toNat = max left.toNat right.toNat := by
  rw [show max left right = if left ≤ right then right else left from rfl]
  split_ifs with h
  · rw [max_eq_right (UInt64.le_iff_toNat_le.1 h)]
  · rw [max_eq_left (le_of_lt (by simpa [UInt64.le_iff_toNat_le] using h))]

/-! ## Changes without a charge -/

section Budget

variable {budget : ExecutionBudget}

/-- An evaluation with the rows of another, in any order. -/
def Evaluation.Alike (evaluation other : Evaluation) : Prop :=
  evaluation.rows.Perm other.rows ∧ evaluation.memoryBytes = other.memoryBytes

/-- A change that charges nothing: no row comes or goes, and the counters stay. -/
structure SameAccount (before behind : Moment) : Prop where
  retained : behind.run.state.retainedMemoryBytes = before.run.state.retainedMemoryBytes
  peak : behind.run.state.peakMemoryBytes = before.run.state.peakMemoryBytes
  annotations : behind.run.state.sourceAnnotations = before.run.state.sourceAnnotations
  keys : behind.keys = before.keys
  scratch : behind.scratchBytes = before.scratchBytes
  failed : before.run.failed = true → behind.run.failed = true
  rows : (behind.evaluations.map fun evaluation => rowsSize evaluation.rows).sum =
    (before.evaluations.map fun evaluation => rowsSize evaluation.rows).sum
  evaluations : ∀ evaluation ∈ behind.evaluations,
    evaluation.Alike {} ∨ ∃ other ∈ before.evaluations, evaluation.Alike other

theorem counted_empty : ({} : Evaluation).Counted budget :=
  ⟨rfl, Nat.zero_le _⟩

theorem Evaluation.Counted.alike {evaluation other : Evaluation} (h : other.Counted budget)
    (halike : evaluation.Alike other) : evaluation.Counted budget := by
  refine ⟨?_, ?_⟩
  · rw [halike.2, h.memory, rowsSize_perm halike.1]
  · rw [halike.1.length_eq]
    exact h.rows

theorem SameAccount.linked {before behind : Moment} (h : SameAccount before behind) :
    Linked budget before behind := by
  have hretained : behind.retained = before.retained := by
    rw [Moment.retained, Moment.retained, h.retained]
  have hpeak : behind.peak = before.peak := by
    rw [Moment.peak, Moment.peak, h.peak]
  refine ⟨fun haccounted => ?_, fun haccounted => ?_, h.failed⟩
  · refine ⟨?_, ?_, ?_, ?_, ?_⟩
    · rw [hretained, haccounted.retained, Moment.size, Moment.size, h.rows, h.annotations, h.keys]
    · intro evaluation hevaluation
      rcases h.evaluations evaluation hevaluation with hempty | ⟨other, hother, halike⟩
      · exact counted_empty.alike hempty
      · exact (haccounted.evaluations other hother).alike halike
    · rw [h.scratch, h.keys, haccounted.scratch]
    · rw [hretained, hpeak]
      exact haccounted.peak
    · rw [hpeak]
      exact haccounted.bounded
  · rw [hretained, hpeak, max_eq_left haccounted.peak]

/-- A change of the run of the node that charges nothing. -/
theorem linked_run {moment : Moment} {run : Run}
    (hretained : run.state.retainedMemoryBytes = moment.run.state.retainedMemoryBytes)
    (hpeak : run.state.peakMemoryBytes = moment.run.state.peakMemoryBytes)
    (hannotations : run.state.sourceAnnotations = moment.run.state.sourceAnnotations)
    (hfailed : moment.run.failed = true → run.failed = true)
    (halike : run.output.Alike moment.run.output) :
    Linked budget moment { moment with run := run } := by
  refine SameAccount.linked ⟨hretained, hpeak, hannotations, rfl, rfl, hfailed, ?_, ?_⟩
  · simp [Moment.evaluations, rowsSize_perm halike.1]
  · intro evaluation hevaluation
    rcases List.mem_append.1 hevaluation with hheld | hlast
    · exact Or.inr ⟨evaluation, List.mem_append_left _ hheld, List.Perm.refl _, rfl⟩
    · rw [List.mem_singleton.1 hlast]
      exact Or.inr ⟨moment.run.output, List.mem_append_right _ (List.mem_singleton.2 rfl), halike⟩

theorem Linked.refl (moment : Moment) : Linked budget moment moment :=
  linked_run rfl rfl rfl id ⟨List.Perm.refl _, rfl⟩

theorem linked_fail (moment : Moment) (code subject : Bytes) :
    Linked budget moment { moment with run := moment.run.fail code subject } :=
  linked_run rfl rfl rfl (fun _ => rfl) ⟨List.Perm.refl _, rfl⟩

/-! ## Charges -/

/-- A state that is charged for some bytes. -/
def RuntimeState.charge (state : RuntimeState) (bytes : UInt64) : RuntimeState :=
  { state with
    retainedMemoryBytes := state.retainedMemoryBytes + bytes
    peakMemoryBytes := max state.peakMemoryBytes (state.retainedMemoryBytes + bytes) }

@[simp] theorem RuntimeState.failed_charge (state : RuntimeState) (bytes : UInt64) :
    (state.charge bytes).failed = state.failed := by
  simp only [RuntimeState.failed, RuntimeState.charge]

/-- There is room for the bytes. -/
structure Room (budget : ExecutionBudget) (state : RuntimeState) (bytes : UInt64) : Prop where
  exact : (state.retainedMemoryBytes + bytes).toNat =
    state.retainedMemoryBytes.toNat + bytes.toNat
  bounded : (state.retainedMemoryBytes + bytes).toNat ≤ budget.maxMemoryBytes.toNat

/-- What a reservation can do: it fails, or there was room. -/
theorem reserveMemory_cases (budget : ExecutionBudget) (subject : Bytes) (state : RuntimeState)
    (bytes : UInt64) :
    reserveMemory budget subject state bytes = state.fail "sdk.query-memory-budget" subject ∨
      reserveMemory budget subject state bytes = state.charge bytes ∧ Room budget state bytes := by
  unfold reserveMemory
  split_ifs with hexceeds
  · exact Or.inl rfl
  · refine Or.inr ⟨rfl, ?_⟩
    simp only [exceedsMemory, Bool.or_eq_true, decide_eq_true_eq, not_or, UInt64.not_lt,
      UInt64.le_iff_toNat_le] at hexceeds
    have hmax : maxCount.toNat = 2 ^ 64 - 1 := rfl
    have hsub : (maxCount - state.retainedMemoryBytes).toNat =
        maxCount.toNat - state.retainedMemoryBytes.toNat := by
      refine UInt64.toNat_sub_of_le _ _ (UInt64.le_iff_toNat_le.2 ?_)
      have := state.retainedMemoryBytes.toNat_lt
      omega
    have := state.retainedMemoryBytes.toNat_lt
    refine ⟨?_, hexceeds.2⟩
    rw [UInt64.toNat_add]
    omega

/-- A moment whose node is charged for what it adds to what is held. -/
theorem Linked.of_charge {before behind : Moment} {bytes : UInt64}
    (hroom : Room budget before.run.state bytes)
    (hretained : behind.run.state.retainedMemoryBytes = before.run.state.retainedMemoryBytes + bytes)
    (hpeak : behind.run.state.peakMemoryBytes =
      max before.run.state.peakMemoryBytes (before.run.state.retainedMemoryBytes + bytes))
    (hfailure : behind.run.state.failure = before.run.state.failure)
    (hsize : behind.size = before.size + bytes.toNat)
    (hevaluations : Accounted budget before → ∀ evaluation ∈ behind.evaluations,
      evaluation.Counted budget)
    (hscratch : Accounted budget before → behind.scratchBytes.toNat = keysSize behind.keys) :
    Linked budget before behind := by
  have hbytes : behind.retained = before.retained + bytes.toNat := by
    rw [Moment.retained, hretained, hroom.exact, Moment.retained]
  have hmark : behind.peak = max before.peak behind.retained := by
    rw [Moment.peak, hpeak, toNat_max, Moment.retained, hretained, Moment.peak]
  refine ⟨fun haccounted => ⟨?_, hevaluations haccounted, hscratch haccounted, ?_, ?_⟩,
    fun _ => hmark, fun hbefore => ?_⟩
  · rw [hbytes, haccounted.retained, hsize]
  · rw [hmark]
    exact le_max_right _ _
  · rw [hmark, Moment.retained, hretained]
    exact max_le haccounted.bounded hroom.bounded
  · rwa [Run.failed, RuntimeState.failed, hfailure]

theorem Accounted.output_counted {moment : Moment} (h : Accounted budget moment) :
    moment.run.output.Counted budget :=
  h.evaluations _ (List.mem_append_right _ (List.mem_singleton.2 rfl))

/-- A moment whose node gets back what it takes away from what is held. -/
theorem Linked.of_refund {before behind : Moment} {bytes : UInt64}
    (hretained : behind.run.state.retainedMemoryBytes = before.run.state.retainedMemoryBytes - bytes)
    (hpeak : behind.run.state.peakMemoryBytes = before.run.state.peakMemoryBytes)
    (hfailure : behind.run.state.failure = before.run.state.failure)
    (hsize : Accounted budget before → behind.size + bytes.toNat = before.size)
    (hevaluations : Accounted budget before → ∀ evaluation ∈ behind.evaluations,
      evaluation.Counted budget)
    (hscratch : Accounted budget before → behind.scratchBytes.toNat = keysSize behind.keys) :
    Linked budget before behind := by
  have hbytes : Accounted budget before → behind.retained + bytes.toNat = before.retained := by
    intro haccounted
    have hsize' := hsize haccounted
    have hbefore := haccounted.retained
    -- what is given back is part of what is retained
    have hle : bytes.toNat ≤ before.run.state.retainedMemoryBytes.toNat := by
      rw [Moment.retained] at hbefore
      omega
    rw [Moment.retained, hretained, UInt64.toNat_sub_of_le _ _ (UInt64.le_iff_toNat_le.2 hle),
      Moment.retained]
    omega
  have hmark : behind.peak = before.peak := by
    rw [Moment.peak, hpeak, Moment.peak]
  refine ⟨fun haccounted => ?_, fun haccounted => ?_, fun hbefore => ?_⟩
  · have hbytes' := hbytes haccounted
    have hpeak' := haccounted.peak
    refine ⟨?_, hevaluations haccounted, hscratch haccounted, by omega, ?_⟩
    · have hsize' := hsize haccounted
      have hbefore := haccounted.retained
      omega
    · rw [hmark]
      exact haccounted.bounded
  · have hbytes' := hbytes haccounted
    have hpeak' := haccounted.peak
    omega
  · rwa [Run.failed, RuntimeState.failed, hfailure]

/-- What is held of the node that runs is part of what is retained. -/
theorem Accounted.output_le {moment : Moment} (h : Accounted budget moment) :
    moment.run.output.memoryBytes.toNat ≤ moment.retained := by
  rw [h.retained, h.output_counted.memory, Moment.size_eq]
  omega

/-- The evaluations behind a change of the node that runs. -/
theorem Accounted.evaluations_of {moment : Moment} {run : Run} (h : Accounted budget moment)
    (houtput : run.output.Counted budget) :
    ∀ evaluation ∈ ({ moment with run := run } : Moment).evaluations,
      evaluation.Counted budget := by
  intro evaluation hevaluation
  rcases List.mem_append.1 hevaluation with hheld | hlast
  · exact h.evaluations evaluation (List.mem_append_left _ hheld)
  · exact (List.mem_singleton.1 hlast) ▸ houtput

/-- What `append_row` can do to a run that did not fail. -/
theorem appendRow_cases (budget : ExecutionBudget) (subject : Bytes) {run : Run}
    (row : AnnotatedRow) (h : run.failed = false) :
    (∃ code, appendRow budget subject run row = run.fail code subject) ∨
      Room budget run.state (rowAccountingBytes row) ∧
        run.output.rows.length < budget.maxIntermediateRows.toNat ∧
        appendRow budget subject run row =
          { state :=
              { run.state.charge (rowAccountingBytes row) with
                peakIntermediateRows :=
                  max run.state.peakIntermediateRows
                    (UInt64.ofNat (run.output.rows ++ [row]).length) }
            output :=
              { run.output with
                rows := run.output.rows ++ [row]
                memoryBytes := run.output.memoryBytes + rowAccountingBytes row } } := by
  unfold appendRow
  by_cases hrows : rowsExceed run.output.rows budget.maxIntermediateRows = true
  · rw [if_pos hrows]
    exact Or.inl ⟨_, rfl⟩
  · rw [if_neg hrows]
    dsimp only
    rcases reserveMemory_cases budget subject run.state (rowAccountingBytes row) with
      hfails | ⟨hcharged, hroom⟩
    · rw [hfails, if_pos (RuntimeState.failed_fail ..)]
      exact Or.inl ⟨_, rfl⟩
    · have hstays : ¬(run.state.charge (rowAccountingBytes row)).failed = true := by
        rw [RuntimeState.failed_charge]
        exact Bool.eq_false_iff.1 h
      rw [hcharged, if_neg hstays]
      refine Or.inr ⟨hroom, by simpa [rowsExceed] using hrows, ?_⟩
      simp only [RuntimeState.charge]

/-- `append_row` -/
theorem linked_append (moment : Moment) (subject : Bytes) (row : AnnotatedRow)
    (h : moment.run.failed = false) :
    Linked budget moment { moment with run := appendRow budget subject moment.run row } := by
  rcases appendRow_cases budget subject row h with ⟨code, hfails⟩ | ⟨hroom, hrows, happended⟩
  · rw [hfails]
    exact linked_fail moment _ _
  · rw [happended]
    refine Linked.of_charge hroom (by simp only [RuntimeState.charge])
      (by simp only [RuntimeState.charge]) (by simp only [RuntimeState.charge]) ?_ ?_
      fun haccounted => haccounted.scratch
    · rw [Moment.size_eq, Moment.size_eq]
      simp only [rowsSize, RuntimeState.charge, List.map_append, List.map_cons, List.map_nil,
        List.sum_append, List.sum_cons, List.sum_nil, AnnotatedRow.size]
      omega
    · intro haccounted
      refine haccounted.evaluations_of ⟨?_, ?_⟩
      · -- the bytes of the node fit, since those of everything do
        have hle := haccounted.output_le
        have hexact := hroom.exact
        have hlt := (moment.run.state.retainedMemoryBytes + rowAccountingBytes row).toNat_lt
        have hmemory := haccounted.output_counted.memory
        rw [Moment.retained] at hle
        rw [UInt64.toNat_add, rowsSize_append, ← hmemory]
        simp only [rowsSize, List.map_cons, List.map_nil, List.sum_cons, List.sum_nil,
          AnnotatedRow.size]
        omega
      · simpa using hrows

/-- The evaluation with a row in the place of another. -/
def Evaluation.replace (evaluation : Evaluation) (index : Nat) (previous row : AnnotatedRow) :
    Evaluation :=
  { evaluation with
    rows := evaluation.rows.set index row
    memoryBytes := evaluation.memoryBytes - rowAccountingBytes previous + rowAccountingBytes row }

/-- What `replace_row` can do: only a longer row is charged, and a shorter one gives back. -/
theorem replaceRow_cases (budget : ExecutionBudget) (subject : Bytes) {run : Run} {index : Nat}
    {previous : AnnotatedRow} (row : AnnotatedRow) (h : run.failed = false)
    (hprevious : run.output.rows[index]? = some previous) :
    (∃ code, replaceRow budget subject run index row = run.fail code subject) ∨
      (previous.size < row.size ∧
        Room budget run.state (rowAccountingBytes row - rowAccountingBytes previous) ∧
        replaceRow budget subject run index row =
          { state := run.state.charge (rowAccountingBytes row - rowAccountingBytes previous)
            output := run.output.replace index previous row }) ∨
      (row.size ≤ previous.size ∧
        replaceRow budget subject run index row =
          { state :=
              { run.state with
                retainedMemoryBytes := run.state.retainedMemoryBytes -
                  (rowAccountingBytes previous - rowAccountingBytes row) }
            output := run.output.replace index previous row }) := by
  have hstays : ¬run.state.failed = true := Bool.eq_false_iff.1 h
  unfold replaceRow
  simp only [hprevious, Option.map_some, Option.getD_some]
  by_cases hlonger : rowAccountingBytes previous < rowAccountingBytes row
  · have hnot : ¬rowAccountingBytes row < rowAccountingBytes previous := by
      rw [UInt64.lt_iff_toNat_lt] at hlonger ⊢
      omega
    rw [if_pos hlonger]
    rcases reserveMemory_cases budget subject run.state
      (rowAccountingBytes row - rowAccountingBytes previous) with hfails | ⟨hcharged, hroom⟩
    · rw [hfails, if_pos (RuntimeState.failed_fail ..)]
      exact Or.inl ⟨_, rfl⟩
    · rw [hcharged, if_neg (by rwa [RuntimeState.failed_charge]), if_neg hnot]
      exact Or.inr (Or.inl ⟨UInt64.lt_iff_toNat_lt.1 hlonger, hroom, rfl⟩)
  · rw [if_neg hlonger, if_neg hstays]
    have hle : row.size ≤ previous.size := by
      rw [UInt64.lt_iff_toNat_lt] at hlonger
      exact not_lt.1 hlonger
    refine Or.inr (Or.inr ⟨hle, ?_⟩)
    by_cases hshorter : rowAccountingBytes row < rowAccountingBytes previous
    · rw [if_pos hshorter]
      rfl
    · -- neither is shorter, and nothing is given back
      have hsame : rowAccountingBytes row = rowAccountingBytes previous := by
        refine UInt64.toNat_inj.1 (le_antisymm hle ?_)
        rw [UInt64.lt_iff_toNat_lt] at hshorter
        exact not_lt.1 hshorter
      rw [if_neg hshorter, hsame, UInt64.sub_self, UInt64.sub_zero]
      simp only [Evaluation.replace, hsame]

/-- The evaluation with the row is counted as long as its bytes are a number of 64 bits. -/
theorem counted_replace {evaluation : Evaluation} {index : Nat} {previous row : AnnotatedRow}
    (h : evaluation.Counted budget) (hprevious : evaluation.rows[index]? = some previous)
    (hfits : rowsSize (evaluation.rows.set index row) < 2 ^ 64) :
    (evaluation.replace index previous row).Counted budget := by
  have hset := rowsSize_set row hprevious
  have hle := size_le_rowsSize hprevious
  have hsub := UInt64.toNat_sub_of_le evaluation.memoryBytes (rowAccountingBytes previous) (by
    rw [UInt64.le_iff_toNat_le, h.memory]
    exact hle)
  refine ⟨?_, by simpa [Evaluation.replace] using h.rows⟩
  simp only [Evaluation.replace]
  rw [UInt64.toNat_add, hsub, h.memory]
  simp only [AnnotatedRow.size] at hset hle
  omega

/-- `replace_row` -/
theorem linked_replace (moment : Moment) (subject : Bytes) {index : Nat} {previous : AnnotatedRow}
    (row : AnnotatedRow) (h : moment.run.failed = false)
    (hprevious : moment.run.output.rows[index]? = some previous) :
    Linked budget moment { moment with run := replaceRow budget subject moment.run index row } := by
  have hset := rowsSize_set row hprevious
  have hle := size_le_rowsSize hprevious
  rcases replaceRow_cases budget subject row h hprevious with
    ⟨code, hfails⟩ | ⟨hlonger, hroom, hreplaced⟩ | ⟨hshorter, hreplaced⟩
  · rw [hfails]
    exact linked_fail moment _ _
  · have hdifference : (rowAccountingBytes row - rowAccountingBytes previous).toNat =
        row.size - previous.size :=
      UInt64.toNat_sub_of_le _ _ (UInt64.le_iff_toNat_le.2 (le_of_lt hlonger))
    rw [hreplaced]
    refine Linked.of_charge hroom (by simp only [RuntimeState.charge])
      (by simp only [RuntimeState.charge]) (by simp only [RuntimeState.charge]) ?_ ?_
      fun haccounted => haccounted.scratch
    · rw [Moment.size_eq, Moment.size_eq, hdifference]
      simp only [RuntimeState.charge, Evaluation.replace]
      omega
    · intro haccounted
      refine haccounted.evaluations_of (counted_replace haccounted.output_counted hprevious ?_)
      -- the rows are part of what is retained, for which there is room
      have houtput := haccounted.output_le
      have hexact := hroom.exact
      have hlt := (moment.run.state.retainedMemoryBytes +
        (rowAccountingBytes row - rowAccountingBytes previous)).toNat_lt
      rw [Moment.retained, haccounted.output_counted.memory] at houtput
      omega
  · have hdifference : (rowAccountingBytes previous - rowAccountingBytes row).toNat =
        previous.size - row.size :=
      UInt64.toNat_sub_of_le _ _ (UInt64.le_iff_toNat_le.2 hshorter)
    rw [hreplaced]
    refine @Linked.of_refund budget _ _ (rowAccountingBytes previous - rowAccountingBytes row) rfl
      rfl rfl ?_ ?_ fun haccounted => haccounted.scratch
    · intro haccounted
      rw [Moment.size_eq, Moment.size_eq, hdifference]
      simp only [Evaluation.replace]
      omega
    · intro haccounted
      refine haccounted.evaluations_of (counted_replace haccounted.output_counted hprevious ?_)
      have hlt := moment.run.output.memoryBytes.toNat_lt
      rw [haccounted.output_counted.memory] at hlt
      omega

/-! ## Other charges -/

/-- `append_source_annotation` -/
theorem linked_annotate (moment : Moment) (subject : Bytes) (annotated : SnapshotClaimAnnotation)
    (h : moment.run.failed = false) :
    Linked budget moment
      { moment with run := appendSourceAnnotation budget subject moment.run annotated } := by
  unfold appendSourceAnnotation annotationAccountingBytes
  by_cases hbytes : annotationBytes annotated ≤ maxCount.toNat
  · have hexact : (UInt64.ofNat (annotationBytes annotated)).toNat = annotationBytes annotated := by
      rw [UInt64.toNat_ofNat']
      exact Nat.mod_eq_of_lt (Nat.lt_succ_of_le hbytes)
    rw [if_pos hbytes]
    dsimp only
    rcases reserveMemory_cases budget subject moment.run.state
      (UInt64.ofNat (annotationBytes annotated)) with hfails | ⟨hcharged, hroom⟩
    · rw [hfails, if_pos (RuntimeState.failed_fail ..)]
      exact linked_fail moment _ _
    · have hstays : ¬moment.run.state.failed = true := Bool.eq_false_iff.1 h
      rw [hcharged, if_neg (by rwa [RuntimeState.failed_charge])]
      refine Linked.of_charge hroom (by simp only [RuntimeState.charge])
        (by simp only [RuntimeState.charge]) (by simp only [RuntimeState.charge]) ?_
        (fun haccounted => haccounted.evaluations_of haccounted.output_counted)
        fun haccounted => haccounted.scratch
      rw [Moment.size_eq, Moment.size_eq, hexact]
      simp only [RuntimeState.charge, List.map_append, List.map_cons, List.map_nil,
        List.sum_append, List.sum_cons, List.sum_nil]
      omega
  · rw [if_neg hbytes]
    exact linked_fail moment _ _

/-- The key of a `distinct` that is charged. -/
theorem linked_key (moment : Moment) {key : Bytes}
    (hroom : Room budget moment.run.state (UInt64.ofNat key.length)) :
    Linked budget moment
      { moment with
        run := { moment.run with state := moment.run.state.charge (UInt64.ofNat key.length) }
        keys := moment.keys ++ [key]
        scratchBytes := moment.scratchBytes + UInt64.ofNat key.length } := by
  have hkeys : keysSize (moment.keys ++ [key]) =
      keysSize moment.keys + (UInt64.ofNat key.length).toNat := by
    simp [keysSize]
  refine Linked.of_charge hroom (by simp only [RuntimeState.charge])
    (by simp only [RuntimeState.charge]) (by simp only [RuntimeState.charge]) ?_
    (fun haccounted => haccounted.evaluations_of haccounted.output_counted) ?_
  · rw [Moment.size_eq, Moment.size_eq, hkeys]
    simp only [RuntimeState.charge]
    omega
  · intro haccounted
    have hexact := hroom.exact
    have hlt := (moment.run.state.retainedMemoryBytes + UInt64.ofNat key.length).toNat_lt
    have hretained := haccounted.retained
    rw [Moment.size_eq, Moment.retained] at hretained
    rw [hkeys, UInt64.toNat_add, haccounted.scratch]
    omega

/-- The keys of a `distinct` that ended are given back. -/
theorem linked_release (moment : Moment) :
    Linked budget moment
      { held := moment.held
        run :=
          { moment.run with
            state :=
              { moment.run.state with
                retainedMemoryBytes :=
                  moment.run.state.retainedMemoryBytes - moment.scratchBytes } } } := by
  refine @Linked.of_refund budget _ _ moment.scratchBytes rfl rfl rfl ?_
    (fun haccounted => haccounted.evaluations) fun _ => rfl
  intro haccounted
  rw [Moment.size_eq, Moment.size_eq, haccounted.scratch]
  simp only [keysSize, List.map_nil, List.sum_nil]
  omega

/-! ## Nodes -/

/-- The evaluation of a node that ran is held. -/
theorem linked_record (held : List Evaluation) (run : Run) :
    Linked budget { held := held, run := run }
      { held := held ++ [run.output], run := { state := run.state, output := {} } } := by
  refine SameAccount.linked ⟨rfl, rfl, rfl, rfl, rfl, id, ?_, ?_⟩
  · simp [Moment.evaluations, rowsSize]
  · intro evaluation hevaluation
    rcases List.mem_append.1 hevaluation with hheld | hlast
    · exact Or.inr ⟨evaluation, hheld, List.Perm.refl _, rfl⟩
    · rw [List.mem_singleton.1 hlast]
      exact Or.inl ⟨List.Perm.refl _, rfl⟩

/-- An evaluation that is held is taken out again. -/
theorem linked_take {held others : List Evaluation} {taken : Evaluation} (state : RuntimeState)
    (h : held.Perm (taken :: others) ∨ taken = {} ∧ others = held) :
    Linked budget { held := held, run := { state := state, output := {} } }
      { held := others, run := { state := state, output := taken } } := by
  rcases h with hperm | ⟨rfl, rfl⟩
  · refine SameAccount.linked ⟨rfl, rfl, rfl, rfl, rfl, id, ?_, ?_⟩
    · have hsum := (hperm.map fun evaluation => rowsSize evaluation.rows).sum_eq
      simp only [List.map_cons, List.sum_cons] at hsum
      have hnone : rowsSize ({} : Evaluation).rows = 0 := rfl
      simp only [Moment.evaluations, List.map_append, List.map_cons, List.map_nil, List.sum_append,
        List.sum_cons, List.sum_nil, hsum, hnone]
      omega
    · intro evaluation hevaluation
      have hmem : evaluation ∈ held := by
        rw [hperm.mem_iff, List.mem_cons]
        rcases List.mem_append.1 hevaluation with hothers | hlast
        · exact Or.inr hothers
        · exact Or.inl (List.mem_singleton.1 hlast)
      exact Or.inr ⟨evaluation, List.mem_append_left _ hmem, List.Perm.refl _, rfl⟩
  · exact Linked.refl _

end Budget

end Cxxlens.Sdk.Query
