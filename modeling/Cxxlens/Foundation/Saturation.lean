import Mathlib

set_option autoImplicit false

/-! # Saturation by rounds

A graph whose vertices are keys and whose edges carry evidence is explored from some starting keys
in rounds. Each row that waits is a key with the evidence of the path that led to it. A row that
brings nothing new to its key is dropped; any other is merged into the key's evidence and sent on
along every edge with its own evidence, not the merged one.

Dropping rows loses nothing: what a dropped row would have sent on is covered by the rows that came
before it. So after `n` rounds the keys are those of the paths of at most `n` edges, and once nothing
waits every key has the evidence of all its paths. -/

namespace Saturation

variable {κ ε σ : Type*} [DecidableEq κ] [DecidableEq ε]

/-- A key with the evidence of a path to it. -/
abbrev Row (κ ε : Type*) := κ × Finset ε

/-- The rows to start from, and where an edge leads. -/
structure Graph (κ ε σ : Type*) where
  start : List (Row κ ε)
  edges : List σ
  follow : σ → κ → Option κ
  evidence : σ → Finset ε

namespace Graph

variable (G : Graph κ ε σ)

/-- A path of a number of edges to a key, with its evidence. -/
inductive Path : Nat → κ → Finset ε → Prop
  | start {row : Row κ ε} (h : row ∈ G.start) : Path 1 row.1 row.2
  | step {n : Nat} {key next : κ} {evidence : Finset ε} {edge : σ} (path : Path n key evidence)
      (hedge : edge ∈ G.edges) (hnext : G.follow edge key = some next) :
      Path (n + 1) next (evidence ∪ G.evidence edge)

/-- What the keys that were reached have collected. -/
abbrev Table (κ ε : Type*) := κ → Option (Finset ε)

/-- The rows a row sends on. -/
def expand (row : Row κ ε) : List (Row κ ε) :=
  G.edges.filterMap fun edge => (G.follow edge row.1).map fun next => (next, row.2 ∪ G.evidence edge)

/-- Whether a row brings something to its key. -/
def Fresh (table : Table κ ε) (row : Row κ ε) : Prop :=
  ∀ known, table row.1 = some known → ¬ row.2 ⊆ known

instance (table : Table κ ε) (row : Row κ ε) : Decidable (Fresh table row) :=
  match h : table row.1 with
  | none => .isTrue fun known hknown => by rw [h] at hknown; cases hknown
  | some known =>
    decidable_of_iff (¬ row.2 ⊆ known)
      ⟨fun hnot other hother => by rw [h] at hother; exact Option.some.inj hother ▸ hnot,
        fun hfresh => hfresh known h⟩

/-- The table with a row merged in. -/
def merge (table : Table κ ε) (row : Row κ ε) : Table κ ε :=
  Function.update table row.1 (some ((table row.1).getD ∅ ∪ row.2))

/-- One row that waits: the table afterwards and the rows to send on. -/
def visit (state : Table κ ε × List (Row κ ε)) (row : Row κ ε) : Table κ ε × List (Row κ ε) :=
  if Fresh state.1 row then (merge state.1 row, state.2 ++ G.expand row) else state

theorem visit_of_fresh {table : Table κ ε} {row : Row κ ε} (h : Fresh table row)
    (next : List (Row κ ε)) :
    G.visit (table, next) row = (merge table row, next ++ G.expand row) :=
  if_pos h

theorem visit_of_not_fresh {table : Table κ ε} {row : Row κ ε} (h : ¬ Fresh table row)
    (next : List (Row κ ε)) : G.visit (table, next) row = (table, next) :=
  if_neg h

/-- The tables and the waiting rows after a number of rounds; the rows of a round wait in any
    order. -/
inductive Rounds : Nat → Table κ ε → List (Row κ ε) → Prop
  | start {waiting : List (Row κ ε)} (h : waiting.Perm G.start) : Rounds 0 (fun _ => none) waiting
  | round {n : Nat} {table : Table κ ε} {waiting next : List (Row κ ε)}
      (rounds : Rounds n table waiting)
      (h : next.Perm (waiting.foldl G.visit (table, [])).2) :
      Rounds (n + 1) (waiting.foldl G.visit (table, [])).1 next

/-! ## Soundness -/

omit [DecidableEq κ] in
theorem mem_expand {row next : Row κ ε} : next ∈ G.expand row ↔
    ∃ edge ∈ G.edges, G.follow edge row.1 = some next.1 ∧ next.2 = row.2 ∪ G.evidence edge := by
  simp only [expand, List.mem_filterMap, Option.map_eq_some_iff]
  constructor
  · rintro ⟨edge, hedge, key, hkey, rfl⟩
    exact ⟨edge, hedge, hkey, rfl⟩
  · rintro ⟨edge, hedge, hkey, hevidence⟩
    exact ⟨edge, hedge, next.1, hkey, by rw [← hevidence]⟩

/-- Every key of the table has all the evidence of a path of at most `n` edges, and every piece of
    its evidence is on one. -/
def Sound (n : Nat) (table : Table κ ε) : Prop :=
  ∀ key known, table key = some known →
    (∃ m ≤ n, ∃ evidence, G.Path m key evidence ∧ evidence ⊆ known) ∧
    ∀ x ∈ known, ∃ m ≤ n, ∃ evidence, G.Path m key evidence ∧ x ∈ evidence

theorem Sound.merge {n : Nat} {table : Table κ ε} {row : Row κ ε} (h : G.Sound n table)
    (hpath : G.Path n row.1 row.2) : G.Sound n (merge table row) := by
  intro key known hknown
  by_cases hkey : key = row.1
  · subst hkey
    rw [Graph.merge, Function.update_self, Option.some_inj] at hknown
    subst hknown
    refine ⟨⟨n, le_rfl, row.2, hpath, Finset.subset_union_right⟩, fun x hx => ?_⟩
    rcases Finset.mem_union.1 hx with hold | hnew
    · cases htable : table row.1 with
      | none => simp [htable] at hold
      | some old =>
          rw [htable, Option.getD_some] at hold
          exact (h row.1 old htable).2 x hold
    · exact ⟨n, le_rfl, row.2, hpath, hnew⟩
  · rw [Graph.merge, Function.update_of_ne hkey] at hknown
    exact h key known hknown

theorem foldl_visit_sound {n : Nat} {waiting : List (Row κ ε)} {table : Table κ ε}
    {next : List (Row κ ε)} (htable : G.Sound n table)
    (hwaiting : ∀ row ∈ waiting, G.Path n row.1 row.2)
    (hnext : ∀ row ∈ next, G.Path (n + 1) row.1 row.2) :
    G.Sound n (waiting.foldl G.visit (table, next)).1 ∧
      ∀ row ∈ (waiting.foldl G.visit (table, next)).2, G.Path (n + 1) row.1 row.2 := by
  induction waiting generalizing table next with
  | nil => exact ⟨htable, hnext⟩
  | cons row rest ih =>
      have hrow := hwaiting row List.mem_cons_self
      have hrest := fun other hother => hwaiting other (List.mem_cons_of_mem row hother)
      rw [List.foldl_cons]
      by_cases hfresh : Fresh table row
      · rw [G.visit_of_fresh hfresh]
        refine ih (Sound.merge G htable hrow) hrest ?_
        intro other hother
        rcases List.mem_append.1 hother with hold | hnew
        · exact hnext other hold
        · obtain ⟨edge, hedge, hfollow, hevidence⟩ := G.mem_expand.1 hnew
          rw [hevidence]
          exact hrow.step hedge hfollow
      · rw [G.visit_of_not_fresh hfresh]
        exact ih htable hrest hnext

theorem Rounds.sound {n : Nat} {table : Table κ ε} {waiting : List (Row κ ε)}
    (h : G.Rounds n table waiting) :
    G.Sound n table ∧ ∀ row ∈ waiting, G.Path (n + 1) row.1 row.2 := by
  induction h with
  | start hperm =>
      refine ⟨fun key known hknown => by simp at hknown, fun row hrow => ?_⟩
      exact Path.start (hperm.mem_iff.1 hrow)
  | @round n table waiting next rounds hperm ih =>
      have htable : G.Sound (n + 1) table := by
        intro key known hknown
        obtain ⟨⟨m, hm, hpath⟩, hevidence⟩ := ih.1 key known hknown
        refine ⟨⟨m, Nat.le_succ_of_le hm, hpath⟩, fun x hx => ?_⟩
        obtain ⟨k, hk, hpathx⟩ := hevidence x hx
        exact ⟨k, Nat.le_succ_of_le hk, hpathx⟩
      obtain ⟨hsound, hnext⟩ := G.foldl_visit_sound htable ih.2
        (fun row (hrow : row ∈ []) => absurd hrow List.not_mem_nil)
      exact ⟨hsound, fun row hrow => hnext row (hperm.mem_iff.1 hrow)⟩

/-! ## Completeness -/

/-- A key is reached or waits, and so is every piece of the evidence with it. -/
structure Covers (table : Table κ ε) (waiting : List (Row κ ε)) (row : Row κ ε) : Prop where
  key : (table row.1).isSome = true ∨ ∃ evidence, (row.1, evidence) ∈ waiting
  evidence : ∀ x ∈ row.2, (∃ known, table row.1 = some known ∧ x ∈ known) ∨
    ∃ evidence, (row.1, evidence) ∈ waiting ∧ x ∈ evidence

/-- What a reached key sends on, with all it has collected, is covered, and so is the start. -/
structure Complete (table : Table κ ε) (waiting : List (Row κ ε)) : Prop where
  start : ∀ row ∈ G.start, Covers table waiting row
  sent : ∀ key known, table key = some known → ∀ row ∈ G.expand (key, known),
    Covers table waiting row

omit [DecidableEq κ] [DecidableEq ε] in
theorem Covers.of_mem {table : Table κ ε} {waiting : List (Row κ ε)} {row : Row κ ε}
    (h : row ∈ waiting) : Covers table waiting row :=
  ⟨Or.inr ⟨row.2, h⟩, fun _ hx => Or.inr ⟨row.2, h, hx⟩⟩

theorem merge_self (table : Table κ ε) (row : Row κ ε) :
    merge table row row.1 = some ((table row.1).getD ∅ ∪ row.2) :=
  Function.update_self ..

/-- A key keeps what it has collected. -/
theorem merge_mono {table : Table κ ε} {key : κ} {known : Finset ε} (row : Row κ ε)
    (h : table key = some known) : ∃ after, merge table row key = some after ∧ known ⊆ after := by
  by_cases hkey : key = row.1
  · subst hkey
    rw [merge_self, h, Option.getD_some]
    exact ⟨_, rfl, Finset.subset_union_left⟩
  · exact ⟨known, by rw [merge, Function.update_of_ne hkey, h], Finset.Subset.refl known⟩

omit [DecidableEq κ] [DecidableEq ε] in
theorem not_fresh {table : Table κ ε} {row : Row κ ε} (h : ¬ Fresh table row) :
    ∃ known, table row.1 = some known ∧ row.2 ⊆ known := by
  simpa [Fresh] using h

/-- What is covered stays covered when the next row is visited. -/
theorem Covers.visit {table : Table κ ε} {row other : Row κ ε} {rest next : List (Row κ ε)}
    (h : Covers table (row :: (rest ++ next)) other) :
    Covers (G.visit (table, next) row).1 (rest ++ (G.visit (table, next) row).2) other := by
  by_cases hfresh : Fresh table row
  · rw [G.visit_of_fresh hfresh]
    dsimp only
    have hlater : ∀ waits ∈ rest ++ next, waits ∈ rest ++ (next ++ G.expand row) := by
      intro waits hwaits
      rw [← List.append_assoc]
      exact List.mem_append_left _ hwaits
    constructor
    · rcases h.key with hreached | ⟨evidence, hmem⟩
      · obtain ⟨known, hknown⟩ := Option.isSome_iff_exists.1 hreached
        obtain ⟨after, hafter, -⟩ := merge_mono row hknown
        exact Or.inl (by rw [hafter]; rfl)
      · rcases List.mem_cons.1 hmem with rfl | hmem
        · exact Or.inl (by rw [merge_self]; rfl)
        · exact Or.inr ⟨evidence, hlater _ hmem⟩
    · intro x hx
      rcases h.evidence x hx with ⟨known, hknown, hmem⟩ | ⟨evidence, hmem, hin⟩
      · obtain ⟨after, hafter, hsub⟩ := merge_mono row hknown
        exact Or.inl ⟨after, hafter, hsub hmem⟩
      · rcases List.mem_cons.1 hmem with rfl | hmem
        · exact Or.inl ⟨_, merge_self table _, Finset.mem_union_right _ hin⟩
        · exact Or.inr ⟨evidence, hlater _ hmem, hin⟩
  · -- The row brings nothing: its key has all of its evidence.
    rw [G.visit_of_not_fresh hfresh]
    dsimp only
    obtain ⟨known, hknown, hsub⟩ := not_fresh hfresh
    constructor
    · rcases h.key with hreached | ⟨evidence, hmem⟩
      · exact Or.inl hreached
      · rcases List.mem_cons.1 hmem with rfl | hmem
        · exact Or.inl (by rw [hknown]; rfl)
        · exact Or.inr ⟨evidence, hmem⟩
    · intro x hx
      rcases h.evidence x hx with hheld | ⟨evidence, hmem, hin⟩
      · exact Or.inl hheld
      · rcases List.mem_cons.1 hmem with rfl | hmem
        · exact Or.inl ⟨known, hknown, hsub hin⟩
        · exact Or.inr ⟨evidence, hmem, hin⟩

theorem Complete.visit {table : Table κ ε} {row : Row κ ε} {rest next : List (Row κ ε)}
    (h : G.Complete table (row :: (rest ++ next))) :
    G.Complete (G.visit (table, next) row).1 (rest ++ (G.visit (table, next) row).2) := by
  refine ⟨fun other hother => (h.start other hother).visit G, fun key known hknown sent hsent => ?_⟩
  by_cases hfresh : Fresh table row
  · by_cases hkey : key = row.1
    · subst hkey
      obtain ⟨edge, hedge, hfollow, hevidence⟩ := G.mem_expand.1 hsent
      have hvisit := G.visit_of_fresh hfresh next
      rw [hvisit] at hknown ⊢
      dsimp only at hknown ⊢
      rw [merge_self, Option.some_inj] at hknown
      -- What the visited row itself sends on waits in the next round.
      have hmem : (sent.1, row.2 ∪ G.evidence edge) ∈ rest ++ (next ++ G.expand row) := by
        refine List.mem_append_right _ (List.mem_append_right _ (G.mem_expand.2 ?_))
        exact ⟨edge, hedge, hfollow, rfl⟩
      refine ⟨Or.inr ⟨_, hmem⟩, fun x hx => ?_⟩
      rw [hevidence, ← hknown, Finset.mem_union, Finset.mem_union] at hx
      rcases hx with (hold | hrow) | hlast
      · cases htable : table row.1 with
        | none => simp [htable] at hold
        | some old =>
            rw [htable, Option.getD_some] at hold
            have hsentOld : (sent.1, old ∪ G.evidence edge) ∈ G.expand (row.1, old) :=
              G.mem_expand.2 ⟨edge, hedge, hfollow, rfl⟩
            have hcovers := (h.sent row.1 old htable _ hsentOld).visit G
            rw [hvisit] at hcovers
            exact hcovers.evidence x (Finset.mem_union_left _ hold)
      · exact Or.inr ⟨_, hmem, Finset.mem_union_left _ hrow⟩
      · exact Or.inr ⟨_, hmem, Finset.mem_union_right _ hlast⟩
    · have hbefore : table key = some known := by
        rw [G.visit_of_fresh hfresh] at hknown
        exact (Function.update_of_ne hkey ..).symm.trans hknown
      exact (h.sent key known hbefore sent hsent).visit G
  · have hbefore : table key = some known := by
      rwa [G.visit_of_not_fresh hfresh] at hknown
    exact (h.sent key known hbefore sent hsent).visit G

theorem foldl_visit_complete {waiting : List (Row κ ε)} {table : Table κ ε} {next : List (Row κ ε)}
    (h : G.Complete table (waiting ++ next)) :
    G.Complete (waiting.foldl G.visit (table, next)).1
      (waiting.foldl G.visit (table, next)).2 := by
  induction waiting generalizing table next with
  | nil => exact h
  | cons row rest ih =>
      rw [List.foldl_cons]
      exact ih (Complete.visit G h)

omit [DecidableEq κ] in
theorem Complete.of_mem_iff {table : Table κ ε} {left right : List (Row κ ε)}
    (h : G.Complete table left) (hmem : ∀ row, row ∈ left ↔ row ∈ right) :
    G.Complete table right := by
  have hcovers : ∀ row, Covers table left row → Covers table right row := by
    intro row hrow
    refine ⟨hrow.key.imp_right fun ⟨evidence, hin⟩ => ⟨evidence, (hmem _).1 hin⟩, fun x hx => ?_⟩
    exact (hrow.evidence x hx).imp_right fun ⟨evidence, hin, hmem'⟩ =>
      ⟨evidence, (hmem _).1 hin, hmem'⟩
  exact ⟨fun row hrow => hcovers row (h.start row hrow), fun key known hknown row hrow =>
    hcovers row (h.sent key known hknown row hrow)⟩

theorem Rounds.complete {n : Nat} {table : Table κ ε} {waiting : List (Row κ ε)}
    (h : G.Rounds n table waiting) : G.Complete table waiting := by
  induction h with
  | start hperm =>
      refine ⟨fun row hrow => Covers.of_mem (hperm.mem_iff.2 hrow), fun key known hknown => ?_⟩
      simp at hknown
  | round rounds hperm ih =>
      refine Complete.of_mem_iff G (G.foldl_visit_complete ?_) fun row => hperm.mem_iff.symm
      rwa [List.append_nil]

/-! ## The two laws -/

/-- A visited row's key is reached, and reached keys stay. -/
theorem foldl_visit_reached (waiting : List (Row κ ε)) (table : Table κ ε) (next : List (Row κ ε)) :
    (∀ key, (table key).isSome = true →
      ((waiting.foldl G.visit (table, next)).1 key).isSome = true) ∧
      ∀ row ∈ waiting, ((waiting.foldl G.visit (table, next)).1 row.1).isSome = true := by
  induction waiting generalizing table next with
  | nil => exact ⟨fun _ h => h, by simp⟩
  | cons row rest ih =>
      have hkept : ∀ key, (table key).isSome = true →
          ((G.visit (table, next) row).1 key).isSome = true := by
        intro key hkey
        by_cases hfresh : Fresh table row
        · obtain ⟨known, hknown⟩ := Option.isSome_iff_exists.1 hkey
          obtain ⟨after, hafter, -⟩ := merge_mono row hknown
          simp [G.visit_of_fresh hfresh, hafter]
        · rwa [G.visit_of_not_fresh hfresh]
      have hrow : ((G.visit (table, next) row).1 row.1).isSome = true := by
        by_cases hfresh : Fresh table row
        · simp [G.visit_of_fresh hfresh, merge_self]
        · obtain ⟨known, hknown, -⟩ := not_fresh hfresh
          simp [G.visit_of_not_fresh hfresh, hknown]
      obtain ⟨hreached, hwaiting⟩ := ih (G.visit (table, next) row).1 (G.visit (table, next) row).2
      rw [List.foldl_cons]
      refine ⟨fun key hkey => hreached key (hkept key hkey), fun other hother => ?_⟩
      rcases List.mem_cons.1 hother with rfl | hother
      · exact hreached _ hrow
      · exact hwaiting other hother

/-- **After `n` rounds the keys are those of the paths of at most `n` edges.** -/
theorem Rounds.reached_iff {n : Nat} {table : Table κ ε} {waiting : List (Row κ ε)}
    (h : G.Rounds n table waiting) (key : κ) :
    (table key).isSome = true ↔ ∃ m ≤ n, ∃ evidence, G.Path m key evidence := by
  constructor
  · intro hkey
    obtain ⟨known, hknown⟩ := Option.isSome_iff_exists.1 hkey
    obtain ⟨m, hm, evidence, path, -⟩ := (h.sound.1 key known hknown).1
    exact ⟨m, hm, evidence, path⟩
  · rintro ⟨m, hm, evidence, path⟩
    induction h generalizing m key evidence with
    | start hperm => cases path <;> omega
    | @round n table waiting next rounds hperm ih =>
        obtain ⟨hkept, hvisited⟩ := G.foldl_visit_reached waiting table []
        have hreached {row : Row κ ε} (hcovers : Covers table waiting row) :
            ((waiting.foldl G.visit (table, [])).1 row.1).isSome = true := by
          rcases hcovers.key with hkey | ⟨evidence, hmem⟩
          · exact hkept _ hkey
          · exact hvisited (row.1, evidence) hmem
        cases path with
        | start hstart => exact hreached (rounds.complete.start _ hstart)
        | @step m before _ evidence edge path hedge hnext =>
            have hbefore := ih before m (by omega) evidence path
            obtain ⟨known, hknown⟩ := Option.isSome_iff_exists.1 hbefore
            have hsent : (key, known ∪ G.evidence edge) ∈ G.expand (before, known) :=
              G.mem_expand.2 ⟨edge, hedge, hnext, rfl⟩
            exact hreached (rounds.complete.sent before known hknown _ hsent)

/-- **Once nothing waits, every path is reached with all of its evidence.** -/
theorem Rounds.saturated {n : Nat} {table : Table κ ε} (h : G.Rounds n table []) {m : Nat} {key : κ}
    {evidence : Finset ε} (path : G.Path m key evidence) :
    ∃ known, table key = some known ∧ evidence ⊆ known := by
  have hcomplete := h.complete
  have hcovered {row : Row κ ε} (hrow : Covers table [] row) :
      ∃ known, table row.1 = some known ∧ row.2 ⊆ known := by
    obtain ⟨known, hknown⟩ := Option.isSome_iff_exists.1 (by simpa using hrow.key)
    refine ⟨known, hknown, fun x hx => ?_⟩
    obtain ⟨other, hother, hmem⟩ : ∃ other, table row.1 = some other ∧ x ∈ other := by
      simpa using hrow.evidence x hx
    rw [hknown, Option.some_inj] at hother
    exact hother ▸ hmem
  induction path with
  | start hstart => exact hcovered (hcomplete.start _ hstart)
  | @step m before next evidence edge path hedge hnext ih =>
      obtain ⟨known, hknown, hsub⟩ := ih
      have hsent : (next, known ∪ G.evidence edge) ∈ G.expand (before, known) :=
        G.mem_expand.2 ⟨edge, hedge, hnext, rfl⟩
      obtain ⟨after, hafter, hall⟩ := hcovered (hcomplete.sent before known hknown _ hsent)
      exact ⟨after, hafter, (Finset.union_subset_union_left hsub).trans hall⟩

end Graph

end Saturation
