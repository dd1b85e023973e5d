import Cxxlens.Sdk.Capture.DependencyOutput

set_option autoImplicit false

/-! # Which paths dependency output gives back

A path is read as it was up to its first defect: a vertical tab, a form feed, or a run of
backslashes without a blank behind it. Whatever follows, no list with the path in its place is
returned then, so that a rule is parsed to the paths it was written from exactly when every one of
them is recoverable. -/

namespace Cxxlens.Sdk.Capture

/-! ## Recoverable paths are read as they are -/

/-- What a path that is not recoverable has behind its recoverable part. -/
inductive Defect : Bytes → Prop
  | control {byte : UInt8} (rest : Bytes) : byte = 0x0b ∨ byte = 0x0c → Defect (byte :: rest)
  | backslashes (count : Nat) (rest : Bytes) :
      (∀ byte, rest.head? = some byte → byte ≠ 0x5c ∧ byte ≠ 0x20 ∧ byte ≠ 0x09) →
      Defect (List.replicate (count + 1) 0x5c ++ rest)

/-- A path with backslashes in front is these and what is left behind them. -/
theorem exists_backslashes (path : Bytes) :
    ∃ count rest, path = List.replicate count 0x5c ++ rest ∧ rest.head? ≠ some 0x5c := by
  induction path with
  | nil => exact ⟨0, [], rfl, by simp⟩
  | cons byte path ih =>
    by_cases hbackslash : byte = 0x5c
    · obtain ⟨count, rest, rfl, hrest⟩ := ih
      exact ⟨count + 1, rest, by rw [hbackslash, List.replicate_succ, List.cons_append], hrest⟩
    · exact ⟨0, byte :: path, rfl, by simpa using hbackslash⟩

theorem recoverable_or_defect (path : Bytes) :
    Recoverable path ∨
      ∃ before after, path = before ++ after ∧ Recoverable before ∧ Defect after := by
  induction hlength : path.length using Nat.strong_induction_on generalizing path with
  | _ length ih =>
    subst hlength
    obtain ⟨count, rest, rfl, hrest⟩ := exists_backslashes path
    rcases rest with _ | ⟨byte, rest⟩
    · -- The path ends with its backslashes.
      rcases count with _ | count
      · exact .inl .nil
      · exact .inr ⟨[], _, rfl, .nil, .backslashes count [] (by simp)⟩
    · have hbackslash : byte ≠ 0x5c := by simpa using hrest
      have hshorter : rest.length < (List.replicate count 0x5c ++ byte :: rest).length := by
        simp
        omega
      by_cases hblank : byte = 0x20 ∨ byte = 0x09
      · rcases ih rest.length hshorter rest rfl with h | ⟨before, after, rfl, hbefore, hafter⟩
        · exact .inl (.run count hblank h)
        · exact .inr ⟨_, after, by simp, .run count hblank hbefore, hafter⟩
      · have hplain := not_or.1 hblank
        rcases count with _ | count
        · by_cases hcontrol : byte = 0x0b ∨ byte = 0x0c
          · exact .inr ⟨[], byte :: rest, rfl, .nil, .control rest hcontrol⟩
          · rw [not_or] at hcontrol
            rcases ih rest.length hshorter rest rfl with h | ⟨before, after, rfl, hbefore, hafter⟩
            · exact .inl (.byte hbackslash hcontrol.1 hcontrol.2 h)
            · exact .inr ⟨byte :: before, after, rfl,
                .byte hbackslash hcontrol.1 hcontrol.2 hbefore, hafter⟩
        · refine .inr ⟨[], _, rfl, .nil, .backslashes count (byte :: rest) ?_⟩
          intro first hfirst
          obtain rfl : byte = first := by simpa using hfirst
          exact ⟨hbackslash, hplain.1, hplain.2⟩

section Recovery

variable {limits : ImportLimits}

/-- One byte that is neither a backslash nor a control character, quoted and read. -/
theorem dependencies_makeQuoteByte {output : List Bytes} {token rest : Bytes} {byte : UInt8}
    (hbyte : byte ≠ 0x5c ∧ byte ≠ 0x0b ∧ byte ≠ 0x0c) (hblank : byte ≠ 0x20 ∧ byte ≠ 0x09)
    (hline : byte ≠ 0x0a ∧ byte ≠ 0x0d) (h : token.length + 1 ≤ limits.maximumStringBytes) :
    dependencies limits 0 (.holding output token) (makeQuoteByte byte ++ rest) =
      dependencies limits 0 (.holding output (token ++ [byte])) rest := by
  unfold makeQuoteByte
  by_cases hdollar : byte = 0x24
  · rw [if_pos hdollar, hdollar]
    exact dependencies_dollar h
  · by_cases hhash : byte = 0x23
    · rw [if_neg hdollar, if_pos hhash, hhash]
      exact dependencies_escaped (by decide) h
    · have hspace : asciiSpace byte = false := by
        simp [asciiSpace, hbyte, hblank, hline]
      rw [if_neg hdollar, if_neg hhash]
      exact dependencies_byte ⟨hbyte.1, hdollar, hhash, hline.1, hline.2⟩ hspace h

/-- A recoverable path is read into the token, whatever else the path has behind it. -/
theorem dependencies_recoverable {path : Bytes} (hpath : Recoverable path) (after rest : Bytes)
    {output : List Bytes} {token : Bytes} (hreturn : 0x0d ∉ path) (hline : 0x0a ∉ path)
    (h : token.length + path.length ≤ limits.maximumStringBytes) :
    dependencies limits 0 (.holding output token) (makeQuote (path ++ after) ++ rest) =
      dependencies limits 0 (.holding output (token ++ path)) (makeQuote after ++ rest) := by
  induction hpath generalizing token with
  | nil => simp
  | @byte byte path hbackslash hvertical hform _ ih =>
    simp only [List.mem_cons, not_or, List.length_cons] at hreturn hline h
    have hmore := @ih (token ++ [byte]) hreturn.2 hline.2 (by simp; omega)
    by_cases hblank : byte = 0x20 ∨ byte = 0x09
    · have hquote : makeQuote (byte :: (path ++ after)) = [0x5c, byte] ++ makeQuote (path ++ after) :=
        makeQuote_run 0 (path ++ after) hblank
      rw [List.cons_append, hquote, List.append_assoc, List.cons_append, List.singleton_append,
        dependencies_escaped ⟨Ne.symm hline.1, Ne.symm hreturn.1⟩ (by omega), hmore,
        List.append_assoc, List.singleton_append]
    · rw [not_or] at hblank
      rw [List.cons_append, makeQuote, makeQuoteFrom_byte 0 _ ⟨hbackslash, hblank⟩,
        List.append_assoc, dependencies_makeQuoteByte ⟨hbackslash, hvertical, hform⟩ hblank
          ⟨Ne.symm hline.1, Ne.symm hreturn.1⟩ (by omega), hmore, List.append_assoc,
        List.singleton_append]
  | @run count blank path hblank _ ih =>
    simp only [List.mem_append, List.mem_cons, not_or, List.length_append, List.length_replicate,
      List.length_cons] at hreturn hline h
    have hmore := @ih (token ++ List.replicate count 0x5c ++ [blank]) hreturn.2.2 hline.2.2
      (by simp; omega)
    rw [List.append_assoc, List.cons_append, makeQuote_run count _ hblank, List.append_assoc,
      List.cons_append, dependencies_backslashes_escaped count
        ⟨Ne.symm hline.2.1, Ne.symm hreturn.2.1⟩ (by omega), hmore]
    simp

/-! ## Nothing comes back from behind a defect -/

/-- Fewer backslashes and another byte do not begin a path that goes on with more backslashes. -/
theorem not_prefix_of_fewer {before rest : Bytes} {few count : Nat} {byte : UInt8}
    (hfew : few ≤ count) (hbyte : byte ≠ 0x5c) :
    ¬ before ++ List.replicate few 0x5c ++ [byte] <+:
      before ++ (List.replicate (count + 1) 0x5c ++ rest) := by
  rw [List.append_assoc, List.prefix_append_right_inj]
  obtain ⟨gap, rfl⟩ := Nat.exists_eq_add_of_le hfew
  rw [Nat.add_assoc, ← List.replicate_append_replicate, List.append_assoc,
    List.prefix_append_right_inj, List.replicate_succ, List.cons_append, List.cons_prefix_cons]
  exact fun h => hbyte h.1

/-- What ends the token in front of it. -/
def EndsToken (text : Bytes) : Prop :=
  text = [] ∨ ∃ byte rest, text = byte :: rest ∧ (byte = 0x23 ∨ byte = 0x0a ∨
    asciiSpace byte = true ∧ byte ≠ 0x0a ∧ byte ≠ 0x0d)

variable {prior others : List Bytes} {before path : Bytes}

theorem finishDependencies_congr {scan scan' : DependencyScan} {text text' : Bytes}
    (h : dependencies limits 0 scan text = dependencies limits 0 scan' text') :
    finishDependencies limits scan text = finishDependencies limits scan' text' := by
  rw [finishDependencies, finishDependencies, h]

/-- A token that ends is the path or something else is returned. -/
theorem finish_ne_of_ended {token text : Bytes} (hends : EndsToken text) (hne : token ≠ [])
    (hpath : token ≠ path)
    (hadmits : limits.Admits limits.maximumSourceClosureMembers (prior ++ [token])) :
    finishDependencies limits (.holding prior token) text ≠ .ok (prior ++ path :: others) := by
  have hstopped : finishDependencies limits (.holding prior token) [] = .ok (prior ++ [token]) := by
    simp only [finishDependencies, dependencies, Fallible.ok_bind,
      DependencyScan.append_eq_ok hne hadmits]
    rfl
  have hlist : prior ++ [token] ≠ prior ++ path :: others := by
    intro heq
    have hcons := List.append_cancel_left heq
    rw [List.cons.injEq] at hcons
    exact hpath hcons.1
  rcases hends with rfl | ⟨byte, rest, rfl, rfl | rfl | ⟨hspace, hline⟩⟩
  · rw [hstopped]
    exact fun h => hlist (Except.ok.inj h)
  · have hbreak : finishDependencies limits (.holding prior token) (0x23 :: rest) =
        finishDependencies limits (.holding prior token) [] := finishDependencies_congr rfl
    rw [hbreak, hstopped]
    exact fun h => hlist (Except.ok.inj h)
  · have hbreak : finishDependencies limits (.holding prior token) (0x0a :: rest) =
        finishDependencies limits (.holding prior token) [] := finishDependencies_congr rfl
    rw [hbreak, hstopped]
    exact fun h => hlist (Except.ok.inj h)
  · rw [finishDependencies_congr (dependencies_space hspace hline hne hadmits)]
    exact fun h => hpath (eq_of_finish_append h)

/-- The token has too few backslashes and then another byte. -/
theorem finish_ne_of_fewer {few count : Nat} {byte : UInt8} {rest text : Bytes} (hfew : few ≤ count)
    (hbyte : byte ≠ 0x5c) :
    finishDependencies limits (.holding prior (before ++ List.replicate few 0x5c ++ [byte])) text ≠
      .ok (prior ++ (before ++ (List.replicate (count + 1) 0x5c ++ rest)) :: others) :=
  fun h => not_prefix_of_fewer hfew hbyte (token_prefix_of_finish h)

/-- A run of backslashes with no blank behind it. -/
theorem finish_ne_of_backslashes (count : Nat) {rest tail : Bytes}
    (hrest : ∀ byte, rest.head? = some byte → byte ≠ 0x5c ∧ byte ≠ 0x20 ∧ byte ≠ 0x09)
    (hline : 0x0a ∉ rest ∧ 0x0d ∉ rest)
    (htail : tail = [] ∨ tail = [0x0a] ∨ ∃ more, tail = 0x20 :: more)
    (hadmits : limits.Admits limits.maximumSourceClosureMembers
      (prior ++ [before ++ (List.replicate (count + 1) 0x5c ++ rest)])) :
    finishDependencies limits (.holding prior before)
        (makeQuote (List.replicate (count + 1) 0x5c ++ rest) ++ tail) ≠
      .ok (prior ++ (before ++ (List.replicate (count + 1) 0x5c ++ rest)) :: others) := by
  have hlength : before.length + (count + 1 + rest.length) ≤ limits.maximumStringBytes := by
    have := hadmits.each (before ++ (List.replicate (count + 1) 0x5c ++ rest)) (by simp)
    simpa only [List.length_append, List.length_replicate] using this
  -- What is read of a run of backslashes: half of them, and the byte behind them if one is left.
  have hended : ∀ (run half : Nat) (text : Bytes), run = 2 * half → 0 < half →
      half < count + 1 + rest.length → EndsToken text →
      finishDependencies limits (.holding prior before) (List.replicate run 0x5c ++ text) ≠
        .ok (prior ++ (before ++ (List.replicate (count + 1) 0x5c ++ rest)) :: others) := by
    rintro _ half text rfl hpositive hlt hends
    rw [finishDependencies_congr (dependencies_backslashes half (by omega))]
    refine finish_ne_of_ended hends ?_ ?_ (hadmits.shorten (by simp; omega))
    · obtain ⟨half, rfl⟩ := Nat.exists_eq_add_of_lt hpositive
      simp
    · intro heq
      have := congrArg List.length heq
      simp at this
      omega
  have hliteral : ∀ (run half : Nat) (byte : UInt8) (text : Bytes), run = 2 * half + 1 →
      half ≤ count → byte ≠ 0x5c → byte ≠ 0x0a ∧ byte ≠ 0x0d →
      finishDependencies limits (.holding prior before) (List.replicate run 0x5c ++ byte :: text) ≠
        .ok (prior ++ (before ++ (List.replicate (count + 1) 0x5c ++ rest)) :: others) := by
    rintro _ half byte text rfl hle hbyte hbyteLine
    rw [finishDependencies_congr (dependencies_backslashes_escaped half hbyteLine (by omega))]
    exact finish_ne_of_fewer hle hbyte
  have hpushed : ∀ (run half : Nat) (byte : UInt8) (text text' : Bytes), run = 2 * half →
      half ≤ count → byte ≠ 0x5c →
      dependencies limits 0 (.holding prior (before ++ List.replicate half 0x5c)) text =
        dependencies limits 0 (.holding prior (before ++ List.replicate half 0x5c ++ [byte]))
          text' →
      finishDependencies limits (.holding prior before) (List.replicate run 0x5c ++ text) ≠
        .ok (prior ++ (before ++ (List.replicate (count + 1) 0x5c ++ rest)) :: others) := by
    rintro _ half byte text text' rfl hle hbyte htext
    rw [finishDependencies_congr ((dependencies_backslashes half (by omega)).trans htext)]
    exact finish_ne_of_fewer hle hbyte
  rw [makeQuote, makeQuoteFrom_replicate, Nat.zero_add, List.append_assoc]
  obtain ⟨half, hparity⟩ := Nat.even_or_odd' (count + 1)
  have hsplit : ∀ text : Bytes, count + 1 = 2 * half + 1 →
      List.replicate (count + 1) 0x5c ++ (makeQuoteFrom (count + 1) [] ++ text) =
        List.replicate (2 * half) 0x5c ++ 0x5c :: text := by
    intro text hodd
    rw [← Nat.succ.inj hodd, List.replicate_succ', List.append_assoc]
    rfl
  rcases rest with _ | ⟨byte, rest⟩
  · -- The path ends with the run.
    rcases hparity with heven | hodd
    · refine hended (count + 1) half tail heven (by omega) (by simp; omega) ?_
      rcases htail with rfl | rfl | ⟨more, rfl⟩
      · exact .inl rfl
      · exact .inr ⟨0x0a, [], rfl, .inr (.inl rfl)⟩
      · exact .inr ⟨0x20, more, rfl, .inr (.inr (by decide))⟩
    · rcases htail with rfl | rfl | ⟨more, rfl⟩
      · -- The last backslash has nothing to escape.
        have hdangling : finishDependencies limits
            (.holding prior (before ++ List.replicate half 0x5c)) [0x5c] =
              .error (inputInvalid "dependency_output" "dangling-escape") := rfl
        rw [hsplit _ hodd, finishDependencies_congr (dependencies_backslashes half (by omega)),
          hdangling]
        intro h
        cases h
      · -- The last backslash continues a line that does not come.
        have hcontinued : finishDependencies limits
            (.holding prior (before ++ List.replicate half 0x5c)) [0x5c, 0x0a] =
              finishDependencies limits (.holding prior (before ++ List.replicate half 0x5c)) [] :=
          finishDependencies_congr rfl
        rw [hsplit _ hodd, finishDependencies_congr (dependencies_backslashes half (by omega)),
          hcontinued]
        by_cases hnil : before ++ List.replicate half 0x5c = []
        · rw [hnil, finishDependencies_nil]
          intro heq
          have := congrArg List.length (Except.ok.inj heq)
          simp at this
        · refine finish_ne_of_ended (.inl rfl) hnil ?_ (hadmits.shorten (by simp; omega))
          intro heq
          have := congrArg List.length heq
          simp at this
          omega
      · exact hliteral (count + 1) half 0x20 more hodd (by omega) (by decide) (by decide)
  · obtain ⟨hbackslash, hblank⟩ := hrest byte rfl
    simp only [List.mem_cons, not_or] at hline
    simp only [List.length_cons] at hlength
    have hroom : (before ++ List.replicate half 0x5c).length + 1 ≤ limits.maximumStringBytes := by
      simp
      omega
    rw [makeQuoteFrom_byte _ rest ⟨hbackslash, hblank⟩, List.append_assoc, makeQuoteByte]
    by_cases hdollar : byte = 0x24
    · rw [if_pos hdollar]
      rcases hparity with heven | hodd
      · exact hpushed (count + 1) half 0x24 _ _ heven (by omega) (by decide)
          (dependencies_dollar hroom)
      · exact hliteral (count + 1) half 0x24 _ hodd (by omega) (by decide) (by decide)
    · by_cases hhash : byte = 0x23
      · -- The backslash that is written for the hash joins the run.
        have hrun : ∀ text : Bytes, List.replicate (count + 1) 0x5c ++ ([0x5c, 0x23] ++ text) =
            List.replicate (count + 2) 0x5c ++ 0x23 :: text := by
          intro text
          have hsucc : List.replicate (count + 2) (0x5c : UInt8) =
              List.replicate (count + 1) 0x5c ++ [0x5c] := List.replicate_succ'
          rw [hsucc, List.append_assoc]
          rfl
        rw [if_neg hdollar, if_pos hhash, hrun]
        rcases hparity with heven | hodd
        · exact hliteral (count + 2) half 0x23 _ (by omega) (by omega) (by decide) (by decide)
        · exact hended (count + 2) (half + 1) _ (by omega) (by omega) (by simp; omega)
            (.inr ⟨0x23, _, rfl, .inl rfl⟩)
      · rw [if_neg hdollar, if_neg hhash, List.singleton_append]
        have hbyteLine : byte ≠ 0x0a ∧ byte ≠ 0x0d := ⟨Ne.symm hline.1.1, Ne.symm hline.2.1⟩
        rcases hparity with heven | hodd
        · by_cases hspace : asciiSpace byte = true
          · exact hended (count + 1) half _ heven (by omega) (by simp; omega)
              (.inr ⟨byte, _, rfl, .inr (.inr ⟨hspace, hbyteLine⟩)⟩)
          · exact hpushed (count + 1) half byte _ _ heven (by omega) hbackslash
              (dependencies_byte ⟨hbackslash, hdollar, hhash, hbyteLine⟩
                (Bool.not_eq_true _ ▸ hspace) hroom)
        · exact hliteral (count + 1) half byte _ hodd (by omega) hbackslash hbyteLine

/-- A vertical tab or a form feed separates words, and is missing in all of them. -/
theorem finish_ne_of_control {byte : UInt8} {rest tail : Bytes} (hcontrol : byte = 0x0b ∨ byte = 0x0c)
    (htail : tail.count byte ≤ others.flatten.count byte) :
    finishDependencies limits (.holding prior before) (makeQuote (byte :: rest) ++ tail) ≠
      .ok (prior ++ (before ++ byte :: rest) :: others) := by
  intro h
  have hbyte : byte ≠ 0x5c ∧ byte ≠ 0x20 ∧ byte ≠ 0x09 := by rcases hcontrol with rfl | rfl <;> decide
  have hplain : byte ≠ 0x24 ∧ byte ≠ 0x23 := by rcases hcontrol with rfl | rfl <;> decide
  have hspace : dependencies limits 0 (.holding prior before) (byte :: (makeQuote rest ++ tail)) =
      (DependencyScan.holding prior before).append limits >>= fun scan =>
        dependencies limits 0 scan (makeQuote rest ++ tail) := by
    rcases hcontrol with rfl | rfl <;> rfl
  rw [makeQuote, makeQuoteFrom_byte 0 rest hbyte, makeQuoteByte, if_neg hplain.1, if_neg hplain.2,
    List.singleton_append, List.cons_append, finishDependencies, hspace, bind_assoc] at h
  obtain ⟨scan, happend, hrun⟩ := Fallible.bind_eq_ok_iff.1 h
  have hcount := count_of_finish byte (hrun : finishDependencies limits scan _ = _)
  have hquote : (makeQuote rest).count byte = rest.count byte :=
    count_makeQuoteFrom hplain.1 hbyte.1 0 rest
  rw [DependencyScan.occurrences_of_append byte happend, DependencyScan.occurrences] at hcount
  simp only [DependencyScan.holding, List.flatten_append, List.flatten_cons, List.count_append,
    List.count_cons_self, hquote] at hcount
  omega

/-! ## Rules -/

/-- The finished tokens and the one that would be finished next. -/
def flushed (prior : List Bytes) (token : Bytes) : List Bytes :=
  if token = [] then prior else prior ++ [token]

theorem flushed_nil (prior : List Bytes) : flushed prior [] = prior := rfl

theorem flushed_of_ne {token : Bytes} (h : token ≠ []) : flushed prior token = prior ++ [token] :=
  if_neg h

/-- A break finishes the token in front of it. -/
theorem dependencies_break (lead : Break) {token rest : Bytes}
    (hadmits : limits.Admits limits.maximumSourceClosureMembers (flushed prior token)) :
    dependencies limits 0 (.holding prior token) (lead.text ++ rest) =
      dependencies limits 0 (.holding (flushed prior token) []) rest := by
  have hspace : ∀ rest : Bytes, dependencies limits 0 (.holding prior token) (0x20 :: rest) =
      dependencies limits 0 (.holding (flushed prior token) []) rest := by
    intro rest
    by_cases hnil : token = []
    · rw [hnil, flushed_nil]
      exact dependencies_space_nil (by decide) (by decide)
    · rw [flushed_of_ne hnil] at hadmits ⊢
      exact dependencies_space (by decide) (by decide) hnil hadmits
  cases lead with
  | space => exact hspace rest
  | continued =>
    have hcontinued : dependencies limits 0 (.holding (flushed prior token) [])
        (0x5c :: 0x0a :: 0x20 :: rest) =
          dependencies limits 0 (.holding (flushed prior token) []) (0x20 :: rest) := rfl
    exact (hspace _).trans (hcontinued.trans (dependencies_space_nil (by decide) (by decide)))

/-- Nothing is lost at the end of a rule. -/
theorem finishDependencies_ending {token ending : Bytes} (hending : ending = [] ∨ ending = [0x0a])
    (hadmits : limits.Admits limits.maximumSourceClosureMembers (flushed prior token)) :
    finishDependencies limits (.holding prior token) ending = .ok (flushed prior token) := by
  have hnil : finishDependencies limits (.holding prior token) [] = .ok (flushed prior token) := by
    by_cases htoken : token = []
    · rw [htoken]
      exact finishDependencies_nil
    · rw [flushed_of_ne htoken] at hadmits ⊢
      simp only [finishDependencies, dependencies, Fallible.ok_bind,
        DependencyScan.append_eq_ok htoken hadmits]
      rfl
  rcases hending with rfl | rfl
  · exact hnil
  · exact hnil

/-- Writing a rule keeps how often a byte occurs, unless the writer uses it itself. -/
theorem count_prerequisites {byte : UInt8}
    (hbyte : byte ≠ 0x24 ∧ byte ≠ 0x5c ∧ byte ≠ 0x20 ∧ byte ≠ 0x0a) {ending : Bytes}
    (hending : ending = [] ∨ ending = [0x0a]) (prerequisites : List Prerequisite) :
    (prerequisites.flatMap Prerequisite.text ++ ending).count byte =
      (prerequisites.map Prerequisite.path).flatten.count byte := by
  obtain ⟨hdollar, hbackslash, hspace, hnewline⟩ := hbyte
  induction prerequisites with
  | nil => rcases hending with rfl | rfl <;> simp [hnewline.symm]
  | cons prerequisite rest ih =>
    have hlead : prerequisite.lead.text.count byte = 0 := by
      cases prerequisite.lead <;> simp [Break.text, hbackslash.symm, hspace.symm, hnewline.symm]
    have hquote : (makeQuote prerequisite.path).count byte = prerequisite.path.count byte :=
      count_makeQuoteFrom hdollar hbackslash 0 prerequisite.path
    rw [List.flatMap_cons, List.append_assoc, List.count_append, ih, Prerequisite.text,
      List.count_append, hlead, hquote, List.map_cons, List.flatten_cons, List.count_append]
    omega

/-- The text behind a path starts with a break or is the ending. -/
theorem tail_cases (prerequisites : List Prerequisite) {ending : Bytes}
    (hending : ending = [] ∨ ending = [0x0a]) :
    prerequisites.flatMap Prerequisite.text ++ ending = [] ∨
      prerequisites.flatMap Prerequisite.text ++ ending = [0x0a] ∨
      ∃ more, prerequisites.flatMap Prerequisite.text ++ ending = 0x20 :: more := by
  rcases prerequisites with _ | ⟨⟨lead, path, _, _, _⟩, rest⟩
  · rcases hending with rfl | rfl
    · exact .inl rfl
    · exact .inr (.inl rfl)
  · cases lead <;> exact .inr (.inr ⟨_, rfl⟩)

/-- The prerequisites of a rule are read back exactly when every one of them is recoverable. -/
theorem finish_prerequisites_iff {ending : Bytes} (hending : ending = [] ∨ ending = [0x0a])
    (prerequisites : List Prerequisite) (prior : List Bytes) (token : Bytes)
    (hadmits : limits.Admits limits.maximumSourceClosureMembers
      (flushed prior token ++ prerequisites.map Prerequisite.path)) :
    finishDependencies limits (.holding prior token)
        (prerequisites.flatMap Prerequisite.text ++ ending) =
        .ok (flushed prior token ++ prerequisites.map Prerequisite.path) ↔
      ∀ prerequisite ∈ prerequisites, Recoverable prerequisite.path := by
  induction prerequisites generalizing prior token with
  | nil =>
    have hend := finishDependencies_ending hending (by simpa using hadmits)
    simpa using hend
  | cons prerequisite rest ih =>
    rw [List.map_cons, List.append_cons] at hadmits
    have hprior := hadmits.sublist
      ((List.sublist_append_left _ [prerequisite.path]).trans (List.sublist_append_left _ _))
    have hthis := hadmits.sublist (List.sublist_append_left _ (rest.map Prerequisite.path))
    have htext : (prerequisite :: rest).flatMap Prerequisite.text ++ ending =
        prerequisite.lead.text ++ (makeQuote prerequisite.path ++
          (rest.flatMap Prerequisite.text ++ ending)) := by
      simp only [List.flatMap_cons, Prerequisite.text, List.append_assoc]
    rw [htext, finishDependencies_congr (dependencies_break prerequisite.lead hprior),
      List.map_cons, List.forall_mem_cons]
    by_cases hrecoverable : Recoverable prerequisite.path
    · have hlength := hthis.each prerequisite.path (by simp)
      have hread := @dependencies_recoverable limits prerequisite.path hrecoverable []
        (rest.flatMap Prerequisite.text ++ ending) (flushed prior token) []
        prerequisite.noLineEnd.1 prerequisite.noLineEnd.2 (by simpa using hlength)
      have hflushed : flushed (flushed prior token) prerequisite.path =
          flushed prior token ++ [prerequisite.path] := flushed_of_ne prerequisite.nonempty
      have hrest := ih (flushed prior token) prerequisite.path (hflushed ▸ hadmits)
      rw [hflushed, List.append_assoc, List.singleton_append] at hrest
      rw [List.append_nil, List.nil_append] at hread
      rw [finishDependencies_congr hread]
      simpa [hrecoverable, makeQuote, makeQuoteFrom] using hrest
    · refine iff_of_false ?_ fun h => hrecoverable h.1
      rcases recoverable_or_defect prerequisite.path with h | ⟨before, after, hpath, hbefore, hafter⟩
      · exact absurd h hrecoverable
      · have hlength := hthis.each prerequisite.path (by simp)
        have hlineEnd := prerequisite.noLineEnd
        rw [hpath] at hlength hlineEnd hthis ⊢
        simp only [List.mem_append, not_or, List.length_append] at hlineEnd hlength
        have hread := @dependencies_recoverable limits before hbefore after
          (rest.flatMap Prerequisite.text ++ ending) (flushed prior token) [] hlineEnd.1.1
          hlineEnd.2.1 (by simp; omega)
        rw [List.nil_append] at hread
        rw [finishDependencies_congr hread]
        cases hafter with
        | control more hcontrol =>
          refine finish_ne_of_control hcontrol (count_prerequisites ?_ hending rest).le
          rcases hcontrol with rfl | rfl <;> decide
        | backslashes count more hmore =>
          simp only [List.mem_append, not_or] at hlineEnd
          exact finish_ne_of_backslashes count hmore ⟨hlineEnd.2.2.2, hlineEnd.1.2.2⟩
            (tail_cases rest hending) hthis

end Recovery

/-! ## Targets -/

theorem afterTarget_append {escaped : Bool} {target : Bytes} (rest : Bytes)
    (hcolon : 0x3a ∉ unescapedBytes escaped target)
    (hnewline : 0x0a ∉ unescapedBytes escaped target)
    (hreturn : 0x0d ∉ unescapedBytes escaped target) :
    afterTarget escaped (target ++ rest) = afterTarget (endsEscaped escaped target) rest := by
  induction target generalizing escaped with
  | nil => rfl
  | cons byte target ih =>
    rw [List.cons_append, afterTarget, endsEscaped]
    rw [unescapedBytes] at hcolon hnewline hreturn
    cases escaped with
    | true =>
      simp only [if_true] at hcolon hnewline hreturn ⊢
      exact ih hcolon hnewline hreturn
    | false =>
      by_cases hbackslash : byte = 0x5c
      · subst hbackslash
        simp only [Bool.false_eq_true, if_true, if_false] at hcolon hnewline hreturn ⊢
        exact ih hcolon hnewline hreturn
      · simp only [Bool.false_eq_true, hbackslash, if_false, List.mem_cons, not_or]
          at hcolon hnewline hreturn
        have hplain : (byte == 0x5c) = false := beq_false_of_ne hbackslash
        rw [if_neg Bool.false_ne_true, if_neg Bool.false_ne_true, if_neg hbackslash,
          if_neg (Ne.symm hcolon.1), if_neg (not_or.2 ⟨Ne.symm hnewline.1, Ne.symm hreturn.1⟩),
          hplain]
        exact ih hcolon.2 hnewline.2 hreturn.2

/-- A carriage return that nothing escapes ends the search for the colon. -/
theorem afterTarget_ne_of_return {escaped : Bool} {target : Bytes} (rest found : Bytes)
    (hcolon : 0x3a ∉ unescapedBytes escaped target)
    (hreturn : 0x0d ∈ unescapedBytes escaped target) :
    afterTarget escaped (target ++ rest) ≠ .ok found := by
  induction target generalizing escaped with
  | nil => simp [unescapedBytes] at hreturn
  | cons byte target ih =>
    rw [List.cons_append, afterTarget]
    rw [unescapedBytes] at hcolon hreturn
    cases escaped with
    | true =>
      simp only [if_true] at hcolon hreturn ⊢
      exact ih hcolon hreturn
    | false =>
      by_cases hbackslash : byte = 0x5c
      · subst hbackslash
        simp only [Bool.false_eq_true, if_true, if_false] at hcolon hreturn ⊢
        exact ih hcolon hreturn
      · simp only [Bool.false_eq_true, hbackslash, if_false, List.mem_cons, not_or]
          at hcolon hreturn
        rw [if_neg Bool.false_ne_true, if_neg hbackslash, if_neg (Ne.symm hcolon.1)]
        by_cases hline : byte = 0x0a ∨ byte = 0x0d
        · rw [if_pos hline]
          exact fun h => nomatch h
        · rw [if_neg hline]
          exact ih hcolon.2 (hreturn.resolve_left fun heq => hline (.inr heq.symm))

/-- The colon that is found is behind what is left. -/
theorem count_afterTarget {escaped : Bool} {input rest : Bytes}
    (h : afterTarget escaped input = .ok rest) : rest.count 0x3a < input.count 0x3a := by
  induction input generalizing escaped with
  | nil => exact nomatch h
  | cons byte input ih =>
    have hcons : input.count 0x3a ≤ (byte :: input).count 0x3a :=
      (List.sublist_cons_self byte input).count_le _
    rw [afterTarget] at h
    split_ifs at h with hescaped hbackslash hcolon hline
    · exact (ih h).trans_le hcons
    · exact (ih h).trans_le hcons
    · obtain rfl := Except.ok.inj h
      rw [hcolon, List.count_cons_self]
      omega
    · exact (ih h).trans_le hcons

/-! ## The parser and the writer -/

/-- What a target must have for the colon behind it to be found: no NUL byte, no carriage return
    that nothing escapes, and no backslash that would escape the colon. -/
structure TargetReadable (target : Bytes) : Prop where
  noNul : 0 ∉ target
  noReturn : 0x0d ∉ unescapedBytes false target
  closed : endsEscaped false target = false

/-- A rule that GCC writes is parsed to its prerequisites exactly when its target is readable and
    every prerequisite recoverable. -/
theorem parseGcc162DependencyOutput_inverts_iff (limits : ImportLimits) (target : Bytes)
    (prerequisites : List Prerequisite) (ending : Bytes)
    (hcolon : 0x3a ∉ unescapedBytes false target) (hnewline : 0x0a ∉ unescapedBytes false target)
    (hprerequisites : prerequisites ≠ []) (hending : ending = [] ∨ ending = [0x0a])
    (hadmits : limits.Admits limits.maximumSourceClosureMembers
      (prerequisites.map Prerequisite.path)) :
    parseGcc162DependencyOutput (writeRule target prerequisites ending) limits =
        .ok (prerequisites.map Prerequisite.path) ↔
      TargetReadable target ∧ ∀ prerequisite ∈ prerequisites, Recoverable prerequisite.path := by
  have hpaths : prerequisites.map Prerequisite.path ≠ [] := by simpa using hprerequisites
  have hparse : parseGcc162DependencyOutput (writeRule target prerequisites ending) limits =
        .ok (prerequisites.map Prerequisite.path) ↔
      0 ∉ writeRule target prerequisites ending ∧
        ∃ rest, afterTarget false (writeRule target prerequisites ending) = .ok rest ∧
          finishDependencies limits {} rest = .ok (prerequisites.map Prerequisite.path) := by
    simp only [parseGcc162DependencyOutput, hadmits.valid, Fallible.ok_bind,
      Fallible.guard_eq_ok_iff, Fallible.bind_eq_ok_iff, Except.ok.injEq]
    constructor
    · rintro ⟨hnul, rest, hrest, output, houtput, -, rfl⟩
      exact ⟨hnul, rest, hrest, houtput⟩
    · rintro ⟨hnul, rest, hrest, houtput⟩
      exact ⟨hnul, rest, hrest, _, houtput, hpaths, rfl⟩
  have hprerequisitesIff := finish_prerequisites_iff hending prerequisites [] [] hadmits
  rw [flushed_nil, List.nil_append] at hprerequisitesIff
  rw [hparse]
  constructor
  · rintro ⟨hnul, rest, hrest, houtput⟩
    have hreturn : 0x0d ∉ unescapedBytes false target :=
      fun h => afterTarget_ne_of_return _ rest hcolon h hrest
    rw [writeRule, afterTarget_append _ hcolon hnewline hreturn] at hrest
    have hclosed : endsEscaped false target = false := by
      -- A colon found further on belongs to a path, and is missing in what is returned.
      rcases hescaped : endsEscaped false target with _ | _
      · rfl
      · rw [hescaped, afterTarget, if_pos rfl] at hrest
        have hfound := count_afterTarget hrest
        have hcount := count_of_finish 0x3a houtput
        rw [count_prerequisites (by decide) hending] at hfound
        simp only [DependencyScan.occurrences, List.flatten_nil, List.append_nil,
          List.count_nil] at hcount
        omega
    rw [hclosed] at hrest
    obtain rfl := Except.ok.inj hrest
    exact ⟨⟨fun h => hnul (List.mem_append_left _ h), hreturn, hclosed⟩,
      hprerequisitesIff.1 houtput⟩
  · rintro ⟨⟨hnul, hreturn, hclosed⟩, hrecoverable⟩
    refine ⟨?_, _, ?_, hprerequisitesIff.2 hrecoverable⟩
    · have hwritten := @count_prerequisites 0 (by decide) ending hending prerequisites
      have hnone : (prerequisites.map Prerequisite.path).flatten.count 0 = 0 := by
        refine List.count_eq_zero.2 fun h => ?_
        obtain ⟨path, hpath, hzero⟩ := List.mem_flatten.1 h
        obtain ⟨prerequisite, -, rfl⟩ := List.mem_map.1 hpath
        exact prerequisite.noNul hzero
      rw [hnone] at hwritten
      simp only [writeRule, List.mem_append, List.mem_cons, not_or]
      exact ⟨hnul, by decide, by simpa using List.count_eq_zero.1 hwritten⟩
    · rw [writeRule, afterTarget_append _ hcolon hnewline hreturn, hclosed]
      rfl

/-- `a b$c#d` behind a break that continues the line. -/
def samplePrerequisite : Prerequisite where
  lead := .continued
  path := ascii "a b$c#d"
  nonempty := by decide
  noNul := by decide
  noLineEnd := ⟨by decide, by decide⟩

/-- `a\b`, whose backslash leads up to no blank. -/
def backslashPrerequisite : Prerequisite where
  lead := .space
  path := ascii "a\\b"
  nonempty := by decide
  noNul := by decide
  noLineEnd := ⟨by decide, by decide⟩

theorem parseGcc162DependencyOutput_inverts_iff_sample :
    parseGcc162DependencyOutput (writeRule (ascii "t.o") [samplePrerequisite] [0x0a]) {} =
        .ok [ascii "a b$c#d"] ↔
      TargetReadable (ascii "t.o") ∧
        ∀ prerequisite ∈ [samplePrerequisite], Recoverable prerequisite.path :=
  parseGcc162DependencyOutput_inverts_iff {} (ascii "t.o") [samplePrerequisite] [0x0a] (by decide)
    (by decide) (by decide) (.inr rfl) ⟨by decide, by decide, by decide, by decide⟩

/-- The backslash is lost, and the path that is returned is another one. -/
theorem parseGcc162DependencyOutput_renames :
    parseGcc162DependencyOutput (writeRule (ascii "t.o") [backslashPrerequisite] [0x0a]) {} =
        .ok [ascii "ab"] ∧
      ¬ ∀ (target : Bytes) (prerequisites : List Prerequisite) (ending : Bytes),
        0x3a ∉ unescapedBytes false target → 0x0a ∉ unescapedBytes false target →
        prerequisites ≠ [] → (ending = [] ∨ ending = [0x0a]) →
        ({} : ImportLimits).Admits 4096 (prerequisites.map Prerequisite.path) →
          parseGcc162DependencyOutput (writeRule target prerequisites ending) {} =
            .ok (prerequisites.map Prerequisite.path) := by
  have hparse : parseGcc162DependencyOutput
      (writeRule (ascii "t.o") [backslashPrerequisite] [0x0a]) {} = .ok [ascii "ab"] := by decide
  refine ⟨hparse, fun h => ?_⟩
  have hclaimed := h (ascii "t.o") [backslashPrerequisite] [0x0a] (by decide) (by decide)
    (by decide) (.inr rfl) ⟨by decide, by decide, by decide, by decide⟩
  rw [hparse] at hclaimed
  exact absurd hclaimed (by decide)

end Cxxlens.Sdk.Capture
