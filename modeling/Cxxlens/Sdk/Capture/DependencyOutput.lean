import Cxxlens.Sdk.Capture.Limits

set_option autoImplicit false

/-! # Dependency output

`parse_gcc_16_2_dependency_output` of `gcc_auxiliary_capture_internal.cpp`: the prerequisites of the
first rule of a Make dependency file, and how GCC writes such a rule. Make reads a backslash as an
escape in front of a blank only; the parser reads every backslash as one, so that what it returns
is what was written exactly when every backslash of a path leads up to a blank. -/

namespace Cxxlens.Sdk.Capture

/-! ## The parser -/

/-- The loop up to the first unescaped colon: what follows it. -/
def afterTarget : Bool → Bytes → Result Bytes
  | _, [] => .error (inputInvalid "dependency_output" "target-rule")
  | escaped, byte :: rest =>
    if escaped then afterTarget false rest
    else if byte = 0x5c then afterTarget true rest
    else if byte = 0x3a then .ok rest
    else if byte = 0x0a ∨ byte = 0x0d then
      .error (inputInvalid "dependency_output" "target-rule")
    else afterTarget false rest

/-- The locals of the loop over the prerequisites. -/
structure DependencyScan where
  output : List Bytes := []
  token : Bytes := []
  metadataBytes : Nat := 0
  deriving DecidableEq, Repr

section Parser

variable (limits : ImportLimits)

/-- The lambda `append`: the token is finished. -/
def DependencyScan.append (scan : DependencyScan) : Result DependencyScan :=
  if scan.token = [] then .ok scan
  else if limits.maximumSourceClosureMembers ≤ scan.output.length then
    .error (limitExceeded "dependency_output.members" "count")
  else if limits.maximumStringBytes < scan.token.length then
    .error (limitExceeded "dependency_output.member" "string-bytes")
  else if limits.maximumTotalMetadataBytes - scan.metadataBytes < scan.token.length then
    .error (limitExceeded "dependency_output.members" "metadata-bytes")
  else
    .ok { output := scan.output ++ [scan.token], token := [],
          metadataBytes := scan.metadataBytes + scan.token.length }

/-- `token.push_back` and the check at the end of the round. -/
def DependencyScan.push (scan : DependencyScan) (byte : UInt8) : Result DependencyScan :=
  if limits.maximumStringBytes < scan.token.length + 1 then
    .error (limitExceeded "dependency_output.member" "string-bytes")
  else .ok { scan with token := scan.token ++ [byte] }

/-- The loop over the bytes behind the colon. The first argument is how many bytes are passed over
    because a round before has already advanced the index beyond them. -/
def dependencies : Nat → DependencyScan → Bytes → Result DependencyScan
  | _, scan, [] => .ok scan
  | skip + 1, scan, _ :: rest => dependencies skip scan rest
  | 0, scan, byte :: rest =>
    if byte = 0x5c then
      match rest.head? with
      | none => .error (inputInvalid "dependency_output" "dangling-escape")
      | some next =>
        if next = 0x0a then dependencies 1 scan rest
        else if next = 0x0d ∧ rest[1]? = some 0x0a then dependencies 2 scan rest
        else do
          let scan ← scan.push limits next
          dependencies 1 scan rest
    else if byte = 0x24 ∧ rest.head? = some 0x24 then do
      let scan ← scan.push limits 0x24
      dependencies 1 scan rest
    else if byte = 0x23 ∨ byte = 0x0a ∨ byte = 0x0d then .ok scan
    else if asciiSpace byte then do
      let scan ← scan.append limits
      dependencies 0 scan rest
    else do
      let scan ← scan.push limits byte
      dependencies 0 scan rest

/-- The loop and the token it leaves. -/
def finishDependencies (scan : DependencyScan) (text : Bytes) : Result (List Bytes) := do
  let scan ← dependencies limits 0 scan text
  let scan ← scan.append limits
  .ok scan.output

end Parser

/-- `parse_gcc_16_2_dependency_output` -/
def parseGcc162DependencyOutput (content : Bytes) (limits : ImportLimits) :
    Result (List Bytes) := do
  limits.validate
  if 0 ∈ content then .error (inputInvalid "dependency_output" "nul-byte")
  else do
    let rest ← afterTarget false content
    let output ← finishDependencies limits {} rest
    if output = [] then .error (inputInvalid "dependency_output" "empty-prerequisites")
    else .ok output

/-! ## GCC's writer -/

/-- The quoting of a path, `backslashes` of which stand directly in front. A blank is written behind
    a backslash and doubles the backslashes in front of it; other backslashes are written as they
    are. -/
def makeQuoteFrom : Nat → Bytes → Bytes
  | _, [] => []
  | backslashes, byte :: rest =>
    if byte = 0x24 then 0x24 :: 0x24 :: makeQuoteFrom 0 rest
    else if byte = 0x23 then 0x5c :: 0x23 :: makeQuoteFrom 0 rest
    else if byte = 0x20 ∨ byte = 0x09 then
      List.replicate backslashes 0x5c ++ 0x5c :: byte :: makeQuoteFrom 0 rest
    else if byte = 0x5c then 0x5c :: makeQuoteFrom (backslashes + 1) rest
    else byte :: makeQuoteFrom 0 rest

def makeQuote (path : Bytes) : Bytes :=
  makeQuoteFrom 0 path

/-- What stands in front of a prerequisite. -/
inductive Break where
  | space
  /-- A space, a backslash, a newline and a space. -/
  | continued
  deriving DecidableEq, Repr

def Break.text : Break → Bytes
  | .space => [0x20]
  | .continued => [0x20, 0x5c, 0x0a, 0x20]

/-- A path that is a prerequisite, and what is written in front of it. -/
structure Prerequisite where
  lead : Break
  path : Bytes
  nonempty : path ≠ []
  noNul : 0 ∉ path
  noLineEnd : 0x0d ∉ path ∧ 0x0a ∉ path

def Prerequisite.text (prerequisite : Prerequisite) : Bytes :=
  prerequisite.lead.text ++ makeQuote prerequisite.path

/-- A rule as GCC writes it. -/
def writeRule (target : Bytes) (prerequisites : List Prerequisite) (ending : Bytes) : Bytes :=
  target ++ 0x3a :: (prerequisites.flatMap Prerequisite.text ++ ending)

/-- The bytes of a target that no backslash escapes, the backslashes aside. -/
def unescapedBytes : Bool → Bytes → Bytes
  | _, [] => []
  | escaped, byte :: rest =>
    if escaped then unescapedBytes false rest
    else if byte = 0x5c then unescapedBytes true rest
    else byte :: unescapedBytes false rest

/-- The text ends with a backslash that escapes what comes next. -/
def endsEscaped : Bool → Bytes → Bool
  | escaped, [] => escaped
  | escaped, byte :: rest =>
    if escaped then endsEscaped false rest else endsEscaped (byte == 0x5c) rest

/-- A path every backslash of which leads up to a blank, and that has no vertical tab and no form
    feed: bytes that are neither, and runs of backslashes with a blank behind them. -/
inductive Recoverable : Bytes → Prop
  | nil : Recoverable []
  | byte {byte : UInt8} {rest : Bytes} : byte ≠ 0x5c → byte ≠ 0x0b → byte ≠ 0x0c →
      Recoverable rest → Recoverable (byte :: rest)
  | run (backslashes : Nat) {blank : UInt8} {rest : Bytes} : blank = 0x20 ∨ blank = 0x09 →
      Recoverable rest → Recoverable (List.replicate backslashes 0x5c ++ blank :: rest)

/-! ## Reading bytes -/

section Reading

variable {limits : ImportLimits}

/-- The locals of the loop with the total of what is finished. -/
def DependencyScan.holding (output : List Bytes) (token : Bytes) : DependencyScan :=
  { output := output, token := token, metadataBytes := (output.map List.length).sum }

theorem DependencyScan.push_eq_ok {output : List Bytes} {token : Bytes} (byte : UInt8)
    (h : token.length + 1 ≤ limits.maximumStringBytes) :
    (holding output token).push limits byte = .ok (holding output (token ++ [byte])) := by
  unfold push holding
  rw [if_neg (by simpa using h)]

theorem DependencyScan.append_eq_ok {output : List Bytes} {token : Bytes} (hne : token ≠ [])
    (hadmits : limits.Admits limits.maximumSourceClosureMembers (output ++ [token])) :
    (holding output token).append limits = .ok (holding (output ++ [token]) []) := by
  obtain ⟨-, hcount, heach, htotal⟩ := hadmits
  simp only [List.length_append, List.length_singleton] at hcount
  simp only [List.map_append, List.map_cons, List.map_nil, List.sum_append, List.sum_cons,
    List.sum_nil] at htotal
  have hlength := heach token (by simp)
  unfold append holding
  simp only [if_neg hne]
  rw [if_neg (by omega), if_neg (by omega), if_neg (by omega)]
  simp

/-- A byte that stands for itself. -/
theorem dependencies_byte {output : List Bytes} {token rest : Bytes} {byte : UInt8}
    (hspecial : byte ≠ 0x5c ∧ byte ≠ 0x24 ∧ byte ≠ 0x23 ∧ byte ≠ 0x0a ∧ byte ≠ 0x0d)
    (hspace : asciiSpace byte = false) (h : token.length + 1 ≤ limits.maximumStringBytes) :
    dependencies limits 0 (.holding output token) (byte :: rest) =
      dependencies limits 0 (.holding output (token ++ [byte])) rest := by
  rw [dependencies.eq_def]
  simp only [hspecial.1, hspecial.2.1, hspecial.2.2.1, hspecial.2.2.2.1, hspecial.2.2.2.2, hspace,
    if_false, false_and, or_self, Bool.false_eq_true, DependencyScan.push_eq_ok byte h,
    Fallible.ok_bind]

/-- `$$` stands for a dollar. -/
theorem dependencies_dollar {output : List Bytes} {token rest : Bytes}
    (h : token.length + 1 ≤ limits.maximumStringBytes) :
    dependencies limits 0 (.holding output token) (0x24 :: 0x24 :: rest) =
      dependencies limits 0 (.holding output (token ++ [0x24])) rest := by
  rw [dependencies.eq_def]
  simp [DependencyScan.push_eq_ok _ h, dependencies]

/-- A backslash takes the byte behind it as it is, unless that ends the line. -/
theorem dependencies_escaped {output : List Bytes} {token rest : Bytes} {byte : UInt8}
    (hline : byte ≠ 0x0a ∧ byte ≠ 0x0d) (h : token.length + 1 ≤ limits.maximumStringBytes) :
    dependencies limits 0 (.holding output token) (0x5c :: byte :: rest) =
      dependencies limits 0 (.holding output (token ++ [byte])) rest := by
  rw [dependencies.eq_def]
  simp [DependencyScan.push_eq_ok _ h, dependencies, hline]

/-- Two backslashes stand for one. -/
theorem dependencies_backslashes {output : List Bytes} {token rest : Bytes} (count : Nat)
    (h : token.length + count ≤ limits.maximumStringBytes) :
    dependencies limits 0 (.holding output token) (List.replicate (2 * count) 0x5c ++ rest) =
      dependencies limits 0 (.holding output (token ++ List.replicate count 0x5c)) rest := by
  induction count generalizing token with
  | zero => simp
  | succ count ih =>
    have hrest := @ih (token ++ [0x5c]) (by simp; omega)
    rw [Nat.mul_add, Nat.mul_one, List.replicate_succ, List.replicate_succ, List.cons_append,
      List.cons_append, dependencies_escaped (by decide) (by omega), hrest, List.append_assoc,
      List.singleton_append, ← List.replicate_succ]

/-- An odd number of backslashes takes the byte behind them as it is. -/
theorem dependencies_backslashes_escaped {output : List Bytes} {token rest : Bytes} (count : Nat)
    {byte : UInt8} (hline : byte ≠ 0x0a ∧ byte ≠ 0x0d)
    (h : token.length + count + 1 ≤ limits.maximumStringBytes) :
    dependencies limits 0 (.holding output token)
        (List.replicate (2 * count + 1) 0x5c ++ byte :: rest) =
      dependencies limits 0 (.holding output (token ++ List.replicate count 0x5c ++ [byte]))
        rest := by
  rw [List.replicate_succ', List.append_assoc, dependencies_backslashes count (by omega),
    List.singleton_append, dependencies_escaped hline (by simp; omega)]

/-- Whitespace finishes the token. -/
theorem dependencies_space {output : List Bytes} {token rest : Bytes} {byte : UInt8}
    (hspace : asciiSpace byte = true) (hline : byte ≠ 0x0a ∧ byte ≠ 0x0d) (hne : token ≠ [])
    (hadmits : limits.Admits limits.maximumSourceClosureMembers (output ++ [token])) :
    dependencies limits 0 (.holding output token) (byte :: rest) =
      dependencies limits 0 (.holding (output ++ [token]) []) rest := by
  have hspecial : byte ≠ 0x5c ∧ byte ≠ 0x24 ∧ byte ≠ 0x23 := by
    refine ⟨?_, ?_, ?_⟩ <;> (rintro rfl; exact absurd hspace (by decide))
  rw [dependencies.eq_def]
  simp only [hspecial.1, hspecial.2.1, hspecial.2.2, hline.1, hline.2, hspace, if_false,
    if_true, false_and, or_self, DependencyScan.append_eq_ok hne hadmits, Fallible.ok_bind]

/-- Whitespace without a token in front of it is passed over. -/
theorem dependencies_space_nil {output : List Bytes} {rest : Bytes} {byte : UInt8}
    (hspace : asciiSpace byte = true) (hline : byte ≠ 0x0a ∧ byte ≠ 0x0d) :
    dependencies limits 0 (.holding output []) (byte :: rest) =
      dependencies limits 0 (.holding output []) rest := by
  have hspecial : byte ≠ 0x5c ∧ byte ≠ 0x24 ∧ byte ≠ 0x23 := by
    refine ⟨?_, ?_, ?_⟩ <;> (rintro rfl; exact absurd hspace (by decide))
  have happend : (DependencyScan.holding output []).append limits = .ok (.holding output []) := by
    simp [DependencyScan.append, DependencyScan.holding]
  rw [dependencies.eq_def]
  simp only [hspecial.1, hspecial.2.1, hspecial.2.2, hline.1, hline.2, hspace, if_false,
    if_true, false_and, or_self, happend, Fallible.ok_bind]

end Reading

/-! ## Quoting a path -/

theorem makeQuoteFrom_replicate (before count : Nat) (rest : Bytes) :
    makeQuoteFrom before (List.replicate count 0x5c ++ rest) =
      List.replicate count 0x5c ++ makeQuoteFrom (before + count) rest := by
  induction count generalizing before with
  | zero => rfl
  | succ count ih =>
    rw [List.replicate_succ, List.cons_append, makeQuoteFrom, if_neg (by decide),
      if_neg (by decide), if_neg (by decide), if_pos rfl, ih, Nat.add_assoc, Nat.add_comm 1 count,
      List.cons_append]

theorem makeQuote_run (count : Nat) {blank : UInt8} (rest : Bytes)
    (hblank : blank = 0x20 ∨ blank = 0x09) :
    makeQuote (List.replicate count 0x5c ++ blank :: rest) =
      List.replicate (2 * count + 1) 0x5c ++ blank :: makeQuote rest := by
  have hother : blank ≠ 0x24 ∧ blank ≠ 0x23 := by
    rcases hblank with rfl | rfl <;> decide
  rw [makeQuote, makeQuoteFrom_replicate, makeQuoteFrom, Nat.zero_add, if_neg hother.1,
    if_neg hother.2, if_pos hblank, Nat.two_mul, List.replicate_succ',
    ← List.replicate_append_replicate]
  simp only [List.append_assoc, List.singleton_append, makeQuote]

/-- A byte that is neither a blank nor a backslash, as it is written. -/
def makeQuoteByte (byte : UInt8) : Bytes :=
  if byte = 0x24 then [0x24, 0x24] else if byte = 0x23 then [0x5c, 0x23] else [byte]

theorem makeQuoteFrom_byte (before : Nat) {byte : UInt8} (rest : Bytes)
    (hbyte : byte ≠ 0x5c ∧ byte ≠ 0x20 ∧ byte ≠ 0x09) :
    makeQuoteFrom before (byte :: rest) = makeQuoteByte byte ++ makeQuote rest := by
  obtain ⟨hbackslash, hspace, htab⟩ := hbyte
  rw [makeQuoteFrom, makeQuoteByte]
  by_cases hdollar : byte = 0x24
  · simp [hdollar, makeQuote]
  · by_cases hhash : byte = 0x23
    · simp [hhash, makeQuote]
    · simp [hdollar, hhash, hbackslash, hspace, htab, makeQuote]

/-- Quoting keeps how often a byte occurs, dollars and backslashes aside. -/
theorem count_makeQuoteFrom {byte : UInt8} (hdollar : byte ≠ 0x24) (hbackslash : byte ≠ 0x5c)
    (before : Nat) (path : Bytes) :
    (makeQuoteFrom before path).count byte = path.count byte := by
  fun_induction makeQuoteFrom before path with
  | case1 => rfl
  | case2 before rest ih => simp [ih, hdollar.symm]
  | case3 before rest _ ih => simp [List.count_cons, ih, hbackslash.symm]
  | case4 before first rest _ _ _ ih =>
    simp [List.count_cons, List.count_append, List.count_replicate, ih, hbackslash.symm]
  | case5 before rest _ _ _ ih => simp [ih, hbackslash.symm]
  | case6 before first rest _ _ _ _ ih => simp [List.count_cons, ih]

/-! ## What a scan that succeeds returns -/

section Runs

variable {limits : ImportLimits}

/-- What a scan leads to goes on from its output and its token. -/
def DependencyScan.Extends (scan scan' : DependencyScan) : Prop :=
  ∃ more tokens, scan'.output ++ [scan'.token] = scan.output ++ (scan.token ++ more) :: tokens

namespace DependencyScan

theorem Extends.refl (scan : DependencyScan) : scan.Extends scan :=
  ⟨[], [], by simp⟩

theorem Extends.trans {scan scan' scan'' : DependencyScan} (h : scan.Extends scan')
    (h' : scan'.Extends scan'') : scan.Extends scan'' := by
  obtain ⟨more, tokens, heq⟩ := h
  obtain ⟨more', tokens', heq'⟩ := h'
  rcases List.eq_nil_or_concat tokens with rfl | ⟨tokens, last, rfl⟩
  · -- The token is still the one the first scan had begun.
    obtain ⟨houtput, htoken⟩ := List.append_inj' heq rfl
    rw [List.cons.injEq] at htoken
    refine ⟨more ++ more', tokens', ?_⟩
    rw [heq', houtput, htoken.1, List.append_assoc]
  · rw [List.concat_eq_append, ← List.cons_append, ← List.append_assoc] at heq
    obtain ⟨houtput, -⟩ := List.append_inj' heq rfl
    refine ⟨more, tokens ++ (scan'.token ++ more') :: tokens', ?_⟩
    rw [heq', houtput]
    simp

theorem extends_of_push {scan scan' : DependencyScan} {byte : UInt8}
    (h : scan.push limits byte = .ok scan') : scan.Extends scan' := by
  rw [push, Fallible.guard_eq_ok_iff] at h
  obtain ⟨-, rfl⟩ : _ ∧ _ = scan' := ⟨h.1, Except.ok.inj h.2⟩
  exact ⟨[byte], [], rfl⟩

theorem extends_of_append {scan scan' : DependencyScan}
    (h : scan.append limits = .ok scan') : scan.Extends scan' := by
  unfold append at h
  by_cases hnil : scan.token = []
  · rw [if_pos hnil] at h
    obtain rfl : scan = scan' := Except.ok.inj h
    exact .refl scan
  · rw [if_neg hnil, Fallible.guard_eq_ok_iff, Fallible.guard_eq_ok_iff,
      Fallible.guard_eq_ok_iff] at h
    obtain rfl := Except.ok.inj h.2.2.2
    exact ⟨[], [[]], by simp⟩

/-- How often a byte occurs in what has been read. -/
def occurrences (scan : DependencyScan) (byte : UInt8) : Nat :=
  (scan.output.flatten ++ scan.token).count byte

theorem occurrences_of_push {scan scan' : DependencyScan} {byte : UInt8} (sought : UInt8)
    (h : scan.push limits byte = .ok scan') :
    scan'.occurrences sought = scan.occurrences sought + [byte].count sought := by
  rw [push, Fallible.guard_eq_ok_iff] at h
  obtain ⟨-, rfl⟩ : _ ∧ _ = scan' := ⟨h.1, Except.ok.inj h.2⟩
  simp only [occurrences, List.count_append, Nat.add_assoc]

theorem occurrences_of_append {scan scan' : DependencyScan} (sought : UInt8)
    (h : scan.append limits = .ok scan') :
    scan'.occurrences sought = scan.occurrences sought := by
  unfold append at h
  by_cases hnil : scan.token = []
  · rw [if_pos hnil] at h
    obtain rfl : scan = scan' := Except.ok.inj h
    rfl
  · rw [if_neg hnil, Fallible.guard_eq_ok_iff, Fallible.guard_eq_ok_iff,
      Fallible.guard_eq_ok_iff] at h
    obtain rfl := Except.ok.inj h.2.2.2
    simp [occurrences]

end DependencyScan

theorem extends_of_dependencies (skip : Nat) (scan : DependencyScan) (text : Bytes)
    {scan' : DependencyScan} (h : dependencies limits skip scan text = .ok scan') :
    scan.Extends scan' := by
  induction text generalizing skip scan with
  | nil =>
    cases skip <;> (obtain rfl := Except.ok.inj h; exact .refl scan)
  | cons byte rest ih =>
    cases skip with
    | succ skip => exact ih skip scan h
    | zero =>
      rw [dependencies.eq_def] at h
      have hpush : ∀ (pushed : UInt8) (skip : Nat),
          (scan.push limits pushed >>= fun scan => dependencies limits skip scan rest) =
            .ok scan' → scan.Extends scan' := by
        intro pushed skip h
        obtain ⟨next, hnext, hrest⟩ := Fallible.bind_eq_ok_iff.1 h
        exact (DependencyScan.extends_of_push hnext).trans (ih skip next hrest)
      dsimp only at h
      split_ifs at h with hbackslash hdollar hend hspace
      · cases hhead : rest.head? with
        | none => simp [hhead] at h
        | some next =>
          simp only [hhead] at h
          split_ifs at h with hline hreturn
          · exact ih 1 scan h
          · exact ih 2 scan h
          · exact hpush next 1 h
      · exact hpush 0x24 1 h
      · obtain rfl := Except.ok.inj h
        exact .refl scan
      · obtain ⟨next, hnext, hrest⟩ := Fallible.bind_eq_ok_iff.1 h
        exact (DependencyScan.extends_of_append hnext).trans (ih 0 next hrest)
      · exact hpush byte 0 h

/-- A byte is read at most as often as it stands in the text. -/
theorem occurrences_of_dependencies (sought : UInt8) (skip : Nat) (scan : DependencyScan)
    (text : Bytes) {scan' : DependencyScan} (h : dependencies limits skip scan text = .ok scan') :
    scan'.occurrences sought ≤ scan.occurrences sought + (text.drop skip).count sought := by
  induction text generalizing skip scan with
  | nil =>
    cases skip <;> (obtain rfl := Except.ok.inj h; simp)
  | cons byte rest ih =>
    cases skip with
    | succ skip => simpa using ih skip scan h
    | zero =>
      rw [dependencies.eq_def] at h
      have hdrop : ∀ skip, (rest.drop skip).count sought ≤ rest.count sought :=
        fun skip => (List.drop_sublist skip rest).count_le sought
      have hpush : ∀ (pushed : UInt8) (skip : Nat),
          (scan.push limits pushed >>= fun scan => dependencies limits skip scan rest) =
            .ok scan' → scan'.occurrences sought ≤
              scan.occurrences sought + (pushed :: rest.drop skip).count sought := by
        intro pushed skip h
        obtain ⟨next, hnext, hrest⟩ := Fallible.bind_eq_ok_iff.1 h
        have := DependencyScan.occurrences_of_push sought hnext
        have := ih skip next hrest
        rw [List.count_cons]
        rw [List.count_singleton] at *
        omega
      have hcons : rest.count sought ≤ (byte :: rest).count sought :=
        (List.sublist_cons_self byte rest).count_le sought
      rw [List.drop_zero]
      dsimp only at h
      split_ifs at h with hbackslash hdollar hend hspace
      · cases hhead : rest.head? with
        | none => simp [hhead] at h
        | some next =>
          simp only [hhead] at h
          split_ifs at h with hline hreturn
          · have := ih 1 scan h
            have := hdrop 1
            omega
          · have := ih 2 scan h
            have := hdrop 2
            omega
          · -- The byte that is pushed is the one that is passed over.
            have hnext := hpush next 1 h
            obtain ⟨more, rfl⟩ := List.head?_eq_some_iff.1 hhead
            simp only [List.drop_one, List.tail_cons] at hnext
            omega
      · have hnext := hpush 0x24 1 h
        obtain ⟨more, rfl⟩ := List.head?_eq_some_iff.1 hdollar.2
        simp only [List.drop_one, List.tail_cons] at hnext
        omega
      · obtain rfl := Except.ok.inj h
        omega
      · obtain ⟨next, hnext, hrest⟩ := Fallible.bind_eq_ok_iff.1 h
        have := DependencyScan.occurrences_of_append sought hnext
        have := ih 0 next hrest
        rw [List.drop_zero] at this
        omega
      · exact hpush byte 0 h

/-! ### The token that is left -/

theorem finishDependencies_nil {output : List Bytes} :
    finishDependencies limits (.holding output []) [] = .ok output := rfl

/-- What is returned goes on from the token that has been begun. -/
theorem token_prefix_of_finish {scan : DependencyScan} {text path : Bytes} {others : List Bytes}
    (h : finishDependencies limits scan text = .ok (scan.output ++ path :: others)) :
    scan.token <+: path := by
  simp only [finishDependencies, Fallible.bind_eq_ok_iff, Except.ok.injEq] at h
  obtain ⟨scan', hrun, final, hfinal, houtput⟩ := h
  obtain ⟨more, tokens, heq⟩ := (extends_of_dependencies 0 scan text hrun).trans
    (DependencyScan.extends_of_append hfinal)
  rw [houtput, List.append_assoc, List.cons_append] at heq
  have hcons := List.append_cancel_left heq
  rw [List.cons.injEq] at hcons
  exact ⟨more, hcons.1.symm⟩

/-- Bytes that are lost are missing in what is returned. -/
theorem count_of_finish (sought : UInt8) {scan : DependencyScan} {text : Bytes}
    {result : List Bytes} (h : finishDependencies limits scan text = .ok result) :
    result.flatten.count sought ≤ scan.occurrences sought + text.count sought := by
  simp only [finishDependencies, Fallible.bind_eq_ok_iff, Except.ok.injEq] at h
  obtain ⟨scan', hrun, final, hfinal, rfl⟩ := h
  have hcount := occurrences_of_dependencies sought 0 scan text hrun
  rw [List.drop_zero, ← DependencyScan.occurrences_of_append sought hfinal,
    DependencyScan.occurrences, List.count_append] at hcount
  omega

/-- A token that has been finished is returned. -/
theorem eq_of_finish_append {output : List Bytes} {token text path : Bytes} {others : List Bytes}
    (h : finishDependencies limits (.holding (output ++ [token]) []) text =
      .ok (output ++ path :: others)) : token = path := by
  simp only [finishDependencies, Fallible.bind_eq_ok_iff, Except.ok.injEq] at h
  obtain ⟨scan', hrun, final, hfinal, houtput⟩ := h
  obtain ⟨more, tokens, heq⟩ := (extends_of_dependencies 0 _ text hrun).trans
    (DependencyScan.extends_of_append hfinal)
  simp only [houtput, DependencyScan.holding, List.append_assoc, List.cons_append] at heq
  have hcons := List.append_cancel_left heq
  rw [List.cons.injEq] at hcons
  exact hcons.1.symm

end Runs

end Cxxlens.Sdk.Capture
