import Cxxlens.Foundation.Fallible
import Cxxlens.Sdk.Capture.ShellWords

set_option autoImplicit false

/-! # The words of a POSIX shell

What a shell makes of a command, from the rules of the shell language: first its marks by the
quoting rules, then its words by token recognition, then whether it is one simple command without
expansions. The scanner of the source takes a carriage return and a newline for blanks, and knows
nothing of tildes, assignments and reserved words; these are the texts on which the two differ. -/

namespace Cxxlens.Sdk.Capture

/-! ## The shell language -/

/-- What the quoting rules make of the bytes of a command. -/
inductive Mark where
  | blank
  | newline
  /-- A byte without quotes, which may have a meaning of its own. -/
  | plain (byte : UInt8)
  /-- A byte that stands for itself. -/
  | quoted (byte : UInt8)
  /-- A dollar or a backtick in double quotes. -/
  | expansion (byte : UInt8)
  /-- Quotes begin, which makes a word even of nothing. -/
  | quotes
  deriving DecidableEq, Repr

/-- The quoting rules. Backslash and newline are removed together; in double quotes a backslash
    escapes a dollar, a backtick, a double quote, a backslash and a newline only. -/
def posixMarks : QuoteState → Bytes → Option (List Mark)
  | .unquoted, [] => some []
  | .single, [] => none
  | .doubleQuoted, [] => none
  | .single, byte :: rest =>
    if byte = 0x27 then posixMarks .unquoted rest
    else (posixMarks .single rest).map (.quoted byte :: ·)
  | .doubleQuoted, byte :: rest =>
    if byte = 0x22 then posixMarks .unquoted rest
    else if byte = 0x5c then
      match rest with
      | [] => none
      | escaped :: rest =>
        if escaped = 0x0a then posixMarks .doubleQuoted rest
        else if escaped = 0x24 ∨ escaped = 0x60 ∨ escaped = 0x22 ∨ escaped = 0x5c then
          (posixMarks .doubleQuoted rest).map (.quoted escaped :: ·)
        else (posixMarks .doubleQuoted rest).map (.quoted 0x5c :: .quoted escaped :: ·)
    else if byte = 0x24 ∨ byte = 0x60 then
      (posixMarks .doubleQuoted rest).map (.expansion byte :: ·)
    else (posixMarks .doubleQuoted rest).map (.quoted byte :: ·)
  | .unquoted, byte :: rest =>
    if byte = 0x20 ∨ byte = 0x09 then (posixMarks .unquoted rest).map (.blank :: ·)
    else if byte = 0x0a then (posixMarks .unquoted rest).map (.newline :: ·)
    else if byte = 0x27 then (posixMarks .single rest).map (.quotes :: ·)
    else if byte = 0x22 then (posixMarks .doubleQuoted rest).map (.quotes :: ·)
    else if byte = 0x5c then
      match rest with
      | [] => none
      | escaped :: rest =>
        if escaped = 0x0a then posixMarks .unquoted rest
        else (posixMarks .unquoted rest).map (.quoted escaped :: ·)
    else (posixMarks .unquoted rest).map (.plain byte :: ·)

/-- The words between separators; `current` is the word that has been begun. -/
def wordsFrom (separates : Mark → Bool) : List Mark → List Mark → List (List Mark)
  | current, [] => if current = [] then [] else [current]
  | current, mark :: rest =>
    if separates mark then
      (if current = [] then [] else [current]) ++ wordsFrom separates [] rest
    else wordsFrom separates (current ++ [mark]) rest

/-- Blanks and newlines separate words. -/
def Mark.separates : Mark → Bool
  | .blank => true
  | .newline => true
  | _ => false

def posixWords (marks : List Mark) : List (List Mark) :=
  wordsFrom Mark.separates [] marks

/-- The bytes a mark is after quote removal. -/
def Mark.bytes : Mark → Bytes
  | .plain byte => [byte]
  | .quoted byte => [byte]
  | .expansion byte => [byte]
  | _ => []

def wordBytes (word : List Mark) : Bytes :=
  word.flatMap Mark.bytes

/-- The bytes that without quotes begin an expansion or are operators. -/
def shellSpecial (byte : UInt8) : Bool :=
  byte == 0x24 || byte == 0x60 || shellOperator byte || byte == 0x2a || byte == 0x3f || byte == 0x5b

/-- A tilde that nothing up to the first slash is quoted behind. -/
def tildePrefix (word : List Mark) : Bool :=
  word.head? == some (.plain 0x7e) &&
    (word.takeWhile (· != .plain 0x2f)).all fun mark =>
      match mark with
      | .plain _ => true
      | _ => false

/-- A letter or an underscore; behind the first byte of a name also a digit. -/
def nameByte (first : Bool) (byte : UInt8) : Bool :=
  decide (0x41 ≤ byte ∧ byte ≤ 0x5a) || decide (0x61 ≤ byte ∧ byte ≤ 0x7a) || byte == 0x5f ||
    (!first && decide (0x30 ≤ byte ∧ byte ≤ 0x39))

/-- A name and an equals sign, which make an assignment of a word. -/
def assignmentFrom : Bool → List Mark → Bool
  | first, .plain byte :: rest =>
    if byte = 0x3d then !first else nameByte first byte && assignmentFrom false rest
  | _, _ => false

/-- The reserved words of the shell language. -/
def reservedWords : List Bytes :=
  [ascii "!", ascii "\x7b", ascii "\x7d", ascii "case", ascii "do", ascii "done", ascii "elif",
    ascii "else", ascii "esac", ascii "fi", ascii "for", ascii "if", ascii "in", ascii "then",
    ascii "until", ascii "while"]

def reservedWord (word : List Mark) : Bool :=
  reservedWords.any fun reserved => word == reserved.map .plain

/-- No newline stands between two words, so that there is one command. -/
def OneCommand (marks : List Mark) : Prop :=
  ∀ before after, marks = before ++ .newline :: after →
    posixWords before = [] ∨ posixWords after = []

/-- No word begins with a tilde to expand, and the first word is a command. -/
structure Undisturbed (marks : List Mark) : Prop where
  oneCommand : OneCommand marks
  tildes : ∀ word ∈ posixWords marks, tildePrefix word = false
  command : ∀ word, (posixWords marks).head? = some word →
    assignmentFrom true word = false ∧ reservedWord word = false

/-- The command is one simple command in which the shell expands, redirects and comments nothing. -/
structure Simple (marks : List Mark) : Prop where
  noExpansion : ∀ byte, .expansion byte ∉ marks
  noSpecial : ∀ byte, .plain byte ∈ marks → shellSpecial byte = false
  noComment : ∀ word ∈ posixWords marks, word.head? ≠ some (.plain 0x23)
  undisturbed : Undisturbed marks

/-- The arguments a shell passes for a command that is a simple one. -/
def PosixCommand (command : Bytes) (arguments : List Bytes) : Prop :=
  ∃ marks, posixMarks .unquoted command = some marks ∧ Simple marks ∧
    arguments = (posixWords marks).map wordBytes

/-! ## What the scanner reads -/

/-- What separates words for the scanner: a carriage return too. -/
def Mark.scannerSeparates (mark : Mark) : Bool :=
  mark.separates || mark == .plain 0x0d

/-- The scanner has read marks behind a word that had been begun, and has finished the words between
    what it takes for separators. -/
structure Scanned (scan final : ShellScan) (current marks : List Mark) : Prop where
  output : final.output =
    scan.output ++ (wordsFrom Mark.scannerSeparates current marks).map wordBytes
  noExpansion : ∀ byte, .expansion byte ∉ marks
  noSpecial : ∀ byte, .plain byte ∈ marks → shellSpecial byte = false
  noComment : current.head? ≠ some (.plain 0x23) →
    ∀ word ∈ wordsFrom Mark.scannerSeparates current marks, word.head? ≠ some (.plain 0x23)

/-- The word of a scan is the one that has been begun. -/
structure Begun (scan : ShellScan) (current : List Mark) : Prop where
  started : scan.wordStarted = !current.isEmpty
  word : scan.word = wordBytes current

section Scanner

variable {limits : ImportLimits} {field : Bytes} {scan scan' final : ShellScan}
  {current marks : List Mark} {mark : Mark}

theorem wordBytes_append (left right : List Mark) :
    wordBytes (left ++ right) = wordBytes left ++ wordBytes right :=
  List.flatMap_append

/-- A mark goes on with the word. -/
theorem Scanned.cons (h : Scanned scan' final (current ++ [mark]) marks)
    (houtput : scan'.output = scan.output) (hseparates : mark.scannerSeparates = false)
    (hexpansion : ∀ byte, mark ≠ .expansion byte)
    (hspecial : ∀ byte, mark = .plain byte → shellSpecial byte = false)
    (hcomment : current = [] → mark ≠ .plain 0x23) :
    Scanned scan final current (mark :: marks) where
  output := by
    rw [h.output, houtput, wordsFrom, hseparates]
    rfl
  noExpansion byte hmem := by
    rcases List.mem_cons.1 hmem with heq | hmem
    · exact hexpansion byte heq.symm
    · exact h.noExpansion byte hmem
  noSpecial byte hmem := by
    rcases List.mem_cons.1 hmem with heq | hmem
    · exact hspecial byte heq.symm
    · exact h.noSpecial byte hmem
  noComment hcurrent := by
    rw [wordsFrom, hseparates]
    refine h.noComment ?_
    rcases current with _ | ⟨first, current⟩
    · simpa using hcomment rfl
    · simpa using hcurrent

/-- A separator finishes the word. -/
theorem Scanned.separate (h : Scanned scan' final [] marks) (hbegun : Begun scan current)
    (hfinish : scan.finishWord limits field = .ok scan') (hseparates : mark.scannerSeparates = true)
    (hexpansion : ∀ byte, mark ≠ .expansion byte)
    (hspecial : ∀ byte, mark = .plain byte → shellSpecial byte = false) :
    Scanned scan final current (mark :: marks) where
  output := by
    rw [h.output, wordsFrom, if_pos hseparates, List.map_append, ← List.append_assoc]
    congr 1
    unfold ShellScan.finishWord at hfinish
    rw [hbegun.started] at hfinish
    rcases current with _ | ⟨first, current⟩
    · obtain rfl := Except.ok.inj hfinish
      simp
    · simp only [List.isEmpty_cons, Bool.not_false, Bool.true_eq_false, if_false,
        Fallible.guard_eq_ok_iff, Fallible.bind_eq_ok_iff, Except.ok.injEq] at hfinish
      obtain ⟨-, -, total, -, rfl⟩ := hfinish
      simp [hbegun.word]
  noExpansion byte hmem := by
    rcases List.mem_cons.1 hmem with heq | hmem
    · exact hexpansion byte heq.symm
    · exact h.noExpansion byte hmem
  noSpecial byte hmem := by
    rcases List.mem_cons.1 hmem with heq | hmem
    · exact hspecial byte heq.symm
    · exact h.noSpecial byte hmem
  noComment hcurrent := by
    rw [wordsFrom, if_pos hseparates]
    intro word hword
    rcases List.mem_append.1 hword with hword | hword
    · split_ifs at hword with hnil
      · exact absurd hword (by simp)
      · rw [List.mem_singleton.1 hword]
        exact hcurrent
    · exact h.noComment (by simp) word hword

/-- A scan whose word is finished has begun none. -/
theorem begun_of_finishWord (hbegun : Begun scan current)
    (hfinish : scan.finishWord limits field = .ok scan') : Begun scan' [] := by
  unfold ShellScan.finishWord at hfinish
  rw [hbegun.started] at hfinish
  rcases current with _ | ⟨first, current⟩
  · obtain rfl := Except.ok.inj hfinish
    exact hbegun
  · simp only [List.isEmpty_cons, Bool.not_false, Bool.true_eq_false, if_false,
      Fallible.guard_eq_ok_iff, Fallible.bind_eq_ok_iff, Except.ok.injEq] at hfinish
    obtain ⟨-, -, total, -, rfl⟩ := hfinish
    exact ⟨rfl, rfl⟩

/-- The end of the command finishes the last word. -/
theorem scanned_nil (hbegun : Begun scan current)
    (hfinish : scan.finishWord limits field = .ok final) : Scanned scan final current [] where
  output := by
    unfold ShellScan.finishWord at hfinish
    rw [hbegun.started] at hfinish
    rcases current with _ | ⟨first, current⟩
    · obtain rfl := Except.ok.inj hfinish
      simp [wordsFrom]
    · simp only [List.isEmpty_cons, Bool.not_false, Bool.true_eq_false, if_false,
        Fallible.guard_eq_ok_iff, Fallible.bind_eq_ok_iff, Except.ok.injEq] at hfinish
      obtain ⟨-, -, total, -, rfl⟩ := hfinish
      simp [wordsFrom, hbegun.word]
  noExpansion byte hmem := nomatch hmem
  noSpecial byte hmem := nomatch hmem
  noComment hcurrent := by
    intro word hword
    rw [wordsFrom] at hword
    split_ifs at hword with hnil
    · exact absurd hword (by simp)
    · rw [List.mem_singleton.1 hword]
      exact hcurrent

theorem Begun.push (hbegun : Begun scan current) (hne : current ≠ []) (mark : Mark)
    {value : Bytes} (hbytes : mark.bytes = value) :
    Begun { scan with word := scan.word ++ value } (current ++ [mark]) where
  started := by
    rcases current with _ | ⟨first, current⟩
    · exact absurd rfl hne
    · simpa using hbegun.started
  word := by
    rw [wordBytes_append, ← hbegun.word]
    simp [wordBytes, hbytes]

theorem Begun.start (hbegun : Begun scan current) (mark : Mark) {value : Bytes}
    (hbytes : mark.bytes = value) :
    Begun { scan with word := scan.word ++ value, wordStarted := true } (current ++ [mark]) where
  started := by simp
  word := by
    rw [wordBytes_append, ← hbegun.word]
    simp [wordBytes, hbytes]

/-- What the scanner takes for a space is a mark that separates for it. -/
theorem marks_of_shellSpace {value : UInt8} {rest : Bytes} (hspace : shellSpace value = true)
    (hmarks : posixMarks .unquoted rest = some marks) :
    ∃ mark : Mark, posixMarks .unquoted (value :: rest) = some (mark :: marks) ∧
      mark.scannerSeparates = true ∧ (∀ byte, mark ≠ .expansion byte) ∧
      ∀ byte, mark = .plain byte → shellSpecial byte = false := by
  have hvalue : value = 0x20 ∨ value = 0x09 ∨ value = 0x0a ∨ value = 0x0d := by
    simpa [shellSpace, or_assoc] using hspace
  rcases hvalue with rfl | rfl | rfl | rfl
  · exact ⟨.blank, by unfold posixMarks; simp [hmarks], rfl, by simp, by simp⟩
  · exact ⟨.blank, by unfold posixMarks; simp [hmarks], rfl, by simp, by simp⟩
  · exact ⟨.newline, by unfold posixMarks; simp [hmarks], rfl, by simp, by simp⟩
  · exact ⟨.plain 0x0d, by unfold posixMarks; simp [hmarks], rfl, by simp,
      fun byte hbyte => Mark.plain.inj hbyte ▸ by decide⟩

/-- The marks of an escape in double quotes. -/
theorem marks_of_doubleQuotedEscape {escaped : UInt8} {rest : Bytes}
    (hmarks : posixMarks .doubleQuoted rest = some marks) (hnewline : escaped ≠ 0x0a) :
    posixMarks .doubleQuoted (0x5c :: escaped :: rest) =
      some ((doubleQuotedEscape escaped).map .quoted ++ marks) := by
  unfold posixMarks doubleQuotedEscape
  simp only [hmarks]
  grind

/-- Marks that stand for themselves go on with the word. -/
theorem Scanned.quoted {value : Bytes} (hne : current ≠ [])
    (h : Scanned scan' final (current ++ value.map .quoted) marks)
    (houtput : scan'.output = scan.output) :
    Scanned scan final current (value.map .quoted ++ marks) := by
  induction value generalizing scan current with
  | nil =>
    rw [List.map_nil, List.append_nil] at h
    exact ⟨houtput ▸ h.output, h.noExpansion, h.noSpecial, h.noComment⟩
  | cons byte value ih =>
    have hrest : Scanned scan final (current ++ [.quoted byte]) (value.map .quoted ++ marks) :=
      ih (by simp) (by simpa using h) houtput
    exact hrest.cons rfl rfl (by simp) (by simp) (by simp)

theorem wordBytes_quoted (value : Bytes) : wordBytes (value.map .quoted) = value := by
  induction value with
  | nil => rfl
  | cons byte value ih =>
    rw [List.map_cons, wordBytes, List.flatMap_cons, ← wordBytes, ih]
    rfl

theorem Begun.quoted (hbegun : Begun scan current) (hne : current ≠ []) (value : Bytes) :
    Begun { scan with word := scan.word ++ value } (current ++ value.map .quoted) where
  started := by
    rcases current with _ | ⟨first, current⟩
    · exact absurd rfl hne
    · simpa using hbegun.started
  word := by
    rw [wordBytes_append, ← hbegun.word, wordBytes_quoted]

theorem Begun.quotes (hbegun : Begun scan current) :
    Begun scan.start (current ++ [.quotes]) where
  started := by simp [ShellScan.start]
  word := by
    rw [wordBytes_append, ← hbegun.word]
    simp [wordBytes, Mark.bytes, ShellScan.start]

/-- A text that is scanned to its end has marks, and the scanner has read them. -/
theorem scanned_of_shellWords {state : QuoteState} {text : Bytes}
    (h : shellWords limits field state scan text = .ok final) (hbegun : Begun scan current)
    (hquotes : state ≠ .unquoted → current ≠ []) :
    ∃ marks, posixMarks state text = some marks ∧ Scanned scan final current marks := by
  fun_induction shellWords limits field state scan text generalizing current with
  | case1 scan => exact ⟨[], rfl, scanned_nil hbegun h⟩
  | case2 | case3 | case7 | case9 | case10 | case15 | case16 | case18 | case19 => cases h
  | case4 scan rest ih =>
    obtain ⟨marks, hmarks, hscanned⟩ := ih h hbegun (absurd rfl)
    exact ⟨marks, by rw [posixMarks, if_pos rfl, hmarks], hscanned⟩
  | case5 scan value rest hvalue ih =>
    have hne := hquotes (by simp)
    obtain ⟨marks, hmarks, hscanned⟩ := ih h (hbegun.push hne (.quoted value) rfl) (by simp)
    exact ⟨.quoted value :: marks, by rw [posixMarks, if_neg hvalue, hmarks]; rfl,
      hscanned.cons rfl rfl (by simp) (by simp) (by simp)⟩
  | case6 scan rest ih =>
    obtain ⟨marks, hmarks, hscanned⟩ := ih h hbegun (absurd rfl)
    exact ⟨marks, by unfold posixMarks; simp [hmarks], hscanned⟩
  | case8 scan value rest hvalue hexpansion hescape ih =>
    have hne := hquotes (by simp)
    obtain ⟨marks, hmarks, hscanned⟩ := ih h (hbegun.push hne (.quoted value) rfl) (by simp)
    have hescape : value ≠ 0x5c := hescape
    refine ⟨.quoted value :: marks, ?_, hscanned.cons rfl rfl (by simp) (by simp) (by simp)⟩
    unfold posixMarks
    simp [hvalue, hescape, hexpansion, hmarks]
  | case11 scan value hvalue hexpansion hescape escaped rest hline ih =>
    obtain rfl : value = 0x5c := not_not.1 hescape
    have hne := hquotes (by simp)
    -- the source keeps the backslash of an escape that the shell keeps
    obtain ⟨marks, hmarks, hscanned⟩ := ih h (hbegun.quoted hne _) (by simp [hne])
    exact ⟨_, marks_of_doubleQuotedEscape hmarks (not_or.1 hline).1, hscanned.quoted hne rfl⟩
  | case12 scan value rest hspace ih =>
    obtain ⟨finished, hfinish, h⟩ := Fallible.bind_eq_ok_iff.1 h
    obtain ⟨marks, hmarks, hscanned⟩ :=
      ih finished h (begun_of_finishWord hbegun hfinish) (absurd rfl)
    obtain ⟨mark, hmarks, hseparates, hexpansion, hspecial⟩ := marks_of_shellSpace hspace hmarks
    exact ⟨_, hmarks, hscanned.separate hbegun hfinish hseparates hexpansion hspecial⟩
  | case13 scan rest hspace ih =>
    obtain ⟨marks, hmarks, hscanned⟩ :=
      ih h hbegun.quotes (by simp)
    exact ⟨.quotes :: marks, by unfold posixMarks; simp [hmarks],
      hscanned.cons rfl rfl (by simp) (by simp) (by simp)⟩
  | case14 scan rest hspace hsingle ih =>
    obtain ⟨marks, hmarks, hscanned⟩ :=
      ih h hbegun.quotes (by simp)
    exact ⟨.quotes :: marks, by unfold posixMarks; simp [hmarks],
      hscanned.cons rfl rfl (by simp) (by simp) (by simp)⟩
  | case17 scan escaped rest hline hspace hsingle hdouble ih =>
    obtain ⟨marks, hmarks, hscanned⟩ := ih h (hbegun.start (.quoted escaped) rfl) (absurd rfl)
    exact ⟨.quoted escaped :: marks, by unfold posixMarks; simp [hmarks, (not_or.1 hline).1],
      hscanned.cons rfl rfl (by simp) (by simp) (by simp)⟩
  | case20 scan value rest hspace hsingle hdouble hescape hexpansion hspecial ih =>
    obtain ⟨marks, hmarks, hscanned⟩ := ih h (hbegun.start (.plain value) rfl) (absurd rfl)
    have hblank : value ≠ 0x20 ∧ value ≠ 0x09 ∧ value ≠ 0x0a ∧ value ≠ 0x0d := by
      simpa [shellSpace, and_assoc] using hspace
    refine ⟨.plain value :: marks, ?_, hscanned.cons rfl ?_ (by simp) ?_ ?_⟩
    · unfold posixMarks
      simp [hblank, hsingle, hdouble, hescape, hmarks]
    · simp [Mark.scannerSeparates, Mark.separates, hblank]
    · intro byte hbyte
      obtain rfl := Mark.plain.inj hbyte
      simp only [not_or, Bool.not_eq_true] at hspecial hexpansion
      simp [shellSpecial, hspecial, hexpansion]
    · rintro rfl hcomment
      -- without a word that has been begun a number sign is refused
      have hstarted : scan.wordStarted = false := hbegun.started
      exact hspecial (Or.inr (Or.inr (Or.inr (Or.inr ⟨Mark.plain.inj hcomment, hstarted⟩))))

end Scanner

end Cxxlens.Sdk.Capture
