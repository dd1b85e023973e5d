import Cxxlens.Sdk.Capture.PosixWords

set_option autoImplicit false

/-! # Where the scanner and the shell agree

The words of the scanner are those of the shell as long as no carriage return stands outside of
quotes, and the command is the shell's as long as nothing in it is a tilde to expand, a second
command, an assignment or a reserved word. A list of words that is written between single quotes
comes back. -/

namespace Cxxlens.Sdk.Capture

/-! ## Carriage returns -/

section Words

variable {separates separates' : Mark → Bool}

theorem wordsFrom_congr (current marks : List Mark)
    (h : ∀ mark ∈ marks, separates mark = separates' mark) :
    wordsFrom separates current marks = wordsFrom separates' current marks := by
  induction marks generalizing current with
  | nil => rfl
  | cons mark marks ih =>
    have hrest := fun current => ih current fun mark hmark => h mark (List.mem_cons_of_mem _ hmark)
    rw [wordsFrom, wordsFrom, h mark List.mem_cons_self, hrest, hrest]

/-- The words together are the marks that do not separate. -/
theorem flatten_wordsFrom (current marks : List Mark) :
    (wordsFrom separates current marks).flatten =
      current ++ marks.filter (fun mark => !separates mark) := by
  induction marks generalizing current with
  | nil => by_cases hcurrent : current = [] <;> simp [wordsFrom, hcurrent]
  | cons mark marks ih =>
    rw [wordsFrom]
    by_cases hseparates : separates mark = true
    · rw [if_pos hseparates, List.flatten_append, ih]
      by_cases hcurrent : current = [] <;> simp [hseparates, hcurrent]
    · rw [if_neg hseparates, ih]
      simp [hseparates]

theorem flatten_wordBytes (words : List (List Mark)) :
    (words.map wordBytes).flatten = wordBytes words.flatten := by
  induction words with
  | nil => rfl
  | cons word words ih => rw [List.map_cons, List.flatten_cons, List.flatten_cons, ih,
      wordBytes_append]

end Words

theorem length_wordBytes_filter_le (marks : List Mark) (keeps : Mark → Bool) :
    (wordBytes (marks.filter keeps)).length ≤ (wordBytes marks).length := by
  induction marks with
  | nil => exact le_rfl
  | cons mark marks ih =>
    simp only [wordBytes] at ih
    by_cases hkeeps : keeps mark = true
    · simpa [wordBytes, hkeeps] using ih
    · simp only [wordBytes, hkeeps, List.filter_cons, if_false, Bool.false_eq_true,
        List.flatMap_cons, List.length_append]
      omega

/-- A byte that is dropped is missing. -/
theorem wordBytes_filter_ne {byte : UInt8} {marks : List Mark} (h : .plain byte ∈ marks) :
    wordBytes (marks.filter (· != .plain byte)) ≠ wordBytes marks := by
  obtain ⟨before, after, rfl⟩ := List.append_of_mem h
  intro heq
  have hbefore := length_wordBytes_filter_le before (· != .plain byte)
  have hafter := length_wordBytes_filter_le after (· != .plain byte)
  have hlength := congrArg List.length heq
  have hbyte : (wordBytes (.plain byte :: after)).length = (wordBytes after).length + 1 := rfl
  simp only [List.filter_append, wordBytes_append, List.length_append, List.filter_cons, hbyte,
    bne_self_eq_false, Bool.false_eq_true, if_false] at hlength
  omega

/-- The scanner and the shell take a text apart in the same way when nothing in it is a carriage
    return outside of quotes, and only then. -/
theorem scannerWords_eq_iff (marks : List Mark) :
    (wordsFrom Mark.scannerSeparates [] marks).map wordBytes = (posixWords marks).map wordBytes ↔
      .plain 0x0d ∉ marks := by
  constructor
  · intro heq hmem
    have hflat := congrArg List.flatten heq
    rw [flatten_wordBytes, flatten_wordBytes, posixWords, flatten_wordsFrom, flatten_wordsFrom]
      at hflat
    have hfilter : marks.filter (fun mark => !mark.scannerSeparates) =
        (marks.filter (fun mark => !mark.separates)).filter (· != .plain 0x0d) := by
      rw [List.filter_filter]
      refine List.filter_congr fun mark _ => ?_
      simp [Mark.scannerSeparates, bne, Bool.and_comm]
    rw [hfilter] at hflat
    exact wordBytes_filter_ne (List.mem_filter.2 ⟨hmem, rfl⟩) hflat
  · intro hmem
    rw [posixWords]
    refine congrArg _ (wordsFrom_congr [] marks fun mark hmark => ?_)
    have hne : mark ≠ .plain 0x0d := fun heq => hmem (heq ▸ hmark)
    simp [Mark.scannerSeparates, hne]

section Decoder

variable {limits : ImportLimits} {field : Bytes}

/-- An accepted command has been scanned to its end. -/
theorem scanned_of_decodeShellWords {command : Bytes} {total total' : Nat} {words : List Bytes}
    (h : decodeShellWords limits field command total = .ok (words, total')) :
    ∃ (marks : List Mark) (final : ShellScan), posixMarks .unquoted command = some marks ∧
      final.output = words ∧ Scanned { total := total } final [] marks := by
  obtain ⟨final, hfinal, h⟩ := Fallible.bind_eq_ok_iff.1 h
  obtain ⟨marks, hmarks, hscanned⟩ :=
    @scanned_of_shellWords limits field _ final [] _ _ hfinal ⟨rfl, rfl⟩ (absurd rfl)
  refine ⟨marks, final, hmarks, ?_, hscanned⟩
  split at h
  · cases h
  · cases h
  · exact congrArg Prod.fst (Except.ok.inj h)

/-- What an accepted command has to be for the shell to pass the same arguments. -/
theorem posixCommand_iff_of_decodeShellWords {command : Bytes} {total total' : Nat}
    {words : List Bytes} (h : decodeShellWords limits field command total = .ok (words, total')) :
    PosixCommand command words ↔
      ∃ marks, posixMarks .unquoted command = some marks ∧ .plain 0x0d ∉ marks ∧
        Undisturbed marks := by
  obtain ⟨marks, final, hmarks, rfl, hscanned⟩ := scanned_of_decodeShellWords h
  have houtput : final.output = (wordsFrom Mark.scannerSeparates [] marks).map wordBytes :=
    hscanned.output
  rw [houtput]
  constructor
  · rintro ⟨marks', hmarks', hsimple, hwords⟩
    obtain rfl : marks = marks' := Option.some.inj (hmarks.symm.trans hmarks')
    exact ⟨marks, hmarks, (scannerWords_eq_iff marks).1 hwords, hsimple.undisturbed⟩
  · rintro ⟨marks', hmarks', hreturn, hundisturbed⟩
    obtain rfl : marks = marks' := Option.some.inj (hmarks.symm.trans hmarks')
    have hagree : ∀ mark ∈ marks, mark.scannerSeparates = mark.separates := fun mark hmark => by
      have hne : mark ≠ .plain 0x0d := fun heq => hreturn (heq ▸ hmark)
      simp [Mark.scannerSeparates, hne]
    refine ⟨marks, hmarks, ⟨hscanned.noExpansion, hscanned.noSpecial, ?_, hundisturbed⟩,
      (scannerWords_eq_iff marks).2 hreturn⟩
    rw [posixWords, ← wordsFrom_congr [] marks hagree]
    exact hscanned.noComment (by simp)

/-! ## Words between single quotes -/

/-- A byte between single quotes; a single quote has to leave them. -/
def quoteByte (byte : UInt8) : Bytes :=
  if byte = 0x27 then [0x27, 0x5c, 0x27, 0x27] else [byte]

def quoteWord (word : Bytes) : Bytes :=
  0x27 :: (word.flatMap quoteByte ++ [0x27])

/-- The words between single quotes with spaces between them. -/
def quoteWords (words : List Bytes) : Bytes :=
  [0x20].intercalate (words.map quoteWord)

/-- The limits and what is left of the budget admit the words. -/
structure WordsAdmitted (limits : ImportLimits) (total : Nat) (words : List Bytes) : Prop where
  count : words.length ≤ limits.maximumArgumentsPerUnit
  bytes : ∀ word ∈ words, word.length ≤ limits.maximumStringBytes
  metadata : total + words.flatten.length ≤ limits.maximumTotalMetadataBytes

theorem shellWords_quoteByte (scan : ShellScan) (word rest : Bytes)
    (hstarted : scan.wordStarted = true) :
    shellWords limits field .single scan (word.flatMap quoteByte ++ 0x27 :: rest) =
      shellWords limits field .unquoted { scan with word := scan.word ++ word } rest := by
  induction word generalizing scan with
  | nil => simp [shellWords]
  | cons byte word ih =>
    have hstart : scan.start = scan := by rw [ShellScan.start, ← hstarted]
    have hrest := ih (scan.push byte) hstarted
    by_cases hquote : byte = 0x27
    · -- `'\''` leaves the quotes, escapes one quote, and enters them again
      subst hquote
      have hpushed : (scan.push 0x27).start = scan.push 0x27 := by
        rw [ShellScan.push, ShellScan.start, ← hstarted]
      simp only [List.flatMap_cons, quoteByte, if_pos, List.cons_append, List.nil_append]
      rw [shellWords, if_pos rfl, shellWords.eq_def]
      simp only [show shellSpace 0x5c = false by decide, Bool.false_eq_true, if_false, if_true,
        show ¬(0x5c : UInt8) = 0x27 by decide, show ¬(0x5c : UInt8) = 0x22 by decide,
        show ¬((0x27 : UInt8) = 0x0a ∨ (0x27 : UInt8) = 0x0d) by decide, hstart]
      rw [shellWords.eq_def]
      simp only [show shellSpace 0x27 = false by decide, Bool.false_eq_true, if_false, if_true,
        hpushed, hrest]
      simp [ShellScan.push]
    · simp only [List.flatMap_cons, quoteByte, if_neg hquote, List.cons_append, List.nil_append]
      rw [shellWords, if_neg hquote, hrest]
      simp [ShellScan.push]

/-- A quoted word begins a word and is its bytes. -/
theorem shellWords_quoteWord (output : List Bytes) (total : Nat) (word rest : Bytes) :
    shellWords limits field .unquoted { output := output, total := total } (quoteWord word ++ rest) =
      shellWords limits field .unquoted
        { output := output, word := word, wordStarted := true, total := total } rest := by
  rw [quoteWord, List.cons_append, List.append_assoc, shellWords.eq_def]
  simp only [show shellSpace 0x27 = false by decide, Bool.false_eq_true, if_false, if_true]
  rw [List.singleton_append, shellWords_quoteByte _ _ _ rfl]
  rfl

/-- An admitted word is finished unless it holds a zero byte. -/
theorem finishWord_started {output : List Bytes} {total : Nat} {word : Bytes}
    (hcount : output.length < limits.maximumArgumentsPerUnit)
    (hbytes : word.length ≤ limits.maximumStringBytes)
    (hmetadata : total + word.length ≤ limits.maximumTotalMetadataBytes) :
    ShellScan.finishWord limits field
        { output := output, word := word, wordStarted := true, total := total } =
      if 0 ∈ word then .error (inputInvalid field "nul-byte")
      else .ok { output := output ++ [word], total := total + word.length } := by
  have hcount : ¬limits.maximumArgumentsPerUnit ≤ output.length := by omega
  have hbytes : ¬limits.maximumStringBytes < word.length := by omega
  have hmetadata : ¬limits.maximumTotalMetadataBytes - total < word.length := by omega
  unfold ShellScan.finishWord metadataAdd
  simp only [hcount, hbytes, hmetadata, Bool.true_eq_false, and_false, if_false]
  split_ifs <;> rfl

/-- The scanner reads quoted words up to one that holds a zero byte. -/
theorem shellWords_quoteWords (output : List Bytes) (total : Nat) {words : List Bytes}
    (hadmitted : WordsAdmitted limits total words)
    (hcount : output.length + words.length ≤ limits.maximumArgumentsPerUnit) :
    shellWords limits field .unquoted { output := output, total := total } (quoteWords words) =
      if ∃ word ∈ words, 0 ∈ word then .error (inputInvalid field "nul-byte")
      else .ok { output := output ++ words, total := total + words.flatten.length } := by
  induction words generalizing output total with
  | nil => simp [quoteWords, shellWords, ShellScan.finishWord]
  | cons word words ih =>
    have hbytes := hadmitted.bytes
    have hmetadata := hadmitted.metadata
    simp only [List.flatten_cons, List.length_append, List.length_cons] at hmetadata hcount
    have hfinish := @finishWord_started limits field output total word (by omega)
      (hbytes word List.mem_cons_self) (by omega)
    have hrest := ih (output ++ [word]) (total + word.length)
      ⟨by omega, fun word hword => hbytes word (List.mem_cons_of_mem _ hword), by omega⟩
      (by simp; omega)
    rcases words with _ | ⟨second, words⟩
    · have hquoted : quoteWords [word] = quoteWord word ++ [] := by simp [quoteWords]
      rw [hquoted, shellWords_quoteWord, shellWords, hfinish]
      simp
    · have hquoted : quoteWords (word :: second :: words) =
          quoteWord word ++ 0x20 :: quoteWords (second :: words) := by
        simp [quoteWords, List.intercalate]
      rw [hquoted, shellWords_quoteWord, shellWords.eq_def]
      simp only [show shellSpace 0x20 = true by decide, if_true, hfinish]
      by_cases hzero : 0 ∈ word
      · simp [hzero, Fallible.error_bind]
      · rw [if_neg hzero, Fallible.ok_bind, hrest]
        simp [hzero, Nat.add_assoc]

/-- Quoted words come back when there is a compiler among them and no zero byte in them. -/
theorem decodeShellWords_quoteWords {total : Nat} {words : List Bytes}
    (hadmitted : WordsAdmitted limits total words) :
    decodeShellWords limits field (quoteWords words) total =
        .ok (words, total + words.flatten.length) ↔
      words ≠ [] ∧ words.head? ≠ some [] ∧ ∀ word ∈ words, 0 ∉ word := by
  unfold decodeShellWords
  rw [shellWords_quoteWords [] total hadmitted (by simpa using hadmitted.count)]
  by_cases hzero : ∃ word ∈ words, 0 ∈ word
  · rw [if_pos hzero, Fallible.error_bind]
    obtain ⟨word, hword, hmem⟩ := hzero
    exact ⟨fun h => (nomatch h), fun h => absurd hmem (h.2.2 word hword)⟩
  · rw [if_neg hzero, Fallible.ok_bind]
    rcases words with _ | ⟨_ | ⟨byte, word⟩, words⟩
    · simp
    · simp
    · simpa using hzero

/-- An accepted command is the shell's exactly if outside of quotes it holds no carriage return, no
    newline between two words and no tilde to expand, and its first word is a command. Admitted
    words that are quoted come back exactly if the first of them names a compiler and no zero byte
    is among them. -/
theorem decodeShellWords_sound_iff (limits : ImportLimits) (field : Bytes) :
    (∀ command total words total',
      decodeShellWords limits field command total = .ok (words, total') →
        (PosixCommand command words ↔
          ∃ marks, posixMarks .unquoted command = some marks ∧ .plain 0x0d ∉ marks ∧
            Undisturbed marks)) ∧
      ∀ total words, WordsAdmitted limits total words →
        (decodeShellWords limits field (quoteWords words) total =
            .ok (words, total + words.flatten.length) ↔
          words ≠ [] ∧ words.head? ≠ some [] ∧ ∀ word ∈ words, 0 ∉ word) :=
  ⟨fun _ _ _ _ h => posixCommand_iff_of_decodeShellWords h,
    fun _ _ hadmitted => decodeShellWords_quoteWords hadmitted⟩

theorem undisturbed_sample : Undisturbed ((ascii "g++").map .plain ++ [.blank, .quotes] ++
    (ascii "a b.cpp").map .quoted ++ [.blank, .quoted 0x2a]) := by
  have hwords : posixWords ((ascii "g++").map .plain ++ [.blank, .quotes] ++
      (ascii "a b.cpp").map .quoted ++ [.blank, .quoted 0x2a]) =
        [(ascii "g++").map .plain, .quotes :: (ascii "a b.cpp").map .quoted, [.quoted 0x2a]] := by
    decide_cbv
  refine ⟨?_, ?_, ?_⟩
  · intro before after hmarks
    have hmem : Mark.newline ∈ before ++ .newline :: after := by simp
    rw [← hmarks] at hmem
    exact absurd hmem (by decide_cbv)
  · rw [hwords]
    decide_cbv
  · rw [hwords]
    intro word hword
    obtain rfl := Option.some.inj hword
    decide_cbv

theorem decodeShellWords_sound_iff_sample :
    PosixCommand (ascii "g++ 'a b.cpp' \\*") [ascii "g++", ascii "a b.cpp", ascii "*"] ∧
      decodeShellWords {} (ascii "command") (quoteWords [ascii "g++", ascii "it's", []]) 0 =
        .ok ([ascii "g++", ascii "it's", []], 7) := by
  constructor
  · exact ((decodeShellWords_sound_iff {} (ascii "command")).1 _ 0 _ 11 (by decide_cbv)).2
      ⟨(ascii "g++").map .plain ++ [.blank, .quotes] ++ (ascii "a b.cpp").map .quoted ++
        [.blank, .quoted 0x2a], by decide_cbv, by decide_cbv, undisturbed_sample⟩
  · exact ((decodeShellWords_sound_iff {} (ascii "command")).2 0 _
      ⟨by decide, by decide, by decide⟩).2 ⟨by decide, by decide, by decide⟩

/-- The scanner takes a home directory and a second command for arguments. -/
theorem decodeShellWords_unsound :
    (decodeShellWords {} (ascii "command") (ascii "g++ ~/a.cpp") 0 =
        .ok ([ascii "g++", ascii "~/a.cpp"], 10) ∧
      ¬PosixCommand (ascii "g++ ~/a.cpp") [ascii "g++", ascii "~/a.cpp"]) ∧
      decodeShellWords {} (ascii "command") (ascii "g++ a.cpp\necho pwn") 0 =
        .ok ([ascii "g++", ascii "a.cpp", ascii "echo", ascii "pwn"], 15) ∧
      ¬PosixCommand (ascii "g++ a.cpp\necho pwn")
        [ascii "g++", ascii "a.cpp", ascii "echo", ascii "pwn"] := by
  refine ⟨⟨by decide_cbv, ?_⟩, by decide_cbv, ?_⟩
  · rintro ⟨marks, hmarks, hsimple, -⟩
    have htilde : posixMarks .unquoted (ascii "g++ ~/a.cpp") =
        some ((ascii "g++").map .plain ++ [.blank] ++ (ascii "~/a.cpp").map .plain) := by
      decide_cbv
    obtain rfl := Option.some.inj (htilde.symm.trans hmarks)
    exact absurd (hsimple.undisturbed.tildes ((ascii "~/a.cpp").map .plain) (by decide_cbv))
      (by decide_cbv)
  · rintro ⟨marks, hmarks, hsimple, -⟩
    have hlines : posixMarks .unquoted (ascii "g++ a.cpp\necho pwn") =
        some (((ascii "g++").map .plain ++ [.blank] ++ (ascii "a.cpp").map .plain) ++ .newline ::
          ((ascii "echo").map .plain ++ [.blank] ++ (ascii "pwn").map .plain)) := by
      decide_cbv
    obtain rfl := Option.some.inj (hlines.symm.trans hmarks)
    exact absurd (hsimple.undisturbed.oneCommand _ _ rfl) (by decide_cbv)

end Decoder

end Cxxlens.Sdk.Capture
