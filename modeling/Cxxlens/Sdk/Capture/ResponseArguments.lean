import Cxxlens.Sdk.Capture.Limits

set_option autoImplicit false

/-! # Response files

`parse_gcc_16_2_response_arguments` of `gcc_auxiliary_capture_internal.cpp`: the arguments a
response file stands for. Three ways to quote an argument are inverted by it, whatever bytes the
argument has and however the quoted texts are spaced. -/

namespace Cxxlens.Sdk.Capture

/-! ## The parser -/

/-- The flags of the loop over the bytes of one argument. -/
structure QuoteFlags where
  singleQuote : Bool := false
  doubleQuote : Bool := false
  backslashQuote : Bool := false
  deriving DecidableEq, Repr

/-- Neither quoted nor escaped. -/
def QuoteFlags.plain (flags : QuoteFlags) : Bool :=
  !flags.singleQuote && !flags.doubleQuote && !flags.backslashQuote

/-- What may follow a backslash in double quotes for it to escape anything. -/
def escapedInDoubleQuotes (byte : UInt8) : Bool :=
  byte == 0x24 || byte == 0x60 || byte == 0x22 || byte == 0x5c || byte == 0x0a

/-- One byte of an argument; `next` is the byte behind it. -/
def QuoteFlags.step (flags : QuoteFlags) (argument : Bytes) (byte : UInt8) (next : Option UInt8) :
    QuoteFlags × Bytes :=
  if flags.backslashQuote then
    ({ flags with backslashQuote := false },
      if byte == 0x0a then argument else argument ++ [byte])
  else if byte == 0x5c && !flags.singleQuote &&
      (!flags.doubleQuote || next.any escapedInDoubleQuotes) then
    ({ flags with backslashQuote := true }, argument)
  else if flags.singleQuote then
    if byte == 0x27 then ({ flags with singleQuote := false }, argument)
    else (flags, argument ++ [byte])
  else if flags.doubleQuote then
    if byte == 0x22 then ({ flags with doubleQuote := false }, argument)
    else (flags, argument ++ [byte])
  else if byte == 0x27 then ({ flags with singleQuote := true }, argument)
  else if byte == 0x22 then ({ flags with doubleQuote := true }, argument)
  else (flags, argument ++ [byte])

section Parser

variable (limits : ImportLimits)

/-- The loop over the bytes of one argument: the argument and what follows it. -/
def responseArgument : QuoteFlags → Bytes → Bytes → Result (Bytes × Bytes)
  | _, argument, [] => .ok (argument, [])
  | flags, argument, byte :: rest =>
    if asciiSpace byte && flags.plain then .ok (argument, byte :: rest)
    else
      let stepped := flags.step argument byte rest.head?
      if limits.maximumStringBytes < stepped.2.length then
        .error (limitExceeded "response_file.argument" "string-bytes")
      else responseArgument stepped.1 stepped.2 rest

/-- The loop over the arguments, in at most `fuel` rounds. Every round reads at least one byte. -/
def responseArguments : Nat → List Bytes → Nat → Bytes → Result (List Bytes)
  | 0, output, _, _ => .ok output
  | fuel + 1, output, metadataBytes, input =>
    match input.dropWhile asciiSpace with
    | [] => .ok output
    | byte :: rest =>
      if limits.maximumArgumentsPerUnit ≤ output.length then
        .error (limitExceeded "response_file.arguments" "count")
      else do
        let read ← responseArgument limits {} [] (byte :: rest)
        if limits.maximumTotalMetadataBytes - metadataBytes < read.1.length then
          .error (limitExceeded "response_file.arguments" "metadata-bytes")
        else
          responseArguments fuel (output ++ [read.1]) (metadataBytes + read.1.length) read.2

end Parser

/-- `parse_gcc_16_2_response_arguments` -/
def parseGcc162ResponseArguments (content : Bytes) (limits : ImportLimits) :
    Result (List Bytes) := do
  limits.validate
  let input := content.takeWhile (· != 0)
  responseArguments limits input.length [] 0 input

/-! ## Writing arguments -/

/-- How an argument is quoted. -/
inductive Quoting where
  /-- In single quotes, with a single quote written as `'\''`. -/
  | single
  /-- In double quotes, with `$`, the backtick, `"` and the backslash behind a backslash. -/
  | double
  /-- Unquoted, with blanks, quotes and the backslash behind a backslash. -/
  | escaped
  deriving DecidableEq, Repr

/-- A byte between single quotes. -/
def singleQuotedByte (byte : UInt8) : Bytes :=
  if byte = 0x27 then [0x27, 0x5c, 0x27, 0x27] else [byte]

/-- A byte between double quotes. -/
def doubleQuotedByte (byte : UInt8) : Bytes :=
  if byte = 0x24 ∨ byte = 0x60 ∨ byte = 0x22 ∨ byte = 0x5c then [0x5c, byte] else [byte]

/-- A byte outside quotes. -/
def escapedByte (byte : UInt8) : Bytes :=
  if asciiSpace byte ∨ byte = 0x27 ∨ byte = 0x22 ∨ byte = 0x5c then [0x5c, byte] else [byte]

def Quoting.write : Quoting → Bytes → Bytes
  | .single, argument => 0x27 :: argument.flatMap singleQuotedByte ++ [0x27]
  | .double, argument => 0x22 :: argument.flatMap doubleQuotedByte ++ [0x22]
  | .escaped, argument => argument.flatMap escapedByte

/-- Nothing would be left of an empty argument without quotes, nor of an escaped newline. -/
def Quoting.Suits : Quoting → Bytes → Prop
  | .escaped, argument => argument ≠ [] ∧ 0x0a ∉ argument
  | _, _ => True

/-- An argument and how it is quoted. -/
structure QuotedArgument where
  argument : Bytes
  quoting : Quoting
  suits : quoting.Suits argument
  noNul : 0 ∉ argument

def QuotedArgument.text (quoted : QuotedArgument) : Bytes :=
  quoted.quoting.write quoted.argument

/-- One or more whitespace bytes. -/
def IsGap (gap : Bytes) : Prop :=
  gap ≠ [] ∧ ∀ byte ∈ gap, asciiSpace byte = true

/-- Quoted arguments behind one another, with gaps between them. -/
inductive Joined : List QuotedArgument → Bytes → Prop
  | nil : Joined [] []
  | one (quoted : QuotedArgument) : Joined [quoted] quoted.text
  | cons (quoted next : QuotedArgument) (more : List QuotedArgument) (gap text : Bytes) :
      IsGap gap → Joined (next :: more) text →
        Joined (quoted :: next :: more) (quoted.text ++ gap ++ text)

/-! ## Reading what was written -/

/-- Reading `text` takes the loop over an argument from one state to another, whatever follows. -/
def Reads (limits : ImportLimits) (flags : QuoteFlags) (argument text : Bytes)
    (flags' : QuoteFlags) (argument' : Bytes) : Prop :=
  ∀ rest, responseArgument limits flags argument (text ++ rest) =
    responseArgument limits flags' argument' rest

namespace Reads

variable {limits : ImportLimits} {argument : Bytes}

theorem append {flags flags' flags'' : QuoteFlags} {argument' argument'' text more : Bytes}
    (h : Reads limits flags argument text flags' argument')
    (h' : Reads limits flags' argument' more flags'' argument'') :
    Reads limits flags argument (text ++ more) flags'' argument'' := by
  intro rest
  rw [List.append_assoc, h, h']

/-- A flag is set or cleared, or a byte that is not quoted is read, by a byte that stays within the
    bounds: one round of the loop. -/
theorem step (flags : QuoteFlags) (byte : UInt8) (stepped : QuoteFlags × Bytes)
    (hplain : (asciiSpace byte && flags.plain) = false)
    (hstep : ∀ next, flags.step argument byte next = stepped)
    (hlength : stepped.2.length ≤ limits.maximumStringBytes) :
    Reads limits flags argument [byte] stepped.1 stepped.2 := by
  intro rest
  rw [List.singleton_append, responseArgument, hplain]
  simp only [Bool.false_eq_true, if_false, hstep]
  rw [if_neg (by omega)]

/-- A backslash in double quotes and the byte it escapes. -/
theorem doubleEscape {byte : UInt8} (hescaped : escapedInDoubleQuotes byte = true)
    (hnewline : byte ≠ 0x0a) (hlength : argument.length + 1 ≤ limits.maximumStringBytes) :
    Reads limits { doubleQuote := true } argument [0x5c, byte] { doubleQuote := true }
      (argument ++ [byte]) := by
  intro rest
  have hbackslash : ({ doubleQuote := true } : QuoteFlags).step argument 0x5c (some byte) =
      ({ doubleQuote := true, backslashQuote := true }, argument) := by
    simp [QuoteFlags.step, hescaped]
  have hbyte : (byte == 0x0a) = false := beq_false_of_ne hnewline
  rw [List.cons_append, List.singleton_append, responseArgument]
  simp only [QuoteFlags.plain, Bool.not_true, Bool.not_false, Bool.and_false, Bool.and_true,
    Bool.false_eq_true, if_false, List.head?_cons, hbackslash]
  rw [if_neg (by omega), responseArgument]
  simp only [QuoteFlags.plain, QuoteFlags.step, hbyte, Bool.not_true, Bool.and_false,
    Bool.false_eq_true, if_false, if_true, List.length_append, List.length_singleton]
  rw [if_neg (by omega)]

/-- A text written byte by byte is read byte by byte. -/
theorem flatMap {flags : QuoteFlags} {write : UInt8 → Bytes} (value : Bytes)
    (hbyte : ∀ byte ∈ value, ∀ argument : Bytes,
      argument.length + 1 ≤ limits.maximumStringBytes →
        Reads limits flags argument (write byte) flags (argument ++ [byte]))
    (hlength : argument.length + value.length ≤ limits.maximumStringBytes) :
    Reads limits flags argument (value.flatMap write) flags (argument ++ value) := by
  induction value generalizing argument with
  | nil =>
    intro rest
    simp
  | cons byte value ih =>
    simp only [List.length_cons] at hlength
    have hfirst := hbyte byte (by simp) argument (by omega)
    have hrest := @ih (argument ++ [byte])
      (fun other hother => hbyte other (List.mem_cons_of_mem _ hother)) (by simp; omega)
    rw [List.flatMap_cons, List.append_cons]
    exact hfirst.append hrest

/-! ### The three ways to quote -/

theorem singleQuotedByte (byte : UInt8)
    (hlength : argument.length + 1 ≤ limits.maximumStringBytes) :
    Reads limits { singleQuote := true } argument (singleQuotedByte byte) { singleQuote := true }
      (argument ++ [byte]) := by
  by_cases hquote : byte = 0x27
  · -- `'\''` leaves the quotes, escapes one quote, and enters them again.
    subst hquote
    have hclose := @step limits argument { singleQuote := true } 0x27
      ({}, argument) rfl (fun _ => rfl) (by simp; omega)
    have hbackslash := @step limits argument {} 0x5c
      ({ backslashQuote := true }, argument) rfl (fun _ => rfl) (by simp; omega)
    have hescaped := @step limits argument { backslashQuote := true } 0x27
      ({}, argument ++ [0x27]) rfl (fun _ => rfl) (by simpa using hlength)
    have hopen := @step limits (argument ++ [0x27]) {} 0x27
      ({ singleQuote := true }, argument ++ [0x27]) rfl (fun _ => rfl) (by simpa using hlength)
    exact ((hclose.append hbackslash).append hescaped).append hopen
  · rw [Capture.singleQuotedByte, if_neg hquote]
    exact step { singleQuote := true } byte ({ singleQuote := true }, argument ++ [byte])
      (by simp [QuoteFlags.plain]) (fun _ => by simp [QuoteFlags.step, hquote])
      (by simpa using hlength)

theorem doubleQuotedByte (byte : UInt8)
    (hlength : argument.length + 1 ≤ limits.maximumStringBytes) :
    Reads limits { doubleQuote := true } argument (doubleQuotedByte byte) { doubleQuote := true }
      (argument ++ [byte]) := by
  by_cases hspecial : byte = 0x24 ∨ byte = 0x60 ∨ byte = 0x22 ∨ byte = 0x5c
  · rw [Capture.doubleQuotedByte, if_pos hspecial]
    rcases hspecial with rfl | rfl | rfl | rfl
    all_goals exact doubleEscape rfl (by decide) hlength
  · rw [Capture.doubleQuotedByte, if_neg hspecial]
    simp only [not_or] at hspecial
    exact step { doubleQuote := true } byte ({ doubleQuote := true }, argument ++ [byte])
      (by simp [QuoteFlags.plain]) (fun _ => by simp [QuoteFlags.step, hspecial])
      (by simpa using hlength)

theorem escapedByte {byte : UInt8} (hnewline : byte ≠ 0x0a)
    (hlength : argument.length + 1 ≤ limits.maximumStringBytes) :
    Reads limits {} argument (escapedByte byte) {} (argument ++ [byte]) := by
  by_cases hspecial : asciiSpace byte ∨ byte = 0x27 ∨ byte = 0x22 ∨ byte = 0x5c
  · rw [Capture.escapedByte, if_pos hspecial]
    have hbackslash := @step limits argument {} 0x5c
      ({ backslashQuote := true }, argument) rfl (fun _ => rfl) (by simp; omega)
    have hescaped := @step limits argument { backslashQuote := true } byte
      ({}, argument ++ [byte]) (by simp [QuoteFlags.plain])
      (fun _ => by simp [QuoteFlags.step, hnewline]) (by simpa using hlength)
    exact hbackslash.append hescaped
  · rw [Capture.escapedByte, if_neg hspecial]
    simp only [not_or, Bool.not_eq_true] at hspecial
    exact step {} byte ({}, argument ++ [byte]) (by simp [hspecial.1])
      (fun _ => by simp [QuoteFlags.step, hspecial]) (by simpa using hlength)

/-- A quoted argument is read from its first byte to its last. -/
theorem text (quoted : QuotedArgument)
    (hlength : quoted.argument.length ≤ limits.maximumStringBytes) :
    Reads limits {} [] quoted.text {} quoted.argument := by
  obtain ⟨value, quoting, hsuits, hnul⟩ := quoted
  cases quoting with
  | single =>
    have hopen := @step limits [] {} 0x27
      ({ singleQuote := true }, []) rfl (fun _ => rfl) (by simp)
    have hvalue := @flatMap limits [] { singleQuote := true } Capture.singleQuotedByte
      value (fun byte _ argument h => singleQuotedByte byte h) (by simpa using hlength)
    have hclose := @step limits value { singleQuote := true } 0x27
      ({}, value) rfl (fun _ => rfl) hlength
    exact (hopen.append hvalue).append hclose
  | double =>
    have hopen := @step limits [] {} 0x22
      ({ doubleQuote := true }, []) rfl (fun _ => rfl) (by simp)
    have hvalue := @flatMap limits [] { doubleQuote := true } Capture.doubleQuotedByte
      value (fun byte _ argument h => doubleQuotedByte byte h) (by simpa using hlength)
    have hclose := @step limits value { doubleQuote := true } 0x22
      ({}, value) rfl (fun _ => rfl) hlength
    exact (hopen.append hvalue).append hclose
  | escaped =>
    have hvalue := @flatMap limits [] {} Capture.escapedByte value
      (fun byte hbyte argument h =>
        escapedByte (fun hnewline => hsuits.2 (hnewline ▸ hbyte)) h) (by simpa using hlength)
    exact hvalue

end Reads

/-! ### The first byte of a quoted argument, and the bytes it has -/

theorem asciiSpace_escapedByte_head (byte : UInt8) :
    ∃ first more, escapedByte byte = first :: more ∧ asciiSpace first = false := by
  by_cases hspecial : asciiSpace byte ∨ byte = 0x27 ∨ byte = 0x22 ∨ byte = 0x5c
  · exact ⟨0x5c, [byte], by rw [escapedByte, if_pos hspecial], rfl⟩
  · refine ⟨byte, [], by rw [escapedByte, if_neg hspecial], ?_⟩
    simp only [not_or, Bool.not_eq_true] at hspecial
    exact hspecial.1

/-- A quoted argument does not start like a gap, so that skipping a gap stops in front of it. -/
theorem QuotedArgument.exists_text_eq_cons (quoted : QuotedArgument) :
    ∃ first more, quoted.text = first :: more ∧ asciiSpace first = false := by
  obtain ⟨value, quoting, hsuits, hnul⟩ := quoted
  cases quoting with
  | single => exact ⟨_, _, rfl, rfl⟩
  | double => exact ⟨_, _, rfl, rfl⟩
  | escaped =>
    obtain ⟨hne, -⟩ := hsuits
    obtain ⟨byte, value, rfl⟩ := List.exists_cons_of_ne_nil hne
    obtain ⟨first, more, hfirst, hspace⟩ := asciiSpace_escapedByte_head byte
    refine ⟨first, more ++ value.flatMap escapedByte, ?_, hspace⟩
    simp only [QuotedArgument.text, Quoting.write, List.flatMap_cons, hfirst, List.cons_append]

theorem QuotedArgument.noNul_text (quoted : QuotedArgument) : 0 ∉ quoted.text := by
  obtain ⟨value, quoting, hsuits, hnul⟩ := quoted
  have hwrite : ∀ write : UInt8 → Bytes, (∀ byte, 0 ∈ write byte → byte = 0) →
      0 ∉ value.flatMap write := by
    intro write hbyte hmem
    obtain ⟨byte, hvalue, hzero⟩ := List.mem_flatMap.1 hmem
    exact hnul (hbyte byte hzero ▸ hvalue)
  have hsingle := hwrite singleQuotedByte fun byte h => by
    unfold singleQuotedByte at h
    split at h <;> simp_all
  have hdouble := hwrite doubleQuotedByte fun byte h => by
    unfold doubleQuotedByte at h
    split at h <;> simp_all
  have hescaped := hwrite escapedByte fun byte h => by
    unfold escapedByte at h
    split at h <;> simp_all
  cases quoting with
  | single => simpa [QuotedArgument.text, Quoting.write] using hsingle
  | double => simpa [QuotedArgument.text, Quoting.write] using hdouble
  | escaped => simpa [QuotedArgument.text, Quoting.write] using hescaped

/-- A byte of whitespace is not the NUL byte. -/
theorem noNul_of_asciiSpace {gap : Bytes} (hgap : ∀ byte ∈ gap, asciiSpace byte = true) :
    0 ∉ gap := by
  intro h
  exact absurd (hgap 0 h) (by decide)

theorem Joined.noNul {quoted : List QuotedArgument} {text : Bytes} (h : Joined quoted text) :
    0 ∉ text := by
  induction h with
  | nil => simp
  | one quoted => exact quoted.noNul_text
  | cons quoted next more gap text hgap _ ih =>
    simp only [List.mem_append, not_or]
    exact ⟨⟨quoted.noNul_text, noNul_of_asciiSpace hgap.2⟩, ih⟩

/-- Two joined texts with a gap between them are joined, unless one of them is empty. -/
theorem Joined.append {left right : List QuotedArgument} {text gap more : Bytes}
    (hleft : Joined left text) (hgap : IsGap gap) (hright : Joined right more)
    (hleftNe : left ≠ []) (hrightNe : right ≠ []) :
    Joined (left ++ right) (text ++ gap ++ more) := by
  obtain ⟨next, rest, rfl⟩ := List.exists_cons_of_ne_nil hrightNe
  induction hleft with
  | nil => exact absurd rfl hleftNe
  | one quoted => exact .cons quoted next rest gap more hgap hright
  | cons quoted second others gap' text' hgap' _ ih =>
    have hcons := Joined.cons quoted second (others ++ next :: rest) gap' _ hgap' (ih (by simp))
    simpa only [List.append_assoc, List.cons_append] using hcons

/-! ## The loop over the arguments -/

section Loop

variable {limits : ImportLimits}

/-- An argument ends at whitespace or at the end. -/
theorem responseArgument_stops {argument rest : Bytes}
    (hrest : ∀ byte, rest.head? = some byte → asciiSpace byte = true) :
    responseArgument limits {} argument rest = .ok (argument, rest) := by
  cases rest with
  | nil => rfl
  | cons byte rest =>
    have hspace : asciiSpace byte = true := hrest byte rfl
    rw [responseArgument, hspace]
    rfl

/-- One round of the loop reads one quoted argument. -/
theorem responseArguments_round (quoted : QuotedArgument) (fuel : Nat) (output : List Bytes)
    (metadataBytes : Nat) {lead rest : Bytes} (hlead : ∀ byte ∈ lead, asciiSpace byte = true)
    (hrest : ∀ byte, rest.head? = some byte → asciiSpace byte = true)
    (hcount : output.length < limits.maximumArgumentsPerUnit)
    (hlength : quoted.argument.length ≤ limits.maximumStringBytes)
    (htotal : metadataBytes + quoted.argument.length ≤ limits.maximumTotalMetadataBytes) :
    responseArguments limits (fuel + 1) output metadataBytes (lead ++ quoted.text ++ rest) =
      responseArguments limits fuel (output ++ [quoted.argument])
        (metadataBytes + quoted.argument.length) rest := by
  obtain ⟨first, more, hfirst, hspace⟩ := quoted.exists_text_eq_cons
  have hskip : (lead ++ quoted.text ++ rest).dropWhile asciiSpace = first :: (more ++ rest) := by
    rw [List.append_assoc, List.dropWhile_append_of_pos hlead, hfirst, List.cons_append,
      List.dropWhile_cons_of_neg (by simp [hspace])]
  have hread : responseArgument limits {} [] (first :: (more ++ rest)) =
      .ok (quoted.argument, rest) := by
    rw [← List.cons_append, ← hfirst, Reads.text quoted hlength rest,
      responseArgument_stops hrest]
  simp only [responseArguments, hskip, hread, Fallible.ok_bind]
  rw [if_neg (by omega), if_neg (by omega)]

/-- Nothing but whitespace is no argument. -/
theorem responseArguments_blank (fuel : Nat) (output : List Bytes) (metadataBytes : Nat)
    {blank : Bytes} (hblank : ∀ byte ∈ blank, asciiSpace byte = true) :
    responseArguments limits fuel output metadataBytes blank = .ok output := by
  cases fuel with
  | zero => rfl
  | succ fuel =>
    have hskip : blank.dropWhile asciiSpace = [] := by simpa using hblank
    simp only [responseArguments, hskip]

/-- The loop over joined texts, wherever it stands and whatever it has read so far. -/
theorem responseArguments_joined {quoted : List QuotedArgument} {text : Bytes}
    (hjoined : Joined quoted text) (fuel : Nat) (output : List Bytes) (metadataBytes : Nat)
    {lead trail : Bytes} (hlead : ∀ byte ∈ lead, asciiSpace byte = true)
    (htrail : ∀ byte ∈ trail, asciiSpace byte = true) (hfuel : quoted.length ≤ fuel)
    (hcount : output.length + quoted.length ≤ limits.maximumArgumentsPerUnit)
    (heach : ∀ one ∈ quoted, one.argument.length ≤ limits.maximumStringBytes)
    (htotal : metadataBytes + (quoted.map fun one => one.argument.length).sum ≤
      limits.maximumTotalMetadataBytes) :
    responseArguments limits fuel output metadataBytes (lead ++ text ++ trail) =
      .ok (output ++ quoted.map QuotedArgument.argument) := by
  induction hjoined generalizing fuel output metadataBytes lead with
  | nil =>
    rw [List.append_nil, List.map_nil, List.append_nil]
    refine responseArguments_blank fuel output metadataBytes fun byte hbyte => ?_
    rcases List.mem_append.1 hbyte with h | h
    · exact hlead byte h
    · exact htrail byte h
  | one quoted =>
    obtain ⟨fuel, rfl⟩ := Nat.exists_eq_add_of_le' hfuel
    simp only [List.length_singleton, List.map_cons, List.map_nil, List.sum_cons, List.sum_nil]
      at hcount htotal
    rw [List.length_singleton, responseArguments_round quoted fuel output metadataBytes hlead
        (fun byte h => htrail byte (List.mem_of_mem_head? h)) (by omega) (heach quoted (by simp))
        (by omega),
      responseArguments_blank fuel _ _ htrail, List.map_cons, List.map_nil]
  | cons quoted next more gap text hgap _ ih =>
    obtain ⟨fuel, rfl⟩ := Nat.exists_eq_add_of_le' (Nat.le_trans (by simp) hfuel : 1 ≤ fuel)
    simp only [List.length_cons, List.map_cons, List.sum_cons] at hcount htotal hfuel ih
    have hstop : ∀ byte, (gap ++ text ++ trail).head? = some byte → asciiSpace byte = true := by
      intro byte hbyte
      obtain ⟨space, gap, rfl⟩ := List.exists_cons_of_ne_nil hgap.1
      simp only [List.cons_append, List.head?_cons, Option.some.injEq] at hbyte
      exact hgap.2 byte (by simp [hbyte])
    have hround := @responseArguments_round limits quoted fuel output metadataBytes lead
      (gap ++ text ++ trail) hlead hstop (by omega) (heach quoted (by simp)) (by omega)
    have hmore := ih fuel (output ++ [quoted.argument]) (metadataBytes + quoted.argument.length)
      hgap.2 (by omega) (by simp; omega)
      (fun one hone => heach one (List.mem_cons_of_mem _ hone)) (by omega)
    simp only [List.append_assoc] at hround hmore ⊢
    rw [hround, hmore]
    simp

/-- Every argument is written with at least one byte. -/
theorem Joined.length_le {quoted : List QuotedArgument} {text : Bytes} (h : Joined quoted text) :
    quoted.length ≤ text.length := by
  have hone : ∀ quoted : QuotedArgument, 1 ≤ quoted.text.length := by
    intro quoted
    obtain ⟨first, more, hfirst, -⟩ := quoted.exists_text_eq_cons
    simp [hfirst]
  induction h with
  | nil => simp
  | one quoted => simpa using hone quoted
  | cons quoted next more gap text _ _ ih =>
    have := hone quoted
    simp only [List.length_cons, List.length_append] at ih ⊢
    omega

/-- The parser of a joined text, with whitespace around it. -/
theorem parse_joined {quoted : List QuotedArgument} {text lead trail : Bytes}
    (hjoined : Joined quoted text) (hlead : ∀ byte ∈ lead, asciiSpace byte = true)
    (htrail : ∀ byte ∈ trail, asciiSpace byte = true)
    (hadmits : limits.Admits limits.maximumArgumentsPerUnit
      (quoted.map QuotedArgument.argument)) :
    parseGcc162ResponseArguments (lead ++ text ++ trail) limits =
      .ok (quoted.map QuotedArgument.argument) := by
  have hnul : 0 ∉ lead ++ text ++ trail := by
    simp only [List.mem_append, not_or]
    exact ⟨⟨noNul_of_asciiSpace hlead, hjoined.noNul⟩, noNul_of_asciiSpace htrail⟩
  have hinput : (lead ++ text ++ trail).takeWhile (· != 0) = lead ++ text ++ trail := by
    refine List.takeWhile_eq_self_iff.2 fun byte hbyte => ?_
    simpa using fun hzero : byte = 0 => hnul (hzero ▸ hbyte)
  obtain ⟨hvalid, hcount, heach, htotal⟩ := hadmits
  have hfuel : quoted.length ≤ (lead ++ text ++ trail).length := by
    have := hjoined.length_le
    simp only [List.length_append]
    omega
  rw [parseGcc162ResponseArguments, hvalid, Fallible.ok_bind, hinput,
    responseArguments_joined hjoined _ [] 0 hlead htrail hfuel (by simpa using hcount)
      (fun one hone => heach _ (List.mem_map_of_mem hone))
      (by simpa [Function.comp_def] using htotal), List.nil_append]

theorem Joined.eq_nil {text : Bytes} (h : Joined [] text) : text = [] := by
  cases h
  rfl

/-- Joined texts with a gap between them, one of which may be empty. -/
theorem parse_joined_append {left right : List QuotedArgument} {text gap more : Bytes}
    (hleft : Joined left text) (hgap : IsGap gap) (hright : Joined right more)
    (hadmits : limits.Admits limits.maximumArgumentsPerUnit
      ((left ++ right).map QuotedArgument.argument)) :
    parseGcc162ResponseArguments (text ++ gap ++ more) limits =
      .ok ((left ++ right).map QuotedArgument.argument) := by
  have hnone : ∀ byte ∈ ([] : Bytes), asciiSpace byte = true := by simp
  by_cases hleftNil : left = []
  · -- The gap stands in front of everything.
    subst hleftNil
    obtain rfl := hleft.eq_nil
    have hparse := parse_joined hright hgap.2 hnone (by simpa using hadmits)
    simpa using hparse
  · by_cases hrightNil : right = []
    · subst hrightNil
      obtain rfl := hright.eq_nil
      have hparse := parse_joined hleft hnone hgap.2 (by simpa using hadmits)
      simpa using hparse
    · have hjoined := hleft.append hgap hright hleftNil hrightNil
      have hparse := parse_joined hjoined hnone hnone hadmits
      simpa using hparse

end Loop

/-! ## Quoting and parsing are inverse -/

/-- Joined texts are parsed to their arguments, and two joined texts with a gap between them to what
    each of them is parsed to. -/
theorem parseGcc162ResponseArguments_inverts (limits : ImportLimits) :
    (∀ quoted text, Joined quoted text →
      limits.Admits limits.maximumArgumentsPerUnit (quoted.map QuotedArgument.argument) →
      parseGcc162ResponseArguments text limits = .ok (quoted.map QuotedArgument.argument)) ∧
    (∀ left right text gap more, Joined left text → IsGap gap → Joined right more →
      limits.Admits limits.maximumArgumentsPerUnit
        ((left ++ right).map QuotedArgument.argument) →
      ∃ arguments others, parseGcc162ResponseArguments text limits = .ok arguments ∧
        parseGcc162ResponseArguments more limits = .ok others ∧
        parseGcc162ResponseArguments (text ++ gap ++ more) limits = .ok (arguments ++ others)) := by
  have hone : ∀ quoted text, Joined quoted text →
      limits.Admits limits.maximumArgumentsPerUnit (quoted.map QuotedArgument.argument) →
      parseGcc162ResponseArguments text limits = .ok (quoted.map QuotedArgument.argument) := by
    intro quoted text hjoined hadmits
    have hnone : ∀ byte ∈ ([] : Bytes), asciiSpace byte = true := by simp
    have hparse := parse_joined hjoined hnone hnone hadmits
    simpa using hparse
  refine ⟨hone, ?_⟩
  intro left right text gap more hleft hgap hright hadmits
  have happend := hadmits
  rw [List.map_append] at happend
  refine ⟨left.map QuotedArgument.argument, right.map QuotedArgument.argument,
    hone left text hleft (happend.sublist (List.sublist_append_left _ _)),
    hone right more hright (happend.sublist (List.sublist_append_right _ _)), ?_⟩
  rw [← List.map_append]
  exact parse_joined_append hleft hgap hright hadmits

def sampleSingle : QuotedArgument := ⟨ascii "it's", .single, trivial, by decide⟩

def sampleDouble : QuotedArgument := ⟨[], .double, trivial, by decide⟩

def sampleEscaped : QuotedArgument := ⟨ascii "a b", .escaped, ⟨by decide, by decide⟩, by decide⟩

/-- `'it'\''s'`, an empty argument in double quotes, and `a\ b`. -/
def sampleResponse : Bytes :=
  sampleSingle.text ++ [0x20, 0x09] ++ (sampleDouble.text ++ [0x0a] ++ sampleEscaped.text)

theorem joined_sampleResponse :
    Joined [sampleSingle, sampleDouble, sampleEscaped] sampleResponse :=
  .cons sampleSingle sampleDouble [sampleEscaped] [0x20, 0x09] _ ⟨by decide, by simp [asciiSpace]⟩
    (.cons sampleDouble sampleEscaped [] [0x0a] _ ⟨by decide, by simp [asciiSpace]⟩
      (.one sampleEscaped))

theorem parseGcc162ResponseArguments_inverts_sample :
    parseGcc162ResponseArguments sampleResponse {} = .ok [ascii "it's", [], ascii "a b"] ∧
      ∃ arguments others,
        parseGcc162ResponseArguments sampleResponse {} = .ok arguments ∧
        parseGcc162ResponseArguments [] {} = .ok others ∧
        parseGcc162ResponseArguments (sampleResponse ++ [0x0d] ++ []) {} =
          .ok (arguments ++ others) :=
  have hadmits : ({} : ImportLimits).Admits 4096 [ascii "it's", [], ascii "a b"] :=
    ⟨by decide, by decide, by decide, by decide⟩
  ⟨(parseGcc162ResponseArguments_inverts {}).1 _ _ joined_sampleResponse hadmits,
    (parseGcc162ResponseArguments_inverts {}).2 [sampleSingle, sampleDouble, sampleEscaped] [] _
      [0x0d] [] joined_sampleResponse ⟨by decide, by simp [asciiSpace]⟩ .nil hadmits⟩

end Cxxlens.Sdk.Capture
