import Cxxlens.Sdk.Capture.Limits

set_option autoImplicit false

/-! # Shell words

`decode_shell_words` of `compile_commands_capture_internal.cpp`: the arguments of a compile command
that is written as one text, taken apart without a shell. -/

namespace Cxxlens.Sdk.Capture

/-- `metadata_budget::add`: the total with a text added. -/
def metadataAdd (limits : ImportLimits) (total : Nat) (value field : Bytes) (allowEmpty : Bool) :
    Result Nat :=
  if value = [] ∧ allowEmpty = false then .error (inputInvalid field "empty")
  else if 0 ∈ value then .error (inputInvalid field "nul-byte")
  else if limits.maximumStringBytes < value.length then
    .error (limitExceeded field "string-bytes")
  else if limits.maximumTotalMetadataBytes - total < value.length then
    .error (limitExceeded "compile_commands" "metadata-bytes")
  else .ok (total + value.length)

/-- `shell_space` -/
def shellSpace (value : UInt8) : Bool :=
  value == 0x20 || value == 0x09 || value == 0x0a || value == 0x0d

/-- `shell_operator`: one of `|&;<>()`. -/
def shellOperator (value : UInt8) : Bool :=
  value == 0x7c || value == 0x26 || value == 0x3b || value == 0x3c || value == 0x3e ||
    value == 0x28 || value == 0x29

/-- `quote_state` -/
inductive QuoteState where
  | unquoted
  | single
  | doubleQuoted
  deriving DecidableEq, Repr

/-- The other locals of `decode_shell_words`, and the total of the budget. -/
structure ShellScan where
  output : List Bytes := []
  word : Bytes := []
  wordStarted : Bool := false
  total : Nat := 0
  deriving DecidableEq, Repr

/-- `word.push_back`; outside of quotes the word is started too. -/
def ShellScan.push (scan : ShellScan) (value : UInt8) : ShellScan :=
  { scan with word := scan.word ++ [value] }

def ShellScan.start (scan : ShellScan) : ShellScan :=
  { scan with wordStarted := true }

section Scanner

variable (limits : ImportLimits) (field : Bytes)

/-- The lambda `finish_word` -/
def ShellScan.finishWord (scan : ShellScan) : Result ShellScan :=
  if scan.wordStarted = false then .ok scan
  else if limits.maximumArgumentsPerUnit ≤ scan.output.length then
    .error (limitExceeded field "argument-count")
  else if limits.maximumStringBytes < scan.word.length then
    .error (limitExceeded field "argument-bytes")
  else do
    let total ← metadataAdd limits scan.total scan.word field true
    .ok { output := scan.output ++ [scan.word], word := [], wordStarted := false, total := total }

/-- What an escape in double quotes stands for. -/
def doubleQuotedEscape (escaped : UInt8) : Bytes :=
  if escaped ≠ 0x22 ∧ escaped ≠ 0x5c ∧ escaped ≠ 0x24 ∧ escaped ≠ 0x60 then [0x5c, escaped]
  else [escaped]

/-- The loop over the command, and the word it leaves. -/
def shellWords : QuoteState → ShellScan → Bytes → Result ShellScan
  | .unquoted, scan, [] => scan.finishWord limits field
  | .single, _, [] => .error (inputInvalid field "unterminated-quote")
  | .doubleQuoted, _, [] => .error (inputInvalid field "unterminated-quote")
  | .single, scan, value :: rest =>
    if value = 0x27 then shellWords .unquoted scan rest else shellWords .single (scan.push value) rest
  | .doubleQuoted, scan, value :: rest =>
    if value = 0x22 then shellWords .unquoted scan rest
    else if value = 0x24 ∨ value = 0x60 then .error (inputInvalid field "shell-expansion")
    else if value ≠ 0x5c then shellWords .doubleQuoted (scan.push value) rest
    else
      match rest with
      | [] => .error (inputInvalid field "trailing-escape")
      | escaped :: rest =>
        if escaped = 0x0a ∨ escaped = 0x0d then .error (inputInvalid field "line-continuation")
        else
          shellWords .doubleQuoted
            { scan with word := scan.word ++ doubleQuotedEscape escaped } rest
  | .unquoted, scan, value :: rest =>
    if shellSpace value then do
      let scan ← scan.finishWord limits field
      shellWords .unquoted scan rest
    else if value = 0x27 then shellWords .single scan.start rest
    else if value = 0x22 then shellWords .doubleQuoted scan.start rest
    else if value = 0x5c then
      match rest with
      | [] => .error (inputInvalid field "trailing-escape")
      | escaped :: rest =>
        if escaped = 0x0a ∨ escaped = 0x0d then .error (inputInvalid field "line-continuation")
        else shellWords .unquoted (scan.start.push escaped) rest
    else if value = 0x24 ∨ value = 0x60 then .error (inputInvalid field "shell-expansion")
    else if shellOperator value ∨ value = 0x2a ∨ value = 0x3f ∨ value = 0x5b ∨
        (value = 0x23 ∧ scan.wordStarted = false) then
      .error (inputInvalid field "shell-semantics")
    else shellWords .unquoted (scan.start.push value) rest

/-- `decode_shell_words`; `total` is what the budget has taken before. -/
def decodeShellWords (command : Bytes) (total : Nat) : Result (List Bytes × Nat) := do
  let scan ← shellWords limits field .unquoted { total := total } command
  match scan.output with
  | [] => .error (inputInvalid field "compiler-argument-missing")
  | [] :: _ => .error (inputInvalid field "compiler-argument-missing")
  | _ => .ok (scan.output, scan.total)

end Scanner

end Cxxlens.Sdk.Capture
