import Cxxlens.Sdk.Json.Value

set_option autoImplicit false

/-! # The bounded JSON parser

`strict_json_parser` and `parse_json_value` of `bounded_json_internal.cpp`. The source walks the
input by position; here the state holds the bytes that are left, and a position is the length of
the input less theirs. Digits and code points are numbers, shifts and masks arithmetic. Allocation
failures are not modelled. -/

namespace Cxxlens.Sdk.Json

/-- The constant members of `strict_json_parser`. -/
structure Parser where
  inputSize : Nat
  limits : JsonLimits
  contract : JsonParseContract
  deriving DecidableEq, Repr

/-- Its variable members: what is left of the input, and the two counters. -/
structure ParserState where
  rest : Bytes
  valueCount : Nat := 0
  totalStringBytes : Nat := 0
  deriving DecidableEq, Repr

namespace Parser

/-- `position_`, where these bytes are left -/
def position (parser : Parser) (rest : Bytes) : Nat :=
  parser.inputSize - rest.length

/-- `unexpected(json_error(contract_, reason, offset))` -/
def fail {α : Type} (parser : Parser) (reason : Bytes) (offset : Nat) : Result α :=
  .error (jsonError parser.contract reason offset)

/-- `contract_maximum_depth` -/
def contractMaximumDepth : Nat := 64

/-- `std::min(limits_.max_depth, contract_maximum_depth)` -/
def depthLimit (parser : Parser) : Nat :=
  min parser.limits.maxDepth.toNat contractMaximumDepth

/-! ## Characters -/

def isSpace (byte : UInt8) : Bool :=
  byte == 0x20 || byte == 0x09 || byte == 0x0a || byte == 0x0d

/-- `space` -/
def space (rest : Bytes) : Bytes :=
  rest.dropWhile isSpace

def isDigit (byte : UInt8) : Bool :=
  decide (0x30 ≤ byte ∧ byte ≤ 0x39)

/-- The loops over the digits of a number: the digits and what is behind them. -/
def digits (rest : Bytes) : Bytes × Bytes :=
  (rest.takeWhile isDigit, rest.dropWhile isDigit)

/-- The number a string of digits denotes. -/
def decimalValue (digits : Bytes) : Nat :=
  digits.foldl (fun value digit => value * 10 + (digit.toNat - 0x30)) 0

/-- `append_utf8` -/
def appendUtf8 (codePoint : Nat) : Bytes :=
  if codePoint ≤ 0x7f then [UInt8.ofNat codePoint]
  else if codePoint ≤ 0x7ff then
    [UInt8.ofNat (0xc0 + codePoint / 64), UInt8.ofNat (0x80 + codePoint % 64)]
  else if codePoint ≤ 0xffff then
    [UInt8.ofNat (0xe0 + codePoint / 4096), UInt8.ofNat (0x80 + codePoint / 64 % 64),
      UInt8.ofNat (0x80 + codePoint % 64)]
  else
    [UInt8.ofNat (0xf0 + codePoint / 262144), UInt8.ofNat (0x80 + codePoint / 4096 % 64),
      UInt8.ofNat (0x80 + codePoint / 64 % 64), UInt8.ofNat (0x80 + codePoint % 64)]

/-! ## Strings -/

/-- The value of one hexadecimal digit. -/
def hexadecimalDigit (byte : UInt8) : Option Nat :=
  if 0x30 ≤ byte ∧ byte ≤ 0x39 then some (byte.toNat - 0x30)
  else if 0x61 ≤ byte ∧ byte ≤ 0x66 then some (byte.toNat - 0x61 + 10)
  else if 0x41 ≤ byte ∧ byte ≤ 0x46 then some (byte.toNat - 0x41 + 10)
  else none

/-- The loop of `hexadecimal_quad` over the digits that are left. -/
def hexadecimalDigits (parser : Parser) : Nat → Nat → Bytes → Result (Nat × Bytes)
  | 0, output, rest => .ok (output, rest)
  | _ + 1, _, [] => parser.fail "short-unicode-escape" (parser.position [])
  | count + 1, output, byte :: rest =>
    match hexadecimalDigit byte with
    | none => parser.fail "unicode-escape" (parser.position (byte :: rest))
    | some digit => hexadecimalDigits parser count (output * 16 + digit) rest

/-- `hexadecimal_quad` -/
def hexadecimalQuad (parser : Parser) (rest : Bytes) : Result (Nat × Bytes) :=
  if 4 > rest.length then parser.fail "short-unicode-escape" (parser.position rest)
  else hexadecimalDigits parser 4 0 rest

/-- `can_append` -/
def canAppend (parser : Parser) (totalStringBytes current amount : Nat) : Bool :=
  decide (amount ≤ parser.limits.maxStringBytes.toNat ∧
    current ≤ parser.limits.maxStringBytes.toNat - amount ∧
    amount ≤ parser.limits.maxTotalStringBytes.toNat ∧
    totalStringBytes ≤ parser.limits.maxTotalStringBytes.toNat - amount ∧
    current ≤ parser.limits.maxTotalStringBytes.toNat - amount - totalStringBytes)

/-- The byte an escape of two characters stands for; `u` is none of them. -/
def simpleEscape (escaped : UInt8) : Option UInt8 :=
  if escaped = 0x22 ∨ escaped = 0x5c ∨ escaped = 0x2f then some escaped
  else if escaped = 0x62 then some 0x08
  else if escaped = 0x66 then some 0x0c
  else if escaped = 0x6e then some 0x0a
  else if escaped = 0x72 then some 0x0d
  else if escaped = 0x74 then some 0x09
  else none

/-- The second half of a surrogate pair, behind a high surrogate. -/
def surrogatePair (parser : Parser) (high : Nat) (rest : Bytes) : Result (Nat × Bytes) :=
  match rest with
  | 0x5c :: 0x75 :: tail =>
    match parser.hexadecimalQuad tail with
    | .error _ =>
      -- the position behind the digits that were read, which the error reports
      parser.fail "surrogate-pair" (parser.position (tail.drop (readDigits tail)))
    | .ok (low, tail) =>
      if low < 0xdc00 ∨ low > 0xdfff then parser.fail "surrogate-pair" (parser.position tail)
      else .ok (0x10000 + (high - 0xd800) * 1024 + (low - 0xdc00), tail)
  | _ => parser.fail "surrogate-pair" (parser.position rest)
where
  /-- How far a failing `hexadecimal_quad` moves the position. -/
  readDigits (tail : Bytes) : Nat :=
    if 4 > tail.length then 0
    else (tail.takeWhile fun byte => (hexadecimalDigit byte).isSome).length + 1

/-- The branch for `\u` -/
def unicodeEscape (parser : Parser) (rest : Bytes) : Result (Nat × Bytes) := do
  let (codePoint, rest) ← parser.hexadecimalQuad rest
  if 0xd800 ≤ codePoint ∧ codePoint ≤ 0xdbff then parser.surrogatePair codePoint rest
  else if 0xdc00 ≤ codePoint ∧ codePoint ≤ 0xdfff then
    parser.fail "surrogate-pair" (parser.position rest)
  else .ok (codePoint, rest)

/-- The loop of `parse_string` in at most `fuel` rounds, each of which reads a byte: the decoded
    string and what is behind the closing quote. `begin` is the position of the opening one. -/
def stringLoop (parser : Parser) (totalStringBytes start : Nat) :
    Nat → Bytes → Bytes → Result (Bytes × Bytes)
  | _, _, [] => parser.fail "unterminated-string" start
  | 0, _, _ => parser.fail "unterminated-string" start
  | fuel + 1, output, byte :: rest =>
    if byte = 0x22 then .ok (output, rest)
    else if byte < 0x20 then
      parser.fail "raw-control-character" (parser.position (byte :: rest))
    else if byte ≠ 0x5c then
      if parser.canAppend totalStringBytes output.length 1 = false then
        parser.fail "string-byte-limit" start
      else stringLoop parser totalStringBytes start fuel (output ++ [byte]) rest
    else
      match rest with
      | [] => parser.fail "short-escape" (parser.position rest)
      | escaped :: rest =>
        match simpleEscape escaped with
        | some value =>
          if parser.canAppend totalStringBytes output.length 1 = false then
            parser.fail "string-byte-limit" start
          else stringLoop parser totalStringBytes start fuel (output ++ [value]) rest
        | none =>
          if escaped ≠ 0x75 then
            parser.fail "unsupported-escape" (parser.position (escaped :: rest))
          else
            match parser.unicodeEscape rest with
            | .error error => .error error
            | .ok (codePoint, rest) =>
              let encoded := appendUtf8 codePoint
              if parser.canAppend totalStringBytes output.length encoded.length = false then
                parser.fail "string-byte-limit" start
              else stringLoop parser totalStringBytes start fuel (output ++ encoded) rest

/-- `parse_string` -/
def parseString (parser : Parser) (state : ParserState) : Result (Bytes × ParserState) :=
  match state.rest with
  | 0x22 :: rest => do
    let (output, rest) ← parser.stringLoop state.totalStringBytes (parser.position state.rest)
      rest.length [] rest
    .ok (output, { state with
      rest := rest, totalStringBytes := state.totalStringBytes + output.length })
  | _ => parser.fail "string-required" (parser.position state.rest)

/-! ## Numbers -/

/-- The branch of `parse_number` for integer tokens; `std::from_chars` refuses what does not fit. -/
def integerToken (parser : Parser) (start : Nat) (negative : Bool) (integer rest : Bytes) :
    Result (JsonValue × Bytes) :=
  if (rest.head?.any fun byte => [0x2e, 0x65, 0x45, 0x2b].contains byte) = true then
    parser.fail "integer-expected" start
  else if negative = true then
    if decimalValue integer > 2 ^ 63 then parser.fail "signed-integer" start
    else .ok (.signedInteger (Int64.ofInt (-(decimalValue integer : Int))), rest)
  else if decimalValue integer ≥ 2 ^ 64 then parser.fail "unsigned-integer" start
  else .ok (.unsignedInteger (UInt64.ofNat (decimalValue integer)), rest)

/-- The fraction: its digits, none when there is no point. -/
def fraction (parser : Parser) (start : Nat) (rest : Bytes) : Result (Bytes × Bytes) :=
  match rest with
  | 0x2e :: rest =>
    if (digits rest).1 = [] then parser.fail "number-syntax" start else .ok (digits rest)
  | _ => .ok ([], rest)

/-- The exponent: its sign and its digits, none when there is no exponent. -/
def exponent (parser : Parser) (start : Nat) (rest : Bytes) :
    Result (Bool × Bytes × Bytes) :=
  match rest with
  | [] => .ok (false, [], [])
  | letter :: tail =>
    if letter = 0x65 ∨ letter = 0x45 then
      let negative := decide (tail.head? = some 0x2d)
      let tail := if tail.head? = some 0x2b ∨ tail.head? = some 0x2d then tail.drop 1 else tail
      if (digits tail).1 = [] then parser.fail "number-syntax" start
      else .ok (negative, digits tail)
    else .ok (false, [], rest)

/-- The loops over `accumulate`: the magnitude, unless it passes the limit. -/
def accumulate (limit : Nat) : Nat → List Nat → Option Nat
  | magnitude, [] => some magnitude
  | magnitude, digit :: rest =>
    if magnitude > (limit - digit) / 10 then none
    else accumulate limit (magnitude * 10 + digit) rest

/-- The exact value of a number, from its integer and fraction digits and its exponent. -/
def exactInteger (parser : Parser) (start : Nat) (negative : Bool) (integer fraction : Bytes)
    (exponentNegative : Bool) (exponentDigits : Bytes) : Result JsonValue :=
  let base := integer ++ fraction
  let overflowReason : Bytes :=
    if negative = true then "signed-integer-overflow" else "unsigned-integer-overflow"
  let exponentOverflow := decide (decimalValue exponentDigits ≥ 2 ^ 64)
  let exponentMagnitude := if exponentOverflow = true then 0 else decimalValue exponentDigits
  if base.all (· == 0x30) = true then .ok (.unsignedInteger 0)
  else if exponentOverflow = true then
    parser.fail (if exponentNegative = true then "non-integer-number" else overflowReason) start
  else if exponentNegative = true ∧ (exponentMagnitude > base.length ∨
      fraction.length > base.length - exponentMagnitude) then
    parser.fail "non-integer-number" start
  else
    let retained :=
      if exponentNegative = true then base.length - (fraction.length + exponentMagnitude)
      else if exponentMagnitude ≥ fraction.length then base.length
      else base.length - (fraction.length - exponentMagnitude)
    let appendedZeros :=
      if exponentNegative = false ∧ exponentMagnitude ≥ fraction.length then
        exponentMagnitude - fraction.length
      else 0
    if (base.drop retained).any (· != 0x30) = true then
      parser.fail "non-integer-number" start
    else
      let significant := (base.take retained).dropWhile (· == 0x30)
      if significant = [] then .ok (.unsignedInteger 0)
      else if appendedZeros > 20 ∨ significant.length > 20 - appendedZeros then
        parser.fail overflowReason start
      else
        let limit := if negative = true then 2 ^ 63 else 2 ^ 64 - 1
        match accumulate limit 0
            (significant.map (fun digit => digit.toNat - 0x30) ++
              List.replicate appendedZeros 0) with
        | none => parser.fail overflowReason start
        | some magnitude =>
          if negative = false then .ok (.unsignedInteger (UInt64.ofNat magnitude))
          else if magnitude = 2 ^ 63 then .ok (.signedInteger Int64.minValue)
          else .ok (.signedInteger (-Int64.ofNat magnitude))

/-- `parse_number` -/
def parseNumber (parser : Parser) (rest : Bytes) : Result (JsonValue × Bytes) :=
  let start := parser.position rest
  let negative := decide (rest.head? = some 0x2d)
  let (integer, rest) := digits (if negative = true then rest.drop 1 else rest)
  if integer = [] ∨ (integer.length > 1 ∧ integer.head? = some 0x30) then
    parser.fail (if parser.contract.numbers = .integerTokens then "integer-expected"
      else "number-syntax") start
  else if parser.contract.numbers = .integerTokens then
    parser.integerToken start negative integer rest
  else do
    let (fraction, rest) ← parser.fraction start rest
    let (exponentNegative, exponentDigits, rest) ← parser.exponent start rest
    let value ← parser.exactInteger start negative integer fraction exponentNegative exponentDigits
    .ok (value, rest)

/-! ## Values -/

/-- `literal` -/
def literal (parser : Parser) (expected : Bytes) (value : JsonValue) (rest : Bytes) :
    Result (JsonValue × Bytes) :=
  if rest.take expected.length ≠ expected then parser.fail "literal" (parser.position rest)
  else .ok (value, rest.drop expected.length)

mutual

/-- `parse_value`. Each call takes one unit of `fuel`; twice the length of the input is enough. -/
def parseValue (parser : Parser) : Nat → Nat → ParserState → Result (JsonValue × ParserState)
  | 0, _, state => parser.fail "value-missing" (parser.position state.rest)
  | fuel + 1, depth, state =>
    let rest := space state.rest
    if parser.contract.depth = .allValues ∧ depth > parser.depthLimit then
      parser.fail "depth-limit" (parser.position rest)
    else
      match rest with
      | [] => parser.fail "value-missing" (parser.position rest)
      | first :: tail =>
        if state.valueCount ≥ parser.limits.maxTotalValues.toNat then
          parser.fail "value-count-limit" (parser.position rest)
        else
          let counted := { state with rest := rest, valueCount := state.valueCount + 1 }
          if first = 0x7b then
            if parser.contract.depth = .containers ∧ depth ≥ parser.depthLimit then
              parser.fail "depth-limit" (parser.position rest)
            else
              let inside := space tail
              match inside with
              | 0x7d :: tail => do
                let value ← JsonValue.ofMembers []
                .ok (value, { counted with rest := tail })
              | _ => do
                let (members, state) ← parseMembers parser fuel (depth + 1) []
                  { counted with rest := inside }
                let value ← JsonValue.ofMembers members
                .ok (value, state)
          else if first = 0x5b then
            if parser.contract.depth = .containers ∧ depth ≥ parser.depthLimit then
              parser.fail "depth-limit" (parser.position rest)
            else
              let inside := space tail
              match inside with
              | 0x5d :: tail => .ok (.array [], { counted with rest := tail })
              | _ => do
                let (items, state) ← parseElements parser fuel (depth + 1) []
                  { counted with rest := inside }
                .ok (.array items, state)
          else if first = 0x22 then do
            let (decoded, state) ← parser.parseString counted
            let value ← JsonValue.ofString decoded
            .ok (value, state)
          else do
            let (value, tail) ←
              if first = 0x74 then parser.literal "true" (.boolean true) rest
              else if first = 0x66 then parser.literal "false" (.boolean false) rest
              else if first = 0x6e then parser.literal "null" .null rest
              else parser.parseNumber rest
            .ok (value, { counted with rest := tail })

/-- The loop of `parse_object`, with the members it has so far. -/
def parseMembers (parser : Parser) :
    Nat → Nat → Members → ParserState → Result (Members × ParserState)
  | 0, _, _, state => parser.fail "string-required" (parser.position state.rest)
  | fuel + 1, depth, output, state => do
    let keyOffset := parser.position state.rest
    let (key, state) ← parser.parseString state
    if containsName output key = true then parser.fail "duplicate-member" keyOffset
    else if output.length ≥ parser.limits.maxObjectMembers.toNat then
      parser.fail "object-member-limit" keyOffset
    else
      match space state.rest with
      | 0x3a :: rest => do
        let (child, state) ← parseValue parser fuel depth { state with rest := rest }
        let output := emplace key child output
        match space state.rest with
        | 0x7d :: rest => .ok (output, { state with rest := rest })
        | 0x2c :: rest =>
          parseMembers parser fuel depth output { state with rest := space rest }
        | rest => parser.fail "object-comma" (parser.position rest)
      | rest => parser.fail "object-colon" (parser.position rest)

/-- The loop of `parse_array`, with the elements it has so far. -/
def parseElements (parser : Parser) :
    Nat → Nat → List JsonValue → ParserState → Result (List JsonValue × ParserState)
  | 0, _, _, state => parser.fail "value-missing" (parser.position state.rest)
  | fuel + 1, depth, output, state =>
    if output.length ≥ parser.limits.maxArrayElements.toNat then
      parser.fail "array-element-limit" (parser.position state.rest)
    else do
      let (child, state) ← parseValue parser fuel depth state
      let output := output ++ [child]
      match space state.rest with
      | 0x5d :: rest => .ok (output, { state with rest := rest })
      | 0x2c :: rest => parseElements parser fuel depth output { state with rest := rest }
      | rest => parser.fail "array-comma" (parser.position rest)

end

/-- `parse` -/
def parse (parser : Parser) (input : Bytes) : Result JsonValue := do
  let (root, state) ← parser.parseValue (2 * input.length + 1) 0 { rest := input }
  let rest := space state.rest
  if rest.isEmpty = false then parser.fail "trailing-data" (parser.position rest)
  else if parser.contract.requireTopLevelObject = true ∧ root.isObject = false then
    parser.fail "top-level-object-required" 0
  else .ok root

end Parser

/-- `parse_json_value` -/
def parseJsonValue (rawBytes : Bytes) (limits : JsonLimits) (contract : JsonParseContract) :
    Result JsonValue :=
  if rawBytes.length > limits.maxInputBytes.toNat then
    .error (jsonError contract "input-byte-limit" limits.maxInputBytes.toNat)
  else if contract.rejectUtf8Bom = true ∧ rawBytes.take 3 = [0xef, 0xbb, 0xbf] then
    .error (jsonError contract "utf8-bom" 0)
  else
    match invalidUtf8Offset rawBytes with
    | some invalid => .error (jsonError contract "invalid-utf8" invalid)
    | none => Parser.parse ⟨rawBytes.length, limits, contract⟩ rawBytes

end Cxxlens.Sdk.Json
