import Cxxlens.Sdk.Capture.ResponseExpansion
import Cxxlens.Sdk.Decimal

set_option autoImplicit false

/-! # Replay mapping

`map_gcc_16_2_replay_arguments` of `gcc_replay_planner_internal.cpp`. The branches of the loop over the
expanded arguments are told apart by `tokenClass`; each of them pushes mappings of its own or leaves
one to the append at the end of the round. -/

namespace Cxxlens.Sdk.Capture

open Fallible (bind_eq_ok_iff guard_eq_ok_iff)

/-- `invalid` -/
def captureInvalid (field detail : Bytes) : Error :=
  { code := "application-analysis.capture-invalid", field := field, detail := detail }

/-- `gcc_replay_mapping_result`, and `source_bound` of the loop. -/
structure ReplayMapping where
  effectiveArguments : List Bytes := []
  optionMappings : List ReplayOptionMapping := []
  unresolved : List CaptureGap := []
  sourceBound : Bool := false
  deriving DecidableEq, Repr

/-! ## The branches -/

/-- `token.starts_with` -/
def startsWith (token : Bytes) (literal : String) : Bool :=
  (ascii literal).isPrefixOf token

/-- `path_option` -/
structure PathOption where
  production : Bytes
  replay : Bytes
  allowSeparated : Bool
  allowJoined : Bool
  deriving DecidableEq, Repr

/-- `path_options` -/
def pathOptions : List PathOption :=
  [⟨"--include-directory-after=", "-idirafter", false, true⟩,
    ⟨"--include-directory=", "-I", false, true⟩,
    ⟨"-idirafter", "-idirafter", true, true⟩,
    ⟨"-isystem", "-isystem", true, true⟩,
    ⟨"-iquote", "-iquote", true, true⟩,
    ⟨"-include", "-include", true, false⟩,
    ⟨"-imacros", "-imacros", true, false⟩,
    ⟨"-I", "-I", true, true⟩]

/-- The first path option a token is an instance of. -/
def findPathOption (token : Bytes) : Option PathOption :=
  pathOptions.find? fun candidate =>
    (candidate.allowSeparated && token == candidate.production) ||
      (candidate.allowJoined && candidate.production.isPrefixOf token &&
        decide (candidate.production.length < token.length))

/-- The branch a token behind the compiler is handled in. -/
inductive TokenClass where
  | output
  | dependency
  | dependencyJoined
  | preprocessorJoined
  | preprocessor
  | standard
  | pthread
  | path (option : PathOption)
  | other
  deriving DecidableEq, Repr

/-- The conditions of the branches, in their order. -/
def tokenClass (token : Bytes) : TokenClass :=
  if token = ascii "-c" ∨
      token ∈ [ascii "-M", ascii "-MM", ascii "-MD", ascii "-MMD", ascii "-MP"] ∨
      token = ascii "-o" ∨ (startsWith token "-o" ∧ 2 < token.length) then .output
  else if token ∈ [ascii "-MF", ascii "-MT", ascii "-MQ"] then .dependency
  else if (startsWith token "-MF" ∨ startsWith token "-MT" ∨ startsWith token "-MQ") ∧
      3 < token.length then .dependencyJoined
  else if ((startsWith token "-D" ∨ startsWith token "-U") ∧ 2 < token.length) ∨
      token ∈ [ascii "-nostdinc", ascii "-nostdinc++", ascii "-undef"] then .preprocessorJoined
  else if token = ascii "-D" ∨ token = ascii "-U" then .preprocessor
  else if startsWith token "-std=" then .standard
  else if token = ascii "-pthread" then .pthread
  else
    match findPathOption token with
    | some option => .path option
    | none => .other

section Mapping

variable (capture : DecodedCaptureProjection) (unit : DecodedCaptureUnit) (unitIndex : Nat)
  (limits : ImportLimits)

/-- `field_for` -/
def fieldFor (index : Nat) : Bytes :=
  ascii "compile_units[" ++ CanonicalValue.decimal unitIndex ++ ascii "].expanded_argv[" ++
    CanonicalValue.decimal index ++ ascii "]"

/-- `append_gap` -/
def appendGap (output : ReplayMapping) (field : Bytes) (mapping : ReplayOptionMapping) :
    ReplayMapping :=
  { output with
    unresolved := output.unresolved ++
      [{ field := field, state := "unavailable", reason := mapping.reason,
         completionAction := mapping.completionAction }] }

/-- `push_effective` -/
def pushEffective (output : ReplayMapping) (tokens : List Bytes) : Result ReplayMapping :=
  if limits.maximumArgumentsPerUnit - output.effectiveArguments.length < tokens.length then
    .error (limitExceeded "replay_plan.effective_arguments" "count")
  else .ok { output with effectiveArguments := output.effectiveArguments ++ tokens }

/-- `output.option_mappings.push_back` -/
def pushMapping (output : ReplayMapping) (mapping : ReplayOptionMapping) : ReplayMapping :=
  { output with optionMappings := output.optionMappings ++ [mapping] }

/-- `append_mapping` -/
def appendMapping (output : ReplayMapping) (mapping : ReplayOptionMapping) :
    Result ReplayMapping := do
  let output ← pushEffective limits output mapping.replayTokens
  .ok (pushMapping output mapping)

/-- The lambda `unresolved`: the scope of the mapping is set and its gap recorded. -/
def recordUnresolved (output : ReplayMapping) (index : Nat) (mapping : ReplayOptionMapping) :
    ReplayMapping × ReplayOptionMapping :=
  let mapping := { mapping with affectedScope := unit.compileUnitId }
  (appendGap output (fieldFor unitIndex index) mapping, mapping)

/-- `mapping` and its append at the end of the round. -/
def unresolvedMapping (output : ReplayMapping) (index : Nat) (mapping : ReplayOptionMapping) :
    Result ReplayMapping :=
  let recorded := recordUnresolved unit unitIndex output index mapping
  appendMapping limits recorded.1 recorded.2

/-- Two mappings that are pushed without replay tokens before the loop continues. -/
def pushPair (output : ReplayMapping) (mapping value : ReplayOptionMapping) : ReplayMapping :=
  pushMapping (pushMapping output mapping) value

/-- The compiler itself. -/
def mapCompiler (output : ReplayMapping) (token : Bytes) : Result ReplayMapping :=
  unresolvedMapping unit unitIndex limits output 0
    { productionToken := token
      replayTokens := [ascii "clang++", ascii "-fsyntax-only"]
      fidelity := .approximation
      reason := "analysis-frontend-differs-from-production-compiler"
      completionAction := "use-a-qualified-gcc-native-gap-provider" }

/-- An option whose argument is the next token, neither of which is replayed. -/
def mapIgnoredPair (output : ReplayMapping) (token : Bytes) (next : Option Bytes) (detail : Bytes) :
    Result (ReplayMapping × Bool) :=
  match next with
  | none => .error (captureInvalid "original_argv" detail)
  | some value =>
    .ok (pushPair output { productionToken := token, fidelity := .nonsemantic }
      { productionToken := value, fidelity := .nonsemantic }, true)

/-- `-c`, the output file and the dependency switches. -/
def mapOutput (output : ReplayMapping) (token : Bytes) (next : Option Bytes) :
    Result (ReplayMapping × Bool) :=
  if token = ascii "-o" then mapIgnoredPair output token next "missing-output-path"
  else do
    let output ← appendMapping limits output
      { productionToken := token, fidelity := .nonsemantic }
    .ok (output, false)

/-- A token that is replayed as it is. -/
def mapExact (output : ReplayMapping) (token : Bytes) : Result ReplayMapping :=
  appendMapping limits output
    { productionToken := token, replayTokens := [token], fidelity := .exact }

/-- `-D` and `-U` with their argument behind them. -/
def mapPreprocessor (output : ReplayMapping) (token : Bytes) (next : Option Bytes) :
    Result (ReplayMapping × Bool) :=
  match next with
  | none => .error (captureInvalid "original_argv" "missing-preprocessor-option-argument")
  | some value => do
    let output ← mapExact limits output token
    let output ← mapExact limits output value
    .ok (output, true)

/-- `-std=` -/
def mapStandard (output : ReplayMapping) (index : Nat) (token : Bytes) : Result ReplayMapping :=
  let standard := token.drop 5
  let isMatch := unit.languageStandard == some standard
  let strict := unit.extensionMode == some (ascii "strict")
  if isMatch && strict && standard == ascii "c++23" then mapExact limits output token
  else if isMatch && unit.extensionMode == some (ascii "gnu") && standard == ascii "gnu++23" then
    unresolvedMapping unit unitIndex limits output index
      { productionToken := token
        replayTokens := [token]
        fidelity := .approximation
        reason := "gcc-extension-fidelity-not-proved-for-clang-replay"
        completionAction := "compare-the-required-extension-or-use-native-gap-provider" }
  else
    unresolvedMapping unit unitIndex limits output index
      { productionToken := token
        fidelity := .unsupported
        reason := "language-mode-capture-mismatch-or-unsupported"
        completionAction := "recapture-a-pinned-cxx23-language-mode" }

/-- `-pthread` -/
def mapPthread (output : ReplayMapping) (index : Nat) (token : Bytes) : Result ReplayMapping :=
  unresolvedMapping unit unitIndex limits output index
    { productionToken := token
      replayTokens := [token]
      fidelity := .approximation
      reason := "gcc-pthread-driver-effects-not-proved-for-clang-replay"
      completionAction := "compare-pthread-macro-and-target-runtime-effects" }

/-- An option and its argument that are pushed with a gap for each of them. -/
def pushUnresolvedPair (output : ReplayMapping) (index : Nat) (mapping : ReplayOptionMapping)
    (value : Bytes) : ReplayMapping :=
  let recorded := recordUnresolved unit unitIndex output index mapping
  let second := recordUnresolved unit unitIndex (pushMapping recorded.1 recorded.2) (index + 1)
    { productionToken := value
      fidelity := .unsupported
      reason := recorded.2.reason
      completionAction := recorded.2.completionAction }
  pushMapping second.1 second.2

/-- The options that take a path, in one token or two. -/
def mapPathOption (output : ReplayMapping) (index : Nat) (token : Bytes) (next : Option Bytes)
    (option : PathOption) : Result (ReplayMapping × Bool) :=
  let separated := token == option.production
  if separated && next.isNone then
    .error (captureInvalid "original_argv" "missing-path-option-argument")
  else
    let rawPath := if separated then next.getD [] else token.drop option.production.length
    if rawPath = [] then .error (captureInvalid "original_argv" "empty-path-option-argument")
    else
      match logicalArgumentPath capture unit rawPath with
      | .ok logical =>
        if separated then do
          let output ← appendMapping limits output
            { productionToken := token
              replayTokens := [option.replay]
              fidelity := .semanticsPreserving }
          let output ← appendMapping limits output
            { productionToken := rawPath
              replayTokens := [logical]
              fidelity := .semanticsPreserving }
          .ok (output, true)
        else do
          let output ← appendMapping limits output
            { productionToken := token
              replayTokens := [option.replay ++ logical]
              fidelity := .semanticsPreserving }
          .ok (output, false)
      | .error _ =>
        let mapping : ReplayOptionMapping :=
          { productionToken := token
            fidelity := .unsupported
            reason := "gcc-path-option-outside-logical-project"
            completionAction := "capture-and-map-the-external-toolchain-or-source-input" }
        if separated then
          .ok (pushUnresolvedPair unit unitIndex output index mapping rawPath, true)
        else do
          let output ← unresolvedMapping unit unitIndex limits output index mapping
          .ok (output, false)

/-- The logical path a token names on its own. -/
def tokenLogicalPath (token : Bytes) : Option Bytes :=
  match logicalPathFor capture token with
  | some logical => some logical
  | none =>
    if token.head? ≠ some 0x2d ∧ token.head? ≠ some 0x40 then
      (logicalArgumentPath capture unit token).toOption
    else none

/-- The token is the source file of the unit. -/
def namesSource (token : Bytes) : Bool :=
  tokenLogicalPath capture unit token == some unit.sourceLogicalPath ||
    token == unit.sourceLogicalPath

def isSpecification (token : Bytes) : Bool :=
  token == ascii "--specs" || startsWith token "--specs=" || startsWith token "-specs="

def isExternalRoot (token : Bytes) : Bool :=
  token == ascii "--sysroot" || token == ascii "-isysroot" || token == ascii "-B" ||
    startsWith token "--sysroot=" || (startsWith token "-isysroot" && decide (9 < token.length)) ||
    (startsWith token "-B" && decide (2 < token.length))

def isPairedExternal (token : Bytes) : Bool :=
  token == ascii "--specs" || token == ascii "--sysroot" || token == ascii "-isysroot" ||
    token == ascii "-B"

/-- What a token that no branch knows is recorded with. -/
def unclassifiedMapping (token : Bytes) : ReplayOptionMapping where
  productionToken := token
  fidelity := .unsupported
  reason :=
    if isSpecification token then "gcc-specification-file-not-replayable"
    else if isExternalRoot token then "gcc-external-toolchain-root-not-replayable"
    else if startsWith token "@" then "response-file-expansion-unavailable"
    else "gcc-option-not-classified"
  completionAction :=
    if isSpecification token then
      "model-the-specification-effects-with-a-versioned-replay-contract"
    else if isExternalRoot token then "capture-and-bind-the-external-toolchain-root"
    else if startsWith token "@" then "capture-and-expand-the-response-file"
    else "add-a-versioned-gcc16-option-mapping"

/-- The source file, the external toolchain and what is not known. -/
def mapOther (output : ReplayMapping) (index : Nat) (token : Bytes) (next : Option Bytes) :
    Result (ReplayMapping × Bool) :=
  if namesSource capture unit token then do
    let logical := tokenLogicalPath capture unit token
    let output ← appendMapping limits { output with sourceBound := true }
      { productionToken := token
        replayTokens := [logical.getD token]
        fidelity := if logical.isSome then .semanticsPreserving else .exact }
    .ok (output, false)
  else if isPairedExternal token && next.isNone then
    .error (captureInvalid "original_argv" "missing-external-option-argument")
  else if token = ascii "--specs=" ∨ token = ascii "-specs=" ∨ token = ascii "--sysroot=" then
    .error (captureInvalid "original_argv" "empty-external-option-argument")
  else if isPairedExternal token then
    .ok (pushUnresolvedPair unit unitIndex output index (unclassifiedMapping token)
      (next.getD []), true)
  else do
    let output ← unresolvedMapping unit unitIndex limits output index (unclassifiedMapping token)
    .ok (output, false)

/-- One round of the loop; whether it has taken the next token too. -/
def mapToken (output : ReplayMapping) (index : Nat) (token : Bytes) (next : Option Bytes) :
    Result (ReplayMapping × Bool) :=
  if limits.maximumStringBytes < token.length then
    .error (limitExceeded "original_argv" "string-bytes")
  else if index = 0 then do
    let output ← mapCompiler unit unitIndex limits output token
    .ok (output, false)
  else
    match tokenClass token with
    | .output => mapOutput limits output token next
    | .dependency => mapIgnoredPair output token next "missing-dependency-option-argument"
    | .dependencyJoined => do
      let output ← appendMapping limits output
        { productionToken := token, fidelity := .nonsemantic }
      .ok (output, false)
    | .preprocessorJoined => do
      let output ← mapExact limits output token
      .ok (output, false)
    | .preprocessor => mapPreprocessor limits output token next
    | .standard => do
      let output ← mapStandard unit unitIndex limits output index token
      .ok (output, false)
    | .pthread => do
      let output ← mapPthread unit unitIndex limits output index token
      .ok (output, false)
    | .path option => mapPathOption capture unit unitIndex limits output index token next option
    | .other => mapOther capture unit unitIndex limits output index token next

/-- The loop over the expanded arguments. The flag is set when the round before has taken the token
    in front. -/
def mapTokens : Bool → ReplayMapping → Nat → List Bytes → Result ReplayMapping
  | _, output, _, [] => .ok output
  | true, output, index, _ :: rest => mapTokens false output (index + 1) rest
  | false, output, index, token :: rest => do
    let mapped ← mapToken capture unit unitIndex limits output index token rest.head?
    mapTokens mapped.2 mapped.1 (index + 1) rest

/-- The gaps of the environment effects that have been observed. -/
def environmentGaps : Nat → List DecodedCaptureEnvironmentEffect → List CaptureGap
  | _, [] => []
  | index, effect :: rest =>
    if effect.state ≠ ascii "observed" ∧ effect.state ≠ ascii "derived" then
      environmentGaps (index + 1) rest
    else
      { field := ascii "compile_units[" ++ CanonicalValue.decimal unitIndex ++
          ascii "].environment_effects[" ++ CanonicalValue.decimal index ++ ascii "]"
        state := "unavailable"
        reason := "gcc-environment-effect-not-replayed"
        completionAction := "add-a-versioned-gcc16-environment-effect-mapping" } ::
        environmentGaps (index + 1) rest

/-- The source is replayed at the end when no token was bound to it. -/
def bindSource (output : ReplayMapping) : Result ReplayMapping :=
  if output.sourceBound then .ok output
  else do
    let output ← pushEffective limits output [unit.sourceLogicalPath]
    .ok
      { output with
        unresolved := output.unresolved ++
          [{ field := ascii "compile_units[" ++ CanonicalValue.decimal unitIndex ++
               ascii "].original_argv"
             state := "unavailable"
             reason := "source-token-not-bound"
             completionAction := "recapture-the-exact-production-source-token" }] }

/-- The arguments the unit was compiled with, when there are any. -/
def capturedArguments : Result (List Bytes) :=
  match unit.originalArguments with
  | some (first :: more) => .ok (first :: more)
  | _ =>
    .error
      { code := "application-analysis.target-unavailable"
        field := "original_argv"
        detail := "recapture the GCC compile unit with its exact argv" }

/-- `map_gcc_16_2_replay_arguments` -/
def mapGcc162ReplayArguments : Result ReplayMapping := do
  let arguments ← capturedArguments unit
  if limits.maximumArgumentsPerUnit < arguments.length then
    .error (limitExceeded "original_argv" "count")
  else
    match capture.sourceClosures.find? fun closure => closure.id == unit.sourceClosureId with
    | none => .error (requestInvalid "source_closure" "missing-validated-binding")
    | some closure => do
      let expanded ← expand capture unit closure limits limits.maximumNestingDepth {} arguments
      let output ← mapTokens capture unit unitIndex limits false
        { unresolved := environmentGaps unitIndex 0 unit.environmentEffects } 0 expanded.1
      bindSource unit unitIndex limits output

end Mapping

/-! ## What a round adds -/

section Rounds

variable {capture : DecodedCaptureProjection} {unit : DecodedCaptureUnit} {unitIndex : Nat}
  {limits : ImportLimits}

/-- The mapping does not keep the meaning of its token. -/
def ReplayOptionMapping.Unfaithful (mapping : ReplayOptionMapping) : Prop :=
  mapping.fidelity = .approximation ∨ mapping.fidelity = .unsupported

/-- The gap of a mapping for the token at an index. -/
def gapOf (unitIndex index : Nat) (mapping : ReplayOptionMapping) : CaptureGap where
  field := fieldFor unitIndex index
  state := "unavailable"
  reason := mapping.reason
  completionAction := mapping.completionAction

/-- Mappings for the tokens from an index on have been added, with their replay tokens and with a gap
    for each that is not faithful; `binds` tells whether one of the tokens is the source. -/
structure Adds (unitIndex : Nat) (limits : ImportLimits) (output output' : ReplayMapping)
    (index : Nat) (tokens : List Bytes) (binds : Bool) : Prop where
  mappings : ∃ added, output'.optionMappings = output.optionMappings ++ added ∧
    added.map ReplayOptionMapping.productionToken = tokens ∧
    output'.effectiveArguments =
      output.effectiveArguments ++ added.flatMap ReplayOptionMapping.replayTokens ∧
    ∀ offset mapping, added[offset]? = some mapping → mapping.Unfaithful →
      gapOf unitIndex (index + offset) mapping ∈ output'.unresolved
  gaps : output.unresolved ⊆ output'.unresolved
  bounded : output.effectiveArguments.length ≤ limits.maximumArgumentsPerUnit →
    output'.effectiveArguments.length ≤ limits.maximumArgumentsPerUnit
  bound : output'.sourceBound = (output.sourceBound || binds)

namespace Adds

variable {output output' output'' : ReplayMapping} {index : Nat}

theorem nothing (output : ReplayMapping) (index : Nat) :
    Adds unitIndex limits output output index [] false where
  mappings := ⟨[], by simp⟩
  gaps := List.Subset.refl _
  bounded h := h
  bound := (Bool.or_false _).symm

theorem trans {tokens tokens' : List Bytes} {binds binds' : Bool}
    (h : Adds unitIndex limits output output' index tokens binds)
    (h' : Adds unitIndex limits output' output'' (index + tokens.length) tokens' binds') :
    Adds unitIndex limits output output'' index (tokens ++ tokens') (binds || binds') where
  mappings := by
    obtain ⟨added, hmappings, htokens, heffective, hgaps⟩ := h.mappings
    obtain ⟨added', hmappings', htokens', heffective', hgaps'⟩ := h'.mappings
    refine ⟨added ++ added', by simp [hmappings', hmappings], by simp [htokens, htokens'],
      by simp [heffective', heffective], ?_⟩
    intro offset mapping hmapping hunfaithful
    have hlength : added.length = tokens.length := by rw [← htokens, List.length_map]
    by_cases hlt : offset < added.length
    · rw [List.getElem?_append_left hlt] at hmapping
      exact h'.gaps (hgaps offset mapping hmapping hunfaithful)
    · rw [List.getElem?_append_right (Nat.le_of_not_lt hlt)] at hmapping
      have hgap := hgaps' _ mapping hmapping hunfaithful
      rwa [hlength, Nat.add_assoc, Nat.add_sub_cancel' (by omega)] at hgap
  gaps := fun gap hgap => h'.gaps (h.gaps hgap)
  bounded hbounded := h'.bounded (h.bounded hbounded)
  bound := by rw [h'.bound, h.bound, Bool.or_assoc]

/-- A gap is recorded for a mapping that is still to be pushed. -/
theorem record (output : ReplayMapping) (index at' : Nat) (mapping : ReplayOptionMapping) :
    Adds unitIndex limits output (recordUnresolved unit unitIndex output at' mapping).1 index []
        false ∧
      gapOf unitIndex at' (recordUnresolved unit unitIndex output at' mapping).2 ∈
        (recordUnresolved unit unitIndex output at' mapping).1.unresolved where
  left :=
    { mappings := ⟨[], by simp [recordUnresolved, appendGap]⟩
      gaps := List.subset_append_left _ _
      bounded := fun h => h
      bound := (Bool.or_false _).symm }
  right := by simp [recordUnresolved, appendGap, gapOf]

/-- A mapping without replay tokens is pushed. -/
theorem push {mapping : ReplayOptionMapping} (hreplay : mapping.replayTokens = [])
    (hgap : mapping.Unfaithful → gapOf unitIndex index mapping ∈ output.unresolved) :
    Adds unitIndex limits output (pushMapping output mapping) index [mapping.productionToken]
      false where
  mappings := by
    refine ⟨[mapping], rfl, rfl, by simp [pushMapping, hreplay], ?_⟩
    intro offset other hother hunfaithful
    rcases offset with _ | offset
    · obtain rfl : mapping = other := by simpa using hother
      exact hgap hunfaithful
    · simp at hother
  gaps := List.Subset.refl _
  bounded h := h
  bound := (Bool.or_false _).symm

/-- A mapping is appended with its replay tokens. -/
theorem append {mapping : ReplayOptionMapping} (h : appendMapping limits output mapping = .ok output')
    (hgap : mapping.Unfaithful → gapOf unitIndex index mapping ∈ output.unresolved) :
    Adds unitIndex limits output output' index [mapping.productionToken] false := by
  simp only [appendMapping, pushEffective, bind_eq_ok_iff, guard_eq_ok_iff, Except.ok.injEq] at h
  obtain ⟨_, ⟨hroom, rfl⟩, rfl⟩ := h
  refine ⟨⟨[mapping], rfl, rfl, by simp [pushMapping], ?_⟩, List.Subset.refl _, ?_,
    (Bool.or_false _).symm⟩
  · intro offset other hother hunfaithful
    rcases offset with _ | offset
    · obtain rfl : mapping = other := by simpa using hother
      exact hgap hunfaithful
    · simp at hother
  · intro hbounded
    simp only [pushMapping, List.length_append]
    omega

/-- A mapping is appended after its gap has been recorded. -/
theorem unresolved {mapping : ReplayOptionMapping}
    (h : unresolvedMapping unit unitIndex limits output index mapping = .ok output') :
    Adds unitIndex limits output output' index [mapping.productionToken] false := by
  have hrecord := @record unit unitIndex limits output index index mapping
  have happend := @append unitIndex limits _ output' index
    (recordUnresolved unit unitIndex output index mapping).2 h fun _ => hrecord.2
  exact hrecord.1.trans happend

/-- A pair of mappings is pushed with a gap for each. -/
theorem unresolvedPair {mapping : ReplayOptionMapping} (value : Bytes)
    (hreplay : mapping.replayTokens = []) :
    Adds unitIndex limits output (pushUnresolvedPair unit unitIndex output index mapping value) index
      [mapping.productionToken, value] false := by
  have hfirst := @record unit unitIndex limits output index index mapping
  have hpushed := @push unitIndex limits (recordUnresolved unit unitIndex output index mapping).1
    index (recordUnresolved unit unitIndex output index mapping).2 hreplay fun _ => hfirst.2
  have hsecond := @record unit unitIndex limits
    (pushMapping (recordUnresolved unit unitIndex output index mapping).1
      (recordUnresolved unit unitIndex output index mapping).2) (index + 1) (index + 1)
    { productionToken := value, fidelity := .unsupported
      reason := mapping.reason, completionAction := mapping.completionAction }
  exact (hfirst.1.trans hpushed).trans (hsecond.1.trans (push rfl fun _ => hsecond.2))

/-- An exact mapping needs no gap. -/
theorem exactly {token : Bytes} (h : mapExact limits output token = .ok output') :
    Adds unitIndex limits output output' index [token] false :=
  append h fun hunfaithful => by rcases hunfaithful with h | h <;> exact nomatch h

end Adds

/-- What a round that succeeds has done: it has added mappings for its token and, when it takes the
    next one, for that one too. -/
structure Round (unitIndex : Nat) (limits : ImportLimits) (output : ReplayMapping)
    (mapped : ReplayMapping × Bool) (index : Nat) (token : Bytes) (next : Option Bytes)
    (takes binds : Bool) : Prop where
  adds : Adds unitIndex limits output mapped.1 index
    (token :: if takes then next.toList else []) binds
  taken : mapped.2 = takes
  there : takes = true → next.isSome = true

section Branches

variable {output : ReplayMapping} {mapped : ReplayMapping × Bool} {index : Nat} {token : Bytes}
  {next : Option Bytes}

/-- A branch that adds mappings for its token alone. -/
theorem Round.single {result : Result ReplayMapping} {binds : Bool}
    (hadds : ∀ output', result = .ok output' →
      Adds unitIndex limits output output' index [token] binds)
    (h : (result >>= fun output => .ok (output, false)) = .ok mapped) :
    Round unitIndex limits output mapped index token next false binds := by
  obtain ⟨output', hresult, hmapped⟩ := bind_eq_ok_iff.1 h
  obtain rfl := Except.ok.inj hmapped
  exact ⟨hadds output' hresult, rfl, fun h => nomatch h⟩

theorem round_ignoredPair {detail : Bytes}
    (h : mapIgnoredPair output token next detail = .ok mapped) :
    Round unitIndex limits output mapped index token next true false := by
  rcases next with _ | value
  · exact nomatch h
  · obtain rfl := Except.ok.inj h
    have hignored : ∀ token, ¬ (ReplayOptionMapping.Unfaithful
        { productionToken := token, fidelity := .nonsemantic }) := by
      intro token hunfaithful
      rcases hunfaithful with h | h <;> exact nomatch h
    exact ⟨(Adds.push rfl fun h => absurd h (hignored token)).trans
      (Adds.push rfl fun h => absurd h (hignored value)), rfl, fun _ => rfl⟩

theorem round_output (h : mapOutput limits output token next = .ok mapped) :
    Round unitIndex limits output mapped index token next (token == ascii "-o") false := by
  unfold mapOutput at h
  by_cases hpair : token = ascii "-o"
  · rw [if_pos hpair] at h
    rw [beq_iff_eq.2 hpair]
    exact round_ignoredPair h
  · rw [if_neg hpair] at h
    rw [beq_false_of_ne hpair]
    refine Round.single (fun output' h => Adds.append h fun hunfaithful => ?_) h
    rcases hunfaithful with h | h <;> exact nomatch h

theorem round_preprocessor (h : mapPreprocessor limits output token next = .ok mapped) :
    Round unitIndex limits output mapped index token next true false := by
  rcases next with _ | value
  · exact nomatch h
  · simp only [mapPreprocessor, bind_eq_ok_iff, Except.ok.injEq] at h
    obtain ⟨first, hfirst, second, hsecond, rfl⟩ := h
    exact ⟨(Adds.exactly hfirst).trans (Adds.exactly hsecond), rfl, fun _ => rfl⟩

theorem adds_standard {output' : ReplayMapping}
    (h : mapStandard unit unitIndex limits output index token = .ok output') :
    Adds unitIndex limits output output' index [token] false := by
  unfold mapStandard at h
  dsimp only at h
  split_ifs at h
  · exact Adds.exactly h
  · exact Adds.unresolved h
  · exact Adds.unresolved h

theorem round_pathOption {option : PathOption}
    (h : mapPathOption capture unit unitIndex limits output index token next option = .ok mapped) :
    Round unitIndex limits output mapped index token next (token == option.production) false := by
  have hfaithful : ∀ (token : Bytes) (replay : List Bytes), ¬ ReplayOptionMapping.Unfaithful
      { productionToken := token, replayTokens := replay, fidelity := .semanticsPreserving } := by
    intro token replay hunfaithful
    rcases hunfaithful with h | h <;> exact nomatch h
  unfold mapPathOption at h
  dsimp only at h
  by_cases hseparated : (token == option.production) = true
  · rw [hseparated] at h ⊢
    rcases next with _ | value
    · exact nomatch h
    · simp only [Bool.true_and, Option.isNone_some, Bool.false_eq_true, if_false, if_true,
        Option.getD_some, guard_eq_ok_iff] at h
      obtain ⟨-, h⟩ := h
      cases hlogical : logicalArgumentPath capture unit value with
      | ok logical =>
        simp only [hlogical, bind_eq_ok_iff, Except.ok.injEq] at h
        obtain ⟨first, hfirst, second, hsecond, rfl⟩ := h
        exact ⟨(Adds.append hfirst fun h => absurd h (hfaithful _ _)).trans
          (Adds.append hsecond fun h => absurd h (hfaithful _ _)), rfl, fun _ => rfl⟩
      | error failure =>
        simp only [hlogical, Except.ok.injEq] at h
        obtain rfl := h
        exact ⟨Adds.unresolvedPair value rfl, rfl, fun _ => rfl⟩
  · rw [Bool.not_eq_true] at hseparated
    rw [hseparated] at h ⊢
    simp only [Bool.false_and, Bool.false_eq_true, if_false, guard_eq_ok_iff] at h
    obtain ⟨-, h⟩ := h
    cases hlogical : logicalArgumentPath capture unit (token.drop option.production.length) with
    | ok logical =>
      simp only [hlogical] at h
      exact Round.single
        (fun output' h => Adds.append h fun hunfaithful => absurd hunfaithful (hfaithful _ _)) h
    | error failure =>
      simp only [hlogical] at h
      exact Round.single (fun output' h => Adds.unresolved h) h

theorem round_other (h : mapOther capture unit unitIndex limits output index token next = .ok mapped) :
    Round unitIndex limits output mapped index token next
      (!namesSource capture unit token && isPairedExternal token)
      (namesSource capture unit token) := by
  unfold mapOther at h
  by_cases hsource : namesSource capture unit token = true
  · rw [if_pos hsource] at h
    rw [hsource]
    refine Round.single (fun output' h => ?_) h
    have hadds := @Adds.append unitIndex limits _ output' index _ h fun hunfaithful => by
      cases hpath : tokenLogicalPath capture unit token <;>
        rcases hunfaithful with h | h <;> simp [hpath] at h
    exact ⟨hadds.mappings, hadds.gaps, hadds.bounded, by rw [hadds.bound]; simp⟩
  · rw [if_neg hsource] at h
    rw [Bool.not_eq_true] at hsource
    rw [hsource]
    by_cases hpaired : isPairedExternal token = true
    · rw [hpaired] at h ⊢
      rcases next with _ | value
      · exact nomatch h
      · simp only [Bool.true_and, Option.isNone_some, Bool.false_eq_true, if_false, if_true,
          Option.getD_some, guard_eq_ok_iff, Except.ok.injEq] at h
        obtain ⟨-, rfl⟩ := h
        exact ⟨Adds.unresolvedPair value rfl, rfl, fun _ => rfl⟩
    · rw [Bool.not_eq_true] at hpaired
      rw [hpaired] at h ⊢
      simp only [Bool.false_and, Bool.false_eq_true, if_false, guard_eq_ok_iff] at h
      exact Round.single (fun output' h => Adds.unresolved h) h.2

/-- The token takes the next one with it. -/
def takesNext (capture : DecodedCaptureProjection) (unit : DecodedCaptureUnit) (token : Bytes) :
    Bool :=
  match tokenClass token with
  | .output => token == ascii "-o"
  | .dependency => true
  | .preprocessor => true
  | .path option => token == option.production
  | .other => !namesSource capture unit token && isPairedExternal token
  | _ => false

/-- The token stands on its own and is the source file. -/
def bindsToken (capture : DecodedCaptureProjection) (unit : DecodedCaptureUnit) (token : Bytes) :
    Bool :=
  tokenClass token == .other && namesSource capture unit token

/-- Every round that succeeds adds mappings for what it takes. -/
theorem round_mapToken
    (h : mapToken capture unit unitIndex limits output index token next = .ok mapped) :
    Round unitIndex limits output mapped index token next
      (index != 0 && takesNext capture unit token)
      (index != 0 && bindsToken capture unit token) := by
  rw [mapToken, guard_eq_ok_iff] at h
  obtain ⟨-, h⟩ := h
  by_cases hindex : index = 0
  · subst hindex
    rw [if_pos rfl] at h
    exact Round.single (fun output' h => Adds.unresolved h) h
  · rw [if_neg hindex] at h
    have hbehind : (index != 0) = true := by simpa using hindex
    rw [hbehind, Bool.true_and, Bool.true_and]
    unfold takesNext bindsToken
    cases hclass : tokenClass token with
    | output =>
      simp only [hclass] at h
      exact round_output h
    | dependency =>
      simp only [hclass] at h
      exact round_ignoredPair h
    | dependencyJoined =>
      simp only [hclass] at h
      refine Round.single (fun output' h => Adds.append h fun hunfaithful => ?_) h
      rcases hunfaithful with h | h <;> exact nomatch h
    | preprocessorJoined =>
      simp only [hclass] at h
      exact Round.single (fun output' h => Adds.exactly h) h
    | preprocessor =>
      simp only [hclass] at h
      exact round_preprocessor h
    | standard =>
      simp only [hclass] at h
      exact Round.single (fun output' h => adds_standard h) h
    | pthread =>
      simp only [hclass] at h
      exact Round.single (fun output' h => Adds.unresolved h) h
    | path option =>
      simp only [hclass] at h
      exact round_pathOption h
    | other =>
      simp only [hclass] at h
      exact round_other h

end Branches

/-! ## The loop -/

/-- Some token is the source file: one behind the compiler that is not the argument of an option. The
    flag is set when the token in front has been taken by the one before it. -/
def bindsSource (capture : DecodedCaptureProjection) (unit : DecodedCaptureUnit) :
    Bool → Nat → List Bytes → Bool
  | _, _, [] => false
  | true, index, _ :: rest => bindsSource capture unit false (index + 1) rest
  | false, index, token :: rest =>
    (index != 0 && bindsToken capture unit token) ||
      bindsSource capture unit (index != 0 && takesNext capture unit token) (index + 1) rest

/-- The loop adds mappings for all of its tokens. -/
theorem adds_mapTokens {output output' : ReplayMapping} {taken : Bool} {index : Nat}
    {tokens : List Bytes}
    (h : mapTokens capture unit unitIndex limits taken output index tokens = .ok output') :
    Adds unitIndex limits output output' (if taken then index + 1 else index)
      (if taken then tokens.drop 1 else tokens) (bindsSource capture unit taken index tokens) := by
  induction tokens generalizing output taken index with
  | nil =>
    cases taken <;> (obtain rfl := Except.ok.inj h; exact .nothing _ _)
  | cons token rest ih =>
    cases taken with
    | true => exact ih h
    | false =>
      obtain ⟨mapped, hmapped, hrest⟩ := bind_eq_ok_iff.1 h
      obtain ⟨hadds, htaken, hthere⟩ := round_mapToken hmapped
      have hmore := ih hrest
      rw [htaken] at hmore
      rw [bindsSource]
      generalize (index != 0 && takesNext capture unit token) = takes at *
      cases takes with
      | false => exact hadds.trans hmore
      | true =>
        -- The round has taken the token behind its own.
        obtain ⟨value, hvalue⟩ := Option.isSome_iff_exists.1 (hthere rfl)
        obtain ⟨more, rfl⟩ := List.head?_eq_some_iff.1 hvalue
        exact hadds.trans hmore

end Rounds

/-! ## The whole mapping -/

/-- On success the mappings stand for the expanded arguments one by one, the effective arguments are
    what they are replayed with, and nothing unfaithful goes without a gap. Expansion is substitution,
    and never succeeds on arguments that lead to a cycle. -/
theorem mapGcc162ReplayArguments_maps (capture : DecodedCaptureProjection)
    (unit : DecodedCaptureUnit) (unitIndex : Nat) (limits : ImportLimits) :
    (∀ output, mapGcc162ReplayArguments capture unit unitIndex limits = .ok output →
      ∃ arguments closure expanded, unit.originalArguments = some arguments ∧
        capture.sourceClosures.find? (fun closure => closure.id == unit.sourceClosureId) =
          some closure ∧
        Substituted capture unit closure limits arguments expanded ∧
        output.optionMappings.map ReplayOptionMapping.productionToken = expanded ∧
        output.effectiveArguments =
          output.optionMappings.flatMap ReplayOptionMapping.replayTokens ++
            (if bindsSource capture unit false 0 expanded then [] else [unit.sourceLogicalPath]) ∧
        output.effectiveArguments.length ≤ limits.maximumArgumentsPerUnit ∧
        ∀ index mapping, output.optionMappings[index]? = some mapping → mapping.Unfaithful →
          gapOf unitIndex index mapping ∈ output.unresolved) ∧
    (∀ closure depth state arguments,
      (∀ result, expand capture unit closure limits depth state arguments = .ok result →
        ∀ other, Substituted capture unit closure limits arguments other ↔ other = result.1) ∧
      (LeadsToCycle capture unit closure limits arguments →
        ∃ failure, expand capture unit closure limits depth state arguments = .error failure)) := by
  constructor
  · intro output h
    simp only [mapGcc162ReplayArguments, bind_eq_ok_iff] at h
    obtain ⟨arguments, harguments, h⟩ := h
    rw [guard_eq_ok_iff] at h
    obtain ⟨-, h⟩ := h
    have horiginal : unit.originalArguments = some arguments := by
      unfold capturedArguments at harguments
      split at harguments
      · rename_i heq
        rw [heq, Except.ok.inj harguments]
      · exact nomatch harguments
    cases hclosure : capture.sourceClosures.find? fun closure =>
      closure.id == unit.sourceClosureId with
    | none =>
      rw [hclosure] at h
      exact nomatch h
    | some closure =>
      rw [hclosure] at h
      simp only [bind_eq_ok_iff] at h
      obtain ⟨expanded, hexpanded, mapped, hmapped, hbind⟩ := h
      have hadds := adds_mapTokens hmapped
      obtain ⟨added, hmappings, htokens, heffective, hgaps⟩ := hadds.mappings
      have hbounded := hadds.bounded (Nat.zero_le _)
      have hbound := hadds.bound
      simp only [List.nil_append] at hmappings heffective
      simp only [Bool.false_or, Bool.false_eq_true, if_false] at hbound htokens
      subst hmappings
      refine ⟨arguments, closure, expanded.1, horiginal, rfl, substituted_of_expand _ _ _ _ hexpanded,
        ?_⟩
      unfold bindSource at hbind
      rw [hbound] at hbind
      cases hsource : bindsSource capture unit false 0 expanded.1 with
      | true =>
        rw [hsource, if_pos rfl] at hbind
        obtain rfl := Except.ok.inj hbind
        refine ⟨htokens, by simpa using heffective, hbounded, fun index mapping hmapping h => ?_⟩
        simpa using hgaps index mapping hmapping h
      | false =>
        rw [hsource] at hbind
        simp only [Bool.false_eq_true, if_false, pushEffective, bind_eq_ok_iff, guard_eq_ok_iff,
          Except.ok.injEq] at hbind
        obtain ⟨_, ⟨hroom, rfl⟩, rfl⟩ := hbind
        refine ⟨htokens, by simp [heffective], ?_, fun index mapping hmapping h => ?_⟩
        · simp only [List.length_append, List.length_singleton] at hroom ⊢
          omega
        · have hgap := hgaps index mapping hmapping h
          simp only [Bool.false_eq_true, if_false, Nat.zero_add] at hgap
          exact List.mem_append_left _ hgap
  · intro closure depth state arguments
    refine ⟨fun result hresult other => ?_, fun hcycle => ?_⟩
    · have hsubstituted := substituted_of_expand depth state arguments result hresult
      exact ⟨fun h => h.unique hsubstituted, fun h => h ▸ hsubstituted⟩
    · cases hresult : expand capture unit closure limits depth state arguments with
      | error failure => exact ⟨failure, rfl⟩
      | ok result =>
        have hsubstituted := substituted_of_expand depth state arguments result hresult
        exact absurd hcycle (not_leadsToCycle_of_substituted hsubstituted)

/-- A capture whose unit is compiled with `g++ @o a.cpp`, where the response file has `-D X`. -/
def replayCapture : DecodedCaptureProjection where
  pathMappings := [{ physicalPrefix := ascii "/p", logicalPrefix := projectScheme }]
  sourceClosures :=
    [{ id := ascii "closure"
       members := [{ logicalPath := ascii "project://o", content := ascii "-D X" }] }]

def replayUnit : DecodedCaptureUnit :=
  { sampleUnit with
    originalArguments := some [ascii "g++", ascii "@o", ascii "a.cpp"]
    responseFiles :=
      [{ logicalPath := ascii "project://o", contentDigest := some (ascii "sha256:0") }] }

/-- What the sample is mapped to. -/
def replayedArguments : List Bytes :=
  [ascii "clang++", ascii "-fsyntax-only", ascii "-D", ascii "X", ascii "project://a.cpp"]

/-- The closure of a response file that refers to itself. -/
def cyclicClosure : DecodedCaptureSourceClosure where
  id := ascii "closure"
  members := [{ logicalPath := ascii "project://o", content := ascii "@o" }]

theorem leadsToCycle_sample :
    LeadsToCycle replayCapture replayUnit cyclicClosure {} [ascii "@o"] := by
  have hmentions : Mentions replayCapture replayUnit cyclicClosure {} (ascii "project://o")
      (ascii "project://o") :=
    ⟨[ascii "@o"], by decide, ascii "@o", by decide, by decide, by decide⟩
  exact ⟨ascii "@o", by decide, _, _, by decide, by decide, .refl, .single hmentions⟩

theorem mapGcc162ReplayArguments_maps_sample :
    (∃ output, mapGcc162ReplayArguments replayCapture replayUnit 0 {} = .ok output ∧
        output.effectiveArguments = replayedArguments ∧
        ∃ expanded, output.optionMappings.map ReplayOptionMapping.productionToken = expanded ∧
          output.effectiveArguments =
            output.optionMappings.flatMap ReplayOptionMapping.replayTokens ++
              (if bindsSource replayCapture replayUnit false 0 expanded then []
              else [replayUnit.sourceLogicalPath])) ∧
      ∃ failure, expand replayCapture replayUnit cyclicClosure {} 32 {} [ascii "@o"] =
        .error failure := by
  have hreplayed : (mapGcc162ReplayArguments replayCapture replayUnit 0 {}).map
      ReplayMapping.effectiveArguments = .ok replayedArguments := by decide
  have hmaps := mapGcc162ReplayArguments_maps replayCapture replayUnit 0 {}
  refine ⟨?_, (hmaps.2 cyclicClosure 32 {} [ascii "@o"]).2 leadsToCycle_sample⟩
  cases hrun : mapGcc162ReplayArguments replayCapture replayUnit 0 {} with
  | error failure => exact nomatch hrun ▸ hreplayed
  | ok output =>
    obtain ⟨_, _, expanded, -, -, -, htokens, heffective, -⟩ := hmaps.1 output hrun
    rw [hrun] at hreplayed
    exact ⟨output, rfl, Except.ok.inj hreplayed, expanded, htokens, heffective⟩

end Cxxlens.Sdk.Capture
