import Cxxlens.Sdk.Capture.LogicalPaths
import Cxxlens.Sdk.Capture.ResponseArguments

set_option autoImplicit false

/-! # Expansion of response files

`gcc_response_expander` of `gcc_replay_planner_internal.cpp`. The recursion of the source goes no
deeper than the nesting limit, by which the model recurses. What it returns is the substitution of
every readable response file by its arguments, and arguments from which a cycle of response files can
be reached are not expanded. -/

namespace Cxxlens.Sdk.Capture

open Fallible (bind_eq_ok_iff guard_eq_ok_iff)

/-! ## The expander -/

/-- `gcc_16_2_maximum_response_expansions` -/
def gcc162MaximumResponseExpansions : Nat := 1999

/-- The members of `gcc_response_expander` that change. -/
structure ResponseExpander where
  active : List Bytes := []
  expansions : Nat := 0
  deriving DecidableEq, Repr

/-- `argument.starts_with('@')` with something behind it -/
def isResponseReference (argument : Bytes) : Bool :=
  argument.head? == some 0x40 && argument.length != 1

section Expander

variable (capture : DecodedCaptureProjection) (unit : DecodedCaptureUnit)
  (closure : DecodedCaptureSourceClosure) (limits : ImportLimits)

/-- The loop of `gcc_response_expander::expand`. `deeper` is the call for the arguments of a file,
    and is missing at the nesting limit. -/
def expandArguments
    (deeper : Option (ResponseExpander → List Bytes → Result (List Bytes × ResponseExpander))) :
    List Bytes → ResponseExpander → List Bytes → Result (List Bytes × ResponseExpander)
  | output, state, [] => .ok (output, state)
  | output, state, argument :: rest =>
    let keep := fun state =>
      if limits.maximumArgumentsPerUnit ≤ output.length then
        .error (limitExceeded "response_file.arguments" "count")
      else expandArguments deeper (output ++ [argument]) state rest
    if isResponseReference argument = false then keep state
    else if gcc162MaximumResponseExpansions < state.expansions + 1 then
      .error (limitExceeded "response_files" "gcc-expansion-count")
    else
      match deeper with
      | none => .error (limitExceeded "response_files" "depth")
      | some expand => do
        let path ← logicalArgumentPath capture unit (argument.drop 1)
        let state := { state with expansions := state.expansions + 1 }
        match unit.responseFiles.find? fun file => file.logicalPath == path with
        | none => keep state
        | some metadata =>
          if metadata.contentDigest = none then keep state
          else
            match closure.members.find? fun member => member.logicalPath == path with
            | none => .error (requestInvalid "response_files" "source-closure-binding-mismatch")
            | some member =>
              if path ∈ state.active then
                .error (requestInvalid "response_files" "recursive-reference")
              else do
                let parsed ← parseGcc162ResponseArguments member.content limits
                let nested ← expand { state with active := path :: state.active } parsed
                let state :=
                  { nested.2 with active := nested.2.active.filter fun other => other != path }
                if limits.maximumArgumentsPerUnit - output.length < nested.1.length then
                  .error (limitExceeded "response_file.arguments" "count")
                else expandArguments deeper (output ++ nested.1) state rest

/-- `gcc_response_expander::expand`; the first argument is how much deeper it may go, the nesting
    limit less the depth. -/
def expand : Nat → ResponseExpander → List Bytes → Result (List Bytes × ResponseExpander)
  | 0 => expandArguments capture unit closure limits none []
  | depth + 1 => expandArguments capture unit closure limits (some (expand depth)) []

/-! ## Substitution -/

/-- The arguments of the response file at a path, when it has been captured with its content. -/
def fileArguments (path : Bytes) : Option (List Bytes) := do
  let metadata ← unit.responseFiles.find? fun file => file.logicalPath == path
  let _ ← metadata.contentDigest
  let member ← closure.members.find? fun member => member.logicalPath == path
  (parseGcc162ResponseArguments member.content limits).toOption

/-- The path an argument refers to. -/
def referencedPath (argument : Bytes) : Option Bytes :=
  if isResponseReference argument then
    (logicalArgumentPath capture unit (argument.drop 1)).toOption
  else none

/-- Every argument that refers to a readable response file is replaced by the arguments of that file,
    in which the same is done, and every other argument stays. -/
inductive Substituted : List Bytes → List Bytes → Prop
  | nil : Substituted [] []
  | keep {argument : Bytes} {rest output : List Bytes} :
      (referencedPath capture unit argument).bind (fileArguments unit closure limits) = none →
      Substituted rest output → Substituted (argument :: rest) (argument :: output)
  | file {argument : Bytes} {path : Bytes} {inner rest nested output : List Bytes} :
      referencedPath capture unit argument = some path →
      fileArguments unit closure limits path = some inner →
      Substituted inner nested → Substituted rest output →
      Substituted (argument :: rest) (nested ++ output)

/-- A readable response file refers to another one. -/
def Mentions (path other : Bytes) : Prop :=
  ∃ inner, fileArguments unit closure limits path = some inner ∧
    ∃ argument ∈ inner, referencedPath capture unit argument = some other ∧
      (fileArguments unit closure limits other).isSome

end Expander

section Soundness

variable {capture : DecodedCaptureProjection} {unit : DecodedCaptureUnit}
  {closure : DecodedCaptureSourceClosure} {limits : ImportLimits}

/-- One argument is kept or stands for a file that is expanded. -/
theorem expandArguments_cons
    {deeper : Option (ResponseExpander → List Bytes → Result (List Bytes × ResponseExpander))}
    {output : List Bytes} {state : ResponseExpander} {argument : Bytes} {rest : List Bytes}
    {result : List Bytes × ResponseExpander}
    (h : expandArguments capture unit closure limits deeper output state (argument :: rest) =
      .ok result) :
    ((referencedPath capture unit argument).bind (fileArguments unit closure limits) = none ∧
        ∃ state', expandArguments capture unit closure limits deeper (output ++ [argument]) state'
          rest = .ok result) ∨
      ∃ path inner expand before nested state', referencedPath capture unit argument = some path ∧
        fileArguments unit closure limits path = some inner ∧ deeper = some expand ∧
        expand before inner = .ok nested ∧
        expandArguments capture unit closure limits deeper (output ++ nested.1) state' rest =
          .ok result := by
  unfold expandArguments at h
  dsimp only at h
  by_cases hreference : isResponseReference argument = false
  · rw [if_pos hreference, guard_eq_ok_iff] at h
    exact .inl ⟨by simp [referencedPath, hreference], _, h.2⟩
  · rw [if_neg hreference, guard_eq_ok_iff] at h
    obtain ⟨-, h⟩ := h
    rcases deeper with _ | expand
    · cases h
    · simp only [bind_eq_ok_iff] at h
      obtain ⟨path, hpath, h⟩ := h
      have hreferenced : referencedPath capture unit argument = some path := by
        rw [referencedPath, if_pos (by simpa using hreference), hpath]
        rfl
      cases hmetadata : unit.responseFiles.find? fun file => file.logicalPath == path with
      | none =>
        rw [hmetadata] at h
        dsimp only at h
        rw [guard_eq_ok_iff] at h
        exact .inl ⟨by simp [hreferenced, fileArguments, hmetadata], _, h.2⟩
      | some metadata =>
        rw [hmetadata] at h
        dsimp only at h
        cases hdigest : metadata.contentDigest with
        | none =>
          rw [if_pos hdigest, guard_eq_ok_iff] at h
          exact .inl ⟨by simp [hreferenced, fileArguments, hmetadata, hdigest], _, h.2⟩
        | some digest =>
          rw [if_neg (by simp [hdigest])] at h
          cases hmember : closure.members.find? fun member => member.logicalPath == path with
          | none =>
            rw [hmember] at h
            cases h
          | some member =>
            rw [hmember] at h
            simp only [guard_eq_ok_iff, bind_eq_ok_iff] at h
            obtain ⟨-, parsed, hparsed, nested, hnested, -, hrest⟩ := h
            refine .inr ⟨path, parsed, expand, _, nested, _, hreferenced, ?_, rfl, hnested, hrest⟩
            simp [fileArguments, hmetadata, hdigest, hmember, hparsed, Except.toOption]

/-- The loop substitutes what the deeper calls substitute. -/
theorem substituted_of_expandArguments
    {deeper : Option (ResponseExpander → List Bytes → Result (List Bytes × ResponseExpander))}
    (hdeeper : ∀ expand, deeper = some expand → ∀ state arguments result,
      expand state arguments = .ok result →
        Substituted capture unit closure limits arguments result.1)
    {output : List Bytes} {state : ResponseExpander} {arguments : List Bytes}
    {result : List Bytes × ResponseExpander}
    (h : expandArguments capture unit closure limits deeper output state arguments = .ok result) :
    ∃ more, result.1 = output ++ more ∧
      Substituted capture unit closure limits arguments more := by
  induction arguments generalizing output state with
  | nil =>
    obtain rfl := Except.ok.inj h
    exact ⟨[], (List.append_nil _).symm, .nil⟩
  | cons argument rest ih =>
    rcases expandArguments_cons h with ⟨hnone, state', hrest⟩ |
      ⟨path, inner, expand, before, nested, state', hpath, hfile, hexpand, hnested, hrest⟩
    · obtain ⟨more, hmore, hsubstituted⟩ := ih hrest
      exact ⟨argument :: more, by simp [hmore], .keep hnone hsubstituted⟩
    · obtain ⟨more, hmore, hsubstituted⟩ := ih hrest
      refine ⟨nested.1 ++ more, by simp [hmore], .file hpath hfile ?_ hsubstituted⟩
      exact hdeeper expand hexpand before inner nested hnested

/-- What the expander returns is the substitution. -/
theorem substituted_of_expand (depth : Nat) (state : ResponseExpander) (arguments : List Bytes)
    (result : List Bytes × ResponseExpander)
    (h : expand capture unit closure limits depth state arguments = .ok result) :
    Substituted capture unit closure limits arguments result.1 := by
  induction depth generalizing state arguments result with
  | zero =>
    obtain ⟨more, hmore, hsubstituted⟩ :=
      substituted_of_expandArguments (fun _ hnone => by simp at hnone) h
    rw [hmore]
    exact hsubstituted
  | succ depth ih =>
    have hdeeper : ∀ deeper, some (expand capture unit closure limits depth) = some deeper →
        ∀ state arguments result, deeper state arguments = .ok result →
          Substituted capture unit closure limits arguments result.1 := by
      intro deeper hexpand
      obtain rfl := Option.some.inj hexpand
      exact ih
    obtain ⟨more, hmore, hsubstituted⟩ := substituted_of_expandArguments hdeeper h
    rw [hmore]
    exact hsubstituted

/-- Arguments have one substitution. -/
theorem Substituted.unique {arguments output other : List Bytes}
    (h : Substituted capture unit closure limits arguments output)
    (h' : Substituted capture unit closure limits arguments other) : output = other := by
  induction h generalizing other with
  | nil => cases h'; rfl
  | keep hnone _ ih =>
    cases h' with
    | keep _ hrest => rw [ih hrest]
    | file hpath hfile _ _ => simp [hpath, hfile] at hnone
  | file hpath hfile _ _ ihInner ihRest =>
    cases h' with
    | keep hnone _ => simp [hpath, hfile] at hnone
    | file hpath' hfile' hinner hrest =>
      obtain rfl := Option.some.inj (hpath.symm.trans hpath')
      obtain rfl := Option.some.inj (hfile.symm.trans hfile')
      rw [ihInner hinner, ihRest hrest]

/-- From arguments that have a substitution, no response file is reached again and again. -/
theorem acc_of_substituted {arguments output : List Bytes}
    (h : Substituted capture unit closure limits arguments output) :
    ∀ argument ∈ arguments, ∀ path, referencedPath capture unit argument = some path →
      (fileArguments unit closure limits path).isSome →
        Acc (fun other path => Mentions capture unit closure limits path other) path := by
  induction h with
  | nil => simp
  | keep hnone _ ih =>
    intro argument hargument path hpath hfile
    rcases List.mem_cons.1 hargument with rfl | hrest
    · rw [hpath, Option.bind_some] at hnone
      simp [hnone] at hfile
    · exact ih argument hrest path hpath hfile
  | file hpath hinner _ _ ihInner ihRest =>
    intro argument hargument other hother hfile
    rcases List.mem_cons.1 hargument with rfl | hrest
    · obtain rfl := Option.some.inj (hpath.symm.trans hother)
      refine Acc.intro _ fun next hnext => ?_
      obtain ⟨inner, hinner', argument, hargument, hreferenced, hread⟩ := hnext
      obtain rfl := Option.some.inj (hinner.symm.trans hinner')
      exact ihInner argument hargument next hreferenced hread
    · exact ihRest argument hrest other hother hfile

/-- Arguments lead to a cycle of response files. -/
def LeadsToCycle (capture : DecodedCaptureProjection) (unit : DecodedCaptureUnit)
    (closure : DecodedCaptureSourceClosure) (limits : ImportLimits) (arguments : List Bytes) : Prop :=
  ∃ argument ∈ arguments, ∃ first path, referencedPath capture unit argument = some first ∧
    (fileArguments unit closure limits first).isSome ∧
    Relation.ReflTransGen (Mentions capture unit closure limits) first path ∧
    Relation.TransGen (Mentions capture unit closure limits) path path

theorem not_leadsToCycle_of_substituted {arguments output : List Bytes}
    (h : Substituted capture unit closure limits arguments output) :
    ¬ LeadsToCycle capture unit closure limits arguments := by
  rintro ⟨argument, hargument, first, path, hfirst, hfile, hreach, hcycle⟩
  have hacc := acc_of_substituted h argument hargument first hfirst hfile
  have hpath : Acc (fun other path => Mentions capture unit closure limits path other) path := by
    clear hcycle
    induction hreach with
    | refl => exact hacc
    | tail _ hstep ih => exact ih.inv hstep
  have hirreflexive : ∀ path,
      Acc (Relation.TransGen fun other path => Mentions capture unit closure limits path other) path →
        ¬ Relation.TransGen (fun other path => Mentions capture unit closure limits path other)
          path path := by
    intro path hacc
    induction hacc with
    | intro path _ ih => exact fun hself => ih path hself hself
  exact hirreflexive path hpath.transGen hcycle.swap

end Soundness

end Cxxlens.Sdk.Capture
