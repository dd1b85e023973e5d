import Cxxlens.Foundation.Segments
import Cxxlens.Sdk.Capture.Projection

set_option autoImplicit false

/-! # Logical argument paths

`logical_path_for` and `logical_argument_path` of `gcc_replay_planner_internal.cpp`: the project
path an argument of the compiler names. Only relative values are normalised; a logical or an
absolute value keeps whatever dots it has. -/

namespace Cxxlens.Sdk.Capture

open Segments (segments joined)

/-- `request_invalid` -/
def requestInvalid (field detail : Bytes) : Error :=
  { code := "application-analysis.request-invalid", field := field, detail := detail }

/-- `"project://"` -/
def projectScheme : Bytes := ascii "project://"

def dot : Bytes := [0x2e]

def dotDot : Bytes := [0x2e, 0x2e]

/-! ## The source -/

/-- The guards of `logical_path_for`: the value lies at or below the physical prefix. -/
def DecodedCapturePathMapping.covers (mapping : DecodedCapturePathMapping) (physical : Bytes) :
    Bool :=
  mapping.physicalPrefix.isPrefixOf physical &&
    (physical.length == mapping.physicalPrefix.length ||
      mapping.physicalPrefix.getLast? == some 0x2f ||
      physical[mapping.physicalPrefix.length]? == some 0x2f)

/-- The body of `logical_path_for` for a mapping that covers the value. -/
def DecodedCapturePathMapping.rewrite (mapping : DecodedCapturePathMapping) (physical : Bytes) :
    Bytes :=
  let suffix := physical.drop mapping.physicalPrefix.length
  mapping.logicalPrefix ++
    if mapping.logicalPrefix.getLast? = some 0x2f ∧ suffix.head? = some 0x2f then suffix.drop 1
    else suffix

/-- `logical_path_for` -/
def logicalPathFor (capture : DecodedCaptureProjection) (physical : Bytes) : Option Bytes :=
  (capture.pathMappings.find? fun mapping => mapping.covers physical).map fun mapping =>
    mapping.rewrite physical

/-- The loop over the segments of a relative path. -/
def relativeSegments : List Bytes → List Bytes → Result (List Bytes)
  | stack, [] => .ok stack
  | stack, segment :: rest =>
    if segment = [] then .error (requestInvalid "response_file.path" "empty-segment")
    else if segment = dotDot then
      if stack = [] then .error (requestInvalid "response_file.path" "outside-project-root")
      else relativeSegments stack.dropLast rest
    else if segment ≠ dot then relativeSegments (stack ++ [segment]) rest
    else relativeSegments stack rest

/-- The working directory without its scheme, and the value behind it. -/
def relativeText (unit : DecodedCaptureUnit) (value : Bytes) : Bytes :=
  let relative := unit.logicalWorkingDirectory.drop projectScheme.length
  (if relative = [] then [] else relative ++ [0x2f]) ++ value

/-- `logical_argument_path` -/
def logicalArgumentPath (capture : DecodedCaptureProjection) (unit : DecodedCaptureUnit)
    (value : Bytes) : Result Bytes :=
  if value = [] ∨ 0 ∈ value ∨ 0x5c ∈ value then
    .error (requestInvalid "response_file.path" "logical-path-required")
  else if projectScheme.isPrefixOf value then .ok value
  else if value.head? = some 0x2f then
    match logicalPathFor capture value with
    | none => .error (requestInvalid "response_file.path" "outside-project-root")
    | some mapped => .ok mapped
  else if projectScheme.isPrefixOf unit.logicalWorkingDirectory = false then
    .error (requestInvalid "response_file.path" "working-directory")
  else do
    let stack ← relativeSegments [] (segments 0x2f (relativeText unit value))
    .ok (projectScheme ++ joined 0x2f stack)

/-! ## What a value names -/

/-- A segment that names something below the one in front of it. -/
def Named (segment : Bytes) : Prop :=
  segment ≠ [] ∧ 0x2f ∉ segment ∧ segment ≠ dot ∧ segment ≠ dotDot

def AllNamed (list : List Bytes) : Prop :=
  ∀ segment ∈ list, Named segment

def projectPath (list : List Bytes) : Bytes :=
  projectScheme ++ joined 0x2f list

/-- Lexical normalisation below a root that cannot be left: empty segments and dots stay where they
    are, and two dots go one segment up. -/
def lexicalBelow : List Bytes → List Bytes → Option (List Bytes)
  | stack, [] => some stack
  | stack, segment :: rest =>
    if segment = [] ∨ segment = dot then lexicalBelow stack rest
    else if segment = dotDot then
      if stack = [] then none else lexicalBelow stack.dropLast rest
    else lexicalBelow (stack ++ [segment]) rest

/-- Lexical normalisation of an absolute path: above the root is the root. -/
def lexicalAbsolute : List Bytes → List Bytes → List Bytes
  | stack, [] => stack
  | stack, segment :: rest =>
    if segment = [] ∨ segment = dot then lexicalAbsolute stack rest
    else if segment = dotDot then lexicalAbsolute stack.dropLast rest
    else lexicalAbsolute (stack ++ [segment]) rest

def DecodedCapturePathMapping.physicalSegments (mapping : DecodedCapturePathMapping) : List Bytes :=
  segments 0x2f (mapping.physicalPrefix.drop 1)

def DecodedCapturePathMapping.logicalSegments (mapping : DecodedCapturePathMapping) : List Bytes :=
  segments 0x2f (mapping.logicalPrefix.drop projectScheme.length)

/-- The segments below the project root that a value names by lexical normalisation, or nothing when
    the value leads out of every mapped root. -/
def lexicalPath (capture : DecodedCaptureProjection) (unit : DecodedCaptureUnit) (value : Bytes) :
    Option (List Bytes) :=
  if projectScheme.isPrefixOf value then
    lexicalBelow [] (segments 0x2f (value.drop projectScheme.length))
  else if value.head? = some 0x2f then
    let path := lexicalAbsolute [] (segments 0x2f (value.drop 1))
    (capture.pathMappings.find? fun mapping => mapping.physicalSegments.isPrefixOf path).map
      fun mapping => mapping.logicalSegments ++ path.drop mapping.physicalSegments.length
  else lexicalBelow [] (segments 0x2f (relativeText unit value))

/-- A mapping between normal paths. -/
structure DecodedCapturePathMapping.Normal (mapping : DecodedCapturePathMapping) : Prop where
  physical : ∃ list, AllNamed list ∧ mapping.physicalPrefix = 0x2f :: joined 0x2f list
  logical : ∃ list, AllNamed list ∧ mapping.logicalPrefix = projectPath list

/-- What decoding a capture makes sure of: its mappings and working directories are normal, and no
    mapping lies at or below another. -/
structure Normal (capture : DecodedCaptureProjection) (unit : DecodedCaptureUnit) : Prop where
  mappings : ∀ mapping ∈ capture.pathMappings, mapping.Normal
  apart : capture.pathMappings.Pairwise fun mapping other =>
    ¬ mapping.physicalSegments <+: other.physicalSegments ∧
      ¬ other.physicalSegments <+: mapping.physicalSegments
  workingDirectory : ∃ list, AllNamed list ∧ unit.logicalWorkingDirectory = projectPath list

/-! ## Named segments -/

theorem AllNamed.separable {list : List Bytes} (h : AllNamed list) :
    ∀ segment ∈ list, segment ≠ [] ∧ 0x2f ∉ segment :=
  fun segment hsegment => ⟨(h segment hsegment).1, (h segment hsegment).2.1⟩

theorem AllNamed.append {left right : List Bytes} (hleft : AllNamed left)
    (hright : AllNamed right) : AllNamed (left ++ right) :=
  List.forall_mem_append.2 ⟨hleft, hright⟩

theorem AllNamed.segments_joined {list : List Bytes} (h : AllNamed list) :
    segments 0x2f (joined 0x2f list) = list :=
  Segments.segments_joined h.separable

theorem projectPath_injective {left right : List Bytes} (hleft : AllNamed left)
    (hright : AllNamed right) (h : projectPath left = projectPath right) : left = right :=
  Segments.joined_injective hleft.separable hright.separable (List.append_cancel_left h)

/-- Named segments do not start with a slash when they are joined. -/
theorem AllNamed.head?_joined {list : List Bytes} (h : AllNamed list) :
    (joined 0x2f list).head? ≠ some 0x2f := by
  rw [Segments.joined_head? fun segment hsegment => (h segment hsegment).1]
  cases list with
  | nil => simp
  | cons segment list =>
    intro hhead
    exact (h segment (by simp)).2.1 (List.mem_of_mem_head? hhead)

/-- Named segments do not end with a slash when they are joined. -/
theorem AllNamed.getLast?_joined {list : List Bytes} (h : AllNamed list) :
    (joined 0x2f list).getLast? ≠ some 0x2f := by
  induction list with
  | nil => simp
  | cons segment list ih =>
    have hsegment := h segment (by simp)
    have hrest : AllNamed list := fun other hother => h other (List.mem_cons_of_mem _ hother)
    by_cases hnil : list = []
    · subst hnil
      exact fun hlast => hsegment.2.1 (List.mem_of_mem_getLast? hlast)
    · have hne := @Segments.joined_ne_nil _ _ 0x2f _ hnil
        fun other hother => (hrest other hother).1
      rw [Segments.joined_cons hnil, List.getLast?_append_of_ne_nil _ (by simp),
        List.getLast?_cons_of_ne_nil hne]
      exact ih hrest

/-! ## Normalisation -/

theorem lexicalBelow_named {stack list : List Bytes} (h : AllNamed list) (rest : List Bytes) :
    lexicalBelow stack (list ++ rest) = lexicalBelow (stack ++ list) rest := by
  induction list generalizing stack with
  | nil => simp
  | cons segment list ih =>
    obtain ⟨hne, -, hdot, hdotDot⟩ := h segment (by simp)
    have hrest := @ih (stack ++ [segment])
      fun other hother => h other (List.mem_cons_of_mem _ hother)
    rw [List.cons_append, lexicalBelow, if_neg (not_or.2 ⟨hne, hdot⟩), if_neg hdotDot, hrest,
      List.append_assoc, List.singleton_append]

theorem lexicalAbsolute_named {stack list : List Bytes} (h : AllNamed list) (rest : List Bytes) :
    lexicalAbsolute stack (list ++ rest) = lexicalAbsolute (stack ++ list) rest := by
  induction list generalizing stack with
  | nil => simp
  | cons segment list ih =>
    obtain ⟨hne, -, hdot, hdotDot⟩ := h segment (by simp)
    have hrest := @ih (stack ++ [segment])
      fun other hother => h other (List.mem_cons_of_mem _ hother)
    rw [List.cons_append, lexicalAbsolute, if_neg (not_or.2 ⟨hne, hdot⟩), if_neg hdotDot, hrest,
      List.append_assoc, List.singleton_append]

theorem AllNamed.dropLast {list : List Bytes} (h : AllNamed list) : AllNamed list.dropLast :=
  fun segment hsegment => h segment (List.mem_of_mem_dropLast hsegment)

/-- The loop over relative segments returns named segments, those of the normalisation. -/
theorem lexicalBelow_of_relativeSegments {stack list result : List Bytes} (hstack : AllNamed stack)
    (hlist : ∀ segment ∈ list, 0x2f ∉ segment) (h : relativeSegments stack list = .ok result) :
    AllNamed result ∧ lexicalBelow stack list = some result := by
  induction list generalizing stack with
  | nil =>
    obtain rfl := Except.ok.inj h
    exact ⟨hstack, rfl⟩
  | cons segment list ih =>
    have hrest := fun other hother => hlist other (List.mem_cons_of_mem _ hother)
    rw [relativeSegments] at h
    rw [lexicalBelow]
    split_ifs at h with hempty hup hroot hdot
    · rw [if_neg (not_or.2 ⟨hempty, hup ▸ by decide⟩), if_pos hup, if_neg hroot]
      exact ih hstack.dropLast hrest h
    · rw [if_neg (not_or.2 ⟨hempty, hdot⟩), if_neg hup]
      refine ih (hstack.append ?_) hrest h
      intro other hother
      obtain rfl := List.mem_singleton.1 hother
      exact ⟨hempty, hlist other (by simp), hdot, hup⟩
    · rw [if_pos (.inr (not_not.1 hdot))]
      exact ih hstack hrest h

/-- Two dots lead out of the project before any segment is empty. -/
def EscapesAtOnce (stack list : List Bytes) : Prop :=
  ∃ before after, list = before ++ dotDot :: after ∧ lexicalBelow stack before = some [] ∧
    [] ∉ before

/-- A segment that does not escape itself leaves the question to those behind it. -/
theorem escapesAtOnce_cons {stack stack' : List Bytes} {segment : Bytes} (list : List Bytes)
    (hempty : segment ≠ []) (hstays : segment = dotDot → stack ≠ [])
    (hstep : ∀ rest, lexicalBelow stack (segment :: rest) = lexicalBelow stack' rest) :
    EscapesAtOnce stack (segment :: list) ↔ EscapesAtOnce stack' list := by
  constructor
  · rintro ⟨before, after, hlist, hwalk, hnamed⟩
    rcases before with _ | ⟨first, before⟩
    · obtain ⟨rfl, rfl⟩ := List.cons.inj hlist
      exact absurd (Option.some.inj hwalk) (hstays rfl)
    · obtain ⟨rfl, rfl⟩ := List.cons.inj hlist
      rw [hstep] at hwalk
      exact ⟨before, after, rfl, hwalk, fun h => hnamed (List.mem_cons_of_mem _ h)⟩
  · rintro ⟨before, after, rfl, hwalk, hnamed⟩
    refine ⟨segment :: before, after, rfl, hstep before ▸ hwalk, ?_⟩
    simp only [List.mem_cons, not_or]
    exact ⟨Ne.symm hempty, hnamed⟩

/-- Where the loop reports that a path is outside of the project. -/
theorem relativeSegments_outside_iff (stack list : List Bytes) :
    relativeSegments stack list =
        .error (requestInvalid "response_file.path" "outside-project-root") ↔
      EscapesAtOnce stack list := by
  induction list generalizing stack with
  | nil => simp [relativeSegments, EscapesAtOnce]
  | cons segment list ih =>
    rw [relativeSegments]
    by_cases hempty : segment = []
    · -- An empty segment is reported for what it is.
      rw [if_pos hempty]
      refine iff_of_false (by decide) ?_
      rintro ⟨before, after, hlist, -, hnamed⟩
      rcases before with _ | ⟨first, before⟩
      · exact absurd ((List.cons.inj hlist).1.symm.trans hempty) (by decide)
      · exact hnamed ((List.cons.inj hlist).1 ▸ hempty ▸ List.mem_cons_self)
    · rw [if_neg hempty]
      by_cases hup : segment = dotDot
      · have hplain : ¬ (segment = [] ∨ segment = dot) := not_or.2 ⟨hempty, hup ▸ by decide⟩
        rw [if_pos hup]
        by_cases hroot : stack = []
        · rw [if_pos hroot, hroot, hup]
          exact iff_of_true rfl ⟨[], list, rfl, rfl, by simp⟩
        · rw [if_neg hroot, ih, escapesAtOnce_cons list hempty (fun _ => hroot) fun rest => by
            rw [lexicalBelow, if_neg hplain, if_pos hup, if_neg hroot]]
      · rw [if_neg hup]
        by_cases hdot : segment = dot
        · rw [if_neg (not_not.2 hdot), ih, escapesAtOnce_cons list hempty (fun h => absurd h hup)
            fun rest => by rw [lexicalBelow, if_pos (.inr hdot)]]
        · rw [if_pos hdot, ih, escapesAtOnce_cons list hempty (fun h => absurd h hup)
            fun rest => by
              rw [lexicalBelow, if_neg (not_or.2 ⟨hempty, hdot⟩), if_neg hup]]

/-! ## Absolute values -/

section Absolute

variable {mapping : DecodedCapturePathMapping} {value : Bytes} {physical logical : List Bytes}

/-- A value that stands below a mapping as it is written: behind the prefix, named segments. -/
def DecodedCapturePathMapping.InPlace (mapping : DecodedCapturePathMapping) (value : Bytes) :
    Prop :=
  ∃ list, AllNamed list ∧
    (value = mapping.physicalPrefix ++ 0x2f :: joined 0x2f list ∧
        (list = [] → mapping.logicalPrefix = projectScheme) ∨
      value = mapping.physicalPrefix ++ joined 0x2f list ∧
        (list = [] ∨ mapping.physicalPrefix = [0x2f] ∧ mapping.logicalPrefix = projectScheme))

theorem physicalSegments_eq (hphysical : AllNamed physical)
    (hphysicalPrefix : mapping.physicalPrefix = 0x2f :: joined 0x2f physical) :
    mapping.physicalSegments = physical := by
  rw [DecodedCapturePathMapping.physicalSegments, hphysicalPrefix]
  exact hphysical.segments_joined

theorem logicalSegments_eq (hlogical : AllNamed logical)
    (hphysicalPrefix : mapping.logicalPrefix = projectPath logical) :
    mapping.logicalSegments = logical := by
  rw [DecodedCapturePathMapping.logicalSegments, hphysicalPrefix, projectPath, List.drop_left]
  exact hlogical.segments_joined

/-- A logical prefix ends with a slash when nothing stands behind the scheme. -/
theorem getLast?_projectPath (hlogical : AllNamed logical) :
    (projectPath logical).getLast? = some 0x2f ↔ logical = [] := by
  constructor
  · intro h
    by_contra hne
    have hjoined := @Segments.joined_ne_nil _ _ 0x2f _ hne
      fun segment hsegment => (hlogical segment hsegment).1
    rw [projectPath, List.getLast?_append_of_ne_nil _ hjoined] at h
    exact hlogical.getLast?_joined h
  · rintro rfl
    decide

theorem projectPath_eq_scheme (hlogical : AllNamed logical) :
    projectPath logical = projectScheme ↔ logical = [] := by
  constructor
  · intro h
    exact projectPath_injective hlogical (by simp [AllNamed])
      (h.trans (List.append_nil projectScheme).symm)
  · rintro rfl
    exact List.append_nil projectScheme

theorem covers_iff (hphysical : AllNamed physical)
    (hphysicalPrefix : mapping.physicalPrefix = 0x2f :: joined 0x2f physical) :
    mapping.covers value = true ↔ ∃ rest, value = mapping.physicalPrefix ++ rest ∧
      (rest = [] ∨ physical = [] ∨ rest.head? = some 0x2f) := by
  have hslash : mapping.physicalPrefix.getLast? = some 0x2f ↔ physical = [] := by
    rw [hphysicalPrefix]
    constructor
    · intro h
      by_contra hne
      have hjoined := @Segments.joined_ne_nil _ _ 0x2f _ hne
        fun segment hsegment => (hphysical segment hsegment).1
      rw [List.getLast?_cons_of_ne_nil hjoined] at h
      exact hphysical.getLast?_joined h
    · rintro rfl
      rfl
  simp only [DecodedCapturePathMapping.covers, Bool.and_eq_true, Bool.or_eq_true, beq_iff_eq,
    List.isPrefixOf_iff_prefix, hslash]
  constructor
  · rintro ⟨⟨rest, rfl⟩, hguard⟩
    refine ⟨rest, rfl, ?_⟩
    rcases hguard with (hlength | hroot) | hnext
    · exact .inl (List.eq_nil_of_length_eq_zero (by simp at hlength; simpa using hlength))
    · exact .inr (.inl hroot)
    · refine .inr (.inr ?_)
      rwa [List.getElem?_append_right (Nat.le_refl _), Nat.sub_self,
        ← List.head?_eq_getElem?] at hnext
  · rintro ⟨rest, rfl, hguard⟩
    refine ⟨List.prefix_append _ _, ?_⟩
    rcases hguard with rfl | hroot | hnext
    · exact .inl (.inl (by simp))
    · exact .inl (.inr hroot)
    · refine .inr ?_
      rwa [List.getElem?_append_right (Nat.le_refl _), Nat.sub_self, ← List.head?_eq_getElem?]

/-- What a value that is in place is rewritten to, and what it names. -/
theorem rewrite_of_inPlace (hphysical : AllNamed physical)
    (hphysicalPrefix : mapping.physicalPrefix = 0x2f :: joined 0x2f physical)
    (hlogical : AllNamed logical)
    (hlogicalPrefix : mapping.logicalPrefix = projectPath logical) (h : mapping.InPlace value) :
    ∃ list, AllNamed list ∧ mapping.rewrite value = projectPath (logical ++ list) ∧
      lexicalAbsolute [] (segments 0x2f (value.drop 1)) = physical ++ list := by
  have hnothing : ∀ list, lexicalAbsolute list [] = list := fun _ => rfl
  obtain ⟨list, hlist, ⟨rfl, hscheme⟩ | ⟨rfl, halone⟩⟩ := h
  · refine ⟨list, hlist, ?_, ?_⟩
    · simp only [DecodedCapturePathMapping.rewrite, List.drop_left, hlogicalPrefix,
        List.head?_cons, and_true, getLast?_projectPath hlogical, List.drop_one, List.tail_cons]
      by_cases hnil : logical = []
      · rw [if_pos hnil, hnil, List.nil_append, projectPath, Segments.joined_nil, List.append_nil]
        rfl
      · have hne : list ≠ [] := fun hlistNil => hnil
          ((projectPath_eq_scheme hlogical).1 (hlogicalPrefix.symm.trans (hscheme hlistNil)))
        rw [if_neg hnil, projectPath, projectPath, Segments.joined_append hnil hne,
          List.append_assoc]
    · rw [hphysicalPrefix, List.cons_append, List.drop_one, List.tail_cons]
      by_cases hnil : physical = []
      · subst hnil
        have hcut : segments 0x2f (joined 0x2f [] ++ 0x2f :: joined 0x2f list) = [] :: list := by
          rw [Segments.joined_nil, List.nil_append, ← List.nil_append (0x2f :: _), segments,
            Segments.segmentsFrom_append (by simp), hlist.segments_joined]
          rfl
        have hwalk := @lexicalAbsolute_named [] list hlist []
        rw [List.append_nil] at hwalk
        rw [hcut, lexicalAbsolute, if_pos (.inl rfl), hwalk, hnothing]
      · have hwalk := @lexicalAbsolute_named [] (physical ++ list) (hphysical.append hlist) []
        rw [List.append_nil] at hwalk
        rw [Segments.segments_joined_append hnil fun segment hsegment =>
          (hphysical segment hsegment).2.1, hlist.segments_joined, hwalk, hnothing, List.nil_append]
  · refine ⟨list, hlist, ?_, ?_⟩
    · simp only [DecodedCapturePathMapping.rewrite, List.drop_left, hlist.head?_joined, and_false,
        if_false, hlogicalPrefix]
      rcases halone with rfl | ⟨-, hscheme⟩
      · simp
      · rw [hlogicalPrefix, projectPath_eq_scheme hlogical] at hscheme
        rw [hscheme, List.nil_append, projectPath, Segments.joined_nil, List.append_nil]
        rfl
    · have hwalk := @lexicalAbsolute_named [] (physical ++ list) (hphysical.append hlist) []
      rw [List.append_nil, hnothing, List.nil_append] at hwalk
      rw [hphysicalPrefix, List.cons_append, List.drop_one, List.tail_cons]
      rcases halone with rfl | ⟨hroot, -⟩
      · rw [Segments.joined_nil, List.append_nil, hphysical.segments_joined]
        simpa using hwalk
      · have hnil : physical = [] := by
          rw [← physicalSegments_eq hphysical hphysicalPrefix,
            DecodedCapturePathMapping.physicalSegments, hroot]
          rfl
        subst hnil
        rw [Segments.joined_nil, List.nil_append, hlist.segments_joined]
        exact hwalk

/-- Joined segments, a slash and a text are joined segments only when the text is. -/
theorem eq_joined_of_append {result : List Bytes} {text : Bytes} (hlogical : AllNamed logical)
    (hresult : AllNamed result) (hne : logical ≠ [])
    (h : joined 0x2f logical ++ 0x2f :: text = joined 0x2f result) :
    ∃ list, AllNamed list ∧ list ≠ [] ∧ text = joined 0x2f list := by
  have hcut : logical ++ segments 0x2f text = result := by
    rw [← Segments.segments_joined_append hne fun segment hsegment =>
      (hlogical segment hsegment).2.1, h, hresult.segments_joined]
  have hnamed : AllNamed (segments 0x2f text) :=
    fun segment hsegment => hresult segment (hcut ▸ List.mem_append_right _ hsegment)
  by_cases hnil : segments 0x2f text = []
  · rw [hnil, List.append_nil] at hcut
    rw [← hcut] at h
    have := congrArg List.length h
    simp at this
  · refine ⟨segments 0x2f text, hnamed, hnil, ?_⟩
    rw [← hcut, Segments.joined_append hne hnil] at h
    exact (List.cons.inj (List.append_cancel_left h)).2

/-- A value that is rewritten to the named segments it stands for is in place. -/
theorem inPlace_of_rewrite {result : List Bytes} (hphysical : AllNamed physical)
    (hphysicalPrefix : mapping.physicalPrefix = 0x2f :: joined 0x2f physical)
    (hlogical : AllNamed logical)
    (hlogicalPrefix : mapping.logicalPrefix = projectPath logical) (hcovers : mapping.covers value)
    (hresult : AllNamed result) (hrewrite : mapping.rewrite value = projectPath result)
    (hnames : physical = [] →
      logical ++ lexicalAbsolute [] (segments 0x2f (value.drop 1)) = result) :
    mapping.InPlace value := by
  obtain ⟨rest, rfl, hrest⟩ := (covers_iff hphysical hphysicalPrefix).1 hcovers
  simp only [DecodedCapturePathMapping.rewrite, List.drop_left, hlogicalPrefix,
    getLast?_projectPath hlogical] at hrewrite
  have hscheme : mapping.logicalPrefix = projectScheme ↔ logical = [] :=
    hlogicalPrefix ▸ projectPath_eq_scheme hlogical
  by_cases hslash : rest.head? = some 0x2f
  · obtain ⟨text, rfl⟩ := List.head?_eq_some_iff.1 hslash
    by_cases hnil : logical = []
    · rw [if_pos ⟨hnil, rfl⟩, hnil] at hrewrite
      have htext : text = joined 0x2f result := by
        simpa [projectPath] using hrewrite
      exact ⟨result, hresult, .inl ⟨by rw [htext], fun _ => hscheme.2 hnil⟩⟩
    · rw [if_neg fun h => hnil h.1, projectPath, projectPath, List.append_assoc] at hrewrite
      obtain ⟨list, hlist, hne, rfl⟩ :=
        eq_joined_of_append hlogical hresult hnil (List.append_cancel_left hrewrite)
      exact ⟨list, hlist, .inl ⟨rfl, fun h => absurd h hne⟩⟩
  · rw [if_neg fun h => hslash h.2, projectPath, projectPath, List.append_assoc] at hrewrite
    have hjoined := List.append_cancel_left hrewrite
    rcases hrest with rfl | hroot | hhead
    · exact ⟨[], by simp [AllNamed], .inr ⟨by simp, .inl rfl⟩⟩
    · -- Below the root, the slash of the prefix is the only one there is.
      by_cases hnil : logical = []
      · rw [hnil, Segments.joined_nil, List.nil_append] at hjoined
        exact ⟨result, hresult, .inr ⟨by rw [hjoined], .inr ⟨by rw [hphysicalPrefix, hroot]; rfl,
          hscheme.2 hnil⟩⟩⟩
      · have hnamed := hnames hroot
        by_cases hempty :
            lexicalAbsolute [] (segments 0x2f ((mapping.physicalPrefix ++ rest).drop 1)) = []
        · rw [hempty, List.append_nil] at hnamed
          rw [← hnamed] at hjoined
          have hrestNil : rest = [] := by simpa using hjoined
          exact ⟨[], by simp [AllNamed], .inr ⟨by simp [hrestNil], .inl rfl⟩⟩
        · rw [← hnamed, Segments.joined_append hnil hempty] at hjoined
          rw [List.append_cancel_left hjoined] at hslash
          exact absurd rfl hslash
    · exact absurd hhead hslash

end Absolute

/-! ## Containment -/

section Containment

variable {capture : DecodedCaptureProjection} {unit : DecodedCaptureUnit}

/-- The one mapping below which an absolute path lies. -/
theorem find?_physicalSegments (hnormal : Normal capture unit) {mapping : DecodedCapturePathMapping}
    (hmapping : mapping ∈ capture.pathMappings) {path : List Bytes}
    (hpath : mapping.physicalSegments <+: path) :
    capture.pathMappings.find? (fun mapping => mapping.physicalSegments.isPrefixOf path) =
      some mapping := by
  obtain ⟨before, after, heq⟩ := List.append_of_mem hmapping
  have happart := hnormal.apart
  rw [heq, List.pairwise_append] at happart
  rw [heq, List.find?_append]
  have hnone : before.find? (fun mapping => mapping.physicalSegments.isPrefixOf path) = none := by
    refine List.find?_eq_none.2 fun other hother hphysicalPrefix => ?_
    have hotherPath := List.isPrefixOf_iff_prefix.1 hphysicalPrefix
    have hapartOther := happart.2.2 other hother mapping List.mem_cons_self
    rcases List.prefix_or_prefix_of_prefix hotherPath hpath with h | h
    · exact hapartOther.1 h
    · exact hapartOther.2 h
  rw [hnone, Option.none_or]
  exact List.find?_cons_of_pos (List.isPrefixOf_iff_prefix.2 hpath)

/-- What is asked of a value: where it is accepted it stands for the named segments it names by
    normalisation, and where it leads out of every root it is rejected for that. -/
structure Contained (capture : DecodedCaptureProjection) (unit : DecodedCaptureUnit)
    (value : Bytes) : Prop where
  inside : ∀ path, logicalArgumentPath capture unit value = .ok path →
    ∃ list, AllNamed list ∧ path = projectPath list ∧ lexicalPath capture unit value = some list
  outside : lexicalPath capture unit value = none →
    logicalArgumentPath capture unit value =
      .error (requestInvalid "response_file.path" "outside-project-root")

/-- A value without dots to follow, as far as the source does not follow them. -/
def Straight (capture : DecodedCaptureProjection) (unit : DecodedCaptureUnit) (value : Bytes) :
    Prop :=
  if value = [] ∨ 0 ∈ value ∨ 0x5c ∈ value then lexicalPath capture unit value ≠ none
  else if projectScheme.isPrefixOf value then ∃ list, AllNamed list ∧ value = projectPath list
  else if value.head? = some 0x2f then
    ∀ mapping, capture.pathMappings.find? (fun mapping => mapping.covers value) = some mapping →
      mapping.InPlace value
  else
    lexicalPath capture unit value = none →
      EscapesAtOnce [] (segments 0x2f (relativeText unit value))

/-- What an absolute value below a mapping names. -/
theorem lexicalPath_absolute (hnormal : Normal capture unit) {mapping : DecodedCapturePathMapping}
    (hmapping : mapping ∈ capture.pathMappings) {value : Bytes}
    (hlogical : projectScheme.isPrefixOf value = false) (hslash : value.head? = some 0x2f)
    {below : List Bytes} (hpath : lexicalAbsolute [] (segments 0x2f (value.drop 1)) =
      mapping.physicalSegments ++ below) :
    lexicalPath capture unit value = some (mapping.logicalSegments ++ below) := by
  have hfound := find?_physicalSegments hnormal hmapping (hpath ▸ List.prefix_append _ below)
  rw [lexicalPath, hlogical, if_neg Bool.false_ne_true, if_pos hslash]
  simp only [hfound]
  rw [Option.map_some, hpath, List.drop_left]

/-- An absolute value below a mapping. -/
theorem contained_absolute_iff (hnormal : Normal capture unit)
    {mapping : DecodedCapturePathMapping} (hmapping : mapping ∈ capture.pathMappings)
    {value : Bytes} (hlogical : projectScheme.isPrefixOf value = false) (hslash : value.head? = some 0x2f)
    (hcovers : mapping.covers value = true)
    (hargument : logicalArgumentPath capture unit value = .ok (mapping.rewrite value)) :
    Contained capture unit value ↔ mapping.InPlace value := by
  obtain ⟨⟨physical, hphysical, hphysicalPrefix⟩, ⟨logical, hlogicalNamed, hlogicalPrefix⟩⟩ :=
    hnormal.mappings mapping hmapping
  have hphysicalSegments := physicalSegments_eq hphysical hphysicalPrefix
  have hlogicalSegments := logicalSegments_eq hlogicalNamed hlogicalPrefix
  constructor
  · intro hcontained
    obtain ⟨result, hresult, hrewrite, hnames⟩ := hcontained.inside _ hargument
    refine inPlace_of_rewrite hphysical hphysicalPrefix hlogicalNamed hlogicalPrefix hcovers hresult
      hrewrite fun hroot => ?_
    have hpath := @lexicalPath_absolute capture unit hnormal mapping hmapping value hlogical hslash
      (lexicalAbsolute [] (segments 0x2f (value.drop 1))) (by rw [hphysicalSegments, hroot]; rfl)
    rw [hnames, hlogicalSegments] at hpath
    exact (Option.some.inj hpath).symm
  · intro hinPlace
    obtain ⟨list, hlist, hrewrite, hwalk⟩ :=
      rewrite_of_inPlace hphysical hphysicalPrefix hlogicalNamed hlogicalPrefix hinPlace
    have hpath := lexicalPath_absolute hnormal hmapping hlogical hslash
      (hphysicalSegments.symm ▸ hwalk)
    rw [hlogicalSegments] at hpath
    refine ⟨fun path hok => ?_, fun hnone => ?_⟩
    · rw [hargument, Except.ok.injEq] at hok
      exact ⟨logical ++ list, hlogicalNamed.append hlist, hok ▸ hrewrite, hpath⟩
    · rw [hpath] at hnone
      exact nomatch hnone

/-- A relative value is normalised by the loop over its segments. -/
theorem contained_relative_iff {value : Bytes} (hlogical : projectScheme.isPrefixOf value = false)
    (hslash : value.head? ≠ some 0x2f)
    (hargument : logicalArgumentPath capture unit value =
      (relativeSegments [] (segments 0x2f (relativeText unit value))).map projectPath) :
    Contained capture unit value ↔
      (lexicalPath capture unit value = none →
        EscapesAtOnce [] (segments 0x2f (relativeText unit value))) := by
  have hpath : lexicalPath capture unit value =
      lexicalBelow [] (segments 0x2f (relativeText unit value)) := by
    rw [lexicalPath, hlogical, if_neg Bool.false_ne_true, if_neg hslash]
  have herror : logicalArgumentPath capture unit value =
        .error (requestInvalid "response_file.path" "outside-project-root") ↔
      EscapesAtOnce [] (segments 0x2f (relativeText unit value)) := by
    rw [← relativeSegments_outside_iff, hargument]
    cases relativeSegments [] (segments 0x2f (relativeText unit value)) with
    | ok stack => simp [Except.map]
    | error e => simp [Except.map]
  rw [← herror]
  refine ⟨fun hcontained => hcontained.outside, fun houtside => ⟨fun path hok => ?_, houtside⟩⟩
  rw [hargument] at hok
  cases hstack : relativeSegments [] (segments 0x2f (relativeText unit value)) with
  | error e => simp [hstack, Except.map] at hok
  | ok stack =>
    obtain ⟨hnamed, hbelow⟩ := lexicalBelow_of_relativeSegments (by simp [AllNamed])
      (fun segment hsegment => Segments.notMem_of_mem_segments hsegment) hstack
    simp only [hstack, Except.map, Except.ok.injEq] at hok
    exact ⟨stack, hnamed, hok.symm, hpath.trans hbelow⟩

theorem contained_iff (hnormal : Normal capture unit) (value : Bytes) :
    Contained capture unit value ↔ Straight capture unit value := by
  unfold Straight
  by_cases hbad : value = [] ∨ 0 ∈ value ∨ 0x5c ∈ value
  · have hargument : logicalArgumentPath capture unit value =
        .error (requestInvalid "response_file.path" "logical-path-required") := if_pos hbad
    rw [if_pos hbad]
    constructor
    · intro hcontained hnone
      exact absurd (hargument.symm.trans (hcontained.outside hnone)) (by decide)
    · refine fun hsome => ⟨fun path hok => ?_, fun hnone => absurd hnone hsome⟩
      rw [hargument] at hok
      exact nomatch hok
  · rw [if_neg hbad]
    by_cases hlogical : projectScheme.isPrefixOf value = true
    · have hargument : logicalArgumentPath capture unit value = .ok value := by
        rw [logicalArgumentPath, if_neg hbad, if_pos hlogical]
      rw [if_pos hlogical]
      constructor
      · intro hcontained
        obtain ⟨list, hlist, heq, -⟩ := hcontained.inside value hargument
        exact ⟨list, hlist, heq⟩
      · rintro ⟨list, hlist, rfl⟩
        have hwalk := @lexicalBelow_named [] list hlist []
        have hpath : lexicalPath capture unit (projectPath list) = some list := by
          rw [List.append_nil] at hwalk
          rw [lexicalPath, if_pos hlogical, projectPath, List.drop_left, hlist.segments_joined,
            hwalk]
          rfl
        refine ⟨fun path hok => ?_, fun hnone => ?_⟩
        · rw [hargument, Except.ok.injEq] at hok
          exact ⟨list, hlist, hok.symm, hpath⟩
        · rw [hpath] at hnone
          exact nomatch hnone
    · rw [if_neg hlogical]
      have hfalse : projectScheme.isPrefixOf value = false := Bool.eq_false_iff.2 hlogical
      by_cases hslash : value.head? = some 0x2f
      · rw [if_pos hslash]
        cases hfound : capture.pathMappings.find? fun mapping => mapping.covers value with
        | none =>
          have hargument : logicalArgumentPath capture unit value =
              .error (requestInvalid "response_file.path" "outside-project-root") := by
            rw [logicalArgumentPath, if_neg hbad, if_neg hlogical, if_pos hslash, logicalPathFor,
              hfound]
            rfl
          refine iff_of_true ⟨fun path hok => ?_, fun _ => hargument⟩ fun _ h => nomatch h
          rw [hargument] at hok
          exact nomatch hok
        | some mapping =>
          have hargument :
              logicalArgumentPath capture unit value = .ok (mapping.rewrite value) := by
            rw [logicalArgumentPath, if_neg hbad, if_neg hlogical, if_pos hslash, logicalPathFor,
              hfound]
            rfl
          have hcovers := List.find?_some hfound
          rw [contained_absolute_iff hnormal (List.mem_of_find?_eq_some hfound) hfalse hslash
            hcovers hargument]
          constructor
          · intro hinPlace other hother
            obtain rfl := Option.some.inj hother
            exact hinPlace
          · exact fun h => h mapping rfl
      · obtain ⟨list, -, hdirectory⟩ := hnormal.workingDirectory
        have hworking : projectScheme.isPrefixOf unit.logicalWorkingDirectory = true := by
          rw [hdirectory, projectPath]
          exact List.isPrefixOf_iff_prefix.2 (List.prefix_append _ _)
        rw [if_neg hslash]
        refine contained_relative_iff hfalse hslash ?_
        rw [logicalArgumentPath, if_neg hbad, if_neg hlogical, if_neg hslash, hworking,
          if_neg (by simp)]
        cases relativeSegments [] (segments 0x2f (relativeText unit value)) with
        | ok stack => rfl
        | error e => rfl

end Containment

/-! ## Where argument paths stay inside the project -/

/-- A capture of the project `/p`. -/
def sampleCapture : DecodedCaptureProjection where
  pathMappings := [{ physicalPrefix := ascii "/p", logicalPrefix := projectScheme }]
  sourceClosures := []

def sampleUnit : DecodedCaptureUnit where
  compileUnitId := ascii "unit"
  sourceLogicalPath := ascii "project://a.cpp"
  logicalWorkingDirectory := projectScheme
  originalArguments := none
  responseFiles := []
  environmentEffects := []
  languageStandard := none
  extensionMode := none
  sourceClosureId := ascii "closure"

theorem normal_sample : Normal sampleCapture sampleUnit where
  mappings mapping hmapping := by
    obtain rfl := List.mem_singleton.1 hmapping
    refine ⟨⟨[ascii "p"], ?_, rfl⟩, ⟨[], by simp [AllNamed], rfl⟩⟩
    intro segment hsegment
    obtain rfl := List.mem_singleton.1 hsegment
    exact ⟨by decide, by decide, by decide, by decide⟩
  apart := List.pairwise_singleton _ _
  workingDirectory := ⟨[], by simp [AllNamed], rfl⟩

end Cxxlens.Sdk.Capture
