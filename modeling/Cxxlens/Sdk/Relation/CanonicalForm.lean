import Cxxlens.Foundation.Delimited
import Cxxlens.Sdk.Decimal
import Cxxlens.Sdk.Json.Delimited
import Cxxlens.Sdk.Relation.Descriptor
import Cxxlens.Sdk.Utf8

set_option autoImplicit false

/-! # What a canonical form says

The parts of `relation_descriptor::canonical_form` are split off one after the other. Strings that are
not valid UTF-8 are printed as empty strings, so they are the only ones that a form does not say. -/

namespace Cxxlens.Sdk

open Sorting Json

/-! ## Printers -/

/-- A text without some byte ends at that byte. -/
theorem delimited_closed {α : Type} {p : α → Bytes} {closer : UInt8} (h : ∀ a, closer ∉ p a) :
    Delimited fun a => p a ++ [closer] := by
  intro a b rest other heq
  simp only [List.append_assoc, List.singleton_append] at heq
  show p a ++ [closer] = p b ++ [closer]
  rw [(split_at_first (h a) (h b) heq).1]

/-- Lists are equal whose images are, where the function tells their elements apart. -/
theorem eq_of_map_eq {α β : Type} {f : α → β} {left right : List α}
    (hinj : ∀ a ∈ left, ∀ b ∈ right, f a = f b → a = b) (h : left.map f = right.map f) :
    left = right := by
  induction left generalizing right with
  | nil => exact (List.map_eq_nil_iff.1 h.symm).symm
  | cons first left ih =>
      rcases right with _ | ⟨second, right⟩
      · cases h
      · rw [List.map_cons, List.map_cons, List.cons.injEq] at h
        have hfirst := hinj first List.mem_cons_self second List.mem_cons_self h.1
        have hrest := ih (fun a ha b hb => hinj a (List.mem_cons_of_mem _ ha) b
          (List.mem_cons_of_mem _ hb)) h.2
        rw [hfirst, hrest]

theorem quote_not_mem_decimal (value : Nat) : (0x22 : UInt8) ∉ CanonicalValue.decimal value := by
  intro h
  have hdigit := isDigit_decimal h
  have hquote : (0x22 : UInt8).toNat = 34 := rfl
  omega

theorem comma_not_mem_decimal (value : Nat) : (0x2c : UInt8) ∉ CanonicalValue.decimal value := by
  intro h
  have hdigit := isDigit_decimal h
  have hcomma : (0x2c : UInt8).toNat = 44 := rfl
  omega

/-! ## Names -/

theorem quote_not_mem_roleName (role : ColumnRole) : (0x22 : UInt8) ∉ roleName role := by
  cases role with
  | unnamed value =>
      rw [roleName, List.mem_append, not_or]
      exact ⟨by decide, quote_not_mem_decimal _⟩
  | _ => decide

theorem roleName_injOn {left right : ColumnRole} (hleft : left.isValid = true)
    (hright : right.isValid = true) (h : roleName left = roleName right) : left = right := by
  let named : List ColumnRole := [.claimKey, .authoritativePayload, .display, .auxiliary]
  have hnamed : ∀ role : ColumnRole, role.isValid = true → role ∈ named := by
    intro role hrole
    cases role with
    | unnamed value => cases hrole
    | _ => decide
  have hinj : ∀ a ∈ named, ∀ b ∈ named, roleName a = roleName b → a = b := by decide
  exact hinj left (hnamed left hleft) right (hnamed right hright) h

theorem quote_not_mem_mergeName (merge : MergeMode) : (0x22 : UInt8) ∉ mergeName merge := by
  cases merge with
  | unnamed value =>
      rw [mergeName, List.mem_append, not_or]
      exact ⟨by decide, quote_not_mem_decimal _⟩
  | _ => decide

theorem mergeName_injOn {left right : MergeMode} (hleft : left.isValid = true)
    (hright : right.isValid = true) (h : mergeName left = mergeName right) : left = right := by
  let named : List MergeMode := [.set, .multiset, .functionalAssertion, .keyedUnion]
  have hnamed : ∀ merge : MergeMode, merge.isValid = true → merge ∈ named := by
    intro merge hmerge
    cases merge with
    | unnamed value => cases hmerge
    | _ => decide
  have hinj : ∀ a ∈ named, ∀ b ∈ named, mergeName a = mergeName b → a = b := by decide
  exact hinj left (hnamed left hleft) right (hnamed right hright) h

theorem quote_not_mem_referenceName (strength : ReferenceStrength) :
    (0x22 : UInt8) ∉ referenceName strength := by
  cases strength with
  | unnamed value =>
      rw [referenceName, List.mem_append, not_or]
      exact ⟨by decide, quote_not_mem_decimal _⟩
  | _ => decide

theorem referenceName_injOn {left right : ReferenceStrength} (hleft : left.isValid = true)
    (hright : right.isValid = true) (h : referenceName left = referenceName right) :
    left = right := by
  let named : List ReferenceStrength := [.hard, .softSemantic]
  have hnamed : ∀ strength : ReferenceStrength, strength.isValid = true → strength ∈ named := by
    intro strength hstrength
    cases strength with
    | unnamed value => cases hstrength
    | _ => decide
  have hinj : ∀ a ∈ named, ∀ b ∈ named, referenceName a = referenceName b → a = b := by decide
  exact hinj left (hnamed left hleft) right (hnamed right hright) h

/-! ## Types -/

/-- The kinds that have a name. -/
def ScalarKind.named : List ScalarKind :=
  [.boolean, .signedInteger, .unsignedInteger, .utf8String, .bytes, .digest, .semanticVersion,
    .typedId, .openSymbol, .conditionRef, .sourceSpanId, .evidenceId, .closedSymbol, .set,
    .relationName, .semanticKeyId, .assertionId, .contentDigest, .interpretationDomainId]

theorem ScalarKind.mem_named {kind : ScalarKind} (h : kind.isValid = true) :
    kind ∈ ScalarKind.named := by
  cases kind with
  | unnamed value => cases h
  | _ => decide

theorem name_injOn {left right : ScalarKind} (hleft : left.isValid = true)
    (hright : right.isValid = true) (h : left.name = right.name) : left = right := by
  have hdistinct : (ScalarKind.named.map ScalarKind.name).Nodup := by decide
  exact List.inj_on_of_nodup_map hdistinct (ScalarKind.mem_named hleft)
    (ScalarKind.mem_named hright) h

theorem angle_not_mem_name {kind : ScalarKind} (h : kind.isValid = true) :
    (0x3c : UInt8) ∉ kind.name := by
  have hall : ∀ kind ∈ ScalarKind.named, (0x3c : UInt8) ∉ kind.name := by decide
  exact hall kind (ScalarKind.mem_named h)

theorem name_ne_optional {kind : ScalarKind} (h : kind.isValid = true) :
    kind.name ≠ ascii "optional" := by
  have hall : ∀ kind ∈ ScalarKind.named, kind.name ≠ ascii "optional" := by decide
  exact hall kind (ScalarKind.mem_named h)

theorem name_ascii {kind : ScalarKind} (h : kind.isValid = true) :
    ∀ byte ∈ kind.name, byte.toNat < 0x80 := by
  cases kind with
  | unnamed value => cases h
  | _ => exact ascii_lt (by simp)

/-- A name with its parameter between angles, before `optional` is put around it. -/
def ValueType.required (type : ValueType) : Bytes :=
  if type.parameter ≠ [] then type.scalar.name ++ ascii "<" ++ type.parameter ++ ascii ">"
  else type.scalar.name

theorem canonicalName_eq (type : ValueType) :
    type.canonicalName =
      if type.optional = true then ascii "optional" ++ 0x3c :: (type.required ++ [0x3e])
      else type.required := by
  unfold ValueType.canonicalName ValueType.required
  split_ifs <;> simp [ascii]

theorem required_injOn {left right : ValueType} (hleft : left.scalar.isValid = true)
    (hright : right.scalar.isValid = true) (h : left.required = right.required) :
    left.scalar = right.scalar ∧ left.parameter = right.parameter := by
  have hangle : ascii "<" = [0x3c] := rfl
  have hclosed : ∀ {a b : ValueType}, a.scalar.isValid = true →
      a.scalar.name = b.scalar.name ++ 0x3c :: (b.parameter ++ ascii ">") → False := by
    intro a b ha heq
    exact angle_not_mem_name ha (by rw [heq]; simp)
  unfold ValueType.required at h
  rw [hangle] at h
  by_cases hl : left.parameter = [] <;> by_cases hr : right.parameter = []
  · simp only [hl, hr, ne_eq, not_true_eq_false, if_false] at h
    exact ⟨name_injOn hleft hright h, hl.trans hr.symm⟩
  · simp only [hl, hr, ne_eq, not_true_eq_false, not_false_eq_true, if_true, if_false,
      List.append_assoc, List.singleton_append] at h
    exact (hclosed hleft h).elim
  · simp only [hl, hr, ne_eq, not_true_eq_false, not_false_eq_true, if_true, if_false,
      List.append_assoc, List.singleton_append] at h
    exact (hclosed hright h.symm).elim
  · simp only [hl, hr, ne_eq, not_false_eq_true, if_true, List.append_assoc,
      List.singleton_append] at h
    obtain ⟨hname, hparameter⟩ :=
      split_at_first (angle_not_mem_name hleft) (angle_not_mem_name hright) h
    exact ⟨name_injOn hleft hright hname, List.append_cancel_right hparameter⟩

/-- No name of a type begins as an optional one does. -/
theorem required_ne_optional {type : ValueType} (h : type.scalar.isValid = true) (rest : Bytes) :
    type.required ≠ ascii "optional" ++ 0x3c :: rest := by
  have hangle : ascii "<" = [0x3c] := rfl
  intro heq
  unfold ValueType.required at heq
  split_ifs at heq with hparameter
  · rw [hangle, List.append_assoc, List.append_assoc, List.singleton_append] at heq
    exact name_ne_optional h (split_at_first (angle_not_mem_name h) (by decide) heq).1
  · exact angle_not_mem_name h (by rw [heq]; simp)

/-- The name of a type says what the type is. -/
theorem canonicalName_injOn {left right : ValueType} (hleft : left.scalar.isValid = true)
    (hright : right.scalar.isValid = true) (h : left.canonicalName = right.canonicalName) :
    left = right := by
  have hparts : left.required = right.required ∧ left.optional = right.optional := by
    rw [canonicalName_eq, canonicalName_eq] at h
    rcases hl : left.optional <;> rcases hr : right.optional <;>
      simp only [hl, hr, if_true, Bool.false_eq_true, if_false] at h
    · exact ⟨h, rfl⟩
    · exact absurd h (required_ne_optional hleft _)
    · exact absurd h.symm (required_ne_optional hright _)
    · have htail := List.append_cancel_left h
      rw [List.cons.injEq] at htail
      exact ⟨List.append_cancel_right htail.2, rfl⟩
  obtain ⟨hscalar, hparameter⟩ := required_injOn hleft hright hparts.1
  rcases left with ⟨_, _, _⟩
  rcases right with ⟨_, _, _⟩
  simp only at hscalar hparameter hparts
  rw [hscalar, hparameter, hparts.2]

theorem canonicalName_ne_nil {type : ValueType} (h : type.scalar.isValid = true) :
    type.canonicalName ≠ [] := by
  have hall : ∀ kind ∈ ScalarKind.named, kind.name ≠ [] := by decide
  have hname := hall type.scalar (ScalarKind.mem_named h)
  rw [canonicalName_eq, ValueType.required]
  split_ifs <;> simp [hname]

/-- The name of a type is valid UTF-8 where its parameter is. -/
theorem validUtf8_canonicalName {type : ValueType} (h : type.scalar.isValid = true) :
    validUtf8 type.canonicalName = validUtf8 type.parameter := by
  have hangle : ascii "<" = [0x3c] := rfl
  have hclose : ascii ">" = [0x3e] := rfl
  have hbehind : ∀ bytes : Bytes, validUtf8 (bytes ++ [0x3e]) = validUtf8 bytes := by
    intro bytes
    rw [Bool.eq_iff_iff]
    constructor
    · intro hvalid
      exact (validUtf8_split (by decide) hvalid).1
    · intro hvalid
      exact validUtf8_append hvalid rfl
  have hrequired : validUtf8 type.required = validUtf8 type.parameter := by
    unfold ValueType.required
    by_cases hparameter : type.parameter = []
    · rw [if_neg (not_not.2 hparameter), hparameter, validUtf8_of_ascii (name_ascii h)]
      rfl
    · rw [if_pos hparameter, hangle, hclose, hbehind, List.append_assoc,
        validUtf8_of_ascii_append (name_ascii h), List.singleton_append,
        validUtf8_cons_ascii (by decide)]
  rw [canonicalName_eq]
  rcases type.optional
  · exact hrequired
  · have hoptional : ∀ byte ∈ ascii "optional", byte.toNat < 0x80 := ascii_lt (by simp)
    rw [if_pos rfl, validUtf8_of_ascii_append hoptional, validUtf8_cons_ascii (by decide), hbehind,
      hrequired]

/-! ## Strings -/

theorem canonicalJsonString_begins_ne {closer : UInt8} (h : closer ≠ 0x22) (value : Bytes) :
    ∃ first rest, canonicalJsonString value = first :: rest ∧ first ≠ closer := by
  obtain ⟨rest, hrest⟩ := canonicalJsonString_begins value
  exact ⟨0x22, rest, hrest, h.symm⟩

/-- Strings in an array, up to the bracket behind them. -/
theorem quotedList_split {left right : List Bytes} {rest other : Bytes}
    (h : quotedList left ++ 0x5d :: rest = quotedList right ++ 0x5d :: other) :
    left.map canonicalJsonString = right.map canonicalJsonString ∧ rest = other :=
  canonicalJsonString_delimited.split_list (by decide)
    (canonicalJsonString_begins_ne (by decide)) h

theorem canonicalJsonString_inj {left right : Bytes} (hleft : validUtf8 left = true)
    (hright : validUtf8 right = true) (h : canonicalJsonString left = canonicalJsonString right) :
    left = right := by
  rwa [canonicalJsonString_eq_iff, printable_of_valid hleft, printable_of_valid hright] at h

theorem quoted_inj {left right : List Bytes} (hleft : ∀ value ∈ left, validUtf8 value = true)
    (hright : ∀ value ∈ right, validUtf8 value = true)
    (h : left.map canonicalJsonString = right.map canonicalJsonString) : left = right :=
  eq_of_map_eq (fun a ha b hb => canonicalJsonString_inj (hleft a ha) (hright b hb)) h

/-! ## Columns -/

/-- What the text of a column says. -/
structure ColumnDescriptor.SameText (a b : ColumnDescriptor) : Prop where
  id : canonicalJsonString a.id = canonicalJsonString b.id
  name : canonicalJsonString a.name = canonicalJsonString b.name
  required : a.required = b.required
  type : canonicalJsonString a.type.canonicalName = canonicalJsonString b.type.canonicalName
  role : roleName a.role = roleName b.role

theorem ColumnDescriptor.json_eq (item : ColumnDescriptor) :
    item.json = ascii "\x7b\"id\":" ++ (canonicalJsonString item.id ++ (ascii ",\"name\":" ++
      (canonicalJsonString item.name ++ (ascii ",\"required\":" ++
        ((if item.required = true then ascii "true" else ascii "false") ++ (ascii ",\"type\":" ++
          (canonicalJsonString item.type.canonicalName ++ (ascii ",\"role\":\"" ++
            (roleName item.role ++ 0x22 :: [0x7d]))))))))) := by
  have hclose : ascii "\"\x7d" = 0x22 :: [0x7d] := rfl
  rw [ColumnDescriptor.json, hclose]
  simp only [List.append_assoc]

theorem ColumnDescriptor.json_split {a b : ColumnDescriptor} {rest other : Bytes}
    (h : a.json ++ rest = b.json ++ other) : a.SameText b ∧ rest = other := by
  have hflag : Delimited fun required : Bool =>
      if required = true then ascii "true" else ascii "false" := by
    refine Delimited.of_prefix fun a b hprefix => ?_
    cases a <;> cases b <;> first | rfl | exact absurd hprefix (by decide)
  simp only [ColumnDescriptor.json_eq, List.append_assoc, List.cons_append, List.nil_append] at h
  obtain ⟨hid, h⟩ := canonicalJsonString_delimited.split (List.append_cancel_left h)
  obtain ⟨hname, h⟩ := canonicalJsonString_delimited.split (List.append_cancel_left h)
  obtain ⟨hrequired, h⟩ := hflag.split (List.append_cancel_left h)
  obtain ⟨htype, h⟩ := canonicalJsonString_delimited.split (List.append_cancel_left h)
  obtain ⟨hrole, h⟩ := split_at_first (quote_not_mem_roleName _) (quote_not_mem_roleName _)
    (List.append_cancel_left h)
  refine ⟨⟨hid, hname, ?_, htype, hrole⟩, (List.cons.inj h).2⟩
  rcases ha : a.required <;> rcases hb : b.required <;>
    first | rfl | exact absurd hrequired (by rw [ha, hb]; decide)

theorem ColumnDescriptor.SameText.json {a b : ColumnDescriptor} (h : a.SameText b) :
    a.json = b.json := by
  rw [json_eq, json_eq, h.id, h.name, h.required, h.type, h.role]

theorem columnJson_delimited : Delimited ColumnDescriptor.json := by
  intro a b rest other h
  exact (ColumnDescriptor.json_split h).1.json

/-- Columns that read alike are one column, where their strings are valid. -/
theorem ColumnDescriptor.SameText.eq {a b : ColumnDescriptor} (h : a.SameText b)
    (hid : validUtf8 a.id = true ∧ validUtf8 b.id = true)
    (hname : validUtf8 a.name = true ∧ validUtf8 b.name = true)
    (hrole : a.role.isValid = true ∧ b.role.isValid = true)
    (hscalar : a.type.scalar.isValid = true ∧ b.type.scalar.isValid = true)
    (htype : validUtf8 a.type.parameter = true) : a = b := by
  have hnames : b.type.canonicalName = a.type.canonicalName :=
    eq_of_canonicalJsonString ((validUtf8_canonicalName hscalar.1).trans htype)
      (canonicalName_ne_nil hscalar.1) h.type.symm
  rcases a with ⟨_, _, _, _, _⟩
  rcases b with ⟨_, _, _, _, _⟩
  rw [ColumnDescriptor.mk.injEq]
  exact ⟨canonicalJsonString_inj hid.1 hid.2 h.id, canonicalJsonString_inj hname.1 hname.2 h.name,
    canonicalName_injOn hscalar.1 hscalar.2 hnames.symm, h.required,
    roleName_injOn hrole.1 hrole.2 h.role⟩

/-! ## References -/

/-- What the text of a reference says. -/
structure RelationReferenceDescriptor.SameText (a b : RelationReferenceDescriptor) : Prop where
  containerElements : a.containerElements = b.containerElements
  sourceColumns : a.sourceColumns.map canonicalJsonString = b.sourceColumns.map canonicalJsonString
  strength : referenceName a.strength = referenceName b.strength
  targetRelation : canonicalJsonString a.targetRelation = canonicalJsonString b.targetRelation
  targetColumns : a.targetColumns.map canonicalJsonString = b.targetColumns.map canonicalJsonString

/-- The beginning of a reference. -/
def referenceOpening (containerElements : Bool) : Bytes :=
  ascii "\x7b" ++
    (if containerElements = true then ascii "\"container_elements\":true," else []) ++
    ascii "\"source\":["

theorem RelationReferenceDescriptor.json_eq (reference : RelationReferenceDescriptor) :
    reference.json = referenceOpening reference.containerElements ++
      (quotedList reference.sourceColumns ++ 0x5d :: (ascii ",\"strength\":\"" ++
        (referenceName reference.strength ++ 0x22 :: (ascii ",\"target_relation\":" ++
          (canonicalJsonString reference.targetRelation ++ (ascii ",\"target\":[" ++
            (quotedList reference.targetColumns ++ 0x5d :: [0x7d]))))))) := by
  have hstrength : ascii "],\"strength\":\"" = 0x5d :: ascii ",\"strength\":\"" := rfl
  have htarget : ascii "\",\"target_relation\":" = 0x22 :: ascii ",\"target_relation\":" := rfl
  have hclose : ascii "]\x7d" = 0x5d :: [0x7d] := rfl
  rw [RelationReferenceDescriptor.json, hstrength, htarget, hclose, referenceOpening]
  simp only [List.append_assoc, List.cons_append]

theorem RelationReferenceDescriptor.json_split {a b : RelationReferenceDescriptor}
    {rest other : Bytes} (h : a.json ++ rest = b.json ++ other) : a.SameText b ∧ rest = other := by
  have hopening : Delimited referenceOpening := by
    refine Delimited.of_prefix fun a b hprefix => ?_
    cases a <;> cases b <;> first | rfl | exact absurd hprefix (by decide)
  simp only [RelationReferenceDescriptor.json_eq, List.append_assoc, List.cons_append,
    List.nil_append] at h
  obtain ⟨hcontainer, h⟩ := hopening.split h
  obtain ⟨hsource, h⟩ := quotedList_split h
  obtain ⟨hstrength, h⟩ := split_at_first (quote_not_mem_referenceName _)
    (quote_not_mem_referenceName _) (List.append_cancel_left h)
  obtain ⟨htarget, h⟩ := canonicalJsonString_delimited.split (List.append_cancel_left h)
  obtain ⟨hcolumns, h⟩ := quotedList_split (List.append_cancel_left h)
  refine ⟨⟨?_, hsource, hstrength, htarget, hcolumns⟩, (List.cons.inj h).2⟩
  rcases ha : a.containerElements <;> rcases hb : b.containerElements <;>
    first | rfl | exact absurd hcontainer (by rw [ha, hb]; decide)

theorem RelationReferenceDescriptor.SameText.json {a b : RelationReferenceDescriptor}
    (h : a.SameText b) : a.json = b.json := by
  rw [json_eq, json_eq, h.containerElements, quotedList, h.sourceColumns, h.strength,
    h.targetRelation, quotedList, h.targetColumns]
  rfl

theorem referenceJson_delimited : Delimited RelationReferenceDescriptor.json := by
  intro a b rest other h
  exact (RelationReferenceDescriptor.json_split h).1.json

/-- References that read alike are one reference, where their strings are valid. -/
theorem RelationReferenceDescriptor.SameText.eq {a b : RelationReferenceDescriptor}
    (h : a.SameText b)
    (hsource : (∀ column ∈ a.sourceColumns, validUtf8 column = true) ∧
      ∀ column ∈ b.sourceColumns, validUtf8 column = true)
    (htarget : validUtf8 a.targetRelation = true ∧ validUtf8 b.targetRelation = true)
    (hcolumns : (∀ column ∈ a.targetColumns, validUtf8 column = true) ∧
      ∀ column ∈ b.targetColumns, validUtf8 column = true)
    (hstrength : a.strength.isValid = true ∧ b.strength.isValid = true) : a = b := by
  rcases a with ⟨_, _, _, _, _⟩
  rcases b with ⟨_, _, _, _, _⟩
  rw [RelationReferenceDescriptor.mk.injEq]
  exact ⟨quoted_inj hsource.1 hsource.2 h.sourceColumns,
    canonicalJsonString_inj htarget.1 htarget.2 h.targetRelation,
    quoted_inj hcolumns.1 hcolumns.2 h.targetColumns,
    referenceName_injOn hstrength.1 hstrength.2 h.strength, h.containerElements⟩

/-! ## The whole form -/

/-- The columns in the order of their identifiers. -/
def RelationDescriptor.orderedColumns (descriptor : RelationDescriptor) : List ColumnDescriptor :=
  sortBy (fun a b : ColumnDescriptor => bytesLess a.id b.id) descriptor.columns

/-- `result_column` -/
def resultColumnText (resultColumn : Option Bytes) : Bytes :=
  resultColumn.elim (ascii "null") canonicalJsonString

theorem resultColumnText_delimited : Delimited resultColumnText := by
  intro a b rest other h
  rcases a with _ | a <;> rcases b with _ | b
  · rfl
  · obtain ⟨text, htext⟩ := canonicalJsonString_begins b
    rw [resultColumnText, resultColumnText, Option.elim_some, htext] at h
    exact absurd (List.cons.inj h).1 (by decide)
  · obtain ⟨text, htext⟩ := canonicalJsonString_begins a
    rw [resultColumnText, resultColumnText, Option.elim_some, htext] at h
    exact absurd (List.cons.inj h).1 (by decide)
  · exact canonicalJsonString_delimited a b rest other h

/-- What a canonical form says. -/
structure RelationDescriptor.SameText (a b : RelationDescriptor) : Prop where
  columns : a.orderedColumns.map ColumnDescriptor.json = b.orderedColumns.map ColumnDescriptor.json
  conflictColumns : (sortBy bytesLess a.conflictColumns).map canonicalJsonString =
    (sortBy bytesLess b.conflictColumns).map canonicalJsonString
  contract : canonicalJsonString a.domainIdentity.contract =
    canonicalJsonString b.domainIdentity.contract
  projection : a.domainIdentity.projection.map canonicalJsonString =
    b.domainIdentity.projection.map canonicalJsonString
  resultColumn : resultColumnText a.domainIdentity.resultColumn =
    resultColumnText b.domainIdentity.resultColumn
  id : canonicalJsonString a.id = canonicalJsonString b.id
  keyColumns : a.keyColumns.map canonicalJsonString = b.keyColumns.map canonicalJsonString
  merge : mergeName a.merge = mergeName b.merge
  name : canonicalJsonString a.name = canonicalJsonString b.name
  ownerNamespace : canonicalJsonString a.ownerNamespace = canonicalJsonString b.ownerNamespace
  references : (sortBy referenceLess a.references).map RelationReferenceDescriptor.json =
    (sortBy referenceLess b.references).map RelationReferenceDescriptor.json
  semanticMajor : a.semanticMajor = b.semanticMajor
  semantics : canonicalJsonString a.semantics = canonicalJsonString b.semantics
  version : a.version = b.version

theorem SemanticVersion.string_split {a b : SemanticVersion} {rest other : Bytes}
    (h : a.string ++ 0x22 :: rest = b.string ++ 0x22 :: other) : a = b := by
  have hdot : ascii "." = [0x2e] := rfl
  simp only [SemanticVersion.string, hdot, List.append_assoc, List.singleton_append] at h
  obtain ⟨hmajor, h⟩ := split_at_first (dot_not_mem_decimal _) (dot_not_mem_decimal _) h
  obtain ⟨hminor, h⟩ := split_at_first (dot_not_mem_decimal _) (dot_not_mem_decimal _) h
  obtain ⟨hpatch, -⟩ := split_at_first (quote_not_mem_decimal _) (quote_not_mem_decimal _) h
  rcases a with ⟨_, _, _⟩
  rcases b with ⟨_, _, _⟩
  rw [SemanticVersion.mk.injEq]
  exact ⟨UInt32.toNat_inj.1 (decimal_injective hmajor), UInt32.toNat_inj.1 (decimal_injective hminor),
    UInt32.toNat_inj.1 (decimal_injective hpatch)⟩

/-- The form with each closing character in front of what follows it. -/
theorem RelationDescriptor.canonicalForm_eq (descriptor : RelationDescriptor) :
    descriptor.canonicalForm = ascii "\x7b\"columns\":[" ++
      (List.intercalate [0x2c] (descriptor.orderedColumns.map ColumnDescriptor.json) ++
      0x5d :: (ascii ",\"conflict_columns\":[" ++
      (quotedList (sortBy bytesLess descriptor.conflictColumns) ++
      0x5d :: (ascii ",\"domain_identity\":\x7b\"contract\":" ++
      (canonicalJsonString descriptor.domainIdentity.contract ++ (ascii ",\"projection\":[" ++
      (quotedList descriptor.domainIdentity.projection ++ 0x5d :: (ascii ",\"result_column\":" ++
      (resultColumnText descriptor.domainIdentity.resultColumn ++ (ascii "\x7d,\"id\":" ++
      (canonicalJsonString descriptor.id ++ (ascii ",\"key_columns\":[" ++
      (quotedList descriptor.keyColumns ++ 0x5d :: (ascii ",\"merge\":\"" ++
      (mergeName descriptor.merge ++ 0x22 :: (ascii ",\"name\":" ++
      (canonicalJsonString descriptor.name ++ (ascii ",\"owner_namespace\":" ++
      (canonicalJsonString descriptor.ownerNamespace ++ (ascii ",\"references\":[" ++
      (List.intercalate [0x2c] ((sortBy referenceLess descriptor.references).map
        RelationReferenceDescriptor.json) ++ 0x5d :: (ascii ",\"semantic_major\":" ++
      (CanonicalValue.decimal descriptor.semanticMajor.toNat ++
      0x2c :: (ascii "\"semantics\":" ++ (canonicalJsonString descriptor.semantics ++
      (ascii ",\"version\":\"" ++
        (descriptor.version.string ++ 0x22 :: [0x7d]))))))))))))))))))))))))))) := by
  have hconflict : ascii "],\"conflict_columns\":[" = 0x5d :: ascii ",\"conflict_columns\":[" := rfl
  have hidentity : ascii "],\"domain_identity\":\x7b\"contract\":" =
      0x5d :: ascii ",\"domain_identity\":\x7b\"contract\":" := rfl
  have hresult : ascii "],\"result_column\":" = 0x5d :: ascii ",\"result_column\":" := rfl
  have hmerge : ascii "],\"merge\":\"" = 0x5d :: ascii ",\"merge\":\"" := rfl
  have hname : ascii "\",\"name\":" = 0x22 :: ascii ",\"name\":" := rfl
  have hmajor : ascii "],\"semantic_major\":" = 0x5d :: ascii ",\"semantic_major\":" := rfl
  have hsemantics : ascii ",\"semantics\":" = 0x2c :: ascii "\"semantics\":" := rfl
  have hclose : ascii "\"\x7d" = 0x22 :: [0x7d] := rfl
  unfold RelationDescriptor.canonicalForm orderedColumns resultColumnText
  -- the right side is as it should be and too long to go through again
  conv_lhs => simp only [hconflict, hidentity, hresult, hmerge, hname, hmajor, hsemantics, hclose,
    List.append_assoc, List.cons_append]

/-- The texts of a list, up to the bracket behind them. -/
theorem jsonList_split {α : Type} {json : α → Bytes} (hjson : Delimited json)
    (hbegins : ∀ item, ∃ rest, json item = 0x7b :: rest) {left right : List α} {rest other : Bytes}
    (h : List.intercalate [0x2c] (left.map json) ++ 0x5d :: rest =
      List.intercalate [0x2c] (right.map json) ++ 0x5d :: other) :
    left.map json = right.map json ∧ rest = other := by
  refine hjson.split_list (by decide) (fun item => ?_) h
  obtain ⟨text, htext⟩ := hbegins item
  exact ⟨0x7b, text, htext, by decide⟩

theorem columnJson_begins (item : ColumnDescriptor) : ∃ rest, item.json = 0x7b :: rest := by
  rw [ColumnDescriptor.json_eq]
  exact ⟨_, rfl⟩

theorem referenceJson_begins (reference : RelationReferenceDescriptor) :
    ∃ rest, reference.json = 0x7b :: rest := by
  rw [RelationReferenceDescriptor.json_eq, referenceOpening]
  exact ⟨_, rfl⟩

/-- Two forms are equal where they say the same. -/
theorem canonicalForm_eq_iff {a b : RelationDescriptor} :
    a.canonicalForm = b.canonicalForm ↔ a.SameText b := by
  constructor
  · intro h
    rw [RelationDescriptor.canonicalForm_eq, RelationDescriptor.canonicalForm_eq] at h
    obtain ⟨hcolumns, h⟩ :=
      jsonList_split columnJson_delimited columnJson_begins (List.append_cancel_left h)
    obtain ⟨hconflict, h⟩ := quotedList_split (List.append_cancel_left h)
    obtain ⟨hcontract, h⟩ := canonicalJsonString_delimited.split (List.append_cancel_left h)
    obtain ⟨hprojection, h⟩ := quotedList_split (List.append_cancel_left h)
    obtain ⟨hresult, h⟩ := resultColumnText_delimited.split (List.append_cancel_left h)
    obtain ⟨hid, h⟩ := canonicalJsonString_delimited.split (List.append_cancel_left h)
    obtain ⟨hkeys, h⟩ := quotedList_split (List.append_cancel_left h)
    obtain ⟨hmerge, h⟩ := split_at_first (quote_not_mem_mergeName _) (quote_not_mem_mergeName _)
      (List.append_cancel_left h)
    obtain ⟨hname, h⟩ := canonicalJsonString_delimited.split (List.append_cancel_left h)
    obtain ⟨howner, h⟩ := canonicalJsonString_delimited.split (List.append_cancel_left h)
    obtain ⟨hreferences, h⟩ :=
      jsonList_split referenceJson_delimited referenceJson_begins (List.append_cancel_left h)
    obtain ⟨hmajor, h⟩ := split_at_first (comma_not_mem_decimal _) (comma_not_mem_decimal _)
      (List.append_cancel_left h)
    obtain ⟨hsemantics, h⟩ := canonicalJsonString_delimited.split (List.append_cancel_left h)
    have hversion := SemanticVersion.string_split (List.append_cancel_left h)
    have hnumber := UInt32.toNat_inj.1 (decimal_injective hmajor)
    exact ⟨hcolumns, hconflict, hcontract, hprojection, hresult, hid, hkeys, hmerge, hname, howner,
      hreferences, hnumber, hsemantics, hversion⟩
  · intro h
    rw [RelationDescriptor.canonicalForm_eq, RelationDescriptor.canonicalForm_eq]
    simp only [quotedList, h.columns, h.conflictColumns, h.contract, h.projection, h.resultColumn,
      h.id, h.keyColumns, h.merge, h.name, h.ownerNamespace, h.references, h.semanticMajor,
      h.semantics, h.version]

end Cxxlens.Sdk
