import Cxxlens.Sdk.Query.PredicateSpread

set_option autoImplicit false

/-! # Arguments that are printed

The arguments of a node around a printed predicate, as the decoder reads them again: those of
`predicate_json` on a predicate that was decoded, and those that `builder::where` stores. -/

namespace Cxxlens.Sdk.Query

open Json Sorting Collections Fallible

/-! ## What the decoder read -/

/-- The JSON value of the arguments of a node that takes a predicate. -/
def argumentsJson (value : JsonValue) : JsonValue :=
  .object [("predicate", value)]

theorem predicateArgumentsText_canonicalJson (value : JsonValue) :
    predicateArgumentsText (canonicalJson value) = canonicalJson (argumentsJson value) := by
  have hname : canonicalJsonString (ascii "predicate") = ascii "\"predicate\"" :=
    canonicalJsonString_literal (by decide) (by simp)
  unfold predicateArgumentsText argumentsJson
  simp only [canonicalJson, canonicalMembers, hname, List.append_assoc, List.cons_append]
  rfl

theorem length_argumentsJson (value : JsonValue) :
    (canonicalJson (argumentsJson value)).length = (canonicalJson value).length + 14 := by
  rw [← predicateArgumentsText_canonicalJson]
  unfold predicateArgumentsText
  have hopen : (ascii "\x7b\"predicate\":").length = 13 := by decide
  have hclose : (ascii "\x7d").length = 1 := by decide
  rw [List.length_append, List.length_append, hopen, hclose]
  omega

/-- A JSON value that arguments may carry. -/
structure Carried (value : JsonValue) : Prop where
  wellFormed : WellFormed value
  height : value.height + 1 ≤ 64
  length : (canonicalJson value).length + 14 ≤ 4194304

/-- Arguments of one member are parsed as they were printed. -/
theorem Carried.parse {value : JsonValue} (h : Carried value) :
    parseObject (predicateArgumentsText (canonicalJson value)) =
      .ok [(ascii "predicate", value.normal)] := by
  have hname : validUtf8 (ascii "predicate") = true := validUtf8_literal (by simp)
  have hwellFormed : WellFormed (argumentsJson value) := by
    refine .object (List.pairwise_singleton _ _) ?_ ?_
    · simpa using hname
    · simpa using h.wellFormed
  have hheight : (argumentsJson value).height ≤ 64 := by
    have hvalue := h.height
    unfold argumentsJson
    simp only [JsonValue.height, membersHeight]
    omega
  have hlength : (canonicalJson (argumentsJson value)).length ≤ 4194304 := by
    rw [length_argumentsJson]
    exact h.length
  unfold parseObject
  rw [predicateArgumentsText_canonicalJson, parse_of_short hwellFormed hheight hlength, ok_bind]
  rfl

theorem predicateArguments_eq_ok {object : Members} {arguments : OperatorArguments}
    (hordered : (object.map Prod.fst).Pairwise (· < ·))
    (h : predicateArguments object = .ok arguments) :
    ∃ value decoded, object = [(ascii "predicate", value)] ∧ predicate value = .ok decoded ∧
      arguments = .predicate decoded := by
  unfold predicateArguments at h
  rw [seq_eq_ok_iff, orElse_eq_ok_iff, exactKeys_eq_ok_iff] at h
  obtain ⟨hkeys, h⟩ := h
  have hnames := names_of_hasKeys hordered (List.pairwise_singleton _ _) hkeys
  obtain ⟨member, rfl, hname⟩ := List.map_eq_singleton_iff.1 hnames
  obtain ⟨name, value⟩ := member
  obtain rfl : name = ascii "predicate" := hname
  simp only [bind_eq_ok_iff, required_eq_ok_iff] at h
  obtain ⟨found, hfound, decoded, hdecoded, h⟩ := h
  obtain rfl : value = found := Option.some.inj hfound
  exact ⟨value, decoded, rfl, hdecoded, (Except.ok.inj h).symm⟩

/-- Only the operators that take a predicate decode to one. -/
theorem takesPredicate_of_decoded {operatorId arguments : Bytes} {decoded : DecodedPredicate}
    (h : decodeArguments operatorId arguments = .ok (.predicate decoded)) :
    takesPredicate operatorId = true := by
  unfold decodeArguments at h
  rw [bind_eq_ok_iff] at h
  obtain ⟨object, -, h⟩ := h
  split_ifs at h with hscan htakes hproject hempty horder hlimit hcondition hinterpretation
  · unfold scanArguments at h
    simp only [bind_eq_ok_iff, guard_eq_ok_iff] at h
    simp at h
  · exact htakes
  · unfold projectArguments at h
    simp only [bind_eq_ok_iff, guard_eq_ok_iff] at h
    simp at h
  · unfold emptyArguments at h
    rw [guard_eq_ok_iff] at h
    simp at h
  · unfold orderArguments at h
    simp only [bind_eq_ok_iff, guard_eq_ok_iff] at h
    simp at h
  · unfold limitArguments at h
    simp only [bind_eq_ok_iff] at h
    simp at h
  · unfold conditionArguments at h
    simp only [bind_eq_ok_iff, guard_eq_ok_iff] at h
    simp at h
  · unfold interpretationArguments at h
    simp only [bind_eq_ok_iff, guard_eq_ok_iff] at h
    simp at h

theorem decodeArguments_takesPredicate {operatorId : Bytes} (h : takesPredicate operatorId = true)
    (arguments : Bytes) :
    decodeArguments operatorId arguments = parseObject arguments >>= predicateArguments := by
  have hscan : ¬ operatorId = ascii "query.scan.v1" := by
    intro heq
    rw [heq] at h
    exact absurd h (by decide)
  unfold decodeArguments
  simp only [hscan, h, if_true, if_false]

/-- What the decoder accepted is the JSON value of the predicate. -/
theorem carried_of_decoded {operatorId arguments : Bytes} {decoded : DecodedPredicate}
    (h : decodeArguments operatorId arguments = .ok (.predicate decoded)) :
    Carried decoded.json ∧ decoded.Readable := by
  rw [decodeArguments_takesPredicate (takesPredicate_of_decoded h), bind_eq_ok_iff] at h
  obtain ⟨object, hparse, harguments⟩ := h
  unfold parseObject at hparse
  rw [bind_eq_ok_iff] at hparse
  obtain ⟨parsed, hparsed, hobject⟩ := hparse
  rw [asObject_eq_ok_iff] at hobject
  subst hobject
  have hwellFormed := wellFormed_of_parse hparsed
  obtain ⟨-, -, ⟨hwithin, -, -⟩, hinput, -⟩ := parseJsonValue_sound hparsed
  obtain ⟨value, other, rfl, hvalue, heq⟩ := predicateArguments_eq_ok hwellFormed.ordered harguments
  obtain rfl : decoded = other := OperatorArguments.predicate.inj heq
  have hmember := hwellFormed.member List.mem_cons_self
  obtain ⟨hnormal, hreadable, -⟩ := predicate_eq_ok value decoded hmember hvalue
  rw [← hnormal]
  refine ⟨⟨hmember.normal, ?_, ?_⟩, hreadable⟩
  · cases hwithin with
    | object _ _ _ _ hvalues =>
        have hheight := (hvalues _ List.mem_cons_self).normal.height_le
        rw [Nat.add_comm]
        exact hheight
  · rw [canonicalJson_normal, ← length_argumentsJson]
    exact (length_canonicalJson_le rfl hparsed).trans hinput

/-! ## Reading the printed predicate -/

section Hash

variable {hash : Bytes → Bytes}

theorem Carried.settled {predicate : DecodedPredicate} (h : Carried predicate.json)
    (hreadable : predicate.Readable) : predicate.Settled hash := by
  have hheight := h.height
  have hlength := h.length
  have hshorter := (shrinks_canonical hash predicate).length
  refine ⟨h.wellFormed, by omega, hreadable, ?_⟩
  unfold DecodedPredicate.text
  omega

theorem Carried.canonical {predicate : DecodedPredicate} (h : Carried predicate.json) :
    Carried (predicate.canonical hash).json := by
  have hshrinks := shrinks_canonical hash predicate
  have hheight := h.height
  have hlower := hshrinks.height
  have hlength := h.length
  have hshorter := hshrinks.length
  exact ⟨hshrinks.wellFormed h.wellFormed, by omega, by omega⟩

omit hash in
/-- The text of a predicate is read as the predicate, unless an `and` or `or` has too few
    operands. -/
theorem decodeArguments_text {operatorId : Bytes} (htakes : takesPredicate operatorId = true)
    {predicate : DecodedPredicate} (hcarried : Carried predicate.json)
    (hreadable : predicate.Readable) :
    decodeArguments operatorId (predicateArgumentsText predicate.text) =
      if predicate.wide = true then .ok (.predicate predicate) else .error minimumTwo := by
  unfold DecodedPredicate.text
  rw [decodeArguments_takesPredicate htakes, hcarried.parse, ok_bind, normal_json]
  show (Query.predicate predicate.json >>= fun decoded =>
    Except.ok (OperatorArguments.predicate decoded)) = _
  rw [predicate_json hreadable]
  split_ifs
  · rfl
  · rfl

/-- The printed predicate is read as the canonical one, unless an `and` or `or` is of operands that
    are all alike. -/
theorem decodeArguments_printed {operatorId : Bytes} (htakes : takesPredicate operatorId = true)
    {predicate : DecodedPredicate} (hcarried : Carried (predicate.canonical hash).json)
    (hsettled : predicate.Settled hash) :
    decodeArguments operatorId (predicateArgumentsText (predicateJson hash predicate)) =
      if predicate.spread = true then .ok (.predicate (predicate.canonical hash))
      else .error minimumTwo := by
  rw [predicateJson_eq, decodeArguments_text htakes hcarried hsettled.readable.canonical,
    wide_canonical hsettled]

/-! ## The predicate of a condition -/

theorem bindReference_eq_ok {columns : List ColumnRef} {reference bound : IrColumnRef}
    (h : bindReference columns reference = .ok bound) :
    ∃ column ∈ columns, bound = { reference with sourceAlias := column.sourceAlias } := by
  unfold bindReference at h
  dsimp only at h
  split at h
  · simp at h
  · rename_i column hmatching
    obtain rfl := Except.ok.inj h
    refine ⟨column, ?_, rfl⟩
    have hmem : column ∈ [column] := List.mem_cons_self
    rw [← hmatching] at hmem
    exact (List.mem_filter.1 hmem).1
  · simp at h

/-- A JSON value of the shape of another. -/
structure Rebound (bound source : JsonValue) : Prop where
  wellFormed : WellFormed source → WellFormed bound
  height : bound.height ≤ source.height

theorem Rebound.refl (value : JsonValue) : Rebound value value :=
  ⟨id, le_rfl⟩

/-- Members of one object, each rebound under its name. -/
theorem Rebound.object {bound source : Members} (hnames : bound.map Prod.fst = source.map Prod.fst)
    (h : ∀ member ∈ bound, ∃ other ∈ source, Rebound member.2 other.2) :
    Rebound (.object bound) (.object source) := by
  have hnameOf : ∀ member ∈ bound, ∃ other ∈ source, other.1 = member.1 := by
    intro member hmember
    have hname : member.1 ∈ bound.map Prod.fst := List.mem_map_of_mem hmember
    rw [hnames] at hname
    exact List.mem_map.1 hname
  refine ⟨?_, ?_⟩
  · intro hsource
    cases hsource with
    | object hordered hvalid hvalues =>
        refine .object (hnames ▸ hordered) ?_ ?_
        · intro member hmember
          obtain ⟨other, hother, heq⟩ := hnameOf member hmember
          exact heq ▸ hvalid other hother
        · intro member hmember
          obtain ⟨other, hother, hrebound⟩ := h member hmember
          exact hrebound.wellFormed (hvalues other hother)
  · simp only [JsonValue.height]
    rw [membersHeight_le_iff]
    intro member hmember
    obtain ⟨other, hother, hrebound⟩ := h member hmember
    have hsource := height_member_le hother
    exact (Nat.succ_le_succ hrebound.height).trans hsource

theorem Rebound.array {bound source : List JsonValue}
    (h : ∀ item ∈ bound, ∃ other ∈ source, Rebound item other) :
    Rebound (.array bound) (.array source) := by
  refine ⟨?_, ?_⟩
  · intro hsource
    cases hsource with
    | array hitems =>
        refine .array ?_
        intro item hitem
        obtain ⟨other, hother, hrebound⟩ := h item hitem
        exact hrebound.wellFormed (hitems other hother)
  · simp only [JsonValue.height]
    rw [itemsHeight_le_iff]
    intro item hitem
    obtain ⟨other, hother, hrebound⟩ := h item hitem
    have hsource := height_item_le hother
    exact (Nat.succ_le_succ hrebound.height).trans hsource

theorem Rebound.string {bound source : Bytes} (h : validUtf8 bound = true) :
    Rebound (.string bound) (.string source) :=
  ⟨fun _ => .string h, le_rfl⟩

theorem rebound_column {columns : List ColumnRef}
    (haliases : ∀ column ∈ columns, validUtf8 column.sourceAlias = true)
    {reference bound : IrColumnRef} (h : bindReference columns reference = .ok bound) :
    Rebound bound.json reference.json := by
  obtain ⟨column, hcolumn, rfl⟩ := bindReference_eq_ok h
  refine .object rfl ?_
  intro member hmember
  simp only [List.mem_cons, List.not_mem_nil, or_false] at hmember ⊢
  obtain rfl | rfl | rfl := hmember
  · exact ⟨_, Or.inl rfl, Rebound.refl _⟩
  · exact ⟨_, Or.inr (Or.inl rfl), Rebound.refl _⟩
  · exact ⟨_, Or.inr (Or.inr rfl), Rebound.string (haliases column hcolumn)⟩

theorem bindPredicates_eq_ok {columns : List ColumnRef} {operands bound : List DecodedPredicate}
    (h : bindPredicates columns operands = .ok bound) :
    List.Forall₂ (fun bound operand => bindPredicate columns operand = .ok bound) bound operands := by
  induction operands generalizing bound with
  | nil =>
      obtain rfl := Except.ok.inj h
      exact .nil
  | cons operand rest ih =>
      unfold bindPredicates at h
      rw [bind_eq_ok_iff] at h
      obtain ⟨first, hfirst, h⟩ := h
      rw [bind_eq_ok_iff] at h
      obtain ⟨others, hothers, h⟩ := h
      obtain rfl := Except.ok.inj h
      exact .cons hfirst (ih hothers)

/-- What binding does to a predicate: it may be read back, and it is within the limits if it is
    short. -/
theorem rebound_predicate {columns : List ColumnRef}
    (haliases : ∀ column ∈ columns, validUtf8 column.sourceAlias = true)
    {predicate bound : DecodedPredicate} (h : bindPredicate columns predicate = .ok bound) :
    Rebound bound.json predicate.json ∧ (predicate.Readable → bound.Readable) := by
  -- a kind with operands
  have hboolean : ∀ (kind : Bytes) (operands others : List DecodedPredicate),
      (∀ operand ∈ operands, ∀ bound, bindPredicate columns operand = .ok bound →
        Rebound bound.json operand.json ∧ (operand.Readable → bound.Readable)) →
      bindPredicates columns operands = .ok others →
      Rebound (.object [("kind", .string kind),
          ("operands", .array (others.map DecodedPredicate.json))])
        (.object [("kind", .string kind),
          ("operands", .array (operands.map DecodedPredicate.json))]) ∧
      ((∀ operand ∈ operands, operand.Readable) → ∀ other ∈ others, other.Readable) := by
    intro kind operands others ih hbind
    have hforall := bindPredicates_eq_ok hbind
    have hsource : ∀ other ∈ others, ∃ operand ∈ operands,
        bindPredicate columns operand = .ok other := by
      intro other hother
      obtain ⟨index, hindex, rfl⟩ := List.getElem_of_mem hother
      have hlt : index < operands.length := hforall.length_eq ▸ hindex
      exact ⟨operands[index], List.getElem_mem hlt, hforall.get hindex hlt⟩
    refine ⟨.object rfl ?_, ?_⟩
    · intro member hmember
      simp only [List.mem_cons, List.not_mem_nil, or_false] at hmember
      obtain rfl | rfl := hmember
      · exact ⟨_, List.mem_cons_self, Rebound.refl _⟩
      · refine ⟨_, List.mem_cons_of_mem _ List.mem_cons_self, .array ?_⟩
        intro item hitem
        obtain ⟨other, hother, rfl⟩ := List.mem_map.1 hitem
        obtain ⟨operand, hoperand, hboth⟩ := hsource other hother
        exact ⟨_, List.mem_map_of_mem hoperand, (ih operand hoperand other hboth).1⟩
    · intro hreadable other hother
      obtain ⟨operand, hoperand, hboth⟩ := hsource other hother
      exact (ih operand hoperand other hboth).2 (hreadable operand hoperand)
  -- a state of a column
  have hstate : ∀ (kind : Bytes) (reference column : IrColumnRef),
      bindReference columns reference = .ok column →
      Rebound (.object [("column", column.json), ("kind", .string kind)])
          (.object [("column", reference.json), ("kind", .string kind)]) ∧
        column.columnId = reference.columnId := by
    intro kind reference column hcolumn
    refine ⟨.object rfl ?_, ?_⟩
    · intro member hmember
      simp only [List.mem_cons, List.not_mem_nil, or_false] at hmember
      obtain rfl | rfl := hmember
      · exact ⟨_, List.mem_cons_self, rebound_column haliases hcolumn⟩
      · exact ⟨_, List.mem_cons_of_mem _ List.mem_cons_self, Rebound.refl _⟩
    · obtain ⟨source, -, rfl⟩ := bindReference_eq_ok hcolumn
      rfl
  induction predicate using DecodedPredicate.induct generalizing bound with
  | equalsPresent reference literalValue =>
      unfold bindPredicate at h
      rw [bind_eq_ok_iff] at h
      obtain ⟨column, hcolumn, h⟩ := h
      obtain rfl := Except.ok.inj h
      refine ⟨.object rfl ?_, ?_⟩
      · intro member hmember
        simp only [List.mem_cons, List.not_mem_nil, or_false] at hmember
        obtain rfl | rfl | rfl := hmember
        · exact ⟨_, List.mem_cons_self, rebound_column haliases hcolumn⟩
        · exact ⟨_, List.mem_cons_of_mem _ List.mem_cons_self, Rebound.refl _⟩
        · exact ⟨_, List.mem_cons_of_mem _ (List.mem_cons_of_mem _ List.mem_cons_self),
            Rebound.refl _⟩
      · intro hreadable
        obtain ⟨source, -, rfl⟩ := bindReference_eq_ok hcolumn
        cases hreadable with
        | equalsPresent hid hliteral => exact .equalsPresent hid hliteral
  | columnEqualsPresent leftReference rightReference =>
      unfold bindPredicate at h
      rw [bind_eq_ok_iff] at h
      obtain ⟨left, hleft, h⟩ := h
      rw [bind_eq_ok_iff] at h
      obtain ⟨right, hright, h⟩ := h
      obtain rfl := Except.ok.inj h
      refine ⟨.object rfl ?_, ?_⟩
      · intro member hmember
        simp only [List.mem_cons, List.not_mem_nil, or_false] at hmember
        obtain rfl | rfl | rfl := hmember
        · exact ⟨_, List.mem_cons_self, Rebound.refl _⟩
        · exact ⟨_, List.mem_cons_of_mem _ List.mem_cons_self, rebound_column haliases hleft⟩
        · exact ⟨_, List.mem_cons_of_mem _ (List.mem_cons_of_mem _ List.mem_cons_self),
            rebound_column haliases hright⟩
      · intro hreadable
        obtain ⟨leftSource, -, rfl⟩ := bindReference_eq_ok hleft
        obtain ⟨rightSource, -, rfl⟩ := bindReference_eq_ok hright
        cases hreadable with
        | columnEqualsPresent hleftId hrightId => exact .columnEqualsPresent hleftId hrightId
  | isPresent reference =>
      unfold bindPredicate at h
      rw [bind_eq_ok_iff] at h
      obtain ⟨column, hcolumn, h⟩ := h
      obtain rfl := Except.ok.inj h
      obtain ⟨hrebound, hid⟩ := hstate "is_present" reference column hcolumn
      refine ⟨hrebound, ?_⟩
      intro hreadable
      cases hreadable with
      | isPresent hreference => exact .isPresent (hid ▸ hreference)
  | isAbsent reference =>
      unfold bindPredicate at h
      rw [bind_eq_ok_iff] at h
      obtain ⟨column, hcolumn, h⟩ := h
      obtain rfl := Except.ok.inj h
      obtain ⟨hrebound, hid⟩ := hstate "is_absent" reference column hcolumn
      refine ⟨hrebound, ?_⟩
      intro hreadable
      cases hreadable with
      | isAbsent hreference => exact .isAbsent (hid ▸ hreference)
  | isUnknown reference =>
      unfold bindPredicate at h
      rw [bind_eq_ok_iff] at h
      obtain ⟨column, hcolumn, h⟩ := h
      obtain rfl := Except.ok.inj h
      obtain ⟨hrebound, hid⟩ := hstate "is_unknown" reference column hcolumn
      refine ⟨hrebound, ?_⟩
      intro hreadable
      cases hreadable with
      | isUnknown hreference => exact .isUnknown (hid ▸ hreference)
  | all operands ih =>
      unfold bindPredicate at h
      rw [bind_eq_ok_iff] at h
      obtain ⟨others, hothers, h⟩ := h
      obtain rfl := Except.ok.inj h
      obtain ⟨hrebound, hreadable⟩ := hboolean "and" operands others
        (fun operand hoperand _ hbound => ih operand hoperand hbound) hothers
      rw [json_all, json_all]
      refine ⟨hrebound, ?_⟩
      intro hall
      cases hall with
      | all hoperands => exact .all (hreadable hoperands)
  | any operands ih =>
      unfold bindPredicate at h
      rw [bind_eq_ok_iff] at h
      obtain ⟨others, hothers, h⟩ := h
      obtain rfl := Except.ok.inj h
      obtain ⟨hrebound, hreadable⟩ := hboolean "or" operands others
        (fun operand hoperand _ hbound => ih operand hoperand hbound) hothers
      rw [json_any, json_any]
      refine ⟨hrebound, ?_⟩
      intro hany
      cases hany with
      | any hoperands => exact .any (hreadable hoperands)

theorem boundPredicate_eq_ok {predicate : Expression} {columns : List ColumnRef} {operatorId : Bytes}
    {bound : DecodedPredicate} (h : boundPredicate predicate columns operatorId = .ok bound) :
    ∃ decoded, decodeArguments operatorId (predicateArgumentsText predicate.canonical) =
        .ok (.predicate decoded) ∧ bindPredicate columns decoded = .ok bound := by
  unfold boundPredicate at h
  rw [bind_eq_ok_iff] at h
  obtain ⟨arguments, harguments, h⟩ := h
  cases arguments with
  | predicate decoded => exact ⟨decoded, harguments, h⟩
  | _ => simp at h

/-- Arguments that are too long are refused before they are read. -/
theorem decodeArguments_of_long {operatorId arguments : Bytes} (h : 4194304 < arguments.length) :
    decodeArguments operatorId arguments ≠ .error minimumTwo := by
  have hlong : arguments.length > argumentsLimits.maxInputBytes.toNat := h
  have hfield : ascii "arguments" ≠ ascii "predicate.operands" := by decide
  unfold decodeArguments parseObject parseJsonValue
  rw [if_pos hlong, error_bind, error_bind]
  intro heq
  have herror := Except.error.inj heq
  exact hfield (congrArg Error.field herror)

/-- What is stored for a condition is refused for its shape where an `and` or `or` is of operands
    that are all alike, unless it is too long to be read. -/
theorem decodeArguments_bound {predicate : Expression} {columns : List ColumnRef}
    {operatorId : Bytes} {bound : DecodedPredicate}
    (haliases : ∀ column ∈ columns, validUtf8 column.sourceAlias = true)
    (h : boundPredicate predicate columns operatorId = .ok bound) :
    decodeArguments operatorId (predicateArgumentsText (predicateJson hash bound)) ≠
        .error minimumTwo ↔
      (bound.spread = true ∨
        4194304 < (predicateArgumentsText (predicateJson hash bound)).length) := by
  obtain ⟨decoded, hdecoded, hbind⟩ := boundPredicate_eq_ok h
  have htakes := takesPredicate_of_decoded hdecoded
  obtain ⟨hcarried, hreadable⟩ := carried_of_decoded hdecoded
  obtain ⟨hrebound, hreads⟩ := rebound_predicate haliases hbind
  by_cases hlong : 4194304 < (predicateArgumentsText (predicateJson hash bound)).length
  · exact iff_of_true (decodeArguments_of_long hlong) (Or.inr hlong)
  · have hlength : (predicateArgumentsText (bound.canonical hash).text).length ≤ 4194304 := by
      rw [← predicateJson_eq]
      omega
    unfold DecodedPredicate.text at hlength
    rw [predicateArgumentsText_canonicalJson, length_argumentsJson] at hlength
    have hshrinks := shrinks_canonical hash bound
    have hwellFormed := hrebound.wellFormed hcarried.wellFormed
    have hheight := hrebound.height.trans (Nat.le_of_succ_le_succ hcarried.height)
    have hsettled : bound.Settled hash := by
      refine ⟨hwellFormed, by omega, hreads hreadable, ?_⟩
      unfold DecodedPredicate.text
      omega
    have hcanonical : Carried (bound.canonical hash).json := by
      have hlower := hshrinks.height
      exact ⟨hshrinks.wellFormed hwellFormed, by omega, hlength⟩
    rw [decodeArguments_printed htakes hcanonical hsettled]
    by_cases hspread : bound.spread = true
    · rw [if_pos hspread]
      exact iff_of_true (by simp) (Or.inl hspread)
    · rw [if_neg hspread]
      refine iff_of_false (by simp) ?_
      intro hcases
      exact hcases.elim hspread hlong

/-! ## The claim of closure -/

/-- What is printed is accepted again, as a predicate that holds of the same rows and is printed as
    the same text. -/
def ReadAgain (hash : Bytes → Bytes) (operatorId : Bytes) (predicate : DecodedPredicate) : Prop :=
  ∃ again, decodeArguments operatorId (predicateArgumentsText (predicateJson hash predicate)) =
      .ok (.predicate again) ∧
    (∀ row columnTypes, evaluatePredicate row columnTypes again =
      evaluatePredicate row columnTypes predicate) ∧
    predicateJson hash again = predicateJson hash predicate

theorem readAgain_iff_spread {operatorId arguments : Bytes} {predicate : DecodedPredicate}
    (h : decodeArguments operatorId arguments = .ok (.predicate predicate)) :
    ReadAgain hash operatorId predicate ↔ predicate.spread = true := by
  obtain ⟨hcarried, hreadable⟩ := carried_of_decoded h
  have hsettled : predicate.Settled hash := hcarried.settled hreadable
  have hcanonical : Carried (predicate.canonical hash).json := hcarried.canonical
  have hprinted := decodeArguments_printed (takesPredicate_of_decoded h) hcanonical hsettled
  unfold ReadAgain
  rw [hprinted]
  constructor
  · intro hagain
    obtain ⟨again, haccepted, -⟩ := hagain
    by_contra hspread
    rw [if_neg hspread] at haccepted
    simp at haccepted
  · intro hspread
    rw [if_pos hspread]
    exact ⟨_, rfl, evaluatePredicate_canonical hsettled, predicateJson_canonical hsettled⟩

end Hash

/-- Printing is closed, and keeps the meaning, exactly on the predicates whose `and`s and `or`s all
    have two operands that are not alike; and what is stored for a condition is refused for its shape
    exactly where that fails of the bound predicate. -/
theorem readAgain_iff (hash : Bytes → Bytes) :
    (∀ operatorId arguments predicate,
      decodeArguments operatorId arguments = .ok (.predicate predicate) →
        (ReadAgain hash operatorId predicate ↔ predicate.spread = true)) ∧
    ∀ (predicate : Expression) (columns : List ColumnRef) (operatorId : Bytes)
      (bound : DecodedPredicate), (∀ column ∈ columns, validUtf8 column.sourceAlias = true) →
      boundPredicate predicate columns operatorId = .ok bound →
        (decodeArguments operatorId (predicateArgumentsText (predicateJson hash bound)) ≠
            .error minimumTwo ↔
          (bound.spread = true ∨
            4194304 < (predicateArgumentsText (predicateJson hash bound)).length)) :=
  ⟨fun _ _ _ h => readAgain_iff_spread h,
    fun _ _ _ _ haliases hbound => decodeArguments_bound haliases hbound⟩

/-! ## Operands that are alike -/

/-- A column of any scan. -/
def anyColumn (columnId : Bytes) : IrColumnRef :=
  { columnId := columnId, availability := .require, sourceAlias := [] }

/-- A column of the scan `t`. -/
def scannedColumn (columnId : Bytes) : ColumnRef :=
  { descriptorId := "r", columnId := columnId, type := { scalar := .boolean }, sourceAlias := "t" }

/-- `c` is present or `d` is. -/
def eitherPresent (c d : Bytes) : DecodedPredicate :=
  .any [.isPresent (anyColumn c), .isPresent (anyColumn d)]

theorem wellFormed_column {column : IrColumnRef} (hid : validUtf8 column.columnId = true)
    (halias : validUtf8 column.sourceAlias = true) : WellFormed column.json := by
  have hnames : validUtf8 (ascii "availability") = true ∧ validUtf8 (ascii "column_id") = true ∧
      validUtf8 (ascii "source_alias") = true := by
    refine ⟨?_, ?_, ?_⟩ <;> exact validUtf8_literal (by simp)
  have havailability : validUtf8 column.availability.name = true := by
    cases column.availability with
    | require => exact validUtf8_literal (by simp)
    | absentIfSchemaMissing => exact validUtf8_literal (by simp)
  refine .object (show List.Pairwise (· < ·) [ascii "availability", ascii "column_id",
    ascii "source_alias"] by decide) ?_ ?_
  · simpa using hnames
  · simpa using ⟨WellFormed.string havailability, WellFormed.string hid, WellFormed.string halias⟩

theorem wellFormed_eitherPresent {c d : Bytes} (hc : validUtf8 c = true) (hd : validUtf8 d = true) :
    WellFormed (eitherPresent c d).json := by
  have hnames : validUtf8 (ascii "column") = true ∧ validUtf8 (ascii "kind") = true ∧
      validUtf8 (ascii "operands") = true ∧ validUtf8 (ascii "is_present") = true ∧
      validUtf8 (ascii "or") = true := by
    refine ⟨?_, ?_, ?_, ?_, ?_⟩ <;> exact validUtf8_literal (by simp)
  obtain ⟨hcolumn, hkind, hoperands, hpresent, hor⟩ := hnames
  have hatom : ∀ columnId, validUtf8 columnId = true →
      WellFormed (DecodedPredicate.isPresent (anyColumn columnId)).json := by
    intro columnId hid
    refine .object (show List.Pairwise (· < ·) [ascii "column", ascii "kind"] by decide) ?_ ?_
    · simpa using ⟨hcolumn, hkind⟩
    · have hreference : WellFormed (anyColumn columnId).json := wellFormed_column hid rfl
      simpa using ⟨hreference, WellFormed.string hpresent⟩
  unfold eitherPresent
  rw [json_any]
  refine .object (show List.Pairwise (· < ·) [ascii "kind", ascii "operands"] by decide) ?_ ?_
  · simpa using ⟨hkind, hoperands⟩
  · have hitems : WellFormed (.array ([DecodedPredicate.isPresent (anyColumn c),
        .isPresent (anyColumn d)].map DecodedPredicate.json)) := by
      refine .array ?_
      simpa using ⟨hatom c hc, hatom d hd⟩
    simpa using ⟨WellFormed.string hor, hitems⟩

theorem carried_eitherPresent : Carried (eitherPresent "c" "d").json ∧
    Carried (eitherPresent "c" "c").json :=
  ⟨⟨wellFormed_eitherPresent (validUtf8_literal (by simp)) (validUtf8_literal (by simp)),
      by decide, by decide_cbv⟩,
    ⟨wellFormed_eitherPresent (validUtf8_literal (by simp)) (validUtf8_literal (by simp)),
      by decide, by decide_cbv⟩⟩

theorem readable_eitherPresent {c d : Bytes} (hc : c ≠ []) (hd : d ≠ []) :
    (eitherPresent c d).Readable := by
  have hatom : ∀ {columnId : Bytes}, columnId ≠ [] →
      (DecodedPredicate.isPresent (anyColumn columnId)).Readable := by
    intro columnId hid
    exact .isPresent hid
  refine .any ?_
  simpa using ⟨hatom hc, hatom hd⟩

/-- A disjunction of one predicate with itself is accepted, and printed as a text that is not. -/
theorem repeatedOperand_not_readAgain :
    ¬ ∀ (hash : Bytes → Bytes) (operatorId arguments : Bytes) (predicate : DecodedPredicate),
      decodeArguments operatorId arguments = .ok (.predicate predicate) →
        ReadAgain hash operatorId predicate := by
  intro hclaim
  have haccepted : decodeArguments "query.filter.v1"
      (predicateArgumentsText (eitherPresent "c" "c").text) =
        .ok (.predicate (eitherPresent "c" "c")) :=
    decodeArguments_text (by decide) carried_eitherPresent.2
      (readable_eitherPresent (by decide) (by decide))
  have hagain := hclaim id "query.filter.v1" _ _ haccepted
  rw [readAgain_iff_spread haccepted] at hagain
  exact absurd hagain (by decide)

/-- A disjunction of two predicates is printed as a text that is accepted, as it is and as what is
    stored for a condition. -/
theorem readAgain_iff_eitherPresent :
    ReadAgain id "query.filter.v1" (eitherPresent "c" "d") ∧
      decodeArguments "query.filter.v1" (predicateArgumentsText (predicateJson id
        (.any [.isPresent { columnId := "c", availability := .require, sourceAlias := "t" },
          .isPresent { columnId := "d", availability := .require, sourceAlias := "t" }]))) ≠
            .error minimumTwo := by
  have haccepted : decodeArguments "query.filter.v1"
      (predicateArgumentsText (eitherPresent "c" "d").text) =
        .ok (.predicate (eitherPresent "c" "d")) :=
    decodeArguments_text (by decide) carried_eitherPresent.1
      (readable_eitherPresent (by decide) (by decide))
  have hvalid : ∀ column ∈ [scannedColumn "c", scannedColumn "d"],
      validUtf8 column.sourceAlias = true := by
    have halias : validUtf8 (ascii "t") = true := validUtf8_literal (by simp)
    simpa using ⟨halias, halias⟩
  refine ⟨((readAgain_iff id).1 _ _ _ haccepted).2 (by decide),
    ((readAgain_iff id).2 ⟨(eitherPresent "c" "d").text, []⟩ _ "query.filter.v1" _ hvalid ?_).2
      (Or.inl (by decide))⟩
  unfold boundPredicate
  rw [haccepted]
  rfl

end Cxxlens.Sdk.Query
