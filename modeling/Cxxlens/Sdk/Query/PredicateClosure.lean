import Cxxlens.Sdk.Json.Delimited
import Cxxlens.Sdk.Query.PredicateJson

set_option autoImplicit false

/-! # Canonical predicates

`predicate_json` prints the JSON value of a predicate whose operands are sorted and each there once.
Where the operands of an `and` or `or` are all one predicate, up to the order and the repetition of
operands, only one is left of them, and the decoder refuses what was printed. -/

namespace Cxxlens.Sdk.Query

open Json Sorting Collections Fallible

/-! ## The canonical predicate -/

/-- The text of the JSON value. -/
def DecodedPredicate.text (predicate : DecodedPredicate) : Bytes :=
  canonicalJson predicate.json

section Hash

variable (hash : Bytes → Bytes)

/-- Operands as `predicate_json` prints them, sorted by their texts. -/
def sortOperands (operands : List DecodedPredicate) : List DecodedPredicate :=
  sortUnique (fun left right => operandLess hash left.text right.text)
    (fun left right => left.text == right.text) operands

mutual

/-- The predicate with its operands sorted, each there once, at every level. -/
def DecodedPredicate.canonical : DecodedPredicate → DecodedPredicate
  | .all operands => .all (sortOperands hash (canonicalPredicates operands))
  | .any operands => .any (sortOperands hash (canonicalPredicates operands))
  | predicate => predicate

def canonicalPredicates : List DecodedPredicate → List DecodedPredicate
  | [] => []
  | operand :: rest => operand.canonical :: canonicalPredicates rest

end

theorem canonicalPredicates_eq (operands : List DecodedPredicate) :
    canonicalPredicates hash operands = operands.map (DecodedPredicate.canonical hash) := by
  induction operands with
  | nil => rfl
  | cons operand rest ih => rw [canonicalPredicates, ih, List.map_cons]

/-! ## What is printed -/

theorem columnJson_eq (column : IrColumnRef) : columnJson column = canonicalJson column.json := by
  have hfirst : canonicalJsonString (ascii "availability") = ascii "\"availability\"" :=
    canonicalJsonString_literal (by decide) (by simp)
  have hsecond : canonicalJsonString (ascii "column_id") = ascii "\"column_id\"" :=
    canonicalJsonString_literal (by decide) (by simp)
  have hthird : canonicalJsonString (ascii "source_alias") = ascii "\"source_alias\"" :=
    canonicalJsonString_literal (by decide) (by simp)
  unfold columnJson IrColumnRef.json
  simp only [canonicalJson, canonicalMembers, hfirst, hsecond, hthird, List.append_assoc,
    List.cons_append]
  rfl

/-- Hexadecimal digits stand for themselves in a string. -/
theorem canonicalJsonString_hex (bytes : Bytes) :
    canonicalJsonString (hex bytes) = ascii "\"" ++ hex bytes ++ ascii "\"" := by
  have hdigit : ∀ digit : Fin 16, escapeByte (hexDigit digit) = [hexDigit digit] ∧
      (hexDigit digit).toNat < 0x80 := by decide
  have hboth : (hex bytes).flatMap escapeByte = hex bytes ∧
      ∀ byte ∈ hex bytes, byte.toNat < 0x80 := by
    induction bytes with
    | nil => exact ⟨rfl, by simp [hex]⟩
    | cons byte rest ih =>
        have hlt := byte.toNat_lt
        have hhigh := hdigit ⟨byte.toNat / 16, by omega⟩
        have hlow := hdigit ⟨byte.toNat % 16, Nat.mod_lt _ (by decide)⟩
        have hcons : hex (byte :: rest) =
          hexDigit (byte.toNat / 16) :: hexDigit (byte.toNat % 16) :: hex rest := rfl
        rw [hcons, List.forall_mem_cons, List.forall_mem_cons]
        refine ⟨?_, hhigh.2, hlow.2, ih.2⟩
        rw [List.flatMap_cons, List.flatMap_cons, hhigh.1, hlow.1, ih.1]
        rfl
  unfold canonicalJsonString canonicalJsonEscape
  rw [if_neg (by simp [validUtf8_of_ascii hboth.2]), hboth.1]

theorem scalarJson_eq (value : ScalarValue) :
    scalarJson value = canonicalJson (scalarValueJson value) := by
  cases value with
  | boolean value => rfl
  | signedInteger value =>
      unfold scalarValueJson
      rw [canonicalJson_normal]
      rfl
  | unsignedInteger value => rfl
  | string value => rfl
  | bytes value => exact (canonicalJsonString_hex value).symm

theorem map_text_sortOperands (operands : List DecodedPredicate) :
    (sortOperands hash operands).map DecodedPredicate.text =
      canonicalOperands hash (operands.map DecodedPredicate.text) :=
  map_sortUnique DecodedPredicate.text (fun _ _ => rfl) (fun _ _ => rfl) operands

/-- A text of a kind and operands. -/
theorem booleanJson_eq (kind : Bytes) (operands : List DecodedPredicate) :
    booleanJson hash kind (operands.map DecodedPredicate.text) =
      canonicalJson (.object [("kind", .string kind),
        ("operands", .array (operandsJson (sortOperands hash operands)))]) := by
  have hfirst : canonicalJsonString (ascii "kind") = ascii "\"kind\"" :=
    canonicalJsonString_literal (by decide) (by simp)
  have hsecond : canonicalJsonString (ascii "operands") = ascii "\"operands\"" :=
    canonicalJsonString_literal (by decide) (by simp)
  have hitems : canonicalItems (operandsJson (sortOperands hash operands)) =
      List.intercalate [0x2c] (canonicalOperands hash (operands.map DecodedPredicate.text)) := by
    rw [canonicalItems_eq, operandsJson_eq, List.map_map, ← map_text_sortOperands]
    rfl
  unfold booleanJson
  simp only [canonicalJson, canonicalMembers, hfirst, hsecond, hitems, List.append_assoc,
    List.cons_append]
  rfl

theorem stateJson_eq (kind : Bytes) (column : IrColumnRef) :
    stateJson kind column =
      canonicalJson (.object [("column", column.json), ("kind", .string kind)]) := by
  have hfirst : canonicalJsonString (ascii "column") = ascii "\"column\"" :=
    canonicalJsonString_literal (by decide) (by simp)
  have hsecond : canonicalJsonString (ascii "kind") = ascii "\"kind\"" :=
    canonicalJsonString_literal (by decide) (by simp)
  unfold stateJson
  rw [columnJson_eq]
  rw [canonicalJson, canonicalMembers, canonicalMembers, hfirst, hsecond]
  simp only [List.append_assoc, List.cons_append]
  rfl

/-- **What is printed is the text of the canonical predicate.** -/
theorem predicateJson_eq (predicate : DecodedPredicate) :
    predicateJson hash predicate = (predicate.canonical hash).text := by
  have hcolumn : canonicalJsonString (ascii "column") = ascii "\"column\"" :=
    canonicalJsonString_literal (by decide) (by simp)
  have hkind : canonicalJsonString (ascii "kind") = ascii "\"kind\"" :=
    canonicalJsonString_literal (by decide) (by simp)
  have hleft : canonicalJsonString (ascii "left") = ascii "\"left\"" :=
    canonicalJsonString_literal (by decide) (by simp)
  have hright : canonicalJsonString (ascii "right") = ascii "\"right\"" :=
    canonicalJsonString_literal (by decide) (by simp)
  have hliteral : canonicalJsonString (ascii "literal") = ascii "\"literal\"" :=
    canonicalJsonString_literal (by decide) (by simp)
  have htype : canonicalJsonString (ascii "type") = ascii "\"type\"" :=
    canonicalJsonString_literal (by decide) (by simp)
  have hvalue : canonicalJsonString (ascii "value") = ascii "\"value\"" :=
    canonicalJsonString_literal (by decide) (by simp)
  have hequals : canonicalJsonString (ascii "equals_present") = ascii "\"equals_present\"" :=
    canonicalJsonString_literal (by decide) (by simp)
  have hcolumns : canonicalJsonString (ascii "column_equals_present") =
      ascii "\"column_equals_present\"" := canonicalJsonString_literal (by decide) (by simp)
  induction predicate using DecodedPredicate.induct with
  | equalsPresent column literalValue =>
      unfold predicateJson DecodedPredicate.canonical DecodedPredicate.text DecodedPredicate.json
        IrLiteral.json
      rw [columnJson_eq, scalarJson_eq]
      simp only [canonicalJson, canonicalMembers, hcolumn, hkind, hliteral, htype, hvalue, hequals,
        List.append_assoc, List.cons_append]
      rfl
  | columnEqualsPresent left right =>
      unfold predicateJson DecodedPredicate.canonical DecodedPredicate.text DecodedPredicate.json
      rw [columnJson_eq, columnJson_eq]
      simp only [canonicalJson, canonicalMembers, hkind, hleft, hright, hcolumns,
        List.append_assoc, List.cons_append]
      rfl
  | isPresent column => exact stateJson_eq "is_present" column
  | isAbsent column => exact stateJson_eq "is_absent" column
  | isUnknown column => exact stateJson_eq "is_unknown" column
  | all operands ih | any operands ih =>
      have htexts : operands.map (predicateJson hash) =
          (operands.map (DecodedPredicate.canonical hash)).map DecodedPredicate.text := by
        rw [List.map_map]
        exact List.map_congr_left ih
      unfold predicateJson DecodedPredicate.canonical
      rw [operandTexts_eq, htexts, booleanJson_eq, canonicalPredicates_eq]
      rfl

/-! ## Texts tell predicates apart -/

/-- A predicate whose JSON value is within the limits of arguments. -/
structure DecodedPredicate.Fits (predicate : DecodedPredicate) : Prop where
  wellFormed : WellFormed predicate.json
  height : predicate.json.height ≤ 64
  length : predicate.text.length ≤ 4194304

omit hash in
theorem argumentsLimits_allow : argumentsLimits.Allow 4194304 :=
  ⟨le_rfl, le_rfl, le_rfl⟩

omit hash in
/-- The text of a value within the limits is parsed as that value. -/
theorem parse_of_short {value : JsonValue} (hvalue : WellFormed value) (hheight : value.height ≤ 64)
    (hlength : (canonicalJson value).length ≤ 4194304) :
    parseJsonValue (canonicalJson value) argumentsLimits argumentsContract = .ok value.normal := by
  have hmaximum : maximumArgumentsBytes.toNat = 4194304 := rfl
  have hcounts := hvalue.counts_le
  refine hvalue.parse ⟨⟨?_, ?_, ?_⟩, ?_, ?_⟩
  · refine hvalue.within argumentsLimits_allow hlength ?_
    rw [Nat.zero_add]
    exact hheight
  · show value.valueCount ≤ maximumArgumentsBytes.toNat
    rw [hmaximum]
    exact hcounts.1.trans hlength
  · show value.stringBytes ≤ maximumArgumentsBytes.toNat
    rw [hmaximum]
    exact hcounts.2.trans hlength
  · exact hlength
  · intro hrequired
    exact absurd hrequired Bool.false_ne_true

omit hash in
theorem json_eq_of_text {left right : DecodedPredicate} (hleft : left.Fits) (hright : right.Fits)
    (h : left.text = right.text) : left.json = right.json := by
  have hl := parse_of_short hleft.wellFormed hleft.height hleft.length
  have hr := parse_of_short hright.wellFormed hright.height hright.length
  have htext : canonicalJson left.json = canonicalJson right.json := h
  rw [htext, hr] at hl
  have hnormal := Except.ok.inj hl
  rw [normal_json, normal_json] at hnormal
  exact hnormal.symm

omit hash in
/-- The name of the kind in the JSON value. -/
def DecodedPredicate.kindName : DecodedPredicate → Bytes
  | .equalsPresent _ _ => "equals_present"
  | .columnEqualsPresent _ _ => "column_equals_present"
  | .isPresent _ => "is_present"
  | .isAbsent _ => "is_absent"
  | .isUnknown _ => "is_unknown"
  | .all _ => "and"
  | .any _ => "or"

omit hash in
theorem required_kind (predicate : DecodedPredicate) :
    (asObject [] predicate.json >>= fun object => required object (ascii "kind")) =
      .ok (.string predicate.kindName) := by
  cases predicate <;> rfl

omit hash in
/-- A predicate by its kind: it is an `and`, an `or`, or an atom. -/
theorem kindName_cases (predicate : DecodedPredicate) :
    (∃ operands, predicate = .all operands) ∨ (∃ operands, predicate = .any operands) ∨
      (predicate.kindName ≠ ascii "and" ∧ predicate.kindName ≠ ascii "or" ∧
        predicate.wide = true) := by
  have hequals : ascii "equals_present" ≠ ascii "and" ∧ ascii "equals_present" ≠ ascii "or" := by
    decide
  have hcolumns : ascii "column_equals_present" ≠ ascii "and" ∧
      ascii "column_equals_present" ≠ ascii "or" := by decide
  have hpresent : ascii "is_present" ≠ ascii "and" ∧ ascii "is_present" ≠ ascii "or" := by decide
  have habsent : ascii "is_absent" ≠ ascii "and" ∧ ascii "is_absent" ≠ ascii "or" := by decide
  have hunknown : ascii "is_unknown" ≠ ascii "and" ∧ ascii "is_unknown" ≠ ascii "or" := by decide
  cases predicate with
  | all operands => exact Or.inl ⟨operands, rfl⟩
  | any operands => exact Or.inr (Or.inl ⟨operands, rfl⟩)
  | equalsPresent column literalValue => exact Or.inr (Or.inr ⟨hequals.1, hequals.2, rfl⟩)
  | columnEqualsPresent left right => exact Or.inr (Or.inr ⟨hcolumns.1, hcolumns.2, rfl⟩)
  | isPresent column => exact Or.inr (Or.inr ⟨hpresent.1, hpresent.2, rfl⟩)
  | isAbsent column => exact Or.inr (Or.inr ⟨habsent.1, habsent.2, rfl⟩)
  | isUnknown column => exact Or.inr (Or.inr ⟨hunknown.1, hunknown.2, rfl⟩)

omit hash in
theorem kindName_eq_of_json {left right : DecodedPredicate} (h : left.json = right.json) :
    left.kindName = right.kindName := by
  have hleft := required_kind left
  rw [h, required_kind] at hleft
  exact (JsonValue.string.inj (Except.ok.inj hleft)).symm

omit hash in
/-- An atom is what is read from its JSON value. -/
theorem eq_of_json_atom {left right : DecodedPredicate} (hall : ∀ operands, left ≠ .all operands)
    (hany : ∀ operands, left ≠ .any operands) (hleft : left.Readable) (hright : right.Readable)
    (h : left.json = right.json) : left = right := by
  have hname := kindName_eq_of_json h
  obtain ⟨operands, heq⟩ | ⟨operands, heq⟩ | ⟨hand, hor, hleftWide⟩ := kindName_cases left
  · exact absurd heq (hall operands)
  · exact absurd heq (hany operands)
  · have hrightWide : right.wide = true := by
      obtain ⟨others, rfl⟩ | ⟨others, rfl⟩ | ⟨-, -, hwide⟩ := kindName_cases right
      · exact absurd hname hand
      · exact absurd hname hor
      · exact hwide
    have hl := predicate_json hleft
    have hr := predicate_json hright
    rw [if_pos hleftWide] at hl
    rw [if_pos hrightWide, ← h, hl] at hr
    exact Except.ok.inj hr

omit hash in
theorem operands_eq_of_json {left right : List DecodedPredicate}
    (ih : ∀ operand ∈ left, ∀ other : DecodedPredicate, operand.Readable → other.Readable →
      operand.json = other.json → operand = other)
    (hleft : ∀ operand ∈ left, operand.Readable) (hright : ∀ operand ∈ right, operand.Readable)
    (h : operandsJson left = operandsJson right) : left = right := by
  induction left generalizing right with
  | nil =>
      cases right with
      | nil => rfl
      | cons other rest => simp [operandsJson] at h
  | cons operand rest ihrest =>
      cases right with
      | nil => simp [operandsJson] at h
      | cons other others =>
          rw [List.forall_mem_cons] at ih hleft hright
          simp only [operandsJson, List.cons.injEq] at h
          rw [ih.1 other hleft.1 hright.1 h.1, ihrest ih.2 hleft.2 hright.2 h.2]

omit hash in
/-- Readable predicates with one JSON value are equal. -/
theorem eq_of_json (left : DecodedPredicate) : ∀ right : DecodedPredicate, left.Readable →
    right.Readable → left.json = right.json → left = right := by
  have hnotAnd : ascii "or" ≠ ascii "and" := by decide
  induction left using DecodedPredicate.induct with
  | all operands ih =>
      intro right hleft hright h
      have hname : ascii "and" = right.kindName := kindName_eq_of_json h
      obtain ⟨others, rfl⟩ | ⟨others, rfl⟩ | ⟨hother, -, -⟩ := kindName_cases right
      · cases hleft with
        | all hleft =>
            cases hright with
            | all hright =>
                simp only [DecodedPredicate.json, JsonValue.object.injEq, List.cons.injEq,
                  Prod.mk.injEq, JsonValue.array.injEq, true_and, and_true] at h
                rw [operands_eq_of_json ih hleft hright h]
      · exact absurd hname.symm hnotAnd
      · exact absurd hname.symm hother
  | any operands ih =>
      intro right hleft hright h
      have hname : ascii "or" = right.kindName := kindName_eq_of_json h
      obtain ⟨others, rfl⟩ | ⟨others, rfl⟩ | ⟨-, hother, -⟩ := kindName_cases right
      · exact absurd hname hnotAnd
      · cases hleft with
        | any hleft =>
            cases hright with
            | any hright =>
                simp only [DecodedPredicate.json, JsonValue.object.injEq, List.cons.injEq,
                  Prod.mk.injEq, JsonValue.array.injEq, true_and, and_true] at h
                rw [operands_eq_of_json ih hleft hright h]
      · exact absurd hname.symm hother
  | equalsPresent | columnEqualsPresent | isPresent | isAbsent | isUnknown =>
      intro right hleft hright h
      exact eq_of_json_atom (by simp) (by simp) hleft hright h

omit hash in
/-- Predicates with one text are equal. -/
theorem eq_of_text {left right : DecodedPredicate} (hleft : left.Fits) (hright : right.Fits)
    (hleftReadable : left.Readable) (hrightReadable : right.Readable)
    (h : left.text = right.text) : left = right :=
  eq_of_json left right hleftReadable hrightReadable (json_eq_of_text hleft hright h)

/-! ## The canonical predicate fits -/

omit hash in
theorem json_all (operands : List DecodedPredicate) :
    (DecodedPredicate.all operands).json = .object [("kind", .string "and"),
      ("operands", .array (operands.map DecodedPredicate.json))] := by
  rw [DecodedPredicate.json, operandsJson_eq]

omit hash in
theorem json_any (operands : List DecodedPredicate) :
    (DecodedPredicate.any operands).json = .object [("kind", .string "or"),
      ("operands", .array (operands.map DecodedPredicate.json))] := by
  rw [DecodedPredicate.json, operandsJson_eq]

/-- A JSON value that takes no more room than another. -/
structure Shrinks (smaller larger : JsonValue) : Prop where
  wellFormed : WellFormed larger → WellFormed smaller
  height : smaller.height ≤ larger.height
  length : (canonicalJson smaller).length ≤ (canonicalJson larger).length

omit hash in
theorem Shrinks.refl (value : JsonValue) : Shrinks value value :=
  ⟨id, le_rfl, le_rfl⟩

omit hash in
/-- The length of an object of a kind and operands. -/
theorem length_boolean (kind : Bytes) (items : List JsonValue) :
    (canonicalJson (.object [("kind", .string kind), ("operands", .array items)])).length =
      (canonicalJsonString kind).length + (canonicalItems items).length + 23 := by
  have hkind : canonicalJsonString (ascii "kind") = ascii "\"kind\"" :=
    canonicalJsonString_literal (by decide) (by simp)
  have hoperands : canonicalJsonString (ascii "operands") = ascii "\"operands\"" :=
    canonicalJsonString_literal (by decide) (by simp)
  have hfirst : (canonicalJsonString (ascii "kind")).length = 6 := by rw [hkind]; decide
  have hsecond : (canonicalJsonString (ascii "operands")).length = 10 := by rw [hoperands]; decide
  simp only [canonicalJson, canonicalMembers, List.length_cons, List.length_append, hfirst, hsecond,
    List.length_nil]
  omega

omit hash in
theorem length_canonicalItems_eq (items : List JsonValue) :
    (canonicalItems items).length = (items.map fun item => (canonicalJson item).length + 1).sum - 1 := by
  cases items with
  | nil => rfl
  | cons item rest =>
      have hlength := length_canonicalItems item rest
      omega

/-- Sorting the operands, each of which shrinks, shrinks the whole. -/
theorem shrinks_sortOperands (kind : Bytes) {operands : List DecodedPredicate}
    (h : ∀ operand ∈ operands, Shrinks (operand.canonical hash).json operand.json) :
    Shrinks (.object [("kind", .string kind), ("operands", .array ((sortOperands hash
        (canonicalPredicates hash operands)).map DecodedPredicate.json))])
      (.object [("kind", .string kind),
        ("operands", .array (operands.map DecodedPredicate.json))]) := by
  rw [canonicalPredicates_eq]
  -- an operand that is printed is the canonical one of an operand
  have hmem : ∀ item ∈ (sortOperands hash (operands.map (DecodedPredicate.canonical hash))).map
      DecodedPredicate.json, ∃ operand ∈ operands, item = (operand.canonical hash).json := by
    intro item hitem
    obtain ⟨sorted, hsorted, rfl⟩ := List.mem_map.1 hitem
    have hcanonical := (mem_sortBy _ _ _).1 (mem_of_mem_unique hsorted)
    obtain ⟨operand, hoperand, rfl⟩ := List.mem_map.1 hcanonical
    exact ⟨operand, hoperand, rfl⟩
  refine ⟨?_, ?_, ?_⟩
  · intro hwhole
    cases hwhole with
    | object hordered hnames hvalues =>
        simp only [List.forall_mem_cons] at hnames hvalues
        obtain ⟨hkindName, hoperandsName, -⟩ := hnames
        obtain ⟨hkind, harray, -⟩ := hvalues
        refine .object hordered ?_ ?_
        · simpa only [List.forall_mem_cons] using ⟨hkindName, hoperandsName, by simp⟩
        · refine List.forall_mem_cons.2 ⟨hkind, List.forall_mem_cons.2 ⟨?_, by simp⟩⟩
          cases harray with
          | array hitems =>
              refine .array ?_
              intro item hitem
              obtain ⟨operand, hoperand, rfl⟩ := hmem item hitem
              exact (h operand hoperand).wellFormed (hitems _ (List.mem_map_of_mem hoperand))
  · have harray : itemsHeight ((sortOperands hash
        (operands.map (DecodedPredicate.canonical hash))).map DecodedPredicate.json) ≤
        itemsHeight (operands.map DecodedPredicate.json) := by
      rw [itemsHeight_le_iff]
      intro item hitem
      obtain ⟨operand, hoperand, rfl⟩ := hmem item hitem
      have hlarger : operand.json.height + 1 ≤ itemsHeight (operands.map DecodedPredicate.json) :=
        height_item_le (List.mem_map_of_mem hoperand)
      exact (Nat.succ_le_succ (h operand hoperand).height).trans hlarger
    simp only [JsonValue.height, membersHeight]
    omega
  · rw [length_boolean, length_boolean, length_canonicalItems_eq, length_canonicalItems_eq]
    have hsum : (((sortOperands hash (operands.map (DecodedPredicate.canonical hash))).map
        DecodedPredicate.json).map fun item => (canonicalJson item).length + 1).sum ≤
        ((operands.map DecodedPredicate.json).map fun item =>
          (canonicalJson item).length + 1).sum := by
      rw [List.map_map, List.map_map]
      refine le_trans (sum_sortUnique_le _ _) ?_
      rw [List.map_map]
      exact List.sum_le_sum fun operand hoperand => Nat.succ_le_succ (h operand hoperand).length
    omega

theorem shrinks_canonical (predicate : DecodedPredicate) :
    Shrinks (predicate.canonical hash).json predicate.json := by
  induction predicate using DecodedPredicate.induct with
  | all operands ih =>
      rw [DecodedPredicate.canonical, json_all, json_all]
      exact shrinks_sortOperands hash "and" ih
  | any operands ih =>
      rw [DecodedPredicate.canonical, json_any, json_any]
      exact shrinks_sortOperands hash "or" ih
  | equalsPresent | columnEqualsPresent | isPresent | isAbsent | isUnknown => exact Shrinks.refl _

variable {hash}

theorem DecodedPredicate.Fits.canonical {predicate : DecodedPredicate} (h : predicate.Fits) :
    (predicate.canonical hash).Fits := by
  have hshrinks := shrinks_canonical hash predicate
  exact ⟨hshrinks.wellFormed h.wellFormed, hshrinks.height.trans h.height,
    hshrinks.length.trans h.length⟩

omit hash in
theorem mem_sortOperands {operands : List DecodedPredicate} {operand : DecodedPredicate}
    {hash : Bytes → Bytes} (h : operand ∈ sortOperands hash operands) : operand ∈ operands :=
  (mem_sortBy _ _ _).1 (mem_of_mem_unique h)

theorem DecodedPredicate.Readable.canonical {predicate : DecodedPredicate}
    (h : predicate.Readable) : (predicate.canonical hash).Readable := by
  induction predicate using DecodedPredicate.induct with
  | all operands ih =>
      cases h with
      | all hoperands =>
          refine .all fun operand hoperand => ?_
          rw [canonicalPredicates_eq] at hoperand
          obtain ⟨source, hsource, rfl⟩ := List.mem_map.1 (mem_sortOperands hoperand)
          exact ih source hsource (hoperands source hsource)
  | any operands ih =>
      cases h with
      | any hoperands =>
          refine .any fun operand hoperand => ?_
          rw [canonicalPredicates_eq] at hoperand
          obtain ⟨source, hsource, rfl⟩ := List.mem_map.1 (mem_sortOperands hoperand)
          exact ih source hsource (hoperands source hsource)
  | equalsPresent | columnEqualsPresent | isPresent | isAbsent | isUnknown => exact h

end Hash

end Cxxlens.Sdk.Query
