import Cxxlens.Sdk.Json.Measures
import Cxxlens.Sdk.Query.Predicates

set_option autoImplicit false

/-! # Predicates as JSON values

The JSON value of a predicate, without the canonical order of its operands. The decoder reads it back
as long as every `and` and `or` has two operands, and what the decoder accepted is the JSON value of
the predicate. -/

namespace Cxxlens.Sdk.Query

open Json Sorting Collections Fallible

/-! ## Objects with exact keys -/

/-- The members of an object whose keys are exactly `keys`, in their order. -/
theorem names_of_hasKeys {object : Members} {keys : List Bytes}
    (hordered : (object.map Prod.fst).Pairwise (· < ·)) (hkeys : keys.Pairwise (· < ·))
    (h : hasKeys object keys = true) : object.map Prod.fst = keys := by
  unfold hasKeys at h
  rw [Bool.and_eq_true, List.all_eq_true, List.all_eq_true] at h
  have hmem : ∀ name, name ∈ object.map Prod.fst ↔ name ∈ keys := by
    intro name
    constructor
    · intro hname
      obtain ⟨member, hmember, rfl⟩ := List.mem_map.1 hname
      simpa using h.2 member hmember
    · intro hname
      obtain ⟨member, hmember, heq⟩ := List.any_eq_true.1 (h.1 name hname)
      exact List.mem_map.2 ⟨member, hmember, by simpa using heq⟩
  have hnodup : ∀ {names : List Bytes}, names.Pairwise (· < ·) → names.Nodup :=
    fun hnames => hnames.imp fun hlt => ne_of_lt hlt
  have hperm := (List.perm_ext_iff_of_nodup (hnodup hordered) (hnodup hkeys)).2 hmem
  exact hperm.eq_of_pairwise (fun a b _ _ hab hba => absurd hab hba.not_gt) hordered hkeys

theorem exactKeys_eq_ok_iff {object : Members} {keys : List Bytes} {field : Bytes} :
    exactKeys object keys field = .ok () ↔ hasKeys object keys = true := by
  unfold exactKeys
  cases hasKeys object keys with
  | true => simp
  | false => simp

theorem orElse_eq_ok_iff {α : Type} {failure : Error} {step : Result α} {value : α} :
    orElse failure step = .ok value ↔ step = .ok value := by
  cases step with
  | error error => simp [orElse]
  | ok other => simp [orElse]

theorem asString_eq_ok_iff {field : Bytes} {value : JsonValue} {text : Bytes} :
    asString field value = .ok text ↔ value = .string text := by
  cases value with
  | string other => simp [asString]
  | _ => simp [asString]

theorem asObject_eq_ok_iff {field : Bytes} {value : JsonValue} {members : Members} :
    asObject field value = .ok members ↔ value = .object members := by
  cases value with
  | object other => simp [asObject]
  | _ => simp [asObject]

theorem asArray_eq_ok_iff {field : Bytes} {value : JsonValue} {items : List JsonValue} :
    asArray field value = .ok items ↔ value = .array items := by
  cases value with
  | array other => simp [asArray]
  | _ => simp [asArray]

theorem required_eq_ok_iff {object : Members} {name : Bytes} {value : JsonValue} :
    required object name = .ok value ↔ object.lookup name = some value := by
  unfold required
  cases object.lookup name with
  | none => simp
  | some other => simp

/-- Two members with given names. -/
theorem exists_two {object : Members} {first second : Bytes}
    (h : object.map Prod.fst = [first, second]) :
    ∃ a b, object = [(first, a), (second, b)] := by
  match object, h with
  | [(_, a), (_, b)], h =>
      simp only [List.map_cons, List.map_nil, List.cons.injEq, and_true] at h
      obtain ⟨rfl, rfl⟩ := h
      exact ⟨a, b, rfl⟩

/-- Three members with given names. -/
theorem exists_three {object : Members} {first second third : Bytes}
    (h : object.map Prod.fst = [first, second, third]) :
    ∃ a b c, object = [(first, a), (second, b), (third, c)] := by
  match object, h with
  | [(_, a), (_, b), (_, c)], h =>
      simp only [List.map_cons, List.map_nil, List.cons.injEq, and_true] at h
      obtain ⟨rfl, rfl, rfl⟩ := h
      exact ⟨a, b, c, rfl⟩

/-! ## The JSON value of a predicate -/

def IrColumnRef.json (column : IrColumnRef) : JsonValue :=
  .object [("availability", .string column.availability.name),
    ("column_id", .string column.columnId), ("source_alias", .string column.sourceAlias)]

/-- An integer that is not negative is read as an unsigned one, so it is one here. -/
def scalarValueJson : ScalarValue → JsonValue
  | .boolean value => .boolean value
  | .signedInteger value => (JsonValue.signedInteger value).normal
  | .unsignedInteger value => .unsignedInteger value
  | .string value => .string value
  | .bytes value => .string (hex value)

def IrLiteral.json (literal : IrLiteral) : JsonValue :=
  .object [("type", .string literal.type), ("value", scalarValueJson literal.value)]

mutual

def DecodedPredicate.json : DecodedPredicate → JsonValue
  | .equalsPresent column literalValue =>
    .object [("column", column.json), ("kind", .string "equals_present"),
      ("literal", literalValue.json)]
  | .columnEqualsPresent left right =>
    .object [("kind", .string "column_equals_present"), ("left", left.json),
      ("right", right.json)]
  | .isPresent column => .object [("column", column.json), ("kind", .string "is_present")]
  | .isAbsent column => .object [("column", column.json), ("kind", .string "is_absent")]
  | .isUnknown column => .object [("column", column.json), ("kind", .string "is_unknown")]
  | .all operands => .object [("kind", .string "and"), ("operands", .array (operandsJson operands))]
  | .any operands => .object [("kind", .string "or"), ("operands", .array (operandsJson operands))]

def operandsJson : List DecodedPredicate → List JsonValue
  | [] => []
  | operand :: rest => operand.json :: operandsJson rest

end

theorem operandsJson_eq (operands : List DecodedPredicate) :
    operandsJson operands = operands.map DecodedPredicate.json := by
  induction operands with
  | nil => rfl
  | cons operand rest ih => rw [operandsJson, ih, List.map_cons]

theorem normal_scalarValueJson (value : ScalarValue) :
    (scalarValueJson value).normal = scalarValueJson value := by
  cases value with
  | signedInteger value =>
      unfold scalarValueJson
      by_cases hnegative : value.toInt < 0
      · simp [JsonValue.normal, hnegative]
      · simp [JsonValue.normal, hnegative]
  | _ => rfl

theorem normal_columnJson (column : IrColumnRef) : column.json.normal = column.json := rfl

theorem normal_literalJson (literal : IrLiteral) : literal.json.normal = literal.json := by
  unfold IrLiteral.json
  simp only [JsonValue.normal, normalMembers, normal_scalarValueJson]

theorem normal_json (predicate : DecodedPredicate) : predicate.json.normal = predicate.json := by
  induction predicate using DecodedPredicate.induct with
  | equalsPresent column literalValue =>
      simp only [DecodedPredicate.json, JsonValue.normal, normalMembers, normal_columnJson,
        normal_literalJson]
  | columnEqualsPresent left right => rfl
  | isPresent column => rfl
  | isAbsent column => rfl
  | isUnknown column => rfl
  | all operands ih | any operands ih =>
      have hitems : (operandsJson operands).map JsonValue.normal = operandsJson operands := by
        rw [operandsJson_eq, List.map_map]
        exact List.map_congr_left ih
      simp only [DecodedPredicate.json, JsonValue.normal, normalMembers, normalItems_eq, hitems]

/-! ## Columns -/

/-- An accepted column is the JSON value of what was decoded. -/
theorem column_eq_ok {value : JsonValue} {decoded : IrColumnRef} (hvalue : WellFormed value)
    (h : column value = .ok decoded) : value = decoded.json ∧ decoded.columnId ≠ [] := by
  unfold column at h
  rw [bind_eq_ok_iff] at h
  obtain ⟨object, hobject, h⟩ := h
  rw [orElse_eq_ok_iff, asObject_eq_ok_iff] at hobject
  subst hobject
  rw [seq_eq_ok_iff, orElse_eq_ok_iff, exactKeys_eq_ok_iff] at h
  obtain ⟨hkeys, h⟩ := h
  obtain ⟨a, b, c, rfl⟩ := exists_three (names_of_hasKeys hvalue.ordered (by decide) hkeys)
  simp only [bind_eq_ok_iff, orElse_eq_ok_iff, required_eq_ok_iff, asString_eq_ok_iff] at h
  obtain ⟨identifierValue, hidentifierValue, availabilityValue, havailabilityValue, aliasValue,
    haliasValue, identifier, rfl, availability, rfl, sourceAlias, rfl, h⟩ := h
  have hfirst : a = .string availability := Option.some.inj havailabilityValue
  have hsecond : b = .string identifier := Option.some.inj hidentifierValue
  have hthird : c = .string sourceAlias := Option.some.inj haliasValue
  rw [guard_eq_ok_iff, bind_eq_ok_iff] at h
  obtain ⟨hne, which, hwhich, h⟩ := h
  obtain rfl := Except.ok.inj h
  refine ⟨?_, hne⟩
  unfold columnAvailability at hwhich
  split_ifs at hwhich with hrequire habsent
  · obtain rfl := Except.ok.inj hwhich
    rw [hfirst, hsecond, hthird, hrequire]
    rfl
  · obtain rfl := Except.ok.inj hwhich
    rw [hfirst, hsecond, hthird, habsent]
    rfl

/-- A column with an identifier is read back. -/
theorem column_json {decoded : IrColumnRef} (h : decoded.columnId ≠ []) :
    column decoded.json = .ok decoded := by
  obtain ⟨columnId, availability, sourceAlias⟩ := decoded
  have hid : ¬ columnId = [] := h
  cases availability with
  | require =>
      show (if columnId = [] then _ else _) = _
      rw [if_neg hid]
      rfl
  | absentIfSchemaMissing =>
      show (if columnId = [] then _ else _) = _
      rw [if_neg hid]
      rfl

/-! ## Literals -/

theorem hexDigit_nibble {byte value : UInt8} (h : nibble byte = some value) :
    value.toNat < 16 ∧ hexDigit value.toNat = byte := by
  have hall : ∀ byte : UInt8, (nibble byte).all (fun value =>
      decide (value.toNat < 16 ∧ hexDigit value.toNat = byte)) = true := by set_option maxRecDepth 20000 in decide
  have hone := hall byte
  rw [h] at hone
  exact of_decide_eq_true hone

theorem nibble_hexDigit {value : Nat} (h : value < 16) :
    nibble (hexDigit value) = some (UInt8.ofNat value) := by
  interval_cases value <;> rfl

/-- Two nibbles make a byte. -/
theorem hexByte_nibbles {high low : UInt8} (hhigh : high.toNat < 16) (hlow : low.toNat < 16) :
    hexByte (high <<< 4 ||| low) = [hexDigit high.toNat, hexDigit low.toNat] := by
  have hall : ∀ high low : Fin 16, hexByte (UInt8.ofNat high <<< 4 ||| UInt8.ofNat low) =
      [hexDigit high, hexDigit low] := by decide
  have hboth := hall ⟨high.toNat, hhigh⟩ ⟨low.toNat, hlow⟩
  simpa using hboth

theorem nibbles_of_byte (byte : UInt8) :
    UInt8.ofNat (byte.toNat / 16) <<< 4 ||| UInt8.ofNat (byte.toNat % 16) = byte := by
  revert byte
  set_option maxRecDepth 20000 in decide

theorem hexPairs_eq_ok {text bytes : Bytes} (heven : text.length % 2 = 0)
    (h : hexPairs text = .ok bytes) : text = hex bytes := by
  induction text using hexPairs.induct generalizing bytes with
  | case1 high low rest highValue lowValue hlow hhigh ih =>
      rw [hexPairs, hhigh, hlow] at h
      obtain ⟨output, houtput, h⟩ := bind_eq_ok_iff.1 h
      obtain rfl := Except.ok.inj h
      have hrest := ih (by
        simp only [List.length_cons] at heven
        omega) houtput
      obtain ⟨hhighLt, hhighDigit⟩ := hexDigit_nibble hhigh
      obtain ⟨hlowLt, hlowDigit⟩ := hexDigit_nibble hlow
      unfold hex
      rw [List.flatMap_cons, hexByte_nibbles hhighLt hlowLt, hhighDigit, hlowDigit, hrest]
      rfl
  | case2 high low rest hnone =>
      unfold hexPairs at h
      split at h
      · rename_i hhigh hlow
        exact absurd hlow (by simpa using hnone _ _ hhigh)
      · simp at h
  | case3 text hshort =>
      -- fewer than two digits are left, and their number is even
      match text, hshort with
      | [], _ =>
          obtain rfl := Except.ok.inj h
          rfl
      | [_], _ => simp at heven
      | high :: low :: rest, hshort => exact absurd rfl (hshort high low rest)

theorem hexPairs_hex (bytes : Bytes) : hexPairs (hex bytes) = .ok bytes := by
  induction bytes with
  | nil => rfl
  | cons byte rest ih =>
      have hhigh : byte.toNat / 16 < 16 := by
        have hlt := byte.toNat_lt
        omega
      have hlow : byte.toNat % 16 < 16 := Nat.mod_lt _ (by decide)
      show hexPairs (hexDigit (byte.toNat / 16) :: hexDigit (byte.toNat % 16) :: hex rest) = _
      rw [hexPairs, nibble_hexDigit hhigh, nibble_hexDigit hlow, ih]
      show Except.ok ((UInt8.ofNat (byte.toNat / 16) <<< 4 ||| UInt8.ofNat (byte.toNat % 16)) ::
        rest) = _
      rw [nibbles_of_byte]

theorem length_hex (bytes : Bytes) : (hex bytes).length = 2 * bytes.length := by
  induction bytes with
  | nil => rfl
  | cons byte rest ih =>
      show (hexDigit (byte.toNat / 16) :: hexDigit (byte.toNat % 16) :: hex rest).length = _
      rw [List.length_cons, List.length_cons, List.length_cons, ih]
      omega

theorem hexBytes_eq_ok_iff {text bytes : Bytes} : hexBytes text = .ok bytes ↔ text = hex bytes := by
  unfold hexBytes
  constructor
  · intro h
    rw [guard_eq_ok_iff, not_not] at h
    exact hexPairs_eq_ok h.1 h.2
  · intro h
    subst h
    rw [guard_eq_ok_iff, not_not, length_hex]
    exact ⟨Nat.mul_mod_right 2 _, hexPairs_hex bytes⟩

theorem toUInt64_toInt64 (value : UInt64) : value.toInt64.toUInt64 = value := rfl

theorem toInt_toInt64 {value : UInt64} (h : value.toNat ≤ 0x7fffffffffffffff) :
    value.toInt64.toInt = value.toNat := by
  have hcond : value.toInt64.toInt = _ := BitVec.toInt_eq_toNat_cond value.toInt64.toBitVec
  have hnat : value.toInt64.toBitVec.toNat = value.toNat := rfl
  rw [hnat] at hcond
  rw [hcond, if_pos (by omega)]

/-- The value of a literal is what is printed for it. -/
theorem literalValue_eq_ok {type : Bytes} {scalar : JsonValue} {value : ScalarValue}
    (h : literalValue type scalar = .ok value) : scalar.normal = scalarValueJson value := by
  unfold literalValue at h
  split_ifs at h with hbool hsigned hunsigned hbytes
  · cases scalar with
    | boolean other =>
        obtain rfl := Except.ok.inj h
        rfl
    | _ => simp at h
  · cases scalar with
    | signedInteger other =>
        obtain rfl := Except.ok.inj h
        rfl
    | unsignedInteger other =>
        simp only at h
        split_ifs at h with hsmall
        obtain rfl := Except.ok.inj h
        have hint := toInt_toInt64 hsmall
        have hnot : ¬ other.toInt64.toInt < 0 := by omega
        simp [scalarValueJson, JsonValue.normal, hnot]
    | _ => simp at h
  · cases scalar with
    | unsignedInteger other =>
        obtain rfl := Except.ok.inj h
        rfl
    | _ => simp at h
  · simp only [bind_eq_ok_iff, asString_eq_ok_iff, hexBytes_eq_ok_iff] at h
    obtain ⟨text, rfl, bytes, rfl, h⟩ := h
    obtain rfl := Except.ok.inj h
    rfl
  · simp only [bind_eq_ok_iff, asString_eq_ok_iff] at h
    obtain ⟨text, rfl, h⟩ := h
    obtain rfl := Except.ok.inj h
    rfl

/-- What was decoded as the value of a type is read back as one. -/
theorem literalValue_scalarValueJson {type : Bytes} {scalar : JsonValue} {value : ScalarValue}
    (h : literalValue type scalar = .ok value) :
    literalValue type (scalarValueJson value) = .ok value := by
  unfold literalValue at h ⊢
  split_ifs at h with hbool hsigned hunsigned hbytes
  · rw [if_pos hbool]
    cases scalar with
    | boolean other =>
        obtain rfl := Except.ok.inj h
        rfl
    | _ => simp at h
  · rw [if_neg hbool, if_pos hsigned]
    obtain ⟨other, rfl⟩ : ∃ other, value = .signedInteger other := by
      cases scalar with
      | signedInteger other => exact ⟨other, (Except.ok.inj h).symm⟩
      | unsignedInteger other =>
          simp only at h
          split_ifs at h
          exact ⟨_, (Except.ok.inj h).symm⟩
      | _ => simp at h
    unfold scalarValueJson JsonValue.normal
    by_cases hnegative : other.toInt < 0
    · simp [hnegative]
    · have hlt := other.toInt_lt
      have hsmall : other.toUInt64.toNat ≤ 0x7fffffffffffffff := by
        rw [toNat_toUInt64_of_nonneg hnegative]
        omega
      simp [hnegative, hsmall]
  · rw [if_neg hbool, if_neg hsigned, if_pos hunsigned]
    cases scalar with
    | unsignedInteger other =>
        obtain rfl := Except.ok.inj h
        rfl
    | _ => simp at h
  · rw [if_neg hbool, if_neg hsigned, if_neg hunsigned]
    simp only [bind_eq_ok_iff] at h
    obtain ⟨text, -, bytes, -, h⟩ := h
    obtain rfl := Except.ok.inj h
    show (if byteBacked type = true then _ else _) = _
    rw [if_pos hbytes, hexBytes_eq_ok_iff.2 rfl]
    rfl
  · rw [if_neg hbool, if_neg hsigned, if_neg hunsigned]
    simp only [bind_eq_ok_iff] at h
    obtain ⟨text, -, h⟩ := h
    obtain rfl := Except.ok.inj h
    show (if byteBacked type = true then _ else _) = _
    rw [if_neg hbytes]

/-- A literal that is read back from its JSON value. -/
structure IrLiteral.Readable (literal : IrLiteral) : Prop where
  type_ne_nil : literal.type ≠ []
  present : (ascii "optional<").isPrefixOf literal.type = false
  value : literalValue literal.type (scalarValueJson literal.value) = .ok literal.value

theorem typedLiteral_eq_ok {value : JsonValue} {decoded : IrLiteral} (hvalue : WellFormed value)
    (h : typedLiteral value = .ok decoded) : value.normal = decoded.json ∧ decoded.Readable := by
  unfold typedLiteral at h
  rw [bind_eq_ok_iff] at h
  obtain ⟨object, hobject, h⟩ := h
  rw [orElse_eq_ok_iff, asObject_eq_ok_iff] at hobject
  subst hobject
  rw [seq_eq_ok_iff, orElse_eq_ok_iff, exactKeys_eq_ok_iff] at h
  obtain ⟨hkeys, h⟩ := h
  obtain ⟨a, b, rfl⟩ := exists_two (names_of_hasKeys hvalue.ordered (by decide) hkeys)
  simp only [bind_eq_ok_iff, orElse_eq_ok_iff, required_eq_ok_iff, asString_eq_ok_iff] at h
  obtain ⟨typeValue, htypeValue, scalar, hscalar, type, rfl, h⟩ := h
  obtain rfl : a = .string type := Option.some.inj htypeValue
  obtain rfl : b = scalar := Option.some.inj hscalar
  rw [guard_eq_ok_iff, bind_eq_ok_iff, not_or, Bool.not_eq_true] at h
  obtain ⟨⟨hne, hpresent⟩, literal, hliteral, h⟩ := h
  obtain rfl := Except.ok.inj h
  refine ⟨?_, hne, hpresent, literalValue_scalarValueJson hliteral⟩
  simp only [JsonValue.normal, normalMembers, IrLiteral.json, literalValue_eq_ok hliteral]

theorem typedLiteral_json {decoded : IrLiteral} (h : decoded.Readable) :
    typedLiteral decoded.json = .ok decoded := by
  obtain ⟨type, value⟩ := decoded
  have hfails : ¬ (type = [] ∨ (ascii "optional<").isPrefixOf type = true) := by
    rw [not_or, Bool.not_eq_true]
    exact ⟨h.type_ne_nil, h.present⟩
  show (if type = [] ∨ (ascii "optional<").isPrefixOf type = true then _ else _) = _
  rw [if_neg hfails, show literalValue type (scalarValueJson value) = .ok value from h.value]
  rfl

/-! ## Predicates -/

/-- The atoms of a predicate are read back from their JSON values. -/
inductive DecodedPredicate.Readable : DecodedPredicate → Prop where
  | equalsPresent {column : IrColumnRef} {literalValue : IrLiteral} (hcolumn : column.columnId ≠ [])
      (hliteral : literalValue.Readable) : Readable (.equalsPresent column literalValue)
  | columnEqualsPresent {left right : IrColumnRef} (hleft : left.columnId ≠ [])
      (hright : right.columnId ≠ []) : Readable (.columnEqualsPresent left right)
  | isPresent {column : IrColumnRef} (hcolumn : column.columnId ≠ []) : Readable (.isPresent column)
  | isAbsent {column : IrColumnRef} (hcolumn : column.columnId ≠ []) : Readable (.isAbsent column)
  | isUnknown {column : IrColumnRef} (hcolumn : column.columnId ≠ []) : Readable (.isUnknown column)
  | all {operands : List DecodedPredicate} (h : ∀ operand ∈ operands, Readable operand) :
      Readable (.all operands)
  | any {operands : List DecodedPredicate} (h : ∀ operand ∈ operands, Readable operand) :
      Readable (.any operands)

mutual

/-- Every `and` and `or` has two operands. -/
def DecodedPredicate.wide : DecodedPredicate → Bool
  | .all operands => decide (2 ≤ operands.length) && operandsWide operands
  | .any operands => decide (2 ≤ operands.length) && operandsWide operands
  | _ => true

def operandsWide : List DecodedPredicate → Bool
  | [] => true
  | operand :: rest => operand.wide && operandsWide rest

end

theorem operandsWide_eq (operands : List DecodedPredicate) :
    operandsWide operands = operands.all DecodedPredicate.wide := by
  induction operands with
  | nil => rfl
  | cons operand rest ih => rw [operandsWide, ih, List.all_cons]

/-- What `predicate` says of a value that it accepts. -/
def ReadsBack (value : JsonValue) : Prop :=
  ∀ decoded, WellFormed value → predicate value = .ok decoded →
    value.normal = decoded.json ∧ decoded.Readable ∧ decoded.wide = true

/-- Likewise for the operands. -/
theorem predicates_eq_ok {items : List JsonValue} {decoded : List DecodedPredicate}
    (hread : ∀ item ∈ items, ReadsBack item) (hvalues : ∀ item ∈ items, WellFormed item)
    (h : predicates items = .ok decoded) :
    normalItems items = operandsJson decoded ∧ (∀ operand ∈ decoded, operand.Readable) ∧
      operandsWide decoded = true ∧ decoded.length = items.length := by
  induction items generalizing decoded with
  | nil =>
      obtain rfl := Except.ok.inj h
      exact ⟨rfl, by simp, rfl, rfl⟩
  | cons item rest ih =>
      unfold predicates at h
      simp only [bind_eq_ok_iff] at h
      obtain ⟨child, hchild, children, hchildren, h⟩ := h
      obtain rfl := Except.ok.inj h
      rw [List.forall_mem_cons] at hread hvalues
      obtain ⟨hnormal, hreadable, hwide⟩ := hread.1 child hvalues.1 hchild
      obtain ⟨hnormals, hreadables, hwides, hlength⟩ := ih hread.2 hvalues.2 hchildren
      refine ⟨?_, List.forall_mem_cons.2 ⟨hreadable, hreadables⟩, ?_, ?_⟩
      · rw [normalItems, operandsJson, hnormal, hnormals]
      · rw [operandsWide, hwide, hwides]
        rfl
      · rw [List.length_cons, List.length_cons, hlength]

/-- The branches over one column and a state. -/
theorem statePredicate_eq_ok {kind : Bytes} {object : Members} {decoded : DecodedPredicate}
    (hvalue : WellFormed (.object object)) (hkind : object.lookup (ascii "kind") = some (JsonValue.string kind))
    (h : statePredicate kind object = .ok decoded) :
    (JsonValue.object object).normal = decoded.json ∧ decoded.Readable ∧ decoded.wide = true := by
  unfold statePredicate at h
  rw [seq_eq_ok_iff, orElse_eq_ok_iff, exactKeys_eq_ok_iff] at h
  obtain ⟨hkeys, h⟩ := h
  obtain ⟨a, b, rfl⟩ := exists_two (names_of_hasKeys hvalue.ordered (by decide) hkeys)
  obtain rfl : b = .string kind := Option.some.inj hkind
  simp only [bind_eq_ok_iff, required_eq_ok_iff] at h
  obtain ⟨columnValue, hcolumnValue, which, hwhich, h⟩ := h
  obtain rfl : a = columnValue := Option.some.inj hcolumnValue
  obtain ⟨rfl, hne⟩ := column_eq_ok (hvalue.member List.mem_cons_self) hwhich
  split_ifs at h with hpresent habsent hunknown
  · obtain rfl := Except.ok.inj h
    exact ⟨by rw [hpresent]; rfl, .isPresent hne, rfl⟩
  · obtain rfl := Except.ok.inj h
    exact ⟨by rw [habsent]; rfl, .isAbsent hne, rfl⟩
  · obtain rfl := Except.ok.inj h
    exact ⟨by rw [hunknown]; rfl, .isUnknown hne, rfl⟩

theorem equalsPredicate_eq_ok {object : Members} {decoded : DecodedPredicate}
    (hvalue : WellFormed (.object object))
    (hkind : object.lookup (ascii "kind") = some (JsonValue.string "equals_present"))
    (h : equalsPredicate object = .ok decoded) :
    (JsonValue.object object).normal = decoded.json ∧ decoded.Readable ∧ decoded.wide = true := by
  unfold equalsPredicate at h
  rw [seq_eq_ok_iff, orElse_eq_ok_iff, exactKeys_eq_ok_iff] at h
  obtain ⟨hkeys, h⟩ := h
  obtain ⟨a, b, c, rfl⟩ := exists_three (names_of_hasKeys hvalue.ordered (by decide) hkeys)
  obtain rfl : b = .string "equals_present" := Option.some.inj hkind
  simp only [bind_eq_ok_iff, orElse_eq_ok_iff, required_eq_ok_iff] at h
  obtain ⟨columnValue, hcolumnValue, literalValue, hliteralValue, which, hwhich, literal,
    hliteral, h⟩ := h
  obtain rfl : a = columnValue := Option.some.inj hcolumnValue
  obtain rfl : c = literalValue := Option.some.inj hliteralValue
  obtain rfl := Except.ok.inj h
  obtain ⟨rfl, hne⟩ := column_eq_ok (hvalue.member List.mem_cons_self) hwhich
  obtain ⟨hnormal, hreadable⟩ := typedLiteral_eq_ok
    (hvalue.member (List.mem_cons_of_mem _ (List.mem_cons_of_mem _ List.mem_cons_self))) hliteral
  refine ⟨?_, .equalsPresent hne hreadable, rfl⟩
  simp only [JsonValue.normal, normalMembers, DecodedPredicate.json, hnormal, normal_columnJson]

theorem columnEqualsPredicate_eq_ok {object : Members} {decoded : DecodedPredicate}
    (hvalue : WellFormed (.object object))
    (hkind : object.lookup (ascii "kind") = some (JsonValue.string "column_equals_present"))
    (h : columnEqualsPredicate object = .ok decoded) :
    (JsonValue.object object).normal = decoded.json ∧ decoded.Readable ∧ decoded.wide = true := by
  unfold columnEqualsPredicate at h
  rw [seq_eq_ok_iff, orElse_eq_ok_iff, exactKeys_eq_ok_iff] at h
  obtain ⟨hkeys, h⟩ := h
  obtain ⟨a, b, c, rfl⟩ := exists_three (names_of_hasKeys hvalue.ordered (by decide) hkeys)
  obtain rfl : a = .string "column_equals_present" := Option.some.inj hkind
  simp only [bind_eq_ok_iff, orElse_eq_ok_iff, required_eq_ok_iff] at h
  obtain ⟨leftValue, hleftValue, rightValue, hrightValue, left, hleft, right, hright, h⟩ := h
  obtain rfl : b = leftValue := Option.some.inj hleftValue
  obtain rfl : c = rightValue := Option.some.inj hrightValue
  obtain rfl := Except.ok.inj h
  obtain ⟨rfl, hleftNe⟩ := column_eq_ok
    (hvalue.member (List.mem_cons_of_mem _ List.mem_cons_self)) hleft
  obtain ⟨rfl, hrightNe⟩ := column_eq_ok
    (hvalue.member (List.mem_cons_of_mem _ (List.mem_cons_of_mem _ List.mem_cons_self))) hright
  exact ⟨rfl, .columnEqualsPresent hleftNe hrightNe, rfl⟩

theorem booleanPredicate_eq_ok {kind : Bytes} {object : Members} {decoded : DecodedPredicate}
    (hboolean : kind = "and" ∨ kind = "or") (hvalue : WellFormed (.object object))
    (hkind : object.lookup (ascii "kind") = some (JsonValue.string kind))
    (hread : ∀ items, JsonValue.array items ∈ object.map Prod.snd → ∀ item ∈ items, ReadsBack item)
    (h : booleanPredicate (decide (kind = "and")) object (operandPredicates object) = .ok decoded) :
    (JsonValue.object object).normal = decoded.json ∧ decoded.Readable ∧ decoded.wide = true := by
  unfold booleanPredicate at h
  rw [seq_eq_ok_iff, orElse_eq_ok_iff, exactKeys_eq_ok_iff] at h
  obtain ⟨hkeys, h⟩ := h
  obtain ⟨a, b, rfl⟩ := exists_two (names_of_hasKeys hvalue.ordered (by decide) hkeys)
  obtain rfl : a = .string kind := Option.some.inj hkind
  simp only [bind_eq_ok_iff, orElse_eq_ok_iff, required_eq_ok_iff, asArray_eq_ok_iff] at h
  obtain ⟨operandsValue, hoperandsValue, items, rfl, h⟩ := h
  obtain rfl : b = .array items := Option.some.inj hoperandsValue
  rw [guard_eq_ok_iff, bind_eq_ok_iff, not_lt] at h
  obtain ⟨htwo, operands, hoperands, h⟩ := h
  have hitems : ∀ item ∈ items, WellFormed item := by
    have harray := hvalue.member (List.mem_cons_of_mem _ List.mem_cons_self)
    cases harray with
    | array hitems => exact hitems
  obtain ⟨hnormal, hreadable, hwide, hlength⟩ :=
    predicates_eq_ok (hread items (by simp)) hitems hoperands
  rw [← hlength] at htwo
  cases hboolean with
  | inl hand =>
      subst hand
      obtain rfl := Except.ok.inj h
      refine ⟨?_, .all hreadable, ?_⟩
      · simp only [JsonValue.normal, normalMembers, DecodedPredicate.json, hnormal]
      · simp [DecodedPredicate.wide, htwo, hwide]
  | inr hor =>
      subst hor
      obtain rfl := Except.ok.inj h
      refine ⟨?_, .any hreadable, ?_⟩
      · simp only [JsonValue.normal, normalMembers, DecodedPredicate.json, hnormal]
      · simp [DecodedPredicate.wide, htwo, hwide]

/-- An accepted value is the JSON value of the predicate that was decoded. -/
theorem predicate_eq_ok (value : JsonValue) : ReadsBack value := by
  -- the operands stand in an array, so an array speaks for its elements
  have hboth : ReadsBack value ∧ ∀ items, value = .array items → ∀ item ∈ items, ReadsBack item := by
    induction value using JsonValue.induct with
    | array items ih =>
        refine ⟨?_, ?_⟩
        · intro decoded _ h
          simp [predicate] at h
        · intro other hother item hitem
          obtain rfl := JsonValue.array.inj hother
          exact (ih item hitem).1
    | object object ih =>
        refine ⟨?_, by simp⟩
        intro decoded hvalue h
        unfold predicate at h
        simp only [bind_eq_ok_iff, required_eq_ok_iff, asString_eq_ok_iff] at h
        obtain ⟨kindValue, hkind, kind, rfl, h⟩ := h
        unfold predicateOfKind at h
        split_ifs at h with hequals hcolumns hboolean
        · subst hequals
          exact equalsPredicate_eq_ok hvalue hkind h
        · subst hcolumns
          exact columnEqualsPredicate_eq_ok hvalue hkind h
        · refine booleanPredicate_eq_ok hboolean hvalue hkind ?_ h
          intro items hitems
          obtain ⟨member, hmember, heq⟩ := List.mem_map.1 hitems
          exact (ih member hmember).2 items heq
        · exact statePredicate_eq_ok hvalue hkind h
    | null | boolean | signed | unsigned | string =>
        refine ⟨?_, by simp⟩
        intro decoded _ h
        simp [predicate] at h
  exact hboth.1

/-! ## Reading back -/

/-- Where one of the operands fails, it fails for want of operands, and so does the loop. -/
theorem predicates_json {operands : List DecodedPredicate}
    (h : ∀ operand ∈ operands,
      predicate operand.json = if operand.wide = true then .ok operand else .error minimumTwo) :
    predicates (operandsJson operands) =
      if operandsWide operands = true then .ok operands else .error minimumTwo := by
  induction operands with
  | nil => rfl
  | cons operand rest ih =>
      rw [List.forall_mem_cons] at h
      rw [operandsJson, predicates, operandsWide, h.1, ih h.2]
      cases operand.wide with
      | false => rfl
      | true =>
          cases operandsWide rest with
          | false => rfl
          | true => rfl

theorem booleanPredicate_json (conjunction : Bool) (kind : Bytes)
    {operands : List DecodedPredicate}
    (h : ∀ operand ∈ operands,
      predicate operand.json = if operand.wide = true then .ok operand else .error minimumTwo) :
    booleanPredicate conjunction
        [("kind", .string kind), ("operands", .array (operandsJson operands))]
        (predicates (operandsJson operands)) =
      if (decide (2 ≤ operands.length) && operandsWide operands) = true then
        .ok (if conjunction = true then .all operands else .any operands)
      else .error minimumTwo := by
  have hlength : (operandsJson operands).length = operands.length := by
    rw [operandsJson_eq, List.length_map]
  show (if (operandsJson operands).length < 2 then _ else _) = _
  rw [hlength, predicates_json h]
  by_cases htwo : operands.length < 2
  · have hnot : ¬ 2 ≤ operands.length := not_le.2 htwo
    simp [htwo, hnot]
  · have hle : 2 ≤ operands.length := not_lt.1 htwo
    rw [if_neg htwo]
    cases operandsWide operands with
    | false => simp
    | true =>
        cases conjunction with
        | false => simp [hle]
        | true => simp [hle]

/-- **A predicate is read back from its JSON value, or an `and` or `or` has too few operands.** -/
theorem predicate_json {decoded : DecodedPredicate} (h : decoded.Readable) :
    predicate decoded.json =
      if decoded.wide = true then .ok decoded else .error minimumTwo := by
  induction decoded using DecodedPredicate.induct with
  | equalsPresent column literalValue =>
      cases h with
      | equalsPresent hcolumn hliteral =>
          show (orElse _ (Query.column column.json) >>= fun decodedColumn =>
            orElse _ (typedLiteral literalValue.json) >>= fun decodedLiteral =>
              Except.ok (DecodedPredicate.equalsPresent decodedColumn decodedLiteral)) = _
          rw [column_json hcolumn, typedLiteral_json hliteral]
          rfl
  | columnEqualsPresent left right =>
      cases h with
      | columnEqualsPresent hleft hright =>
          show (orElse _ (Query.column left.json) >>= fun decodedLeft =>
            orElse _ (Query.column right.json) >>= fun decodedRight =>
              Except.ok (DecodedPredicate.columnEqualsPresent decodedLeft decodedRight)) = _
          rw [column_json hleft, column_json hright]
          rfl
  | isPresent column =>
      cases h with
      | isPresent hcolumn =>
          show (Query.column column.json >>= fun decodedColumn =>
            Except.ok (DecodedPredicate.isPresent decodedColumn)) = _
          rw [column_json hcolumn]
          rfl
  | isAbsent column =>
      cases h with
      | isAbsent hcolumn =>
          show (Query.column column.json >>= fun decodedColumn =>
            Except.ok (DecodedPredicate.isAbsent decodedColumn)) = _
          rw [column_json hcolumn]
          rfl
  | isUnknown column =>
      cases h with
      | isUnknown hcolumn =>
          show (Query.column column.json >>= fun decodedColumn =>
            Except.ok (DecodedPredicate.isUnknown decodedColumn)) = _
          rw [column_json hcolumn]
          rfl
  | all operands ih =>
      cases h with
      | all hoperands =>
          exact booleanPredicate_json true "and" fun operand hoperand =>
            ih operand hoperand (hoperands operand hoperand)
  | any operands ih =>
      cases h with
      | any hoperands =>
          exact booleanPredicate_json false "or" fun operand hoperand =>
            ih operand hoperand (hoperands operand hoperand)

end Cxxlens.Sdk.Query
