import Cxxlens.Sdk.Json.Soundness

set_option autoImplicit false

/-! # The parser accepts what is in the grammar

From every derivation whose value is within the limits, by mutual induction on values, elements
and members. Together with soundness, `parse_json_value` accepts exactly the grammar. -/

namespace Cxxlens.Sdk.Json

open Fallible
open Cxxlens.Sdk.Json.Parser (isSpace space)

/-! ## Completeness -/

section Completeness

variable (parser : Parser)

/-- Counters that have room for so many values and so many bytes of strings. -/
def Room (values bytes count total : Nat) : Prop :=
  count + values ≤ parser.limits.maxTotalValues.toNat ∧
    total + bytes ≤ parser.limits.maxTotalStringBytes.toNat

/-- `parse_value` accepts this text for this value, wherever it stands. -/
def CompleteValue (core : Bytes) (value : JsonValue) : Prop :=
  ∀ fuel depth input rest count total, space input = core ++ rest → Follow rest →
    validUtf8 core = true → core.length < 2 ^ 64 → WithinAt parser depth value →
    Room parser value.valueCount value.stringBytes count total → 2 * core.length ≤ fuel →
    parser.parseValue fuel depth ⟨input, count, total⟩ =
      .ok (value, ⟨rest, count + value.valueCount, total + value.stringBytes⟩)

/-- The loop of `parse_array` accepts this text for these elements. -/
def CompleteElements (body : Bytes) (items : List JsonValue) : Prop :=
  ∀ fuel depth output input tail count total, space input = space (body ++ 0x5d :: tail) →
    validUtf8 body = true → body.length < 2 ^ 64 → (∀ item ∈ items, WithinAt parser depth item) →
    (output ++ items).length ≤ parser.limits.maxArrayElements.toNat →
    Room parser (itemsCount items) (itemsBytes items) count total → 2 * body.length + 1 ≤ fuel →
    parser.parseElements fuel depth output ⟨input, count, total⟩ =
      .ok (output ++ items, ⟨tail, count + itemsCount items, total + itemsBytes items⟩)

/-- The loop of `parse_object` accepts this text for these members, whose names are valid. -/
def CompleteMembers (body : Bytes) (members : Members) : Prop :=
  validUtf8 body = true →
    (∀ member ∈ members, validUtf8 member.1 = true) ∧
    ∀ fuel depth prior tail count total, ((prior ++ members).map Prod.fst).Nodup →
      body.length < 2 ^ 64 →
      (∀ member ∈ members, member.1.length ≤ parser.limits.maxStringBytes.toNat) →
      (∀ member ∈ members, WithinAt parser depth member.2) →
      (prior ++ members).length ≤ parser.limits.maxObjectMembers.toNat →
      Room parser (membersCount members) (membersBytes members) count total →
      2 * body.length + 1 ≤ fuel →
      parser.parseMembers fuel depth (byName prior) ⟨space (body ++ 0x7d :: tail), count, total⟩ =
        .ok (byName (prior ++ members),
          ⟨tail, count + membersCount members, total + membersBytes members⟩)

variable {parser}

theorem WithinAt.depth {depth : Nat} {value : JsonValue} (h : WithinAt parser depth value) :
    ¬ (parser.contract.depth = .allValues ∧ depth > parser.depthLimit) := by
  rintro ⟨hall, hdeep⟩
  have hle : depth ≤ parser.depthLimit := by
    cases h with
    | null hdepth | boolean hdepth | signedInteger hdepth | unsignedInteger hdepth =>
        exact hdepth hall
    | string hdepth hbytes => exact hdepth hall
    | array hdepth hcontainer hcount hitems => exact hdepth hall
    | object hdepth hcontainer hcount hnames hvalues => exact hdepth hall
  exact absurd hdeep (not_lt.2 hle)

theorem one_le_valueCount (value : JsonValue) : 1 ≤ value.valueCount := by
  cases value with
  | null | boolean | signedInteger | unsignedInteger | string => exact le_rfl
  | array | object =>
      rw [JsonValue.valueCount]
      exact Nat.le_add_right _ _

theorem Room.open {value : JsonValue} {bytes count total : Nat}
    (h : Room parser value.valueCount bytes count total) :
    ¬ count ≥ parser.limits.maxTotalValues.toNat := by
  have hone := one_le_valueCount value
  have hcount := h.1
  omega

theorem withinAt_array {depth : Nat} {items : List JsonValue}
    (h : WithinAt parser depth (.array items)) :
    (parser.contract.depth = .containers → depth < parser.depthLimit) ∧
      items.length ≤ parser.limits.maxArrayElements.toNat ∧
      ∀ item ∈ items, WithinAt parser (depth + 1) item := by
  cases h with
  | array hdepth hcontainer hcount hitems => exact ⟨hcontainer, hcount, hitems⟩

theorem withinAt_object {depth : Nat} {members : Members}
    (h : WithinAt parser depth (.object members)) :
    (parser.contract.depth = .containers → depth < parser.depthLimit) ∧
      members.length ≤ parser.limits.maxObjectMembers.toNat ∧
      (∀ member ∈ members, member.1.length ≤ parser.limits.maxStringBytes.toNat) ∧
      ∀ member ∈ members, WithinAt parser (depth + 1) member.2 := by
  cases h with
  | object hdepth hcontainer hcount hnames hvalues => exact ⟨hcontainer, hcount, hnames, hvalues⟩

theorem literal_complete (expected : Bytes) (value : JsonValue) (rest : Bytes) :
    parser.literal expected value (expected ++ rest) = .ok (value, rest) := by
  rw [Parser.literal, List.take_left, if_neg (not_not.2 rfl), List.drop_left]

/-- Literals and numbers share the last branch of `parse_value`. -/
theorem completeValue_scalar {core : Bytes} {value : JsonValue} {first : UInt8} {tail : Bytes}
    (hcore : core = first :: tail) (hobject : first ≠ 0x7b) (harray : first ≠ 0x5b)
    (hstring : first ≠ 0x22) (hcount : value.valueCount = 1) (hbytes : value.stringBytes = 0)
    (h : core.length < 2 ^ 64 → ∀ rest, Follow rest →
      (if first = 0x74 then parser.literal "true" (.boolean true) (core ++ rest)
        else if first = 0x66 then parser.literal "false" (.boolean false) (core ++ rest)
        else if first = 0x6e then parser.literal "null" .null (core ++ rest)
        else parser.parseNumber (core ++ rest)) = .ok (value, rest)) :
    CompleteValue parser core value := by
  intro fuel depth input rest count total hinput hfollow hutf hsize hwithin hroom hfuel
  subst hcore
  obtain _ | fuel := fuel
  · simp at hfuel
  rw [List.cons_append] at hinput
  unfold Parser.parseValue
  simp only [hinput, if_neg hwithin.depth, if_neg hroom.open, if_neg hobject, if_neg harray,
    if_neg hstring, ← ite_bind]
  rw [show first :: (tail ++ rest) = (first :: tail) ++ rest from rfl, h hsize rest hfollow,
    ok_bind, hcount, hbytes]
  rfl

theorem completeValue_number {number : Number} {value : JsonValue} (hform : number.WellFormed)
    (hvalue : Denotes parser.contract.numbers number value) :
    CompleteValue parser number.text value := by
  obtain ⟨byte, tail, htext, hbyte⟩ := hform.head
  have hne : ∀ other : UInt8, other ≠ 0x2d → ¬ (0x30 ≤ other.toNat ∧ other.toNat ≤ 0x39) →
      byte ≠ other := by
    rintro other hminus hdigit rfl
    exact hbyte.elim hminus hdigit
  have hinteger : value.valueCount = 1 ∧ value.stringBytes = 0 := by
    rcases hvalue.integer with ⟨_, rfl⟩ | ⟨_, rfl⟩
    · exact ⟨rfl, rfl⟩
    · exact ⟨rfl, rfl⟩
  refine completeValue_scalar htext (hne _ (by decide) (by decide)) (hne _ (by decide) (by decide))
    (hne _ (by decide) (by decide)) hinteger.1 hinteger.2 ?_
  intro hsize rest hfollow
  rw [if_neg (hne _ (by decide) (by decide)), if_neg (hne _ (by decide) (by decide)),
    if_neg (hne _ (by decide) (by decide))]
  exact parseNumber_complete hform hvalue hfollow.stops hsize

theorem ofString_eq {decoded : Bytes} (h : validUtf8 decoded = true) :
    JsonValue.ofString decoded = .ok (.string decoded) := by
  rw [JsonValue.ofString, Option.isNone_iff_eq_none.1 h]

theorem checkNames_eq {members : Members} (h : ∀ member ∈ members, validUtf8 member.1 = true) :
    checkNames members = .ok () := by
  induction members with
  | nil => rfl
  | cons member members ih =>
      rw [List.forall_mem_cons] at h
      rw [checkNames, Option.isNone_iff_eq_none.1 h.1]
      exact ih h.2

theorem completeValue_string {text decoded : Bytes} (h : StringText text decoded) :
    CompleteValue parser text (.string decoded) := by
  intro fuel depth input rest count total hinput hfollow hutf hsize hwithin hroom hfuel
  obtain ⟨tail, rfl⟩ := h.head
  obtain _ | fuel := fuel
  · simp at hfuel
  have hbytes : decoded.length ≤ parser.limits.maxStringBytes.toNat := by
    cases hwithin with
    | string hdepth hbytes => exact hbytes
  unfold Parser.parseValue
  rw [List.cons_append] at hinput
  have hobject : ¬ (0x22 : UInt8) = 0x7b := by decide
  have harray : ¬ (0x22 : UInt8) = 0x5b := by decide
  simp only [hinput, if_neg hwithin.depth, if_neg hroom.open, if_neg hobject, if_neg harray, if_true]
  have hread := parseString_complete h rest (count + 1) total hbytes hroom.2
  rw [List.cons_append] at hread
  rw [hread, ok_bind]
  dsimp only
  rw [ofString_eq (h.validUtf8 hutf), ok_bind]
  rfl

/-- Where a container may be opened. -/
theorem not_deep {depth : Nat} (h : parser.contract.depth = .containers → depth < parser.depthLimit) :
    ¬ (parser.contract.depth = .containers ∧ depth ≥ parser.depthLimit) := by
  rintro ⟨hcontainers, hdeep⟩
  exact absurd (h hcontainers) (not_lt.2 hdeep)

/-- The elements of an array begin with a value, so the loop does not see a closing bracket. -/
theorem ElementsText.head {numbers : JsonNumberSyntax} {body : Bytes} {items : List JsonValue}
    (h : ElementsText numbers body items) (rest : Bytes) :
    ∀ tail, space (body ++ rest) ≠ 0x5d :: tail := by
  intro tail htail
  obtain ⟨before, text, more, value, hbefore, hvalue, rfl⟩ : ∃ before text more value,
      Whitespace before ∧ ValueText numbers text value ∧ body = before ++ (text ++ more) := by
    cases h with
    | last hbefore hvalue hafter => exact ⟨_, _, _, _, hbefore, hvalue, rfl⟩
    | cons hbefore hvalue hafter hrest => exact ⟨_, _, _, _, hbefore, hvalue, rfl⟩
  obtain ⟨byte, text, rfl, hspace, hbracket, -⟩ := hvalue.head
  rw [List.append_assoc, space_append hbefore, List.cons_append, List.cons_append,
    space_cons hspace] at htail
  exact hbracket (List.cons.inj htail).1

theorem MembersText.head {numbers : JsonNumberSyntax} {body : Bytes} {members : Members}
    (h : MembersText numbers body members) (rest : Bytes) :
    ∀ tail, space (body ++ rest) ≠ 0x7d :: tail := by
  intro tail htail
  obtain ⟨first, key, more, name, hfirst, hkey, rfl⟩ : ∃ first key more name,
      Whitespace first ∧ StringText key name ∧ body = first ++ (key ++ more) := by
    cases h with
    | last hfirst hkey => exact ⟨_, _, _, _, hfirst, hkey, rfl⟩
    | cons hfirst hkey => exact ⟨_, _, _, _, hfirst, hkey, rfl⟩
  obtain ⟨key, rfl⟩ := hkey.head
  rw [List.append_assoc, space_append hfirst, List.cons_append, List.cons_append,
    space_cons (by decide)] at htail
  exact absurd (List.cons.inj htail).1 (by decide)

theorem space_whitespace_cons {pad : Bytes} (h : Whitespace pad) {byte : UInt8}
    (hbyte : isSpace byte = false) (rest : Bytes) :
    space (pad ++ [byte] ++ rest) = byte :: rest := by
  rw [List.append_assoc, space_append h]
  exact space_cons hbyte rest

theorem completeValue_emptyArray {pad : Bytes} (h : Whitespace pad) :
    CompleteValue parser (0x5b :: (pad ++ [0x5d])) (.array []) := by
  intro fuel depth input rest count total hinput hfollow hutf hsize hwithin hroom hfuel
  obtain _ | fuel := fuel
  · simp at hfuel
  obtain ⟨hcontainer, hcount, hitems⟩ := withinAt_array hwithin
  have hobject : ¬ (0x5b : UInt8) = 0x7b := by decide
  unfold Parser.parseValue
  simp only [hinput, List.cons_append, if_neg hwithin.depth, if_neg hroom.open, if_neg hobject,
    if_true, if_neg (not_deep hcontainer), space_whitespace_cons h (show isSpace 0x5d = false by decide)]
  rfl

/-- A container has counted itself when its parts are read. -/
theorem Room.inside {values bytes count total : Nat}
    (h : Room parser (1 + values) bytes count total) :
    Room parser values bytes (count + 1) total :=
  ⟨by rw [Nat.add_assoc]; exact h.1, h.2⟩

theorem completeValue_array {body : Bytes} {items : List JsonValue}
    (h : ElementsText parser.contract.numbers body items) (ih : CompleteElements parser body items) :
    CompleteValue parser (0x5b :: (body ++ [0x5d])) (.array items) := by
  intro fuel depth input rest count total hinput hfollow hutf hsize hwithin hroom hfuel
  obtain _ | fuel := fuel
  · simp at hfuel
  obtain ⟨hcontainer, hcount, hitems⟩ := withinAt_array hwithin
  have hobject : ¬ (0x5b : UInt8) = 0x7b := by decide
  rw [validUtf8_cons_ascii (by decide)] at hutf
  have hbody : validUtf8 body = true := (validUtf8_split (by decide) hutf).1
  rw [List.length_cons, List.length_append, List.length_singleton] at hsize hfuel
  have hopen := hroom.open
  rw [JsonValue.valueCount, JsonValue.stringBytes] at hroom
  have hread := ih fuel (depth + 1) [] (space (body ++ 0x5d :: rest)) rest (count + 1) total
    (space_space _) hbody (by omega) hitems hcount hroom.inside (by omega)
  unfold Parser.parseValue
  simp only [hinput, List.cons_append, List.append_assoc, List.nil_append,
    if_neg hwithin.depth, if_neg hopen, if_neg hobject, if_true, if_neg (not_deep hcontainer)]
  split
  · rename_i tail hclose
    exact absurd hclose (h.head _ tail)
  · rw [hread, ok_bind, List.nil_append, JsonValue.valueCount, JsonValue.stringBytes, Nat.add_assoc]

theorem completeValue_emptyObject {pad : Bytes} (h : Whitespace pad) :
    CompleteValue parser (0x7b :: (pad ++ [0x7d])) (.object []) := by
  intro fuel depth input rest count total hinput hfollow hutf hsize hwithin hroom hfuel
  obtain _ | fuel := fuel
  · simp at hfuel
  obtain ⟨hcontainer, -⟩ := withinAt_object hwithin
  unfold Parser.parseValue
  simp only [hinput, List.cons_append, if_neg hwithin.depth, if_neg hroom.open,
    if_true, if_neg (not_deep hcontainer),
    space_whitespace_cons h (show isSpace 0x7d = false by decide)]
  rfl

theorem completeValue_object {body : Bytes} {members : Members}
    (h : MembersText parser.contract.numbers body members)
    (hnames : (members.map Prod.fst).Nodup) (ih : CompleteMembers parser body members) :
    CompleteValue parser (0x7b :: (body ++ [0x7d])) (.object (byName members)) := by
  intro fuel depth input rest count total hinput hfollow hutf hsize hwithin hroom hfuel
  obtain _ | fuel := fuel
  · simp at hfuel
  obtain ⟨hcontainer, hcount, hbytes, hvalues⟩ := withinAt_object hwithin
  rw [validUtf8_cons_ascii (by decide)] at hutf
  rw [List.length_cons, List.length_append, List.length_singleton] at hsize hfuel
  have hopen := hroom.open
  rw [JsonValue.valueCount, JsonValue.stringBytes, membersCount_byName, membersBytes_byName]
    at hroom
  have hperm := byName_perm members
  obtain ⟨hvalid, ih⟩ := ih (validUtf8_split (by decide) hutf).1
  have hread := ih fuel (depth + 1) [] rest (count + 1) total hnames (by omega)
    (fun member hmember => hbytes member (hperm.mem_iff.2 hmember))
    (fun member hmember => hvalues member (hperm.mem_iff.2 hmember))
    (hperm.length_eq ▸ hcount) hroom.inside (by omega)
  have hchecked : checkNames (byName members) = .ok () :=
    checkNames_eq fun member hmember => hvalid member (hperm.mem_iff.1 hmember)
  unfold Parser.parseValue
  simp only [hinput, List.cons_append, List.append_assoc, List.nil_append,
    if_neg hwithin.depth, if_neg hopen, if_true, if_neg (not_deep hcontainer)]
  split
  · rename_i tail hclose
    exact absurd hclose (h.head _ tail)
  · have hread' : parser.parseMembers fuel (depth + 1) []
        ⟨space (body ++ 0x7d :: rest), count + 1, total⟩ = _ := hread
    rw [hread', ok_bind, List.nil_append]
    dsimp only
    rw [(ofMembers_eq_ok_iff _ _).2 ⟨hchecked, rfl⟩, ok_bind, JsonValue.valueCount,
      JsonValue.stringBytes, membersCount_byName, membersBytes_byName, Nat.add_assoc]

/-! ### The loops -/

/-- The value of an element or member, up to the whitespace behind it. -/
theorem CompleteValue.padded {core before after rest : Bytes} {value : JsonValue}
    (h : CompleteValue parser core value) {numbers : JsonNumberSyntax}
    (htext : ValueText numbers core value) (hbefore : Whitespace before) (hafter : Whitespace after)
    (hrest : Follow rest) {fuel depth count total : Nat} {input : Bytes}
    (hinput : space input = space (before ++ (core ++ (after ++ rest))))
    (hutf : validUtf8 core = true) (hsize : core.length < 2 ^ 64)
    (hwithin : WithinAt parser depth value)
    (hroom : Room parser value.valueCount value.stringBytes count total)
    (hfuel : 2 * core.length ≤ fuel) :
    parser.parseValue fuel depth ⟨input, count, total⟩ =
      .ok (value, ⟨after ++ rest, count + value.valueCount, total + value.stringBytes⟩) := by
  rw [space_append hbefore, htext.space_eq] at hinput
  exact h fuel depth input _ count total hinput (hrest.pad hafter) hutf hsize hwithin hroom hfuel

theorem validUtf8_padded {before core rest : Bytes} (hbefore : Whitespace before)
    (hrest : Follow rest) (h : validUtf8 (before ++ (core ++ rest)) = true) :
    validUtf8 core = true ∧ validUtf8 rest = true := by
  rw [validUtf8_of_ascii_append hbefore.ascii] at h
  exact validUtf8_follow hrest h

theorem completeElements_last {before text after : Bytes} {value : JsonValue}
    (hbefore : Whitespace before) (hvalue : ValueText parser.contract.numbers text value)
    (hafter : Whitespace after) (ih : CompleteValue parser text value) :
    CompleteElements parser (before ++ (text ++ after)) [value] := by
  intro fuel depth output input tail count total hinput hutf hsize hwithin hlength hroom hfuel
  obtain _ | fuel := fuel
  · omega
  simp only [List.length_append, List.length_singleton] at hsize hlength hfuel
  rw [itemsCount, itemsBytes, itemsCount, itemsBytes, Nat.add_zero, Nat.add_zero] at hroom ⊢
  rw [List.append_assoc, List.append_assoc] at hinput
  have hchild := ih.padded hvalue hbefore hafter (follow_bracket tail) hinput
    (validUtf8_padded hbefore ((List.append_nil after) ▸ follow_nil.pad hafter) hutf).1
    (by omega) (hwithin value (List.mem_singleton_self value)) hroom
    (show 2 * text.length ≤ fuel by omega)
  rw [Parser.parseElements, if_neg (by omega), hchild, ok_bind]
  dsimp only
  rw [space_append hafter, space_cons (by decide)]
  rfl

theorem completeElements_cons {before text after rest : Bytes} {value : JsonValue}
    {values : List JsonValue} (hbefore : Whitespace before)
    (hvalue : ValueText parser.contract.numbers text value) (hafter : Whitespace after)
    (ih : CompleteValue parser text value) (hrest : CompleteElements parser rest values) :
    CompleteElements parser (before ++ (text ++ (after ++ 0x2c :: rest))) (value :: values) := by
  intro fuel depth output input tail count total hinput hutf hsize hwithin hlength hroom hfuel
  obtain _ | fuel := fuel
  · omega
  simp only [List.length_append, List.length_cons] at hsize hlength hfuel
  rw [List.forall_mem_cons] at hwithin
  rw [itemsCount, itemsBytes] at hroom ⊢
  simp only [List.append_assoc, List.cons_append] at hinput
  obtain ⟨htext, hmore⟩ := validUtf8_padded hbefore ((follow_comma rest).pad hafter) hutf
  rw [validUtf8_of_ascii_append hafter.ascii, validUtf8_cons_ascii (by decide)] at hmore
  have hfirst : Room parser value.valueCount value.stringBytes count total :=
    ⟨by have := hroom.1; omega, by have := hroom.2; omega⟩
  have hnext : Room parser (itemsCount values) (itemsBytes values) (count + value.valueCount)
      (total + value.stringBytes) :=
    ⟨by have := hroom.1; omega, by have := hroom.2; omega⟩
  have hchild := ih.padded hvalue hbefore hafter (follow_comma _) hinput htext (by omega)
    hwithin.1 hfirst (show 2 * text.length ≤ fuel by omega)
  have hread := hrest fuel depth (output ++ [value]) (rest ++ 0x5d :: tail) tail
    (count + value.valueCount) (total + value.stringBytes) rfl hmore (by omega) hwithin.2
    (by simp only [List.length_append, List.length_cons, List.length_nil]; omega) hnext (by omega)
  rw [Parser.parseElements, if_neg (by omega), hchild, ok_bind]
  dsimp only
  rw [space_append hafter, space_cons (by decide)]
  refine hread.trans ?_
  rw [List.append_assoc, List.singleton_append, Nat.add_assoc, Nat.add_assoc]

/-- The name of a member, its colon, and its value. -/
theorem parseMembers_first {first key second third text after rest name : Bytes}
    {value : JsonValue} (hfirst : Whitespace first) (hkey : StringText key name)
    (hsecond : Whitespace second) (hthird : Whitespace third)
    (hvalue : ValueText parser.contract.numbers text value) (hafter : Whitespace after)
    (ih : CompleteValue parser text value) (hrest : Follow rest) (hutf : validUtf8 text = true)
    (hsize : text.length < 2 ^ 64) {fuel depth count total : Nat} {prior : Members}
    (hnames : ((prior ++ [(name, value)]).map Prod.fst).Nodup)
    (hlength : (prior ++ [(name, value)]).length ≤ parser.limits.maxObjectMembers.toNat)
    (hbytes : name.length ≤ parser.limits.maxStringBytes.toNat)
    (hwithin : WithinAt parser depth value)
    (hroom : Room parser value.valueCount (name.length + value.stringBytes) count total)
    (hfuel : 2 * text.length ≤ fuel) :
    parser.parseMembers (fuel + 1) depth (byName prior)
      ⟨space (first ++ (key ++ (second ++ 0x3a :: (third ++ (text ++ (after ++ rest)))))), count,
        total⟩ =
      match space rest with
      | 0x7d :: tail => .ok (byName (prior ++ [(name, value)]),
          ⟨tail, count + value.valueCount, total + (name.length + value.stringBytes)⟩)
      | 0x2c :: tail => parser.parseMembers fuel depth (byName (prior ++ [(name, value)]))
          ⟨space tail, count + value.valueCount, total + (name.length + value.stringBytes)⟩
      | tail => parser.fail "object-comma" (parser.position tail) := by
  obtain ⟨hnodup, hnew⟩ : (prior.map Prod.fst).Nodup ∧ name ∉ prior.map Prod.fst := by
    rw [List.map_append, List.map_singleton, List.nodup_append_comm] at hnames
    exact ⟨(List.nodup_cons.1 hnames).2, (List.nodup_cons.1 hnames).1⟩
  have habsent : ¬ containsName (byName prior) name = true := by
    rw [containsName_eq, ((byName_perm prior).map Prod.fst).mem_iff]
    exact hnew
  have hfits : ¬ (byName prior).length ≥ parser.limits.maxObjectMembers.toNat := by
    rw [(byName_perm prior).length_eq]
    rw [List.length_append, List.length_singleton] at hlength
    omega
  obtain ⟨keytail, hkeyeq⟩ := hkey.head
  have hstart : ∀ more, space (first ++ (key ++ more)) = key ++ more := by
    intro more
    rw [space_append hfirst, hkeyeq, List.cons_append, space_cons (by decide)]
  have hname := parseString_complete hkey
    (second ++ 0x3a :: (third ++ (text ++ (after ++ rest)))) count total hbytes
    (by have := hroom.2; omega)
  have hchild := ih.padded hvalue hthird hafter hrest rfl hutf hsize hwithin
    (show Room parser value.valueCount value.stringBytes count (total + name.length) from
      ⟨hroom.1, by have := hroom.2; omega⟩) hfuel
  rw [Parser.parseMembers, hstart, hname, ok_bind]
  dsimp only
  rw [if_neg habsent, if_neg hfits, space_append hsecond, space_cons (by decide)]
  show (parser.parseValue fuel depth _ >>= _) = _
  rw [hchild, ok_bind]
  dsimp only
  rw [space_append hafter, emplace_byName value hnodup hnew, Nat.add_assoc] <;> rfl

/-- The parts of a member in a valid text are valid. -/
theorem validUtf8_member {first key second third text rest : Bytes} (hfirst : Whitespace first)
    (hsecond : Whitespace second) (hthird : Whitespace third) (hrest : Follow rest)
    (h : validUtf8 (first ++ (key ++ (second ++ 0x3a :: (third ++ (text ++ rest))))) = true) :
    validUtf8 key = true ∧ validUtf8 text = true ∧ validUtf8 rest = true := by
  rw [validUtf8_of_ascii_append hfirst.ascii, ← List.append_assoc] at h
  obtain ⟨hkey, hmore⟩ := validUtf8_split (by decide) h
  rw [← List.append_nil second] at hkey
  rw [validUtf8_cons_ascii (by decide)] at hmore
  exact ⟨(validUtf8_follow (follow_nil.pad hsecond) hkey).1, validUtf8_padded hthird hrest hmore⟩

theorem completeMembers_last {first key second third text after name : Bytes} {value : JsonValue}
    (hfirst : Whitespace first) (hkey : StringText key name) (hsecond : Whitespace second)
    (hthird : Whitespace third) (hvalue : ValueText parser.contract.numbers text value)
    (hafter : Whitespace after) (ih : CompleteValue parser text value) :
    CompleteMembers parser (first ++ (key ++ (second ++ 0x3a :: (third ++ (text ++ after)))))
      [(name, value)] := by
  intro hutf
  obtain ⟨hname, htext, -⟩ := validUtf8_member hfirst hsecond hthird
    ((List.append_nil after) ▸ follow_nil.pad hafter) hutf
  refine ⟨by simpa using hkey.validUtf8 hname, ?_⟩
  intro fuel depth prior tail count total hnames hsize hbytes hwithin hlength hroom hfuel
  obtain _ | fuel := fuel
  · omega
  simp only [List.length_append, List.length_cons] at hsize hfuel
  rw [membersCount, membersBytes, membersCount, membersBytes, Nat.add_zero, Nat.add_zero] at hroom ⊢
  simp only [List.append_assoc, List.cons_append]
  rw [parseMembers_first hfirst hkey hsecond hthird hvalue hafter ih (follow_brace tail) htext
    (by omega) hnames hlength (hbytes _ (List.mem_singleton_self _))
    (hwithin _ (List.mem_singleton_self _)) hroom (by omega), space_cons (by decide)]
  rfl

theorem completeMembers_cons {first key second third text after rest name : Bytes}
    {value : JsonValue} {members : Members} (hfirst : Whitespace first)
    (hkey : StringText key name) (hsecond : Whitespace second) (hthird : Whitespace third)
    (hvalue : ValueText parser.contract.numbers text value) (hafter : Whitespace after)
    (ih : CompleteValue parser text value) (hrest : CompleteMembers parser rest members) :
    CompleteMembers parser
      (first ++ (key ++ (second ++ 0x3a :: (third ++ (text ++ (after ++ 0x2c :: rest))))))
      ((name, value) :: members) := by
  intro hutf
  obtain ⟨hname, htext, hmore⟩ :=
    validUtf8_member hfirst hsecond hthird ((follow_comma rest).pad hafter) hutf
  rw [validUtf8_of_ascii_append hafter.ascii, validUtf8_cons_ascii (by decide)] at hmore
  obtain ⟨hvalid, hread⟩ := hrest hmore
  refine ⟨List.forall_mem_cons.2 ⟨hkey.validUtf8 hname, hvalid⟩, ?_⟩
  intro fuel depth prior tail count total hnames hsize hbytes hwithin hlength hroom hfuel
  obtain _ | fuel := fuel
  · omega
  simp only [List.length_append, List.length_cons] at hsize hfuel
  rw [List.forall_mem_cons] at hbytes hwithin
  rw [membersCount, membersBytes] at hroom ⊢
  rw [List.append_cons] at hnames hlength ⊢
  have hprior : ((prior ++ [(name, value)]).map Prod.fst).Nodup := by
    rw [List.map_append] at hnames
    exact hnames.of_append_left
  have hfits : (prior ++ [(name, value)]).length ≤ parser.limits.maxObjectMembers.toNat := by
    rw [List.length_append] at hlength
    exact (Nat.le_add_right _ _).trans hlength
  have hroomfirst : Room parser value.valueCount (name.length + value.stringBytes) count total :=
    ⟨by have := hroom.1; omega, by have := hroom.2; omega⟩
  have hroomnext : Room parser (membersCount members) (membersBytes members)
      (count + value.valueCount) (total + (name.length + value.stringBytes)) :=
    ⟨by have := hroom.1; omega, by have := hroom.2; omega⟩
  have hnext := hread fuel depth (prior ++ [(name, value)]) tail _ _ hnames (by omega) hbytes.2
    hwithin.2 hlength hroomnext (by omega)
  simp only [List.append_assoc, List.cons_append]
  rw [parseMembers_first hfirst hkey hsecond hthird hvalue hafter ih (follow_comma _) htext
    (by omega) hprior hfits hbytes.1 hwithin.1 hroomfirst (by omega), space_cons (by decide)]
  refine (hnext.trans ?_)
  rw [List.append_assoc, Nat.add_assoc, Nat.add_assoc]
  rfl

/-- Every derivation of a value is accepted. -/
theorem ValueText.complete {core : Bytes} {value : JsonValue}
    (h : ValueText parser.contract.numbers core value) : CompleteValue parser core value := by
  refine @ValueText.rec parser.contract.numbers
    (fun core value _ => CompleteValue parser core value)
    (fun body items _ => CompleteElements parser body items)
    (fun body members _ => CompleteMembers parser body members)
    ?_ ?_ ?_ ?_ ?_ ?_ ?_ ?_ ?_ ?_ ?_ ?_ ?_ core value h
  · -- null
    refine completeValue_scalar rfl (by decide) (by decide) (by decide) rfl rfl ?_
    intro hsize rest hfollow
    exact @literal_complete parser "null" .null rest
  · -- true
    refine completeValue_scalar rfl (by decide) (by decide) (by decide) rfl rfl ?_
    intro hsize rest hfollow
    exact @literal_complete parser "true" (.boolean true) rest
  · -- false
    refine completeValue_scalar rfl (by decide) (by decide) (by decide) rfl rfl ?_
    intro hsize rest hfollow
    exact @literal_complete parser "false" (.boolean false) rest
  · intro number value hform hvalue
    exact completeValue_number hform hvalue
  · intro text decoded htext
    exact completeValue_string htext
  · intro pad hpad
    exact completeValue_emptyArray hpad
  · intro body items hbody ih
    exact completeValue_array hbody ih
  · intro pad hpad
    exact completeValue_emptyObject hpad
  · intro body members hbody hnames ih
    exact completeValue_object hbody hnames ih
  · intro before text after value hbefore hvalue hafter ih
    exact completeElements_last hbefore hvalue hafter ih
  · intro before text after rest value values hbefore hvalue hafter hrest ih ihrest
    exact completeElements_cons hbefore hvalue hafter ih ihrest
  · intro first key second third text after name value hfirst hkey hsecond hthird hvalue hafter ih
    exact completeMembers_last hfirst hkey hsecond hthird hvalue hafter ih
  · intro first key second third text after rest name value members hfirst hkey hsecond hthird
      hvalue hafter hrest ih ihrest
    exact completeMembers_cons hfirst hkey hsecond hthird hvalue hafter ih ihrest

end Completeness

/-! ## The accepted texts -/

theorem JsonText.head {numbers : JsonNumberSyntax} {text : Bytes} {value : JsonValue}
    (h : JsonText numbers text value) : ∀ byte ∈ text.head?, byte.toNat < 0x80 := by
  obtain ⟨before, core, after, rfl, hbefore, hvalue, hafter⟩ := h
  obtain ⟨first, rest, rfl, -, -, -, hfirst⟩ := hvalue.head
  intro byte hbyte
  rcases before with _ | ⟨pad, before⟩
  · obtain rfl := Option.some.inj hbyte
    exact hfirst
  · obtain rfl := Option.some.inj hbyte
    exact hbefore.ascii _ List.mem_cons_self

theorem parse_eq_ok_iff (parser : Parser) {input : Bytes} (hutf : validUtf8 input = true)
    (hsize : input.length < 2 ^ 64) (value : JsonValue) :
    parser.parse input = .ok value ↔
      JsonText parser.contract.numbers input value ∧
      WithinLimits parser.limits parser.contract.depth parser.depthLimit value ∧
      (parser.contract.requireTopLevelObject = true → value.isObject = true) := by
  rw [Parser.parse, bind_eq_ok_iff]
  constructor
  · rintro ⟨⟨root, state⟩, hroot, h⟩
    dsimp only at h
    rw [Parser.fail, Parser.fail, guard_eq_ok_iff, guard_eq_ok_iff] at h
    obtain ⟨hend, hobject, h⟩ := h
    obtain rfl := Except.ok.inj h
    have hstart : InLimits parser { rest := input } := ⟨Nat.zero_le _, Nat.zero_le _⟩
    obtain ⟨pad, core, hrest, hpad, htext, hwithin, htook⟩ :=
      (sound (2 * input.length + 1)).1 _ _ _ _ hstart hroot
    obtain ⟨after, hafter, hspace⟩ := exists_space state.rest
    have hempty : space state.rest = [] := by simpa using hend
    rw [hempty, List.append_nil] at hafter
    refine ⟨⟨pad, core, after, by rw [← hafter]; exact hrest, hpad, htext, hspace⟩, ⟨hwithin, ?_, ?_⟩, ?_⟩
    · have hcount := htook.limits.count
      rwa [htook.count, Nat.zero_add] at hcount
    · have htotal := htook.limits.total
      rwa [htook.total, Nat.zero_add] at htotal
    · intro hrequired
      rw [not_and, Bool.not_eq_false] at hobject
      exact hobject hrequired
  · rintro ⟨⟨before, core, after, rfl, hbefore, htext, hafter⟩, ⟨hwithin, hcount, htotal⟩, hobject⟩
    have hfollow : Follow after := (List.append_nil after) ▸ follow_nil.pad hafter
    have hcore : space (before ++ (core ++ after)) = core ++ after := by
      rw [space_append hbefore, htext.space_eq]
    have hlength : (before ++ (core ++ after)).length =
        before.length + (core.length + after.length) := by
      rw [List.length_append, List.length_append]
    have hroot := htext.complete (2 * (before ++ (core ++ after)).length + 1) 0
      (before ++ (core ++ after)) after 0 0 hcore hfollow (validUtf8_padded hbefore hfollow hutf).1
      (by omega) hwithin ⟨by rwa [Nat.zero_add], by rwa [Nat.zero_add]⟩ (by omega)
    refine ⟨_, hroot, ?_⟩
    have hend : space after = [] := by
      have hspace := space_append hafter []
      rwa [List.append_nil] at hspace
    dsimp only
    rw [hend, if_neg (by simp), if_neg]
    rintro ⟨hrequired, hnot⟩
    rw [hobject hrequired] at hnot
    exact Bool.noConfusion hnot

/-- What is accepted obeys the grammar, the limits and the contract. -/
theorem parseJsonValue_sound {input : Bytes} {limits : JsonLimits} {contract : JsonParseContract}
    {value : JsonValue} (h : parseJsonValue input limits contract = .ok value) :
    validUtf8 input = true ∧ JsonText contract.numbers input value ∧
      WithinLimits limits contract.depth
        (min limits.maxDepth.toNat Parser.contractMaximumDepth) value ∧
      input.length ≤ limits.maxInputBytes.toNat ∧
      (contract.requireTopLevelObject = true → value.isObject = true) := by
  rw [parseJsonValue, guard_eq_ok_iff, guard_eq_ok_iff, not_lt] at h
  obtain ⟨hlength, hbom, h⟩ := h
  have hmax : limits.maxInputBytes.toNat < 2 ^ 64 := limits.maxInputBytes.toNat_lt
  split at h
  · exact absurd h (by simp)
  · rename_i hvalid
    have hutf : validUtf8 input = true := Option.isNone_iff_eq_none.2 hvalid
    obtain ⟨htext, hwithin, hobject⟩ :=
      (parse_eq_ok_iff _ hutf (hlength.trans_lt hmax) value).1 h
    exact ⟨hutf, htext, hwithin, hlength, hobject⟩

/-- What obeys the grammar, the limits and the contract is accepted. -/
theorem parseJsonValue_complete {input : Bytes} {limits : JsonLimits}
    {contract : JsonParseContract} {value : JsonValue} (hutf : validUtf8 input = true)
    (htext : JsonText contract.numbers input value)
    (hwithin : WithinLimits limits contract.depth
      (min limits.maxDepth.toNat Parser.contractMaximumDepth) value)
    (hlength : input.length ≤ limits.maxInputBytes.toNat)
    (hobject : contract.requireTopLevelObject = true → value.isObject = true) :
    parseJsonValue input limits contract = .ok value := by
  rw [parseJsonValue, guard_eq_ok_iff, guard_eq_ok_iff, not_lt]
  have hmax : limits.maxInputBytes.toNat < 2 ^ 64 := limits.maxInputBytes.toNat_lt
  refine ⟨hlength, ?_, ?_⟩
  · -- no text of the grammar begins with a byte order mark
    rintro ⟨-, hmark⟩
    have hhead : input.head? = some 0xef := by
      rcases input with _ | ⟨byte, input⟩
      · simp at hmark
      · rw [List.take_succ_cons, List.cons.injEq] at hmark
        exact congrArg some hmark.1
    exact absurd (htext.head 0xef hhead) (by decide)
  · rw [Option.isNone_iff_eq_none.1 hutf]
    exact (parse_eq_ok_iff ⟨input.length, limits, contract⟩ hutf (hlength.trans_lt hmax) value).2
      ⟨htext, hwithin, hobject⟩

/-- The accepted inputs are the valid UTF-8 texts of the grammar whose value is within the limits
    and, where the contract asks for it, an object. -/
theorem parseJsonValue_eq_ok_iff (input : Bytes) (limits : JsonLimits)
    (contract : JsonParseContract) (value : JsonValue) :
    parseJsonValue input limits contract = .ok value ↔
      validUtf8 input = true ∧ JsonText contract.numbers input value ∧
      WithinLimits limits contract.depth
        (min limits.maxDepth.toNat Parser.contractMaximumDepth) value ∧
      input.length ≤ limits.maxInputBytes.toNat ∧
      (contract.requireTopLevelObject = true → value.isObject = true) := by
  constructor
  · exact parseJsonValue_sound
  · intro ⟨hutf, htext, hwithin, hlength, hobject⟩
    exact parseJsonValue_complete hutf htext hwithin hlength hobject

/-- Grammar and limits do not decide alone: by default the value has to be an object. -/
theorem parseJsonValue_top_level_object :
    ¬ ∀ (input : Bytes) (limits : JsonLimits) (contract : JsonParseContract) (value : JsonValue),
      parseJsonValue input limits contract = .ok value ↔
        validUtf8 input = true ∧ JsonText contract.numbers input value ∧
        WithinLimits limits contract.depth limits.maxDepth.toNat value := by
  intro h
  have hpad : Whitespace [] := by simp [Whitespace]
  have htext : JsonText .exactIntegerValues [0x5b, 0x5d] (.array []) :=
    ⟨[], _, [], rfl, hpad, .emptyArray hpad, hpad⟩
  have hwithin : WithinLimits {} .containers 64 (.array []) :=
    ⟨.array (by decide) (by decide) (by decide) (by simp), by decide, by decide⟩
  have hok := (h [0x5b, 0x5d] {} {} (.array [])).2 ⟨by decide, htext, hwithin⟩
  have hfails : (parseJsonValue [0x5b, 0x5d] {} {}).isOk = false := by decide
  rw [hok] at hfails
  exact Bool.noConfusion hfails

end Cxxlens.Sdk.Json
