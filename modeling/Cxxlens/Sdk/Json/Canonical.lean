import Cxxlens.Sdk.Decimal
import Cxxlens.Sdk.Json.Completeness
import Cxxlens.Sdk.Text

set_option autoImplicit false

/-! # Canonical JSON

The printer `append_canonical_json`, the value that reading its output gives, and the place of its
output in the grammar. -/

namespace Cxxlens.Sdk.Json

open Sorting
open Cxxlens.Sdk.Json.Parser (decimalValue isDigit)

/-! ## The printer -/

/-- `append_integer` of a signed integer -/
def signedText (value : Int64) : Bytes :=
  if value.toInt < 0 then 0x2d :: CanonicalValue.decimal value.toInt.natAbs
  else CanonicalValue.decimal value.toInt.natAbs

mutual

/-- `append_canonical_json` -/
def canonicalJson : JsonValue → Bytes
  | .null => "null"
  | .boolean value => if value = true then "true" else "false"
  | .signedInteger value => signedText value
  | .unsignedInteger value => CanonicalValue.decimal value.toNat
  | .string value => canonicalJsonString value
  | .array items => 0x5b :: (canonicalItems items ++ [0x5d])
  | .object members => 0x7b :: (canonicalMembers members ++ [0x7d])

/-- The elements with the commas between them. -/
def canonicalItems : List JsonValue → Bytes
  | [] => []
  | [item] => canonicalJson item
  | item :: next :: rest => canonicalJson item ++ 0x2c :: canonicalItems (next :: rest)

/-- The members with the commas between them. -/
def canonicalMembers : List (Bytes × JsonValue) → Bytes
  | [] => []
  | [(name, value)] => canonicalJsonString name ++ 0x3a :: canonicalJson value
  | (name, value) :: next :: rest =>
    canonicalJsonString name ++ 0x3a :: (canonicalJson value ++ 0x2c :: canonicalMembers (next :: rest))

end

mutual

/-- The value with its signed integers that are not negative as unsigned ones. -/
def JsonValue.normal : JsonValue → JsonValue
  | .signedInteger value =>
    if value.toInt < 0 then .signedInteger value else .unsignedInteger value.toUInt64
  | .array items => .array (normalItems items)
  | .object members => .object (normalMembers members)
  | value => value

def normalItems : List JsonValue → List JsonValue
  | [] => []
  | item :: rest => item.normal :: normalItems rest

def normalMembers : List (Bytes × JsonValue) → List (Bytes × JsonValue)
  | [] => []
  | (name, value) :: rest => (name, value.normal) :: normalMembers rest

end

theorem normalItems_eq (items : List JsonValue) : normalItems items = items.map JsonValue.normal := by
  induction items with
  | nil => rfl
  | cons item rest ih => rw [normalItems, ih, List.map_cons]

theorem normalMembers_eq (members : Members) :
    normalMembers members = members.map fun member => (member.1, member.2.normal) := by
  induction members with
  | nil => rfl
  | cons member rest ih => rw [normalMembers, ih, List.map_cons]

/-! ## Values of the factories -/

/-- What the factories of `json_value` guarantee: strings and names are valid UTF-8, and the members
    of an object are in the order of their names. -/
inductive WellFormed : JsonValue → Prop where
  | null : WellFormed .null
  | boolean (value : Bool) : WellFormed (.boolean value)
  | signedInteger (value : Int64) : WellFormed (.signedInteger value)
  | unsignedInteger (value : UInt64) : WellFormed (.unsignedInteger value)
  | string {value : Bytes} (h : validUtf8 value = true) : WellFormed (.string value)
  | array {items : List JsonValue} (h : ∀ item ∈ items, WellFormed item) :
      WellFormed (.array items)
  | object {members : Members} (hordered : (members.map Prod.fst).Pairwise (· < ·))
      (hnames : ∀ member ∈ members, validUtf8 member.1 = true)
      (h : ∀ member ∈ members, WellFormed member.2) : WellFormed (.object members)

/-! ## Numbers in the grammar -/

theorem isDigit_of_mem_decimal {value : Nat} {byte : UInt8}
    (h : byte ∈ CanonicalValue.decimal value) : isDigit byte = true := by
  obtain ⟨hlow, hhigh⟩ := isDigit_decimal h
  rw [isDigit, decide_eq_true_iff]
  exact ⟨UInt8.le_iff_toNat_le.2 hlow, UInt8.le_iff_toNat_le.2 hhigh⟩

theorem decimalValue_decimal (value : Nat) : decimalValue (CanonicalValue.decimal value) = value :=
  foldl_decimal_digits value

/-- The number that `append_integer` prints. -/
def printedNumber (minus : Bool) (magnitude : Nat) : Number where
  minus := minus
  integer := CanonicalValue.decimal magnitude
  fraction := none
  exponent := none

theorem printedNumber_wellFormed (minus : Bool) (magnitude : Nat) :
    (printedNumber minus magnitude).WellFormed where
  integer := ⟨decimal_ne_nil _, fun _ => isDigit_of_mem_decimal⟩
  leading := by
    intro ⟨hlength, hhead⟩
    by_cases hzero : magnitude = 0
    · subst hzero
      rw [printedNumber, decimal_of_lt (by decide)] at hlength
      exact absurd hlength (by simp)
    · exact head_decimal magnitude (Nat.pos_of_ne_zero hzero) hhead
  fraction := by
    intro digits hdigits
    exact absurd hdigits (by simp [printedNumber])
  exponent := by
    intro exponent hexponent
    exact absurd hexponent (by simp [printedNumber])

theorem printedNumber_value (minus : Bool) (magnitude : Nat) :
    (printedNumber minus magnitude).value = if minus = true then -(magnitude : ℚ) else magnitude := by
  have hmagnitude : (printedNumber minus magnitude).magnitude = magnitude := by
    simp [Number.magnitude, printedNumber, decimalValue_decimal]
  rw [Number.value, hmagnitude]
  rfl

theorem printedNumber_text (minus : Bool) (magnitude : Nat) :
    (printedNumber minus magnitude).text =
      (if minus = true then [0x2d] else []) ++ CanonicalValue.decimal magnitude := by
  rw [Number.text, printedNumber]
  simp only [Option.elim_none, List.append_nil]

theorem valueText_unsigned (numbers : JsonNumberSyntax) (value : UInt64) :
    ValueText numbers (CanonicalValue.decimal value.toNat) (.unsignedInteger value) := by
  have htext := printedNumber_text false value.toNat
  have hvalue := printedNumber_value false value.toNat
  simp only [Bool.false_eq_true, if_false, List.nil_append] at htext hvalue
  rw [← htext]
  refine .number (printedNumber_wellFormed _ _) ?_
  cases numbers with
  | integerTokens => exact .unsignedToken rfl rfl rfl hvalue
  | exactIntegerValues => exact .unsignedValue hvalue

theorem toNat_toUInt64_of_nonneg {value : Int64} (h : ¬ value.toInt < 0) :
    value.toUInt64.toNat = value.toInt.natAbs := by
  have hcond : value.toInt = _ := BitVec.toInt_eq_toNat_cond value.toBitVec
  have hnat : value.toBitVec.toNat = value.toUInt64.toNat := rfl
  have hlt := value.toUInt64.toNat_lt
  rw [hnat] at hcond
  split_ifs at hcond
  · omega
  · omega

/-- A signed integer that is not negative reads as an unsigned one. -/
theorem valueText_signed (numbers : JsonNumberSyntax) (value : Int64) :
    ValueText numbers (signedText value) (JsonValue.signedInteger value).normal := by
  rw [signedText, JsonValue.normal]
  by_cases hnegative : value.toInt < 0
  · have htext := printedNumber_text true value.toInt.natAbs
    have hvalue := printedNumber_value true value.toInt.natAbs
    have hcast : -((value.toInt.natAbs : ℕ) : ℚ) = value.toInt := by
      rw [Nat.cast_natAbs, abs_of_neg hnegative]
      simp
    rw [if_pos rfl, hcast] at hvalue
    rw [if_pos hnegative, if_pos hnegative]
    simp only [if_true, List.singleton_append] at htext
    rw [← htext]
    refine .number (printedNumber_wellFormed _ _) ?_
    cases numbers with
    | integerTokens => exact .signedToken rfl rfl rfl hvalue
    | exactIntegerValues => exact .signedValue hnegative hvalue
  · rw [if_neg hnegative, if_neg hnegative, ← toNat_toUInt64_of_nonneg hnegative]
    exact valueText_unsigned numbers value.toUInt64

/-! ## Strings in the grammar -/

theorem hexadecimalDigit_hexDigit {value : Nat} (h : value < 16) :
    Parser.hexadecimalDigit (hexDigit value) = some value := by
  interval_cases value <;> rfl

/-- The four digits of `append_json_hex_escape`. -/
theorem quad_hexByte (byte : UInt8) : Quad (0x30 :: 0x30 :: hexByte byte) byte.toNat := by
  have hhigh : byte.toNat / 16 < 16 := by
    have hlt := byte.toNat_lt
    omega
  have hlow : byte.toNat % 16 < 16 := Nat.mod_lt _ (by decide)
  have hquad : Quad [0x30, 0x30, hexDigit (byte.toNat / 16), hexDigit (byte.toNat % 16)]
      (0 * 4096 + 0 * 256 + byte.toNat / 16 * 16 + byte.toNat % 16) :=
    .mk rfl rfl (hexadecimalDigit_hexDigit hhigh) (hexadecimalDigit_hexDigit hlow)
  have hvalue : 0 * 4096 + 0 * 256 + byte.toNat / 16 * 16 + byte.toNat % 16 = byte.toNat := by omega
  rw [hvalue] at hquad
  exact hquad

/-- An escaped byte reads as itself. -/
theorem chars_escapeByte (byte : UInt8) {text decoded : Bytes} (h : Chars text decoded) :
    Chars (escapeByte byte ++ text) (byte :: decoded) := by
  rw [escapeByte]
  split_ifs with hsolidus hquote hbackspace hfeed hline hreturn htab hcontrol
  · subst hsolidus
    exact .escape .reverseSolidus h
  · subst hquote
    exact .escape .quotationMark h
  · subst hbackspace
    exact .escape .backspace h
  · subst hfeed
    exact .escape .formFeed h
  · subst hline
    exact .escape .lineFeed h
  · subst hreturn
    exact .escape .carriageReturn h
  · subst htab
    exact .escape .tab h
  · have hlow : byte.toNat < 0x20 := UInt8.lt_iff_toNat_lt.1 hcontrol
    have hscalar : IsScalar byte.toNat := ⟨by omega, by omega⟩
    have hquad : Quad (0x30 :: 0x30 :: hexByte byte) (scalarOf byte.toNat hscalar).val.toNat := by
      rw [val_scalarOf]
      exact quad_hexByte byte
    have hencode : utf8 [scalarOf byte.toNat hscalar] = [byte] := by
      rw [utf8, List.flatMap_singleton]
      exact encode_one hscalar (by omega)
    have hchars := Chars.unicode hquad h
    rw [hencode] at hchars
    exact hchars
  · exact .unescaped hcontrol hquote hsolidus h

theorem chars_escape (text : Bytes) : Chars (text.flatMap escapeByte) text := by
  induction text with
  | nil => exact .nil
  | cons byte rest ih =>
      rw [List.flatMap_cons]
      exact chars_escapeByte byte ih

theorem canonicalJsonString_eq {value : Bytes} (h : validUtf8 value = true) :
    canonicalJsonString value = 0x22 :: (value.flatMap escapeByte ++ [0x22]) := by
  rw [canonicalJsonString, canonicalJsonEscape, if_neg (by simp [h])]
  rfl

theorem stringText_canonical {value : Bytes} (h : validUtf8 value = true) :
    StringText (canonicalJsonString value) value := by
  rw [canonicalJsonString_eq h]
  exact .mk (chars_escape value)

theorem escapeByte_of_ascii {byte : UInt8} (h : byte.toNat < 0x80) :
    ∀ escaped ∈ escapeByte byte, escaped.toNat < 0x80 := by
  have hquad := (quad_hexByte byte).ascii
  rw [List.forall_mem_cons, List.forall_mem_cons] at hquad
  rw [escapeByte]
  split_ifs
  · exact ascii_lt (by simp)
  · exact ascii_lt (by simp)
  · exact ascii_lt (by simp)
  · exact ascii_lt (by simp)
  · exact ascii_lt (by simp)
  · exact ascii_lt (by simp)
  · exact ascii_lt (by simp)
  · rw [List.forall_mem_append]
    exact ⟨ascii_lt (by simp), hquad.2.2⟩
  · simpa using h

theorem escapeByte_of_not_ascii {byte : UInt8} (h : ¬ byte.toNat < 0x80) :
    escapeByte byte = [byte] := by
  have hne : ∀ {other : UInt8}, other.toNat < 0x80 → byte ≠ other := by
    rintro other hother rfl
    exact h hother
  have hcontrol : ¬ byte < 0x20 := by
    rw [UInt8.lt_iff_toNat_lt]
    intro hlt
    exact h (hlt.trans (by decide))
  rw [escapeByte, if_neg (hne (by decide)), if_neg (hne (by decide)), if_neg (hne (by decide)),
    if_neg (hne (by decide)), if_neg (hne (by decide)), if_neg (hne (by decide)),
    if_neg (hne (by decide)), if_neg hcontrol]

/-- Escapes keep a text valid. The bytes of a scalar are taken over one by one, so those that stand in
    front belong to the claim. -/
theorem validUtf8_escape (text : Bytes) : ∀ front, validUtf8 (front ++ text) = true →
    validUtf8 (front ++ text.flatMap escapeByte) = true := by
  induction text with
  | nil =>
      intro front h
      exact h
  | cons byte rest ih =>
      intro front h
      rw [List.flatMap_cons]
      by_cases hascii : byte.toNat < 0x80
      · obtain ⟨hfront, hback⟩ := validUtf8_split hascii h
        rw [validUtf8_cons_ascii hascii] at hback
        refine validUtf8_append hfront ?_
        rw [validUtf8_of_ascii_append (escapeByte_of_ascii hascii)]
        exact ih [] hback
      · rw [List.append_cons] at h
        rw [escapeByte_of_not_ascii hascii, ← List.append_assoc]
        exact ih _ h

theorem validUtf8_canonicalJsonString {value : Bytes} (h : validUtf8 value = true) :
    validUtf8 (canonicalJsonString value) = true := by
  rw [canonicalJsonString_eq h, validUtf8_cons_ascii (by decide)]
  exact validUtf8_append (validUtf8_escape value [] h) (by decide)

/-! ## Values in the grammar -/

theorem elementsText_canonical {numbers : JsonNumberSyntax} (item : JsonValue)
    (rest : List JsonValue)
    (h : ∀ value ∈ item :: rest, ValueText numbers (canonicalJson value) value.normal) :
    ElementsText numbers (canonicalItems (item :: rest)) (normalItems (item :: rest)) := by
  have hpad : Whitespace [] := by simp [Whitespace]
  induction rest generalizing item with
  | nil =>
      have hlast := ElementsText.last hpad (h item List.mem_cons_self) hpad
      rw [List.nil_append, List.append_nil] at hlast
      exact hlast
  | cons next rest ih =>
      rw [List.forall_mem_cons] at h
      exact .cons hpad h.1 hpad (ih next h.2)

theorem membersText_canonical {numbers : JsonNumberSyntax} (member : Bytes × JsonValue)
    (rest : Members) (hnames : ∀ entry ∈ member :: rest, validUtf8 entry.1 = true)
    (h : ∀ entry ∈ member :: rest, ValueText numbers (canonicalJson entry.2) entry.2.normal) :
    MembersText numbers (canonicalMembers (member :: rest)) (normalMembers (member :: rest)) := by
  have hpad : Whitespace [] := by simp [Whitespace]
  induction rest generalizing member with
  | nil =>
      have hkey := stringText_canonical (hnames member List.mem_cons_self)
      have hlast := MembersText.last hpad hkey hpad hpad (h member List.mem_cons_self) hpad
      rw [List.append_nil] at hlast
      exact hlast
  | cons next rest ih =>
      rw [List.forall_mem_cons] at h hnames
      exact .cons hpad (stringText_canonical hnames.1) hpad hpad h.1 hpad (ih next hnames.2 h.2)

/-- The order of a map does not change when its values do. -/
theorem byName_normalMembers {members : Members}
    (h : (members.map Prod.fst).Pairwise (· < ·)) :
    byName (normalMembers members) = normalMembers members ∧
      ((normalMembers members).map Prod.fst).Nodup := by
  have hnames : (normalMembers members).map Prod.fst = members.map Prod.fst := by
    rw [normalMembers_eq, List.map_map]
    rfl
  have hsorted : ((normalMembers members).map Prod.fst).Pairwise (· < ·) := by
    rw [hnames]
    exact h
  refine ⟨?_, hsorted.imp fun hlt => ne_of_lt hlt⟩
  exact sortBy_eq_self byName_compares ((List.pairwise_map.1 hsorted).imp fun hlt => hlt.le)

/-- What is printed is a text of the grammar. -/
theorem WellFormed.valueText {value : JsonValue} (h : WellFormed value)
    (numbers : JsonNumberSyntax) : ValueText numbers (canonicalJson value) value.normal := by
  have hpad : Whitespace [] := by simp [Whitespace]
  induction value using JsonValue.induct with
  | null => exact .nullLiteral
  | boolean value =>
      cases value with
      | true => exact .trueLiteral
      | false => exact .falseLiteral
  | signed value => exact valueText_signed numbers value
  | unsigned value => exact valueText_unsigned numbers value
  | string value =>
      cases h with
      | string hvalid => exact .string (stringText_canonical hvalid)
  | array items ih =>
      have hitems : ∀ item ∈ items, WellFormed item := by
        cases h with
        | array hitems => exact hitems
      have htexts : ∀ item ∈ items, ValueText numbers (canonicalJson item) item.normal := by
        intro item hitem
        exact ih item hitem (hitems item hitem)
      cases items with
      | nil => exact .emptyArray hpad
      | cons item rest => exact .array (elementsText_canonical item rest htexts)
  | object members ih =>
      obtain ⟨hordered, hnames, hmembers⟩ : (members.map Prod.fst).Pairwise (· < ·) ∧
          (∀ member ∈ members, validUtf8 member.1 = true) ∧
            ∀ member ∈ members, WellFormed member.2 := by
        cases h with
        | object hordered hnames hmembers => exact ⟨hordered, hnames, hmembers⟩
      have htexts : ∀ entry ∈ members,
          ValueText numbers (canonicalJson entry.2) entry.2.normal := by
        intro entry hentry
        exact ih entry hentry (hmembers entry hentry)
      obtain ⟨hsorted, hnodup⟩ := byName_normalMembers hordered
      cases members with
      | nil => exact .emptyObject hpad
      | cons member rest =>
          have hbody := membersText_canonical member rest hnames htexts
          have hobject := ValueText.object hbody hnodup
          rw [hsorted] at hobject
          exact hobject

end Cxxlens.Sdk.Json
