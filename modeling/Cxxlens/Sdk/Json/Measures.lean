import Cxxlens.Sdk.Json.CanonicalRoundTrip

set_option autoImplicit false

/-! # The length of canonical JSON

With integer tokens no text of a value is shorter than the canonical one; and the values and the
bytes of strings that a value has are no more than its canonical text has bytes. So where the limits
are one number, a value whose canonical text is within it is within all of them but the depth. -/

namespace Cxxlens.Sdk.Json

open Cxxlens.Sdk.Json.Parser (decimalValue)

/-! ## Numbers -/

/-- The digits of a number are not fewer than those of its value. -/
theorem length_decimal_decimalValue_le {digits : Bytes} (h : Digits digits) :
    (CanonicalValue.decimal (decimalValue digits)).length ≤ digits.length :=
  length_decimal_le (List.length_pos_iff.2 h.1) (decimalValue_lt h.2)

theorem length_number_le {number : Number} {value : JsonValue} (hform : number.WellFormed)
    (h : Denotes .integerTokens number value) :
    (canonicalJson value).length ≤ number.text.length := by
  obtain ⟨minus, integer, fraction, exponent⟩ := number
  have hdigits := length_decimal_decimalValue_le hform.integer
  cases h with
  | unsignedToken hfraction hexponent hsign hvalue =>
      cases hfraction
      cases hexponent
      cases hsign
      rw [value_of_integer, if_neg (by simp)] at hvalue
      have hnat : decimalValue integer = _ := Nat.cast_injective hvalue
      rw [hnat] at hdigits
      simpa [canonicalJson, Number.text] using hdigits
  | @signedToken _ value hfraction hexponent hsign hvalue =>
      cases hfraction
      cases hexponent
      cases hsign
      rw [value_of_integer, if_pos rfl] at hvalue
      have hint : -(decimalValue integer : ℤ) = value.toInt := by exact_mod_cast hvalue
      have hnat : decimalValue integer = value.toInt.natAbs := by omega
      rw [hnat] at hdigits
      have htext : (Number.mk true integer none none).text.length = integer.length + 1 := by
        simp [Number.text]
      rw [canonicalJson, signedText, htext]
      -- the sign is printed or dropped
      split_ifs
      · exact Nat.succ_le_succ hdigits
      · exact hdigits.trans (Nat.le_succ _)

/-! ## Strings -/

theorem length_escapeByte_le (byte : UInt8) : (escapeByte byte).length ≤ 6 := by
  revert byte
  set_option maxRecDepth 20000 in decide

/-- The bytes of a scalar that is not ASCII stand for themselves. -/
theorem length_escape_utf8_le (scalar : Char) :
    ((utf8 [scalar]).flatMap escapeByte).length ≤ 6 := by
  have hmax := (scalar_lt scalar).1
  have hhigh : ∀ value : Nat, 0x80 ≤ value → value < 256 →
      escapeByte (UInt8.ofNat value) = [UInt8.ofNat value] := by
    intro value hlow hlt
    refine escapeByte_of_not_ascii ?_
    rw [UInt8.toNat_ofNat_of_lt' hlt]
    omega
  rw [← appendUtf8_eq, Parser.appendUtf8]
  generalize scalar.val.toNat = point at hmax
  split_ifs with hone htwo hthree
  · simpa using length_escapeByte_le (UInt8.ofNat point)
  · simp only [List.flatMap_cons, List.flatMap_nil, hhigh (0xc0 + point / 64) (by omega) (by omega),
      hhigh (0x80 + point % 64) (by omega) (by omega)]
    simp
  · simp only [List.flatMap_cons, List.flatMap_nil, hhigh (0xe0 + point / 4096) (by omega) (by omega),
      hhigh (0x80 + point / 64 % 64) (by omega) (by omega),
      hhigh (0x80 + point % 64) (by omega) (by omega)]
    simp
  · simp only [List.flatMap_cons, List.flatMap_nil, hhigh (0xf0 + point / 262144) (by omega) (by omega),
      hhigh (0x80 + point / 4096 % 64) (by omega) (by omega),
      hhigh (0x80 + point / 64 % 64) (by omega) (by omega),
      hhigh (0x80 + point % 64) (by omega) (by omega)]
    simp

theorem Quad.length {quad : Bytes} {codePoint : Nat} (h : Quad quad codePoint) :
    quad.length = 4 := by
  cases h with
  | mk => rfl

theorem length_escapeByte_escape {escaped value : UInt8} (h : Escape escaped value) :
    (escapeByte value).length ≤ 2 := by
  cases h with
  | quotationMark | reverseSolidus | solidus | backspace | formFeed | lineFeed | carriageReturn
  | tab => decide

theorem Chars.length_escape_le {text decoded : Bytes} (h : Chars text decoded) :
    (decoded.flatMap escapeByte).length ≤ text.length := by
  induction h with
  | nil => simp
  | @unescaped byte text decoded hcontrol hquote hescape hrest ih =>
      have hself : escapeByte byte = [byte] := by
        have hlow : ∀ other : UInt8, other < 0x20 → byte ≠ other := by
          rintro other hother rfl
          exact hcontrol hother
        simp [escapeByte, hescape, hquote, hcontrol, hlow 0x08 (by decide), hlow 0x0c (by decide),
          hlow 0x0a (by decide), hlow 0x0d (by decide), hlow 0x09 (by decide)]
      rw [List.flatMap_cons, hself, List.length_append, List.length_singleton, List.length_cons]
      omega
  | escape hescape hrest ih =>
      have hlength := length_escapeByte_escape hescape
      rw [List.flatMap_cons, List.length_append, List.length_cons, List.length_cons]
      omega
  | @unicode quad text decoded scalar hquad hrest ih =>
      have hlength := length_escape_utf8_le scalar
      have hquads := hquad.length
      rw [List.flatMap_append, List.length_append]
      simp only [List.length_cons, List.length_append, hquads]
      omega
  | @surrogates high low text decoded a b scalar hhigh hlow ha hb hscalar hrest ih =>
      have hlength := length_escape_utf8_le scalar
      have hfirst := hhigh.length
      have hsecond := hlow.length
      rw [List.flatMap_append, List.length_append]
      simp only [List.length_cons, List.length_append, hfirst, hsecond]
      omega

theorem StringText.length_le {text value : Bytes} (h : StringText text value) :
    (canonicalJsonString value).length ≤ text.length := by
  cases h with
  | mk hchars =>
      have hlength := hchars.length_escape_le
      unfold canonicalJsonString canonicalJsonEscape
      have hquote : (ascii "\"").length = 1 := rfl
      split_ifs
      · simp [hquote]
      · simp only [List.length_append, List.length_cons, List.length_nil, hquote]
        omega

/-! ## Values -/

/-- The elements with a comma or the bracket behind each. -/
theorem length_canonicalItems (item : JsonValue) (rest : List JsonValue) :
    (canonicalItems (item :: rest)).length + 1 =
      ((item :: rest).map fun item => (canonicalJson item).length + 1).sum := by
  induction rest generalizing item with
  | nil => simp [canonicalItems]
  | cons next rest ih =>
      have hrest := ih next
      rw [canonicalItems, List.map_cons, List.sum_cons, ← hrest]
      simp
      omega

/-- The members likewise. -/
theorem length_canonicalMembers (member : Bytes × JsonValue) (rest : Members) :
    (canonicalMembers (member :: rest)).length + 1 =
      ((member :: rest).map fun member =>
        (canonicalJsonString member.1).length + (canonicalJson member.2).length + 2).sum := by
  induction rest generalizing member with
  | nil =>
      simp [canonicalMembers]
      omega
  | cons next rest ih =>
      have hrest := ih next
      rw [canonicalMembers, List.map_cons, List.sum_cons, ← hrest]
      simp
      omega

/-- **No text of a value is shorter than its canonical text.** -/
theorem ValueText.length_le {text : Bytes} {value : JsonValue}
    (h : ValueText .integerTokens text value) : (canonicalJson value).length ≤ text.length := by
  -- for elements and members with the separator behind each
  refine @ValueText.rec .integerTokens
    (fun text value _ => (canonicalJson value).length ≤ text.length)
    (fun body items _ => items ≠ [] ∧
      (items.map fun item => (canonicalJson item).length + 1).sum ≤ body.length + 1)
    (fun body members _ => members ≠ [] ∧ (members.map fun member =>
      (canonicalJsonString member.1).length + (canonicalJson member.2).length + 2).sum ≤
        body.length + 1)
    ?_ ?_ ?_ ?_ ?_ ?_ ?_ ?_ ?_ ?_ ?_ ?_ ?_ text value h
  · exact le_rfl
  · exact le_rfl
  · exact le_rfl
  · intro number value hform hvalue
    exact length_number_le hform hvalue
  · intro text decoded htext
    exact htext.length_le
  · intro pad hpad
    simp [canonicalJson, canonicalItems]
  · intro body items hbody ih
    obtain ⟨hne, hsum⟩ := ih
    obtain ⟨item, rest, rfl⟩ := List.exists_cons_of_ne_nil hne
    have hitems := length_canonicalItems item rest
    rw [canonicalJson]
    simp only [List.length_cons, List.length_append]
    omega
  · intro pad hpad
    simp [canonicalJson, canonicalMembers]
  · intro body members hbody hnames ih
    obtain ⟨hne, hsum⟩ := ih
    have hperm := byName_perm members
    have hsame := (hperm.map fun member : Bytes × JsonValue =>
      (canonicalJsonString member.1).length + (canonicalJson member.2).length + 2).sum_eq
    obtain ⟨member, rest, hcons⟩ := List.exists_cons_of_ne_nil
      (fun hnil : byName members = [] => hne (List.perm_nil.1 (hnil ▸ hperm).symm))
    rw [hcons] at hsame
    have hmembers := length_canonicalMembers member rest
    rw [hcons, canonicalJson]
    simp only [List.length_cons, List.length_append]
    omega
  · intro before text after value hbefore hvalue hafter ih
    refine ⟨by simp, ?_⟩
    simp only [List.map_cons, List.map_nil, List.sum_cons, List.sum_nil, List.length_append]
    omega
  · intro before text after rest value values hbefore hvalue hafter hrest ih ihrest
    refine ⟨by simp, ?_⟩
    have hsum := ihrest.2
    rw [List.map_cons, List.sum_cons]
    simp only [List.length_append, List.length_cons]
    omega
  · intro first key second third text after name value hfirst hkey hsecond hthird hvalue hafter ih
    have hname := hkey.length_le
    refine ⟨by simp, ?_⟩
    simp only [List.map_cons, List.map_nil, List.sum_cons, List.sum_nil, List.length_append,
      List.length_cons]
    omega
  · intro first key second third text after rest name value members hfirst hkey hsecond hthird
      hvalue hafter hrest ih ihrest
    have hname := hkey.length_le
    have hsum := ihrest.2
    refine ⟨by simp, ?_⟩
    rw [List.map_cons, List.sum_cons]
    simp only [List.length_append, List.length_cons]
    omega

/-- The canonical text of an accepted value is not longer than the text that was accepted. -/
theorem length_canonicalJson_le {input : Bytes} {limits : JsonLimits}
    {contract : JsonParseContract} {value : JsonValue} (hnumbers : contract.numbers = .integerTokens)
    (h : parseJsonValue input limits contract = .ok value) :
    (canonicalJson value).length ≤ input.length := by
  obtain ⟨-, ⟨before, core, after, rfl, -, hvalue, -⟩, -⟩ := parseJsonValue_sound h
  rw [hnumbers] at hvalue
  have hlength := hvalue.length_le
  simp only [List.length_append]
  omega

/-! ## Counts -/

theorem length_le_escape (text : Bytes) : text.length ≤ (text.flatMap escapeByte).length := by
  induction text with
  | nil => simp
  | cons byte rest ih =>
      have hne : 1 ≤ (escapeByte byte).length := by
        revert byte
        set_option maxRecDepth 20000 in decide
      rw [List.flatMap_cons, List.length_append, List.length_cons]
      omega

theorem length_add_two_le_canonicalJsonString {value : Bytes} (h : validUtf8 value = true) :
    value.length + 2 ≤ (canonicalJsonString value).length := by
  have hlength := length_le_escape value
  rw [canonicalJsonString_eq h]
  simp only [List.length_cons, List.length_append, List.length_nil]
  omega

theorem decimal_length_pos (value : Nat) : 0 < (CanonicalValue.decimal value).length :=
  List.length_pos_iff.2 (decimal_ne_nil value)

theorem itemsCount_eq (items : List JsonValue) :
    itemsCount items = (items.map JsonValue.valueCount).sum := by
  induction items with
  | nil => rfl
  | cons item rest ih => rw [itemsCount, ih, List.map_cons, List.sum_cons]

theorem itemsBytes_eq (items : List JsonValue) :
    itemsBytes items = (items.map JsonValue.stringBytes).sum := by
  induction items with
  | nil => rfl
  | cons item rest ih => rw [itemsBytes, ih, List.map_cons, List.sum_cons]

/-- A value has no more values in it, and no more bytes in its strings, than its text has bytes. -/
theorem WellFormed.counts_le {value : JsonValue} (h : WellFormed value) :
    value.valueCount ≤ (canonicalJson value).length ∧
      value.stringBytes ≤ (canonicalJson value).length := by
  induction h with
  | null => exact ⟨by decide, by decide⟩
  | boolean value => cases value <;> exact ⟨by decide, by decide⟩
  | signedInteger value =>
      have hpos := decimal_length_pos value.toInt.natAbs
      rw [canonicalJson, signedText]
      split_ifs
      · exact ⟨Nat.succ_pos _, Nat.zero_le _⟩
      · exact ⟨hpos, Nat.zero_le _⟩
  | unsignedInteger value => exact ⟨decimal_length_pos _, Nat.zero_le _⟩
  | @string value hvalid =>
      have hlength := length_add_two_le_canonicalJsonString hvalid
      refine ⟨?_, ?_⟩
      · rw [canonicalJson, JsonValue.valueCount]
        · omega
        · exact fun _ => JsonValue.noConfusion
        · exact fun _ => JsonValue.noConfusion
      · rw [canonicalJson, JsonValue.stringBytes]
        omega
  | @array items hitems ih =>
      cases items with
      | nil => exact ⟨by decide, by decide⟩
      | cons item rest =>
          have hlength := length_canonicalItems item rest
          have hcounts : ((item :: rest).map JsonValue.valueCount).sum ≤
              ((item :: rest).map fun item => (canonicalJson item).length + 1).sum :=
            List.sum_le_sum fun item hitem => Nat.le_succ_of_le (ih item hitem).1
          have hbytes : ((item :: rest).map JsonValue.stringBytes).sum ≤
              ((item :: rest).map fun item => (canonicalJson item).length + 1).sum :=
            List.sum_le_sum fun item hitem => Nat.le_succ_of_le (ih item hitem).2
          rw [← itemsCount_eq] at hcounts
          rw [← itemsBytes_eq] at hbytes
          rw [canonicalJson, JsonValue.valueCount, JsonValue.stringBytes]
          simp only [List.length_cons, List.length_append] at hlength ⊢
          refine ⟨?_, ?_⟩
          · omega
          · omega
  | @object members hordered hnames hmembers ih =>
      cases members with
      | nil => exact ⟨by decide, by decide⟩
      | cons member rest =>
          have hlength := length_canonicalMembers member rest
          have hcounts : ((member :: rest).map fun member => member.2.valueCount).sum ≤
              ((member :: rest).map fun member => (canonicalJsonString member.1).length +
                (canonicalJson member.2).length + 2).sum := by
            refine List.sum_le_sum fun member hmember => ?_
            have hvalue := (ih member hmember).1
            omega
          have hbytes : ((member :: rest).map fun member =>
              member.1.length + member.2.stringBytes).sum ≤
              ((member :: rest).map fun member => (canonicalJsonString member.1).length +
                (canonicalJson member.2).length + 2).sum := by
            refine List.sum_le_sum fun member hmember => ?_
            have hvalue := (ih member hmember).2
            have hname := length_add_two_le_canonicalJsonString (hnames member hmember)
            omega
          rw [← membersCount_eq] at hcounts
          rw [← membersBytes_eq] at hbytes
          rw [canonicalJson, JsonValue.valueCount, JsonValue.stringBytes]
          simp only [List.length_cons, List.length_append] at hlength ⊢
          refine ⟨?_, ?_⟩
          · omega
          · omega

theorem WellFormed.ordered {members : Members} (h : WellFormed (.object members)) :
    (members.map Prod.fst).Pairwise (· < ·) := by
  cases h with
  | object hordered hnames hvalues => exact hordered

theorem WellFormed.member {members : Members} (h : WellFormed (.object members))
    {member : Bytes × JsonValue} (hmember : member ∈ members) : WellFormed member.2 := by
  cases h with
  | object hordered hnames hvalues => exact hvalues member hmember

/-- A value that is within the limits at a depth is within them further out. -/
theorem Within.outward {limits : JsonLimits} {semantics : JsonDepthSemantics}
    {depthLimit depth : Nat} {value : JsonValue} (h : Within limits semantics depthLimit depth value)
    {outer : Nat} (houter : outer ≤ depth) : Within limits semantics depthLimit outer value := by
  induction h generalizing outer with
  | null hdepth => exact .null fun hall => houter.trans (hdepth hall)
  | boolean hdepth => exact .boolean fun hall => houter.trans (hdepth hall)
  | signedInteger hdepth => exact .signedInteger fun hall => houter.trans (hdepth hall)
  | unsignedInteger hdepth => exact .unsignedInteger fun hall => houter.trans (hdepth hall)
  | string hdepth hbytes => exact .string (fun hall => houter.trans (hdepth hall)) hbytes
  | array hdepth hcontainer hcount hitems ih =>
      exact .array (fun hall => houter.trans (hdepth hall))
        (fun hin => houter.trans_lt (hcontainer hin)) hcount
        fun item hitem => ih item hitem (Nat.succ_le_succ houter)
  | object hdepth hcontainer hcount hnames hvalues ih =>
      exact .object (fun hall => houter.trans (hdepth hall))
        (fun hin => houter.trans_lt (hcontainer hin)) hcount hnames
        fun member hmember => ih member hmember (Nat.succ_le_succ houter)

theorem length_member_le {members : Members} {member : Bytes × JsonValue} (h : member ∈ members) :
    (canonicalJson member.2).length ≤ (canonicalJson (.object members)).length := by
  cases members with
  | nil => simp at h
  | cons head rest =>
      have hlength := length_canonicalMembers head rest
      have hsum := List.single_le_sum (l := (head :: rest).map fun member =>
        (canonicalJsonString member.1).length + (canonicalJson member.2).length + 2)
        (fun _ _ => Nat.zero_le _) _ (List.mem_map_of_mem h)
      rw [canonicalJson]
      simp only [List.length_cons, List.length_append] at hlength ⊢
      omega

theorem length_item_le {items : List JsonValue} {item : JsonValue} (h : item ∈ items) :
    (canonicalJson item).length ≤ (canonicalJson (.array items)).length := by
  cases items with
  | nil => simp at h
  | cons head rest =>
      have hlength := length_canonicalItems head rest
      have hsum := List.single_le_sum (l := (head :: rest).map fun item =>
        (canonicalJson item).length + 1) (fun _ _ => Nat.zero_le _) _ (List.mem_map_of_mem h)
      rw [canonicalJson]
      simp only [List.length_cons, List.length_append] at hlength ⊢
      omega

/-! ## Heights -/

mutual

/-- How many containers are around the part of a value that is furthest in. -/
def JsonValue.height : JsonValue → Nat
  | .array items => itemsHeight items
  | .object members => membersHeight members
  | _ => 0

def itemsHeight : List JsonValue → Nat
  | [] => 0
  | item :: rest => max (item.height + 1) (itemsHeight rest)

def membersHeight : List (Bytes × JsonValue) → Nat
  | [] => 0
  | (_, value) :: rest => max (value.height + 1) (membersHeight rest)

end

theorem itemsHeight_le_iff {items : List JsonValue} {bound : Nat} :
    itemsHeight items ≤ bound ↔ ∀ item ∈ items, item.height + 1 ≤ bound := by
  induction items with
  | nil => simp [itemsHeight]
  | cons item rest ih => rw [itemsHeight, max_le_iff, ih, List.forall_mem_cons]

theorem membersHeight_le_iff {members : Members} {bound : Nat} :
    membersHeight members ≤ bound ↔ ∀ member ∈ members, member.2.height + 1 ≤ bound := by
  induction members with
  | nil => simp [membersHeight]
  | cons member rest ih => rw [membersHeight, max_le_iff, ih, List.forall_mem_cons]

theorem height_item_le {items : List JsonValue} {item : JsonValue} (h : item ∈ items) :
    item.height + 1 ≤ itemsHeight items :=
  itemsHeight_le_iff.1 le_rfl item h

theorem height_member_le {members : Members} {member : Bytes × JsonValue} (h : member ∈ members) :
    member.2.height + 1 ≤ membersHeight members :=
  membersHeight_le_iff.1 le_rfl member h

/-- A value within the limits at a depth reaches no further in than the depth limit. -/
theorem Within.height_le {limits : JsonLimits} {depthLimit depth : Nat} {value : JsonValue}
    (h : Within limits .allValues depthLimit depth value) : depth + value.height ≤ depthLimit := by
  induction h with
  | null hdepth | boolean hdepth | signedInteger hdepth | unsignedInteger hdepth
  | string hdepth _ => exact hdepth rfl
  | @array depth items hdepth hcontainer hcount hitems ih =>
      have houter := hdepth rfl
      have hinner : itemsHeight items ≤ depthLimit - depth := by
        rw [itemsHeight_le_iff]
        intro item hitem
        have hone := ih item hitem
        omega
      rw [JsonValue.height]
      omega
  | @object depth members hdepth hcontainer hcount hnames hvalues ih =>
      have houter := hdepth rfl
      have hinner : membersHeight members ≤ depthLimit - depth := by
        rw [membersHeight_le_iff]
        intro member hmember
        have hone := ih member hmember
        omega
      rw [JsonValue.height]
      omega

theorem length_le_canonicalItems (items : List JsonValue) :
    items.length ≤ (canonicalItems items).length + 1 := by
  cases items with
  | nil => simp
  | cons item rest =>
      have hlength := length_canonicalItems item rest
      have hcount : ∀ others : List JsonValue,
          others.length ≤ (others.map fun item => (canonicalJson item).length + 1).sum := by
        intro others
        induction others with
        | nil => simp
        | cons other others ih =>
            rw [List.length_cons, List.map_cons, List.sum_cons]
            omega
      have hitems := hcount (item :: rest)
      omega

theorem length_name_le {members : Members} (hnames : ∀ member ∈ members, validUtf8 member.1 = true)
    {member : Bytes × JsonValue} (h : member ∈ members) :
    member.1.length ≤ (canonicalJson (.object members)).length := by
  cases members with
  | nil => simp at h
  | cons head rest =>
      have hlength := length_canonicalMembers head rest
      have hsum := List.single_le_sum (l := (head :: rest).map fun member =>
        (canonicalJsonString member.1).length + (canonicalJson member.2).length + 2)
        (fun _ _ => Nat.zero_le _) _ (List.mem_map_of_mem h)
      have hname := length_add_two_le_canonicalJsonString (hnames member h)
      rw [canonicalJson]
      simp only [List.length_cons, List.length_append] at hlength ⊢
      omega

theorem length_le_canonicalMembers (members : Members) :
    members.length ≤ (canonicalMembers members).length + 1 := by
  cases members with
  | nil => simp
  | cons member rest =>
      have hlength := length_canonicalMembers member rest
      have hcount : ∀ others : Members, others.length ≤ (others.map fun member =>
          (canonicalJsonString member.1).length + (canonicalJson member.2).length + 2).sum := by
        intro others
        induction others with
        | nil => simp
        | cons other others ih =>
            rw [List.length_cons, List.map_cons, List.sum_cons]
            omega
      have hmembers := hcount (member :: rest)
      omega

/-- Limits that allow every size up to one number. -/
structure JsonLimits.Allow (limits : JsonLimits) (size : Nat) : Prop where
  elements : size ≤ limits.maxArrayElements.toNat
  members : size ≤ limits.maxObjectMembers.toNat
  strings : size ≤ limits.maxStringBytes.toNat

/-- A value whose text is short is within the limits where it does not reach too far in. -/
theorem WellFormed.within {value : JsonValue} (h : WellFormed value) {limits : JsonLimits}
    {size depthLimit depth : Nat} (hallow : limits.Allow size)
    (hlength : (canonicalJson value).length ≤ size) (hheight : depth + value.height ≤ depthLimit) :
    Within limits .allValues depthLimit depth value := by
  induction h generalizing depth with
  | null => exact .null fun _ => hheight
  | boolean value => exact .boolean fun _ => hheight
  | signedInteger value => exact .signedInteger fun _ => hheight
  | unsignedInteger value => exact .unsignedInteger fun _ => hheight
  | @string value hvalid =>
      have hbytes := length_add_two_le_canonicalJsonString hvalid
      have hstrings := hallow.strings
      rw [canonicalJson] at hlength
      exact .string (fun _ => hheight) (by omega)
  | @array items hitems ih =>
      rw [JsonValue.height] at hheight
      refine .array (fun _ => (Nat.le_add_right _ _).trans hheight) (fun heq => by simp at heq) ?_ ?_
      · have hcount := length_le_canonicalItems items
        have helements := hallow.elements
        rw [canonicalJson] at hlength
        simp only [List.length_cons, List.length_append, List.length_nil] at hlength
        omega
      · intro item hitem
        refine ih item hitem ((length_item_le hitem).trans hlength) ?_
        have hone := height_item_le hitem
        omega
  | @object members hordered hnames hvalues ih =>
      rw [JsonValue.height] at hheight
      refine .object (fun _ => (Nat.le_add_right _ _).trans hheight) (fun heq => by simp at heq) ?_ ?_ ?_
      · have hcount := length_le_canonicalMembers members
        have hallowed := hallow.members
        rw [canonicalJson] at hlength
        simp only [List.length_cons, List.length_append, List.length_nil] at hlength
        omega
      · intro member hmember
        exact ((length_name_le hnames hmember).trans hlength).trans hallow.strings
      · intro member hmember
        refine ih member hmember ((length_member_le hmember).trans hlength) ?_
        have hone := height_member_le hmember
        omega

/-- The elements of an array, with commas between them. -/
theorem canonicalItems_eq (items : List JsonValue) :
    canonicalItems items = List.intercalate [0x2c] (items.map canonicalJson) := by
  induction items with
  | nil => rfl
  | cons item rest ih =>
      cases rest with
      | nil => simp [canonicalItems]
      | cons next rest =>
          rw [canonicalItems, ih, List.map_cons, List.map_cons, List.map_cons,
            List.intercalate_cons_cons]
          simp

theorem WellFormed.normal {value : JsonValue} (h : WellFormed value) : WellFormed value.normal := by
  induction h with
  | null => exact .null
  | boolean value => exact .boolean value
  | signedInteger value =>
      unfold JsonValue.normal
      split_ifs
      · exact .signedInteger value
      · exact .unsignedInteger _
  | unsignedInteger value => exact .unsignedInteger value
  | string hvalid => exact .string hvalid
  | array hitems ih =>
      refine .array ?_
      rw [normalItems_eq]
      intro item hitem
      obtain ⟨old, hold, rfl⟩ := List.mem_map.1 hitem
      exact ih old hold
  | object hordered hnames hmembers ih =>
      rw [JsonValue.normal, normalMembers_eq]
      refine .object ?_ ?_ ?_
      · rw [List.map_map]
        exact hordered
      · intro member hmember
        obtain ⟨old, hold, rfl⟩ := List.mem_map.1 hmember
        exact hnames old hold
      · intro member hmember
        obtain ⟨old, hold, rfl⟩ := List.mem_map.1 hmember
        exact ih old hold

end Cxxlens.Sdk.Json
