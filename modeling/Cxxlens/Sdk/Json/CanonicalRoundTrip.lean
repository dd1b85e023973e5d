import Cxxlens.Sdk.Json.Canonical

set_option autoImplicit false

/-! # Printing and reading

What is printed is read back, up to the type of integers that are not negative; what was read prints
to a text that stays the same from then on; and the size that a value keeps, where it is known, is the
length of what it prints. -/

namespace Cxxlens.Sdk.Json

open Fallible Sorting

/-! ## The printed text is valid -/

theorem validUtf8_decimal (value : Nat) : validUtf8 (CanonicalValue.decimal value) = true := by
  refine validUtf8_of_ascii fun byte hbyte => ?_
  obtain ⟨-, hhigh⟩ := isDigit_decimal hbyte
  omega

theorem validUtf8_canonicalItems {items : List JsonValue}
    (h : ∀ item ∈ items, validUtf8 (canonicalJson item) = true) :
    validUtf8 (canonicalItems items) = true := by
  induction items with
  | nil => rfl
  | cons item rest ih =>
      rw [List.forall_mem_cons] at h
      cases rest with
      | nil => exact h.1
      | cons next rest =>
          refine validUtf8_append h.1 ?_
          rw [validUtf8_cons_ascii (by decide)]
          exact ih h.2

theorem validUtf8_canonicalMembers {members : Members}
    (hnames : ∀ member ∈ members, validUtf8 member.1 = true)
    (h : ∀ member ∈ members, validUtf8 (canonicalJson member.2) = true) :
    validUtf8 (canonicalMembers members) = true := by
  induction members with
  | nil => rfl
  | cons member rest ih =>
      rw [List.forall_mem_cons] at h hnames
      have hname := validUtf8_canonicalJsonString hnames.1
      cases rest with
      | nil =>
          refine validUtf8_append hname ?_
          rw [validUtf8_cons_ascii (by decide)]
          exact h.1
      | cons next rest =>
          refine validUtf8_append hname ?_
          rw [validUtf8_cons_ascii (by decide)]
          refine validUtf8_append h.1 ?_
          rw [validUtf8_cons_ascii (by decide)]
          exact ih hnames.2 h.2

theorem validUtf8_bracketed {first last : UInt8} {body : Bytes} (hfirst : first.toNat < 0x80)
    (hlast : last.toNat < 0x80) (h : validUtf8 body = true) :
    validUtf8 (first :: (body ++ [last])) = true := by
  rw [validUtf8_cons_ascii hfirst]
  refine validUtf8_append h ?_
  rw [validUtf8_cons_ascii hlast]
  rfl

theorem WellFormed.validUtf8 {value : JsonValue} (h : WellFormed value) :
    Sdk.validUtf8 (canonicalJson value) = true := by
  induction h with
  | null => decide
  | boolean value => cases value <;> decide
  | signedInteger value =>
      rw [canonicalJson, signedText]
      split_ifs
      · rw [validUtf8_cons_ascii (by decide)]
        exact validUtf8_decimal _
      · exact validUtf8_decimal _
  | unsignedInteger value => exact validUtf8_decimal _
  | string h => exact validUtf8_canonicalJsonString h
  | array h ih => exact validUtf8_bracketed (by decide) (by decide) (validUtf8_canonicalItems ih)
  | object hordered hnames h ih =>
      exact validUtf8_bracketed (by decide) (by decide) (validUtf8_canonicalMembers hnames ih)

/-! ## The value that is read -/

/-- Integers print alike, whatever their type. -/
theorem canonicalJson_normal (value : JsonValue) : canonicalJson value.normal = canonicalJson value := by
  induction value using JsonValue.induct with
  | null | boolean | unsigned | string => rfl
  | signed value =>
      rw [JsonValue.normal]
      split_ifs with hnegative
      · rfl
      · rw [canonicalJson, canonicalJson, signedText, if_neg hnegative,
          toNat_toUInt64_of_nonneg hnegative]
  | array items ih =>
      have hitems : canonicalItems (normalItems items) = canonicalItems items := by
        induction items with
        | nil => rfl
        | cons item rest ihrest =>
            rw [List.forall_mem_cons] at ih
            have hrest := ihrest ih.2
            cases rest with
            | nil => exact ih.1
            | cons next rest =>
                show canonicalJson item.normal ++ 0x2c :: canonicalItems (normalItems (next :: rest)) = _
                rw [ih.1, hrest]
                rfl
      rw [JsonValue.normal, canonicalJson, canonicalJson, hitems]
  | object members ih =>
      have hmembers : canonicalMembers (normalMembers members) = canonicalMembers members := by
        induction members with
        | nil => rfl
        | cons member rest ihrest =>
            rw [List.forall_mem_cons] at ih
            have hrest := ihrest ih.2
            cases rest with
            | nil =>
                show canonicalJsonString member.1 ++ 0x3a :: canonicalJson member.2.normal = _
                rw [ih.1]
                rfl
            | cons next rest =>
                show canonicalJsonString member.1 ++ 0x3a :: (canonicalJson member.2.normal ++
                  0x2c :: canonicalMembers (normalMembers (next :: rest))) = _
                rw [ih.1, hrest]
                rfl
      rw [JsonValue.normal, canonicalJson, canonicalJson, hmembers]

theorem valueCount_normal (value : JsonValue) : value.normal.valueCount = value.valueCount := by
  induction value using JsonValue.induct with
  | null | boolean | unsigned | string => rfl
  | signed value =>
      rw [JsonValue.normal]
      split_ifs <;> rfl
  | array items ih =>
      have hitems : itemsCount (normalItems items) = itemsCount items := by
        induction items with
        | nil => rfl
        | cons item rest ihrest =>
            rw [List.forall_mem_cons] at ih
            rw [normalItems, itemsCount, itemsCount, ih.1, ihrest ih.2]
      rw [JsonValue.normal, JsonValue.valueCount, JsonValue.valueCount, hitems]
  | object members ih =>
      have hmembers : membersCount (normalMembers members) = membersCount members := by
        induction members with
        | nil => rfl
        | cons member rest ihrest =>
            rw [List.forall_mem_cons] at ih
            rw [normalMembers, membersCount, membersCount, ih.1, ihrest ih.2]
      rw [JsonValue.normal, JsonValue.valueCount, JsonValue.valueCount, hmembers]

theorem stringBytes_normal (value : JsonValue) : value.normal.stringBytes = value.stringBytes := by
  induction value using JsonValue.induct with
  | null | boolean | unsigned | string => rfl
  | signed value =>
      rw [JsonValue.normal]
      split_ifs <;> rfl
  | array items ih =>
      have hitems : itemsBytes (normalItems items) = itemsBytes items := by
        induction items with
        | nil => rfl
        | cons item rest ihrest =>
            rw [List.forall_mem_cons] at ih
            rw [normalItems, itemsBytes, itemsBytes, ih.1, ihrest ih.2]
      rw [JsonValue.normal, JsonValue.stringBytes, JsonValue.stringBytes, hitems]
  | object members ih =>
      have hmembers : membersBytes (normalMembers members) = membersBytes members := by
        induction members with
        | nil => rfl
        | cons member rest ihrest =>
            rw [List.forall_mem_cons] at ih
            rw [normalMembers, membersBytes, membersBytes, ih.1, ihrest ih.2]
      rw [JsonValue.normal, JsonValue.stringBytes, JsonValue.stringBytes, hmembers]

theorem Within.normal {limits : JsonLimits} {semantics : JsonDepthSemantics} {depthLimit depth : Nat}
    {value : JsonValue} (h : Within limits semantics depthLimit depth value) :
    Within limits semantics depthLimit depth value.normal := by
  induction h with
  | null hdepth => exact .null hdepth
  | boolean hdepth => exact .boolean hdepth
  | signedInteger hdepth =>
      rw [JsonValue.normal]
      split_ifs
      · exact .signedInteger hdepth
      · exact .unsignedInteger hdepth
  | unsignedInteger hdepth => exact .unsignedInteger hdepth
  | string hdepth hbytes => exact .string hdepth hbytes
  | array hdepth hcontainer hcount hitems ih =>
      rw [JsonValue.normal, normalItems_eq]
      refine .array hdepth hcontainer ?_ ?_
      · rwa [List.length_map]
      · intro item hitem
        obtain ⟨old, hold, rfl⟩ := List.mem_map.1 hitem
        exact ih old hold
  | object hdepth hcontainer hcount hnames hvalues ih =>
      rw [JsonValue.normal, normalMembers_eq]
      refine .object hdepth hcontainer ?_ ?_ ?_
      · rwa [List.length_map]
      · intro member hmember
        obtain ⟨old, hold, rfl⟩ := List.mem_map.1 hmember
        exact hnames old hold
      · intro member hmember
        obtain ⟨old, hold, rfl⟩ := List.mem_map.1 hmember
        exact ih old hold

/-- The limits and the contract admit a value: its measures and the length of its canonical text are
    within the limits, and it is an object where the contract asks for one. -/
structure Admits (limits : JsonLimits) (contract : JsonParseContract) (value : JsonValue) : Prop where
  within : WithinLimits limits contract.depth
    (min limits.maxDepth.toNat Parser.contractMaximumDepth) value
  length : (canonicalJson value).length ≤ limits.maxInputBytes.toNat
  object : contract.requireTopLevelObject = true → value.isObject = true

/-- **What is printed is read back.** -/
theorem WellFormed.parse {value : JsonValue} (h : WellFormed value) {limits : JsonLimits}
    {contract : JsonParseContract} (hadmits : Admits limits contract value) :
    parseJsonValue (canonicalJson value) limits contract = .ok value.normal := by
  have hpad : Whitespace [] := by simp [Whitespace]
  obtain ⟨⟨hwithin, hcount, hbytes⟩, hlength, hobject⟩ := hadmits
  refine parseJsonValue_complete h.validUtf8 ?_ ?_ hlength ?_
  · refine ⟨[], canonicalJson value, [], ?_, hpad, h.valueText _, hpad⟩
    rw [List.append_nil, List.nil_append]
  · refine ⟨hwithin.normal, ?_, ?_⟩
    · rwa [valueCount_normal]
    · rwa [stringBytes_normal]
  · intro hrequired
    have hvalue := hobject hrequired
    cases value with
    | object members => rfl
    | _ => exact absurd hvalue (by simp [JsonValue.isObject])

/-! ## The value of an accepted text -/

/-- A name stands where it stood, or sorted: the members are the same. -/
theorem wellFormed_byName {members : Members} (hnames : (members.map Prod.fst).Nodup)
    (hvalid : ∀ member ∈ members, validUtf8 member.1 = true)
    (h : ∀ member ∈ members, WellFormed member.2) : WellFormed (.object (byName members)) := by
  refine .object ?_ ?_ ?_
  · exact List.pairwise_map.2 (sortBy_pairwise_lt byName_compares hnames)
  · intro member hmember
    exact hvalid member ((byName_perm members).mem_iff.1 hmember)
  · intro member hmember
    exact h member ((byName_perm members).mem_iff.1 hmember)

/-- The value of a valid text has valid strings and its members in order. -/
theorem ValueText.wellFormed {numbers : JsonNumberSyntax} {text : Bytes} {value : JsonValue}
    (h : ValueText numbers text value) (hutf : validUtf8 text = true) : WellFormed value := by
  -- for elements and members likewise
  refine @ValueText.rec numbers
    (fun text value _ => validUtf8 text = true → WellFormed value)
    (fun body items _ => validUtf8 body = true → ∀ item ∈ items, WellFormed item)
    (fun body members _ => validUtf8 body = true →
      (∀ member ∈ members, validUtf8 member.1 = true) ∧ ∀ member ∈ members, WellFormed member.2)
    ?_ ?_ ?_ ?_ ?_ ?_ ?_ ?_ ?_ ?_ ?_ ?_ ?_ text value h hutf
  · intro _
    exact .null
  · intro _
    exact .boolean true
  · intro _
    exact .boolean false
  · intro number value _ hvalue _
    cases hvalue with
    | unsignedToken => exact .unsignedInteger _
    | signedToken => exact .signedInteger _
    | unsignedValue => exact .unsignedInteger _
    | signedValue => exact .signedInteger _
  · intro text decoded htext hutf
    exact .string (htext.validUtf8 hutf)
  · intro pad _ _
    exact .array (by simp)
  · intro body items _ ih hutf
    rw [validUtf8_cons_ascii (by decide)] at hutf
    exact .array (ih (validUtf8_split (by decide) hutf).1)
  · intro pad _ _
    exact .object .nil (by simp) (by simp)
  · intro body members _ hnames ih hutf
    rw [validUtf8_cons_ascii (by decide)] at hutf
    obtain ⟨hvalid, hmembers⟩ := ih (validUtf8_split (by decide) hutf).1
    exact wellFormed_byName hnames hvalid hmembers
  · intro before text after value hbefore _ hafter ih hutf
    have hfollow : Follow after := (List.append_nil after) ▸ follow_nil.pad hafter
    intro item hitem
    obtain rfl := List.mem_singleton.1 hitem
    exact ih (validUtf8_padded hbefore hfollow hutf).1
  · intro before text after rest value values hbefore _ hafter _ ih ihrest hutf
    obtain ⟨htext, hback⟩ := validUtf8_padded hbefore ((follow_comma rest).pad hafter) hutf
    rw [validUtf8_of_ascii_append hafter.ascii, validUtf8_cons_ascii (by decide)] at hback
    exact List.forall_mem_cons.2 ⟨ih htext, ihrest hback⟩
  · intro first key second third text after name value hfirst hkey hsecond hthird _ hafter ih hutf
    have hfollow : Follow after := (List.append_nil after) ▸ follow_nil.pad hafter
    obtain ⟨hname, htext, -⟩ := validUtf8_member hfirst hsecond hthird hfollow hutf
    refine ⟨?_, ?_⟩
    · intro member hmember
      obtain rfl := List.mem_singleton.1 hmember
      exact hkey.validUtf8 hname
    · intro member hmember
      obtain rfl := List.mem_singleton.1 hmember
      exact ih htext
  · intro first key second third text after rest name value members hfirst hkey hsecond hthird _
      hafter _ ih ihrest hutf
    obtain ⟨hname, htext, hback⟩ := validUtf8_member hfirst hsecond hthird
      ((follow_comma rest).pad hafter) hutf
    rw [validUtf8_of_ascii_append hafter.ascii, validUtf8_cons_ascii (by decide)] at hback
    obtain ⟨hvalid, hmembers⟩ := ihrest hback
    exact ⟨List.forall_mem_cons.2 ⟨hkey.validUtf8 hname, hvalid⟩,
      List.forall_mem_cons.2 ⟨ih htext, hmembers⟩⟩

theorem wellFormed_of_parse {input : Bytes} {limits : JsonLimits} {contract : JsonParseContract}
    {value : JsonValue} (h : parseJsonValue input limits contract = .ok value) :
    WellFormed value := by
  obtain ⟨hutf, ⟨before, core, after, rfl, hbefore, hvalue, hafter⟩, -⟩ := parseJsonValue_sound h
  have hfollow : Follow after := (List.append_nil after) ▸ follow_nil.pad hafter
  exact hvalue.wellFormed (validUtf8_padded hbefore hfollow hutf).1

/-! ## Sizes -/

/-- `unavailable_canonical_size` -/
def unavailableCanonicalSize : SizeT := 0xffffffffffffffff

/-- `add_canonical_size` -/
def addCanonicalSize (total amount : SizeT) : SizeT :=
  if total = unavailableCanonicalSize ∨ amount ≥ unavailableCanonicalSize - total then
    unavailableCanonicalSize
  else total + amount

/-- `canonical_byte_width` -/
def canonicalByteWidth (byte : UInt8) : SizeT :=
  if byte = 0x22 ∨ byte = 0x5c ∨ byte = 0x08 ∨ byte = 0x0c ∨ byte = 0x0a ∨ byte = 0x0d ∨
      byte = 0x09 then 2
  else if byte < 0x20 then 6
  else 1

/-- The loop of `canonical_integer_size`, in at most `fuel` rounds. -/
def integerSizeLoop : Nat → SizeT → UInt64 → SizeT
  | 0, size, _ => size
  | fuel + 1, size, remaining =>
    if remaining / 10 ≠ 0 then integerSizeLoop fuel (size + 1) (remaining / 10) else size + 1

/-- `canonical_integer_size` of an unsigned integer -/
def unsignedIntegerSize (value : UInt64) : SizeT :=
  integerSizeLoop 20 0 value

/-- `canonical_integer_size` of a signed integer -/
def signedIntegerSize (value : Int64) : SizeT :=
  if value < 0 then integerSizeLoop 20 1 ((-(value + 1)).toUInt64 + 1)
  else integerSizeLoop 20 0 value.toUInt64

/-- The size of a string in `json_value::string`, and of a name in `json_value::object`. -/
def stringSize (value : Bytes) : SizeT :=
  value.foldl (fun total byte => addCanonicalSize total (canonicalByteWidth byte)) 2

/-- The loop of `json_value::array`. -/
def itemsSize : Bool → SizeT → List SizeT → SizeT
  | _, total, [] => total
  | first, total, size :: rest =>
    let total := if first = true then total else addCanonicalSize total 1
    itemsSize false (addCanonicalSize total size) rest

/-- The loop of `json_value::object`; a name comes with the size of its value. -/
def membersSize : Bool → SizeT → List (Bytes × SizeT) → SizeT
  | _, total, [] => total
  | first, total, (name, size) :: rest =>
    let total := if first = true then total else addCanonicalSize total 1
    let total := addCanonicalSize total (stringSize name)
    membersSize false (addCanonicalSize (addCanonicalSize total 1) size) rest

/-- `json_value::canonical_byte_size` -/
def canonicalByteSize (size : SizeT) : Option SizeT :=
  if size = unavailableCanonicalSize then none else some size

/-- A `json_value` from its factories, with the size it keeps. Copies keep both; where `moves` is set,
    values that have been moved from may take part, which hold anything and have no size. -/
inductive Built (moves : Bool) : JsonValue → SizeT → Prop where
  | null : Built moves .null 4
  | boolean (value : Bool) : Built moves (.boolean value) (if value = true then 4 else 5)
  | signedInteger (value : Int64) : Built moves (.signedInteger value) (signedIntegerSize value)
  | unsignedInteger (value : UInt64) : Built moves (.unsignedInteger value) (unsignedIntegerSize value)
  | string {text : Bytes} {value : JsonValue} (h : JsonValue.ofString text = .ok value) :
      Built moves value (stringSize text)
  | array {children : List (JsonValue × SizeT)}
      (h : ∀ child ∈ children, Built moves child.1 child.2) :
      Built moves (.array (children.map Prod.fst)) (itemsSize true 2 (children.map Prod.snd))
  | object {children : List (Bytes × JsonValue × SizeT)} {value : JsonValue}
      (hordered : (children.map Prod.fst).Pairwise (· < ·))
      (h : ∀ child ∈ children, Built moves child.2.1 child.2.2)
      (hvalue : JsonValue.ofMembers (children.map fun child => (child.1, child.2.1)) = .ok value) :
      Built moves value (membersSize true 2 (children.map fun child => (child.1, child.2.2)))
  | movedFrom (hmoves : moves = true) (value : JsonValue) :
      Built moves value unavailableCanonicalSize

/-- A size that is known is this number. -/
def Counts (size : SizeT) (count : Nat) : Prop :=
  size ≠ unavailableCanonicalSize → size.toNat = count

theorem Counts.add {total amount : SizeT} {m n : Nat} (htotal : Counts total m)
    (hamount : Counts amount n) : Counts (addCanonicalSize total amount) (m + n) := by
  intro hknown
  unfold addCanonicalSize at hknown ⊢
  have hmax : unavailableCanonicalSize.toNat = 2 ^ 64 - 1 := rfl
  split_ifs at hknown ⊢ with hcase
  · exact absurd rfl hknown
  · rw [not_or, ge_iff_le, UInt64.not_le] at hcase
    obtain ⟨hne, hlt⟩ := hcase
    have hm := htotal hne
    have htotallt := total.toNat_lt
    have hle : total ≤ unavailableCanonicalSize := by
      rw [UInt64.le_iff_toNat_le, hmax]
      omega
    rw [UInt64.lt_iff_toNat_lt, UInt64.toNat_sub_of_le _ _ hle, hmax] at hlt
    have hn := hamount (by
      rintro rfl
      rw [hmax] at hlt
      omega)
    rw [UInt64.toNat_add, hm, hn]
    omega

theorem integerSizeLoop_eq {fuel : Nat} {size : SizeT} {remaining : UInt64} (hpos : 0 < fuel)
    (hfuel : remaining.toNat < 10 ^ fuel) (hsize : size.toNat + fuel < 2 ^ 64) :
    (integerSizeLoop fuel size remaining).toNat =
      size.toNat + (CanonicalValue.decimal remaining.toNat).length := by
  induction fuel generalizing size remaining with
  | zero => exact absurd hpos (lt_irrefl 0)
  | succ fuel ih =>
      have hten : (remaining / 10).toNat = remaining.toNat / 10 := UInt64.toNat_div ..
      have hnext : (size + 1).toNat = size.toNat + 1 := by
        rw [UInt64.toNat_add]
        show (size.toNat + 1) % 2 ^ 64 = size.toNat + 1
        omega
      rw [integerSizeLoop]
      split_ifs with hmore
      · have hle : 10 ≤ remaining.toNat := by
          by_contra hlt
          refine hmore (UInt64.toNat_inj.1 ?_)
          rw [hten]
          show remaining.toNat / 10 = 0
          omega
        have hrest : (remaining / 10).toNat < 10 ^ fuel := by
          rw [hten, Nat.div_lt_iff_lt_mul (by decide)]
          exact hfuel
        have hfuelpos : 0 < fuel := by
          rw [hten] at hrest
          rcases fuel with _ | fuel
          · omega
          · exact Nat.succ_pos _
        rw [ih hfuelpos hrest (by omega), hnext, hten, decimal_of_le hle, List.length_append,
          List.length_singleton]
        omega
      · have hlt : remaining.toNat < 10 := by
          have hzero := congrArg UInt64.toNat (not_not.1 hmore)
          rw [hten] at hzero
          change remaining.toNat / 10 = 0 at hzero
          omega
        rw [hnext, decimal_of_lt hlt, List.length_singleton]

theorem unsignedIntegerSize_eq (value : UInt64) :
    (unsignedIntegerSize value).toNat = (CanonicalValue.decimal value.toNat).length := by
  have hlt := value.toNat_lt
  rw [unsignedIntegerSize, integerSizeLoop_eq (by decide) (by omega) (by decide)]
  exact Nat.zero_add _

theorem signedIntegerSize_eq (value : Int64) :
    (signedIntegerSize value).toNat = (signedText value).length := by
  rw [signedIntegerSize, signedText]
  have hlt : value < 0 ↔ value.toInt < 0 := Int64.lt_iff_toInt_lt
  by_cases hnegative : value.toInt < 0
  · -- the magnitude is found without leaving the signed range
    have hmagnitude : ((-(value + 1)).toUInt64 + 1).toNat = value.toInt.natAbs := by
      have hcond : value.toInt = _ := BitVec.toInt_eq_toNat_cond value.toBitVec
      have hbits : ((-(value + 1)).toUInt64 + 1).toNat =
          (-(value.toBitVec + 1#64) + 1#64).toNat := rfl
      have hneg : -(value.toBitVec + 1#64) + 1#64 = -value.toBitVec := by
        rw [BitVec.neg_add, BitVec.sub_add_cancel]
      have hlt := value.toBitVec.isLt
      rw [hbits, hneg, BitVec.toNat_neg]
      split_ifs at hcond
      · omega
      · omega
    have hbound : value.toInt.natAbs < 10 ^ 20 := by
      have hlow := value.le_toInt
      omega
    rw [if_pos (hlt.2 hnegative), if_pos hnegative,
      integerSizeLoop_eq (by decide) (by rw [hmagnitude]; exact hbound) (by decide), hmagnitude, List.length_cons]
    exact Nat.add_comm _ _
  · have hbound := value.toUInt64.toNat_lt
    rw [if_neg (fun h => hnegative (hlt.1 h)), if_neg hnegative,
      integerSizeLoop_eq (by decide) (by omega) (by decide), toNat_toUInt64_of_nonneg hnegative]
    exact Nat.zero_add _

theorem canonicalByteWidth_eq (byte : UInt8) :
    (canonicalByteWidth byte).toNat = (escapeByte byte).length := by
  revert byte
  set_option maxRecDepth 20000 in decide

theorem counts_stringSize {value : Bytes} (h : validUtf8 value = true) :
    Counts (stringSize value) (canonicalJsonString value).length := by
  have hloop : ∀ (bytes : Bytes) (total : SizeT) (count : Nat), Counts total count →
      Counts (bytes.foldl (fun total byte => addCanonicalSize total (canonicalByteWidth byte)) total)
        (count + (bytes.flatMap escapeByte).length) := by
    intro bytes
    induction bytes with
    | nil =>
        intro total count htotal
        exact htotal
    | cons byte rest ih =>
        intro total count htotal
        rw [List.foldl_cons, List.flatMap_cons, List.length_append, ← Nat.add_assoc]
        exact ih _ _ (htotal.add fun _ => canonicalByteWidth_eq byte)
  have hlength : (canonicalJsonString value).length = 2 + (value.flatMap escapeByte).length := by
    rw [canonicalJsonString_eq h, List.length_cons, List.length_append, List.length_singleton]
    omega
  rw [hlength]
  exact hloop value 2 2 fun _ => rfl

/-- The length of the elements behind an opening bracket, commas included. -/
theorem counts_itemsSize {children : List (JsonValue × SizeT)}
    (h : ∀ child ∈ children, Counts child.2 (canonicalJson child.1).length) {total : SizeT}
    {count : Nat} (htotal : Counts total count) :
    Counts (itemsSize true total (children.map Prod.snd))
      (count + (canonicalItems (children.map Prod.fst)).length) := by
  induction children generalizing total count with
  | nil => exact htotal
  | cons child rest ih =>
      rw [List.forall_mem_cons] at h
      have hchild := htotal.add h.1
      cases rest with
      | nil => exact hchild
      | cons next rest =>
          have hcomma : Counts (addCanonicalSize (addCanonicalSize total child.2) 1)
              (count + (canonicalJson child.1).length + 1) := hchild.add fun _ => rfl
          have hrest := ih h.2 hcomma
          have hlength : count + (canonicalItems ((child :: next :: rest).map Prod.fst)).length =
              count + (canonicalJson child.1).length + 1 +
                (canonicalItems ((next :: rest).map Prod.fst)).length := by
            simp only [List.map_cons, canonicalItems, List.length_append, List.length_cons]
            omega
          rw [hlength]
          exact hrest

theorem membersSize_first (total : SizeT) (name : Bytes) (size : SizeT) (rest : List (Bytes × SizeT)) :
    membersSize true total ((name, size) :: rest) = membersSize false
      (addCanonicalSize (addCanonicalSize (addCanonicalSize total (stringSize name)) 1) size) rest :=
  rfl

theorem membersSize_next (total : SizeT) (entry : Bytes × SizeT) (rest : List (Bytes × SizeT)) :
    membersSize false total (entry :: rest) =
      membersSize true (addCanonicalSize total 1) (entry :: rest) :=
  rfl

theorem counts_membersSize {children : List (Bytes × JsonValue × SizeT)}
    (hnames : ∀ child ∈ children, validUtf8 child.1 = true)
    (h : ∀ child ∈ children, Counts child.2.2 (canonicalJson child.2.1).length) {total : SizeT}
    {count : Nat} (htotal : Counts total count) :
    Counts (membersSize true total (children.map fun child => (child.1, child.2.2)))
      (count + (canonicalMembers (children.map fun child => (child.1, child.2.1))).length) := by
  induction children generalizing total count with
  | nil => exact htotal
  | cons child rest ih =>
      rw [List.forall_mem_cons] at h hnames
      have hname := htotal.add (counts_stringSize hnames.1)
      have hcolon : Counts (addCanonicalSize (addCanonicalSize total (stringSize child.1)) 1)
          (count + (canonicalJsonString child.1).length + 1) := hname.add fun _ => rfl
      have hchild := hcolon.add h.1
      cases rest with
      | nil =>
          have hlength : count + (canonicalMembers ([child].map fun child =>
              (child.1, child.2.1))).length = count + (canonicalJsonString child.1).length + 1 +
                (canonicalJson child.2.1).length := by
            simp only [List.map_cons, List.map_nil, canonicalMembers, List.length_append,
              List.length_cons]
            omega
          rw [hlength]
          exact hchild
      | cons next rest =>
          have hcomma : Counts (addCanonicalSize (addCanonicalSize (addCanonicalSize
              (addCanonicalSize total (stringSize child.1)) 1) child.2.2) 1)
              (count + (canonicalJsonString child.1).length + 1 +
                (canonicalJson child.2.1).length + 1) := hchild.add fun _ => rfl
          have hrest := ih hnames.2 h.2 hcomma
          have hlength : count + (canonicalMembers ((child :: next :: rest).map fun child =>
              (child.1, child.2.1))).length = count + (canonicalJsonString child.1).length + 1 +
                (canonicalJson child.2.1).length + 1 + (canonicalMembers ((next :: rest).map
                  fun child => (child.1, child.2.1))).length := by
            simp only [List.map_cons, canonicalMembers, List.length_append, List.length_cons]
            omega
          rw [hlength, List.map_cons, membersSize_first, List.map_cons, membersSize_next,
            ← List.map_cons (f := fun child : Bytes × JsonValue × SizeT => (child.1, child.2.2))]
          exact hrest

theorem validUtf8_of_ofString {text : Bytes} {value : JsonValue}
    (h : JsonValue.ofString text = .ok value) : validUtf8 text = true := by
  rw [JsonValue.ofString] at h
  split at h
  · exact absurd h (by simp)
  · rename_i hvalid
    exact Option.isNone_iff_eq_none.2 hvalid

theorem validUtf8_of_checkNames {members : Members} (h : checkNames members = .ok ()) :
    ∀ member ∈ members, validUtf8 member.1 = true := by
  induction members with
  | nil => simp
  | cons member rest ih =>
      rw [checkNames] at h
      split at h
      · exact absurd h (by simp)
      · rename_i hvalid
        exact List.forall_mem_cons.2 ⟨Option.isNone_iff_eq_none.2 hvalid, ih h⟩

theorem counts_two : Counts 2 2 := by
  intro _
  rfl

/-- **A size that is known is the length of the canonical text.** -/
theorem Built.counts {moves : Bool} {value : JsonValue} {size : SizeT} (h : Built moves value size) :
    Counts size (canonicalJson value).length := by
  induction h with
  | null =>
      intro _
      decide
  | boolean value =>
      intro _
      revert value
      decide
  | signedInteger value =>
      intro _
      exact signedIntegerSize_eq value
  | unsignedInteger value =>
      intro _
      exact unsignedIntegerSize_eq value
  | string h =>
      obtain rfl := ofString_eq_ok h
      exact counts_stringSize (validUtf8_of_ofString h)
  | @array children h ih =>
      have hlength : (canonicalJson (.array (children.map Prod.fst))).length =
          2 + (canonicalItems (children.map Prod.fst)).length := by
        rw [canonicalJson, List.length_cons, List.length_append, List.length_singleton]
        omega
      rw [hlength]
      exact counts_itemsSize ih counts_two
  | @object children value hordered h hvalue ih =>
      obtain ⟨hnames, rfl⟩ := (ofMembers_eq_ok_iff _ _).1 hvalue
      have hvalid : ∀ child ∈ children, validUtf8 child.1 = true := by
        intro child hchild
        exact validUtf8_of_checkNames hnames _ (List.mem_map_of_mem hchild)
      have hlength : (canonicalJson (.object (children.map fun child =>
          (child.1, child.2.1)))).length =
          2 + (canonicalMembers (children.map fun child => (child.1, child.2.1))).length := by
        rw [canonicalJson, List.length_cons, List.length_append, List.length_singleton]
        omega
      rw [hlength]
      exact counts_membersSize hvalid ih counts_two
  | movedFrom hmoves value =>
      intro hknown
      exact absurd rfl hknown

/-- Values of the factories are well formed as long as nothing was moved away. -/
theorem Built.wellFormed {value : JsonValue} {size : SizeT} (h : Built false value size) :
    WellFormed value := by
  induction h with
  | null => exact .null
  | boolean value => exact .boolean value
  | signedInteger value => exact .signedInteger value
  | unsignedInteger value => exact .unsignedInteger value
  | string h =>
      obtain rfl := ofString_eq_ok h
      exact .string (validUtf8_of_ofString h)
  | array h ih =>
      refine .array ?_
      intro item hitem
      obtain ⟨child, hchild, rfl⟩ := List.mem_map.1 hitem
      exact ih child hchild
  | @object children value hordered h hvalue ih =>
      obtain ⟨hnames, rfl⟩ := (ofMembers_eq_ok_iff _ _).1 hvalue
      refine .object ?_ (validUtf8_of_checkNames hnames) ?_
      · rw [List.map_map]
        exact hordered
      · intro member hmember
        obtain ⟨child, hchild, rfl⟩ := List.mem_map.1 hmember
        exact ih child hchild
  | movedFrom hmoves value => exact absurd hmoves (by decide)

/-- **Canonical JSON.** A value of the factories prints to a text that reads back as the value, up to
    the type of integers that are not negative; the value of an accepted text prints to a text that
    prints to itself once it is read; and a size that is known is the length of the canonical text. -/
theorem canonicalJson_roundTrip :
    (∀ (value : JsonValue) (size : SizeT) (limits : JsonLimits) (contract : JsonParseContract),
      Built false value size → Admits limits contract value →
        parseJsonValue (canonicalJson value) limits contract = .ok value.normal) ∧
    (∀ (text : Bytes) (limits : JsonLimits) (contract : JsonParseContract) (value : JsonValue),
      parseJsonValue text limits contract = .ok value →
        ((canonicalJson value).length ≤ limits.maxInputBytes.toNat → Admits limits contract value) ∧
        ∀ (limits' : JsonLimits) (contract' : JsonParseContract), Admits limits' contract' value →
          ∃ value', parseJsonValue (canonicalJson value) limits' contract' = .ok value' ∧
            canonicalJson value' = canonicalJson value) ∧
    ∀ (value : JsonValue) (size bytes : SizeT), Built true value size →
      canonicalByteSize size = some bytes → bytes.toNat = (canonicalJson value).length := by
  refine ⟨?_, ?_, ?_⟩
  · intro value size limits contract hbuilt hadmits
    exact hbuilt.wellFormed.parse hadmits
  · intro text limits contract value hparse
    have hwell := wellFormed_of_parse hparse
    obtain ⟨-, -, hwithin, -, hobject⟩ := parseJsonValue_sound hparse
    refine ⟨fun hlength => ⟨hwithin, hlength, hobject⟩, ?_⟩
    intro limits' contract' hadmits
    exact ⟨value.normal, hwell.parse hadmits, canonicalJson_normal value⟩
  · intro value size bytes hbuilt hsize
    unfold canonicalByteSize at hsize
    split_ifs at hsize with hknown
    obtain rfl := Option.some.inj hsize
    exact hbuilt.counts hknown

def sampleValue : JsonValue :=
  .object [("n", .signedInteger 7)]

theorem built_sampleValue (moves : Bool) :
    Built moves sampleValue (membersSize true 2 [("n", signedIntegerSize 7)]) := by
  have hchildren : ∀ child ∈ [(("n" : Bytes), JsonValue.signedInteger 7, signedIntegerSize 7)],
      Built moves child.2.1 child.2.2 := by
    intro child hchild
    obtain rfl := List.mem_singleton.1 hchild
    exact .signedInteger 7
  exact .object (List.pairwise_singleton _ _) hchildren rfl

theorem admits_sampleValue : Admits {} {} sampleValue where
  within := by
    refine ⟨.object (by decide) (by decide) (by decide) (by decide) ?_, by decide, by decide⟩
    intro member hmember
    obtain rfl := List.mem_singleton.1 hmember
    exact .signedInteger (by decide)
  length := by decide
  object := by
    intro _
    rfl

theorem canonicalJson_roundTrip_sample :
    parseJsonValue (canonicalJson sampleValue) {} {} = .ok sampleValue.normal ∧
      (∃ value', parseJsonValue (canonicalJson sampleValue.normal) {} {} = .ok value' ∧
        canonicalJson value' = canonicalJson sampleValue.normal) ∧
      (7 : SizeT).toNat = (canonicalJson sampleValue).length := by
  have hread := canonicalJson_roundTrip.1 sampleValue _ {} {} (built_sampleValue false)
    admits_sampleValue
  have hlength : (canonicalJson sampleValue.normal).length ≤ ({} : JsonLimits).maxInputBytes.toNat := by
    rw [canonicalJson_normal]
    exact admits_sampleValue.length
  obtain ⟨hadmits, hfixed⟩ := canonicalJson_roundTrip.2.1 _ {} {} _ hread
  exact ⟨hread, hfixed {} {} (hadmits hlength),
    canonicalJson_roundTrip.2.2 sampleValue _ 7 (built_sampleValue true) (by decide)⟩

end Cxxlens.Sdk.Json
