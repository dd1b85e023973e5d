import Cxxlens.ProtocolV2.Cbor.Reader

set_option autoImplicit false

/-! # Values in wire order

The encoder takes the entries of a map in any order and writes them by encoded key. `reorder` is
what that does to a value. The values the encoder can write (`Encodable`) are those whose reordering
fits the bounds of a reader; what fits already stands in wire order. -/

namespace Cxxlens.ProtocolV2.Cbor

open Sorting (sortBy shortlexLess shortlexKey Compares)

/-! ## Reordering -/

/-- The order of the entries of a map on the wire. -/
def fieldLess (left right : Bytes × Value) : Bool :=
  shortlexLess (encodedText left.1) (encodedText right.1)

/-- The key `fieldLess` compares. -/
def fieldKey (field : Bytes × Value) : Nat ×ₗ Bytes :=
  shortlexKey (encodedText field.1)

theorem fieldLess_compares : Compares fieldLess fieldKey :=
  fun left right => Sorting.shortlexLess_compares (encodedText left.1) (encodedText right.1)

mutual

/-- The value with the entries of every nested map ordered by the length of the encoded key and
    then by its bytes. -/
def Value.reorder : Value → Value
  | .null => .null
  | .bool item => .bool item
  | .unsigned item => .unsigned item
  | .negative item => .negative item
  | .bytes item => .bytes item
  | .text item => .text item
  | .array items => .array (reorderItems items)
  | .map fields => .map (sortBy fieldLess (reorderFields fields))

/-- `reorder` on the members of an array. -/
def reorderItems : List Value → List Value
  | [] => []
  | child :: rest => child.reorder :: reorderItems rest

/-- `reorder` on the values of the entries of a map. -/
def reorderFields : Fields → Fields
  | [] => []
  | (key, child) :: rest => (key, child.reorder) :: reorderFields rest

end

theorem reorderItems_eq_map (items : List Value) : reorderItems items = items.map Value.reorder := by
  induction items with
  | nil => rfl
  | cons child rest ih => rw [reorderItems, ih, List.map_cons]

theorem reorderFields_eq_map (fields : Fields) :
    reorderFields fields = fields.map fun field => (field.1, field.2.reorder) := by
  induction fields with
  | nil => rfl
  | cons field rest ih => rw [reorderFields, ih, List.map_cons]

/-- Sorting does not look at the values of the entries. -/
theorem sortBy_reorderFields (fields : Fields) :
    sortBy fieldLess (reorderFields fields) =
      (sortBy fieldLess fields).map fun field => (field.1, field.2.reorder) := by
  rw [reorderFields_eq_map]
  exact (Sorting.map_sortBy (fun field : Bytes × Value => (field.1, field.2.reorder))
    (fun _ _ => rfl) fields).symm

/-! ## Counting -/

mutual

/-- The items of a value as the encoder counts them: map keys are not counted. -/
def Value.valueCount : Value → Nat
  | .array items => 1 + valueCountItems items
  | .map fields => 1 + valueCountFields fields
  | _ => 1

/-- `valueCount` summed over the members of an array. -/
def valueCountItems : List Value → Nat
  | [] => 0
  | child :: rest => child.valueCount + valueCountItems rest

/-- `valueCount` summed over the entries of a map. -/
def valueCountFields : Fields → Nat
  | [] => 0
  | (_, child) :: rest => child.valueCount + valueCountFields rest

end

theorem Value.valueCount_pos (item : Value) : 0 < item.valueCount := by
  cases item <;> simp only [Value.valueCount] <;> omega

theorem valueCountFields_eq_sum (fields : Fields) :
    valueCountFields fields = (fields.map fun field => field.2.valueCount).sum := by
  induction fields with
  | nil => rfl
  | cons field rest ih => rw [valueCountFields, ih, List.map_cons, List.sum_cons]

theorem itemCountFields_eq_sum (fields : Fields) :
    itemCountFields fields = (fields.map fun field => 1 + field.2.itemCount).sum := by
  induction fields with
  | nil => rfl
  | cons field rest ih => rw [itemCountFields, ih, List.map_cons, List.sum_cons]

/-- The encoder never counts more than stands on the wire. -/
theorem Value.valueCount_le_itemCount (item : Value) : item.valueCount ≤ item.itemCount := by
  induction item using Value.induct with
  | array items ih =>
      have hitems : valueCountItems items ≤ itemCountItems items := by
        induction items with
        | nil => exact le_refl _
        | cons child rest ihrest =>
            have hfirst := ih child (List.mem_cons_self ..)
            have hrest := ihrest fun other hother => ih other (List.mem_cons_of_mem _ hother)
            rw [valueCountItems, itemCountItems]
            omega
      rw [Value.valueCount, Value.itemCount]
      omega
  | map fields ih =>
      have hfields : valueCountFields fields ≤ itemCountFields fields := by
        induction fields with
        | nil => exact le_refl _
        | cons field rest ihrest =>
            have hfirst := ih field (List.mem_cons_self ..)
            have hrest := ihrest fun other hother => ih other (List.mem_cons_of_mem _ hother)
            rw [valueCountFields, itemCountFields]
            omega
      rw [Value.valueCount, Value.itemCount]
      omega
  | _ => exact le_refl _

theorem Value.itemCount_reorder (item : Value) : item.reorder.itemCount = item.itemCount := by
  induction item using Value.induct with
  | array items ih =>
      have hitems : itemCountItems (reorderItems items) = itemCountItems items := by
        induction items with
        | nil => rfl
        | cons child rest ihrest =>
            rw [reorderItems, itemCountItems, itemCountItems, ih child (List.mem_cons_self ..),
              ihrest fun other hother => ih other (List.mem_cons_of_mem _ hother)]
      rw [Value.reorder, Value.itemCount, Value.itemCount, hitems]
  | map fields ih =>
      rw [Value.reorder, Value.itemCount, Value.itemCount, sortBy_reorderFields,
        itemCountFields_eq_sum, itemCountFields_eq_sum, List.map_map]
      congr 1
      rw [← (((Sorting.sortBy_perm fieldLess fields).map
        fun field : Bytes × Value => 1 + field.2.itemCount).sum_eq)]
      congr 1
      refine List.map_congr_left fun field hfield => ?_
      have hmem : field ∈ fields := (Sorting.mem_sortBy fieldLess fields field).1 hfield
      rw [Function.comp_apply, ih field hmem]
  | _ => rfl

/-! ## What can be encoded -/

/-- The values the encoder can write with at most `levels` levels of nesting: a map may hold its
    entries in any order, under distinct valid keys. -/
inductive Encodable (bound : Limits) : Nat → Value → Prop
  | null {levels : Nat} : Encodable bound (levels + 1) .null
  | bool {levels : Nat} (item : Bool) : Encodable bound (levels + 1) (.bool item)
  | unsigned {levels : Nat} (item : UInt64) : Encodable bound (levels + 1) (.unsigned item)
  | negative {levels : Nat} (item : Int64) (hneg : item.toInt < 0) :
      Encodable bound (levels + 1) (.negative item)
  | bytes {levels : Nat} (item : Bytes) (hsize : item.length ≤ bound.maxByteStringBytes.toNat) :
      Encodable bound (levels + 1) (.bytes item)
  | text {levels : Nat} (item : Bytes) (hvalid : validText bound item = true) :
      Encodable bound (levels + 1) (.text item)
  | array {levels : Nat} (items : List Value) (hsize : items.length ≤ bound.maxItems.toNat)
      (hitems : ∀ child ∈ items, Encodable bound levels child) :
      Encodable bound (levels + 1) (.array items)
  | map {levels : Nat} (fields : Fields) (hsize : fields.length ≤ bound.maxItems.toNat)
      (hdistinct : (fields.map (·.1)).Nodup)
      (hkeys : ∀ field ∈ fields, validText bound field.1 = true)
      (hfields : ∀ field ∈ fields, Encodable bound levels field.2) :
      Encodable bound (levels + 1) (.map fields)

theorem Encodable.pos {bound : Limits} {levels : Nat} {item : Value}
    (h : Encodable bound levels item) : 0 < levels := by
  cases h <;> omega

theorem Fits.pos {bound : ScanLimits} {levels : Nat} {item : Value} (h : Fits bound levels item) :
    0 < levels := by
  cases h <;> omega

theorem validText_iff (bound : Limits) (text : Bytes) : validText bound text = true ↔
    text.length ≤ bound.maxTextBytes.toNat ∧ validUtf8 text = true := by
  rw [validText, Bool.and_eq_true, decide_eq_true_eq]

theorem encodedText_injective {text text' : Bytes} (hlt : text.length < 2 ^ 64)
    (hlt' : text'.length < 2 ^ 64) (h : encodedText text = encodedText text') : text = text' := by
  have hat : Span.At (encodedText text) 0 (head .text text.length ++ text) := Span.at_self _
  have hat' : Span.At (encodedText text) 0 (head .text text'.length ++ text') := by
    rw [h]
    exact Span.at_self _
  rw [Span.at_append] at hat hat'
  have hread := headAt_of_at true hlt hat.1
  rw [headAt_of_at true hlt' hat'.1] at hread
  obtain ⟨-, hlength, -⟩ := Head.mk.inj (Except.ok.inj hread)
  rw [encodedText, encodedText, hlength] at h
  exact List.append_cancel_left h

/-- Distinct valid keys have distinct sort keys. -/
theorem fieldKey_nodup {bound : Limits} {fields : Fields} (hdistinct : (fields.map (·.1)).Nodup)
    (hkeys : ∀ field ∈ fields, validText bound field.1 = true) :
    (fields.map fieldKey).Nodup := by
  have hmax := bound.maxTextBytes.toNat_lt
  refine (List.pairwise_map.1 hdistinct).imp_of_mem ?_ |> List.pairwise_map.2
  intro left right hleft hright hne heq
  have hsize := ((validText_iff _ _).1 (hkeys left hleft)).1
  have hsize' := ((validText_iff _ _).1 (hkeys right hright)).1
  exact hne (encodedText_injective (by omega) (by omega) (Sorting.shortlexKey_injective heq))

theorem keysAscending_iff (fields : Fields) :
    KeysAscending fields ↔ fields.Pairwise fun a b => fieldKey a < fieldKey b := by
  constructor
  · exact fun h => h.imp fun hab => (fieldLess_compares _ _).1 hab
  · exact fun h => h.imp fun hab => (fieldLess_compares _ _).2 hab

/-- **What the encoder can write fits the reader's bounds once it is reordered.** -/
theorem Encodable.fits_reorder {bound : Limits} {levels : Nat} {item : Value}
    (h : Encodable bound levels item) : Fits bound.toScanLimits levels item.reorder := by
  induction h with
  | null => exact .null
  | bool item => exact .bool item
  | unsigned item => exact .unsigned item
  | negative item hneg => exact .negative item hneg
  | bytes item hsize => exact .bytes item hsize
  | text item hvalid =>
      obtain ⟨hsize, hutf8⟩ := (validText_iff _ _).1 hvalid
      exact .text item hsize hutf8
  | array items hsize hitems ih =>
      rw [Value.reorder, reorderItems_eq_map]
      refine .array _ (by rwa [List.length_map]) fun child hchild => ?_
      obtain ⟨item, hitem, rfl⟩ := List.mem_map.1 hchild
      exact ih item hitem
  | map fields hsize hdistinct hkeys hfields ih =>
      rw [Value.reorder, sortBy_reorderFields]
      refine .map _ (by rwa [List.length_map, Sorting.length_sortBy]) ?_ ?_ ?_
      · intro field hfield
        obtain ⟨entry, hentry, rfl⟩ := List.mem_map.1 hfield
        have hmem := (Sorting.mem_sortBy fieldLess fields entry).1 hentry
        obtain ⟨hlength, hutf8⟩ := (validText_iff _ _).1 (hkeys entry hmem)
        obtain ⟨lower, rfl⟩ := Nat.exists_eq_succ_of_ne_zero (hfields entry hmem).pos.ne'
        exact .text _ hlength hutf8
      · have hsorted := Sorting.sortBy_pairwise_lt fieldLess_compares
          (fieldKey_nodup hdistinct hkeys)
        exact List.pairwise_map.2 ((keysAscending_iff _).2 hsorted)
      · intro field hfield
        obtain ⟨entry, hentry, rfl⟩ := List.mem_map.1 hfield
        exact ih entry ((Sorting.mem_sortBy fieldLess fields entry).1 hentry)

/-- What fits the reader's bounds can be encoded and stands in wire order already. -/
theorem Fits.encodable {bound : Limits} {levels : Nat} {item : Value}
    (h : Fits bound.toScanLimits levels item) :
    Encodable bound levels item ∧ item.reorder = item := by
  induction h with
  | null => exact ⟨.null, rfl⟩
  | bool item => exact ⟨.bool item, rfl⟩
  | unsigned item => exact ⟨.unsigned item, rfl⟩
  | negative item hneg => exact ⟨.negative item hneg, rfl⟩
  | bytes item hsize => exact ⟨.bytes item hsize, rfl⟩
  | text item hsize hutf8 => exact ⟨.text item ((validText_iff _ _).2 ⟨hsize, hutf8⟩), rfl⟩
  | array items hsize hitems ih =>
      refine ⟨.array items hsize fun child hchild => (ih child hchild).1, ?_⟩
      rw [Value.reorder, reorderItems_eq_map,
        List.map_congr_left fun child hchild => (ih child hchild).2, List.map_id']
  | map fields hsize hkeys hascending hfields ihkeys ih =>
      have hsorted := (keysAscending_iff fields).1 hascending
      have hdistinct : (fields.map (·.1)).Nodup := by
        refine List.pairwise_map.2 (hsorted.imp fun {left right} hlt heq => ?_)
        rw [fieldKey, fieldKey, heq] at hlt
        exact lt_irrefl _ hlt
      refine ⟨.map fields hsize hdistinct ?_ fun field hfield => (ih field hfield).1, ?_⟩
      · intro field hfield
        cases hkeys field hfield with
        | text _ hlength hutf8 => exact (validText_iff _ _).2 ⟨hlength, hutf8⟩
      · have hreorder : reorderFields fields = fields := by
          rw [reorderFields_eq_map, List.map_congr_left fun field hfield =>
            show (field.1, field.2.reorder) = field by rw [(ih field hfield).2], List.map_id']
        rw [Value.reorder, hreorder,
          Sorting.sortBy_eq_self fieldLess_compares (hsorted.imp fun hlt => hlt.le)]

end Cxxlens.ProtocolV2.Cbor
