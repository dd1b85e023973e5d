import Cxxlens.ProtocolV2.Cbor.Encode

set_option autoImplicit false

/-! # The wire grammar

What the codec is about, without cursors and without counters: the bytes `wire item` of a value
with its maps in the order they stand, the number of items on the wire, and which values fit a set
of bounds. Encoder, decoder and scanner are compared with these. -/

namespace Cxxlens.ProtocolV2.Cbor

open Sorting (sortBy shortlexLess shortlexKey)

/-! ## Bytes and counts -/

mutual

/-- The bytes of a value, every map in the order of its entries. -/
def wire : Value → Bytes
  | .null => head .simple 22
  | .bool item => head .simple (if item then 21 else 20)
  | .unsigned item => head .unsignedInteger item.toNat
  | .negative item => head .negativeInteger (negativeArgument item)
  | .bytes item => head .byteString item.length ++ item
  | .text item => encodedText item
  | .array items => head .array items.length ++ wireItems items
  | .map fields => head .map fields.length ++ wireFields fields

/-- The bytes of the members of an array. -/
def wireItems : List Value → Bytes
  | [] => []
  | child :: rest => wire child ++ wireItems rest

/-- The bytes of the entries of a map. -/
def wireFields : Fields → Bytes
  | [] => []
  | (key, child) :: rest => encodedText key ++ (wire child ++ wireFields rest)

end

mutual

/-- The items of a value as they stand on the wire, map keys included. -/
def Value.itemCount : Value → Nat
  | .array items => 1 + itemCountItems items
  | .map fields => 1 + itemCountFields fields
  | _ => 1

/-- The items of the members of an array. -/
def itemCountItems : List Value → Nat
  | [] => 0
  | child :: rest => child.itemCount + itemCountItems rest

/-- The items of the entries of a map: each key is an item of its own. -/
def itemCountFields : Fields → Nat
  | [] => 0
  | (_, child) :: rest => 1 + child.itemCount + itemCountFields rest

end

/-- The keys of a map stand in strictly increasing shortlex order of their encodings. -/
def KeysAscending (fields : Fields) : Prop :=
  fields.Pairwise fun a b => shortlexLess (encodedText a.1) (encodedText b.1) = true

/-- The values within a set of bounds that need at most `levels` levels of nesting. -/
inductive Fits (bound : ScanLimits) : Nat → Value → Prop
  | null {levels : Nat} : Fits bound (levels + 1) .null
  | bool {levels : Nat} (item : Bool) : Fits bound (levels + 1) (.bool item)
  | unsigned {levels : Nat} (item : UInt64) : Fits bound (levels + 1) (.unsigned item)
  | negative {levels : Nat} (item : Int64) (hneg : item.toInt < 0) :
      Fits bound (levels + 1) (.negative item)
  | bytes {levels : Nat} (item : Bytes) (hsize : item.length ≤ bound.maxByteStringBytes.toNat) :
      Fits bound (levels + 1) (.bytes item)
  | text {levels : Nat} (item : Bytes) (hsize : item.length ≤ bound.maxTextBytes.toNat)
      (hutf8 : validUtf8 item = true) : Fits bound (levels + 1) (.text item)
  | array {levels : Nat} (items : List Value) (hsize : items.length ≤ bound.maxArrayItems.toNat)
      (hitems : ∀ child ∈ items, Fits bound levels child) : Fits bound (levels + 1) (.array items)
  | map {levels : Nat} (fields : Fields) (hsize : fields.length ≤ bound.maxMapItems.toNat)
      (hkeys : ∀ field ∈ fields, Fits bound levels (.text field.1))
      (hascending : KeysAscending fields)
      (hfields : ∀ field ∈ fields, Fits bound levels field.2) :
      Fits bound (levels + 1) (.map fields)

/-! ## First facts -/

theorem Value.itemCount_pos (item : Value) : 0 < item.itemCount := by
  cases item <;> simp only [Value.itemCount] <;> omega

/-- What fits a set of bounds fits every wider one. -/
theorem Fits.mono {bound bound' : ScanLimits} {levels levels' : Nat} {item : Value}
    (h : Fits bound levels item) (hlevels : levels ≤ levels')
    (htext : bound.maxTextBytes.toNat ≤ bound'.maxTextBytes.toNat)
    (hbytes : bound.maxByteStringBytes.toNat ≤ bound'.maxByteStringBytes.toNat)
    (harray : bound.maxArrayItems.toNat ≤ bound'.maxArrayItems.toNat)
    (hmap : bound.maxMapItems.toNat ≤ bound'.maxMapItems.toNat) : Fits bound' levels' item := by
  induction h generalizing levels' with
  | null =>
      obtain ⟨levels', rfl⟩ := Nat.exists_eq_succ_of_ne_zero (show levels' ≠ 0 by omega)
      exact .null
  | bool item =>
      obtain ⟨levels', rfl⟩ := Nat.exists_eq_succ_of_ne_zero (show levels' ≠ 0 by omega)
      exact .bool item
  | unsigned item =>
      obtain ⟨levels', rfl⟩ := Nat.exists_eq_succ_of_ne_zero (show levels' ≠ 0 by omega)
      exact .unsigned item
  | negative item hneg =>
      obtain ⟨levels', rfl⟩ := Nat.exists_eq_succ_of_ne_zero (show levels' ≠ 0 by omega)
      exact .negative item hneg
  | bytes item hsize =>
      obtain ⟨levels', rfl⟩ := Nat.exists_eq_succ_of_ne_zero (show levels' ≠ 0 by omega)
      exact .bytes item (le_trans hsize hbytes)
  | text item hsize hutf8 =>
      obtain ⟨levels', rfl⟩ := Nat.exists_eq_succ_of_ne_zero (show levels' ≠ 0 by omega)
      exact .text item (le_trans hsize htext) hutf8
  | array items hsize hitems ih =>
      obtain ⟨levels', rfl⟩ := Nat.exists_eq_succ_of_ne_zero (show levels' ≠ 0 by omega)
      exact .array items (le_trans hsize harray) fun child hchild => ih child hchild (by omega)
  | map fields hsize hkeys hascending hfields ihkeys ih =>
      obtain ⟨levels', rfl⟩ := Nat.exists_eq_succ_of_ne_zero (show levels' ≠ 0 by omega)
      exact .map fields (le_trans hsize hmap) (fun field hfield => ihkeys field hfield (by omega))
        hascending fun field hfield => ih field hfield (by omega)

theorem encodedText_ne_nil (text : Bytes) : encodedText text ≠ [] := by
  unfold encodedText
  exact List.append_ne_nil_of_left_ne_nil (head_ne_nil _ _) _

theorem wire_ne_nil (item : Value) : wire item ≠ [] := by
  cases item with
  | null => exact head_ne_nil _ _
  | bool item => exact head_ne_nil _ _
  | unsigned item => exact head_ne_nil _ _
  | negative item => exact head_ne_nil _ _
  | bytes item => exact List.append_ne_nil_of_left_ne_nil (head_ne_nil _ _) _
  | text item => exact encodedText_ne_nil item
  | array items => exact List.append_ne_nil_of_left_ne_nil (head_ne_nil _ _) _
  | map fields => exact List.append_ne_nil_of_left_ne_nil (head_ne_nil _ _) _

/-- Every byte string that is not empty is above the empty one. -/
theorem shortlexLess_nil {bytes : Bytes} (h : bytes ≠ []) :
    shortlexLess ([] : Bytes) bytes = true := by
  have hpos := List.length_pos_iff.2 h
  rw [shortlexLess, if_pos (show ([] : Bytes).length ≠ bytes.length from Nat.ne_of_lt hpos)]
  exact decide_eq_true hpos

theorem shortlexLess_trans {a b c : Bytes} (hab : shortlexLess a b = true)
    (hbc : shortlexLess b c = true) : shortlexLess a c = true := by
  rw [Sorting.shortlexLess_compares] at *
  exact lt_trans hab hbc

theorem shortlexLess_irrefl (a : Bytes) : shortlexLess a a ≠ true := by
  rw [Ne, Sorting.shortlexLess_compares]
  exact lt_irrefl _

/-- No key stands twice in a map in wire order. -/
theorem KeysAscending.nodup {fields : Fields} (h : KeysAscending fields) :
    (fields.map (·.1)).Nodup := by
  refine List.pairwise_map.2 (List.Pairwise.imp (fun {a b} hab heq => ?_) h)
  rw [heq] at hab
  exact shortlexLess_irrefl _ hab

/-! ## Negative integers -/

theorem negativeArgument_lt {item : Int64} (hneg : item.toInt < 0) :
    negativeArgument item < 2 ^ 63 ∧ (negativeArgument item : Int) = -1 - item.toInt := by
  have hge := item.le_toInt
  unfold negativeArgument
  simp only [Nat.add_sub_cancel]
  omega

/-- The integer a wire argument below `2 ^ 63` stands for. -/
def negativeOf (argument : Nat) : Int64 :=
  Int64.ofInt (-1 - argument)

theorem toInt_negativeOf {argument : Nat} (h : argument < 2 ^ 63) :
    (negativeOf argument).toInt = -1 - argument := by
  rw [negativeOf, Int64.toInt_ofInt_of_le (by omega) (by omega)]

theorem negativeArgument_negativeOf {argument : Nat} (h : argument < 2 ^ 63) :
    negativeArgument (negativeOf argument) = argument := by
  have htoInt := toInt_negativeOf h
  have hneg : (negativeOf argument).toInt < 0 := by omega
  have harg := (negativeArgument_lt hneg).2
  omega

theorem negativeOf_negativeArgument {item : Int64} (hneg : item.toInt < 0) :
    negativeOf (negativeArgument item) = item := by
  obtain ⟨hlt, heq⟩ := negativeArgument_lt hneg
  apply Int64.toInt_inj.1
  rw [toInt_negativeOf hlt]
  omega

end Cxxlens.ProtocolV2.Cbor
