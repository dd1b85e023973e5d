import Cxxlens.ProtocolV2.Cbor.Decode
import Cxxlens.ProtocolV2.Cbor.Reorder

set_option autoImplicit false

/-! # What the encoder writes

`validate_value` and `encoder::visit` each walk the value with a counter of their own. Both accept
exactly the values that are `Encodable` with their items, keys not counted, within the item limit
(`validateValue_eq_ok_iff`, `Encoder.visit_eq_ok_iff`); the encoder then has appended the wire bytes
of the reordered value. -/

namespace Cxxlens.ProtocolV2.Cbor

open Sdk (Error Result)
open Sorting (sortBy)
open Fallible

/-! ## Validation -/

/-- `validate_value` accepts a value at a depth: it can be encoded with the levels left there, and
    its items are added to the count. -/
structure Validates (bound : Limits) (levels : Nat) (item : Value) (count count' : Nat) : Prop where
  encodable : Encodable bound levels item
  count : count' = count + item.valueCount
  within : count' ≤ bound.maxItems.toNat

theorem validateItems_eq_ok_iff {bound : Limits} {levels depth : Nat} {items : List Value}
    (hchild : ∀ child ∈ items, ∀ count count', validateValue bound child depth count = .ok count' ↔
      Validates bound levels child count count') (count count' : Nat)
    (hcount : count ≤ bound.maxItems.toNat) :
    validateItems bound items depth count = .ok count' ↔
      (∀ child ∈ items, Encodable bound levels child) ∧ count' = count + valueCountItems items ∧
        count' ≤ bound.maxItems.toNat := by
  induction items generalizing count with
  | nil =>
      simp only [validateItems, Except.ok.injEq, valueCountItems]
      constructor
      · rintro rfl
        exact ⟨fun child hchild => absurd hchild (by simp), rfl, hcount⟩
      · rintro ⟨-, rfl, -⟩
        rfl
  | cons child rest ih =>
      have ih := ih fun other hother => hchild other (List.mem_cons_of_mem _ hother)
      rw [validateItems, bind_eq_ok_iff]
      constructor
      · rintro ⟨mid, hfirst, hrest⟩
        obtain ⟨hencodable, hmid, hwithin⟩ := (hchild child (List.mem_cons_self ..) _ _).1 hfirst
        obtain ⟨hothers, hlast, hwithin'⟩ := (ih mid hwithin).1 hrest
        refine ⟨fun other hother => ?_, by rw [hlast, hmid, valueCountItems, Nat.add_assoc],
          hwithin'⟩
        rcases List.mem_cons.1 hother with rfl | hmem
        · exact hencodable
        · exact hothers other hmem
      · rintro ⟨hall, hlast, hwithin⟩
        rw [valueCountItems] at hlast
        have hmid : count + child.valueCount ≤ bound.maxItems.toNat := by omega
        refine ⟨count + child.valueCount, (hchild child (List.mem_cons_self ..) _ _).2
          ⟨hall child (List.mem_cons_self ..), rfl, hmid⟩, (ih _ hmid).2 ⟨?_, by omega, hwithin⟩⟩
        exact fun other hother => hall other (List.mem_cons_of_mem _ hother)

theorem validateFields_eq_ok_iff {bound : Limits} {levels depth : Nat} {fields : Fields}
    (hchild : ∀ field ∈ fields, ∀ count count',
      validateValue bound field.2 depth count = .ok count' ↔
        Validates bound levels field.2 count count') (keys : List Bytes) (count count' : Nat)
    (hcount : count ≤ bound.maxItems.toNat) :
    validateFields bound fields depth keys count = .ok count' ↔
      ((fields.map (·.1)).Nodup ∧ (∀ field ∈ fields, field.1 ∉ keys)) ∧
        (∀ field ∈ fields, validText bound field.1 = true) ∧
        (∀ field ∈ fields, Encodable bound levels field.2) ∧
        count' = count + valueCountFields fields ∧ count' ≤ bound.maxItems.toNat := by
  induction fields generalizing keys count with
  | nil =>
      simp only [validateFields, Except.ok.injEq, valueCountFields]
      constructor
      · rintro rfl
        exact ⟨⟨by simp, by simp⟩, by simp, by simp, rfl, hcount⟩
      · rintro ⟨-, -, -, rfl, -⟩
        rfl
  | cons field rest ih =>
      obtain ⟨key, child⟩ := field
      have ih := ih fun other hother => hchild other (List.mem_cons_of_mem _ hother)
      have hfirst := hchild (key, child) (List.mem_cons_self ..)
      rw [validateFields, guard_eq_ok_iff, guard_eq_ok_iff, bind_eq_ok_iff]
      simp only [List.map_cons, List.nodup_cons, List.forall_mem_cons, List.mem_map]
      constructor
      · rintro ⟨hfresh, hvalid, mid, hmid, hrest⟩
        obtain ⟨hencodable, rfl, hwithin⟩ := (hfirst _ _).1 hmid
        obtain ⟨⟨hdistinct, hnotin⟩, hkeys, hothers, hlast, hwithin'⟩ := (ih _ _ hwithin).1 hrest
        refine ⟨⟨⟨?_, hdistinct⟩, hfresh, fun other hother hmem =>
          hnotin other hother (List.mem_cons_of_mem _ hmem)⟩, ⟨by simpa using hvalid, hkeys⟩,
          ⟨hencodable, hothers⟩, by rw [hlast, valueCountFields, Nat.add_assoc], hwithin'⟩
        rintro ⟨other, hother, rfl⟩
        exact hnotin other hother (List.mem_cons_self ..)
      · rintro ⟨⟨⟨hhead, hdistinct⟩, hfresh, hnotin⟩, ⟨hvalid, hkeys⟩, ⟨hencodable, hothers⟩, hlast,
          hwithin⟩
        rw [valueCountFields] at hlast
        have hmid : count + child.valueCount ≤ bound.maxItems.toNat := by omega
        refine ⟨hfresh, by simpa using hvalid, count + child.valueCount,
          (hfirst _ _).2 ⟨hencodable, rfl, hmid⟩, (ih _ _ hmid).2 ⟨⟨hdistinct, ?_⟩, hkeys, hothers,
            by omega, hwithin⟩⟩
        intro other hother hmem
        rcases List.mem_cons.1 hmem with heq | hmem
        · exact hhead ⟨other, hother, heq⟩
        · exact hnotin other hother hmem

/-- The first test of a visit: a level and an item are left. -/
theorem depth_and_items_iff {bound : Limits} {levels depth : Nat}
    (hlevels : depth + levels = bound.levels) (count : Nat) :
    ¬ (depth > bound.maxDepth.toNat ∨ count ≥ bound.maxItems.toNat) ↔
      0 < levels ∧ count < bound.maxItems.toNat := by
  unfold Limits.levels at hlevels
  omega

/-- The validation of an item without members, given when such an item can be encoded. -/
theorem validates_leaf_iff {bound : Limits} {levels : Nat} {item : Value} {p : Prop}
    (hone : item.valueCount = 1) (hp : ∀ lower, p ↔ Encodable bound (lower + 1) item)
    (count count' : Nat) :
    (0 < levels ∧ count < bound.maxItems.toNat) ∧ p ∧ count + 1 = count' ↔
      Validates bound levels item count count' := by
  constructor
  · rintro ⟨⟨hpos, hcount⟩, hitem, rfl⟩
    obtain ⟨lower, rfl⟩ := Nat.exists_eq_succ_of_ne_zero hpos.ne'
    exact ⟨(hp lower).1 hitem, by rw [hone], hcount⟩
  · rintro ⟨hencodable, hcount, hwithin⟩
    obtain ⟨lower, rfl⟩ := Nat.exists_eq_succ_of_ne_zero hencodable.pos.ne'
    rw [hone] at hcount
    exact ⟨⟨hencodable.pos, by omega⟩, (hp lower).2 hencodable, hcount.symm⟩

/-- When the items without members can be encoded. -/
theorem encodable_leaf_iff {bound : Limits} {levels : Nat} :
    (∀ item, Encodable bound (levels + 1) (.negative item) ↔ item.toInt < 0) ∧
      (∀ item, Encodable bound (levels + 1) (.bytes item) ↔
        item.length ≤ bound.maxByteStringBytes.toNat) ∧
      (∀ item, Encodable bound (levels + 1) (.text item) ↔ validText bound item = true) := by
  refine ⟨fun item => ⟨?_, .negative item⟩, fun item => ⟨?_, .bytes item⟩,
    fun item => ⟨?_, .text item⟩⟩
  · rintro ⟨⟩
    assumption
  · rintro ⟨⟩
    assumption
  · rintro ⟨⟩
    assumption

/-- **Validation accepts exactly the encodable values within the item limit**, keys not counted. -/
theorem validateValue_eq_ok_iff {bound : Limits} {item : Value} {levels depth : Nat}
    (hlevels : depth + levels = bound.levels) (count count' : Nat) :
    validateValue bound item depth count = .ok count' ↔
      Validates bound levels item count count' := by
  induction item using Value.induct generalizing levels depth count count' with
  | null =>
      rw [validateValue, guard_eq_ok_iff, depth_and_items_iff hlevels, ← validates_leaf_iff
        (p := True) rfl (fun _ => ⟨fun _ => .null, fun _ => trivial⟩)]
      simp
  | bool item =>
      rw [validateValue, guard_eq_ok_iff, depth_and_items_iff hlevels, ← validates_leaf_iff
        (p := True) rfl (fun _ => ⟨fun _ => .bool item, fun _ => trivial⟩)]
      simp
  | unsigned item =>
      rw [validateValue, guard_eq_ok_iff, depth_and_items_iff hlevels, ← validates_leaf_iff
        (p := True) rfl (fun _ => ⟨fun _ => .unsigned item, fun _ => trivial⟩)]
      simp
  | negative item =>
      rw [validateValue, guard_eq_ok_iff, depth_and_items_iff hlevels, ← validates_leaf_iff rfl
        (fun _ => (encodable_leaf_iff.1 item).symm)]
      simp only [guard_eq_ok_iff, Except.ok.injEq, not_le]
  | bytes item =>
      rw [validateValue, guard_eq_ok_iff, depth_and_items_iff hlevels, ← validates_leaf_iff rfl
        (fun _ => (encodable_leaf_iff.2.1 item).symm)]
      simp only [guard_eq_ok_iff, Except.ok.injEq, not_lt]
  | text item =>
      rw [validateValue, guard_eq_ok_iff, depth_and_items_iff hlevels, ← validates_leaf_iff rfl
        (fun _ => (encodable_leaf_iff.2.2 item).symm)]
      simp only [guard_eq_ok_iff, Except.ok.injEq, Bool.not_eq_true', Bool.not_eq_false]
  | array items ih =>
      rw [validateValue, guard_eq_ok_iff, depth_and_items_iff hlevels]
      simp only [guard_eq_ok_iff, not_lt]
      constructor
      · rintro ⟨⟨hpos, hcount⟩, hsize, hrun⟩
        obtain ⟨lower, rfl⟩ := Nat.exists_eq_succ_of_ne_zero hpos.ne'
        have hlower : depth + 1 + lower = bound.levels := by omega
        have hchild := fun child hmem => ih child hmem hlower
        obtain ⟨hitems, hlast, hwithin⟩ := (validateItems_eq_ok_iff hchild _ _ hcount).1 hrun
        refine ⟨.array items hsize hitems, ?_, hwithin⟩
        rw [hlast, Value.valueCount]
        omega
      · rintro ⟨hencodable, hlast, hwithin⟩
        have hcount := (Value.array items).valueCount_pos
        cases hencodable with
        | @array lower _ hsize hitems =>
            have hlower : depth + 1 + lower = bound.levels := by omega
            have hchild := fun child hmem => ih child hmem hlower
            rw [Value.valueCount] at hlast
            exact ⟨⟨by omega, by omega⟩, hsize,
              (validateItems_eq_ok_iff hchild _ _ (by omega)).2 ⟨hitems, by omega, hwithin⟩⟩
  | map fields ih =>
      rw [validateValue, guard_eq_ok_iff, depth_and_items_iff hlevels]
      simp only [guard_eq_ok_iff, not_lt]
      constructor
      · rintro ⟨⟨hpos, hcount⟩, hsize, hrun⟩
        obtain ⟨lower, rfl⟩ := Nat.exists_eq_succ_of_ne_zero hpos.ne'
        have hlower : depth + 1 + lower = bound.levels := by omega
        have hchild := fun field hmem => ih field hmem hlower
        obtain ⟨⟨hdistinct, -⟩, hkeys, hfields, hlast, hwithin⟩ :=
          (validateFields_eq_ok_iff hchild _ _ _ hcount).1 hrun
        refine ⟨.map fields hsize hdistinct hkeys hfields, ?_, hwithin⟩
        rw [hlast, Value.valueCount]
        omega
      · rintro ⟨hencodable, hlast, hwithin⟩
        cases hencodable with
        | @map lower _ hsize hdistinct hkeys hfields =>
            have hlower : depth + 1 + lower = bound.levels := by omega
            have hchild := fun field hmem => ih field hmem hlower
            rw [Value.valueCount] at hlast
            exact ⟨⟨by omega, by omega⟩, hsize, (validateFields_eq_ok_iff hchild _ _ _ (by omega)).2
              ⟨⟨hdistinct, by simp⟩, hkeys, hfields, by omega, hwithin⟩⟩

/-! ## Encoding -/

/-- `encoder::visit` accepts a value at a depth: it appends the wire bytes of the reordered value
    and counts its items, within the bounds on both. -/
structure Writes (bound : Limits) (levels : Nat) (item : Value) (writer writer' : Encoder) :
    Prop where
  encodable : Encodable bound levels item
  output : writer'.output = writer.output ++ wire item.reorder
  count : writer'.itemCount = writer.itemCount + item.valueCount
  within : writer'.itemCount ≤ bound.maxItems.toNat
  sized : writer'.output.length ≤ bound.maxBytes.toNat

theorem Encoder.checkSize_eq_ok_iff {bound : Limits} {writer writer' : Encoder} :
    writer.checkSize bound = .ok writer' ↔
      writer' = writer ∧ writer'.output.length ≤ bound.maxBytes.toNat := by
  rw [Encoder.checkSize, guard_eq_ok_iff, not_lt, Except.ok.injEq]
  constructor
  · rintro ⟨hsized, rfl⟩
    exact ⟨rfl, hsized⟩
  · rintro ⟨rfl, hsized⟩
    exact ⟨hsized, rfl⟩

/-- The members of an array, and the size check behind them. -/
theorem visitItems_eq_ok_iff {bound : Limits} {levels depth : Nat} {items : List Value}
    (hchild : ∀ child ∈ items, ∀ writer writer',
      Encoder.visit bound child depth writer = .ok writer' ↔ Writes bound levels child writer writer')
    (writer writer' : Encoder) (hcount : writer.itemCount ≤ bound.maxItems.toNat) :
    (Encoder.visitItems bound items depth writer >>= Encoder.checkSize bound) = .ok writer' ↔
      (∀ child ∈ items, Encodable bound levels child) ∧
        writer'.output = writer.output ++ wireItems (reorderItems items) ∧
        writer'.itemCount = writer.itemCount + valueCountItems items ∧
        writer'.itemCount ≤ bound.maxItems.toNat ∧
        writer'.output.length ≤ bound.maxBytes.toNat := by
  induction items generalizing writer with
  | nil =>
      rw [Encoder.visitItems, ok_bind, Encoder.checkSize_eq_ok_iff, reorderItems, wireItems,
        valueCountItems, List.append_nil, Nat.add_zero]
      constructor
      · rintro ⟨rfl, hsized⟩
        exact ⟨fun child hchild => absurd hchild (by simp), rfl, rfl, hcount, hsized⟩
      · rintro ⟨-, houtput, hitems, -, hsized⟩
        cases writer
        cases writer'
        simp only at houtput hitems
        subst houtput hitems
        exact ⟨rfl, hsized⟩
  | cons child rest ih =>
      have ih := ih fun other hother => hchild other (List.mem_cons_of_mem _ hother)
      have hfirst := hchild child (List.mem_cons_self ..)
      rw [Encoder.visitItems, bind_assoc, bind_eq_ok_iff]
      simp only [reorderItems, wireItems, valueCountItems, List.forall_mem_cons]
      constructor
      · rintro ⟨mid, hvisit, hrest⟩
        obtain ⟨hencodable, houtput, hitems, hwithin, -⟩ := (hfirst _ _).1 hvisit
        obtain ⟨hothers, houtput', hitems', hwithin', hsized'⟩ := (ih mid hwithin).1 hrest
        exact ⟨⟨hencodable, hothers⟩, by rw [houtput', houtput, List.append_assoc],
          by rw [hitems', hitems, Nat.add_assoc], hwithin', hsized'⟩
      · rintro ⟨⟨hencodable, hothers⟩, houtput, hitems, hwithin, hsized⟩
        have hlength := congrArg List.length houtput
        simp only [List.length_append] at hlength
        have hmid : Writes bound levels child writer
            ⟨writer.output ++ wire child.reorder, writer.itemCount + child.valueCount⟩ := by
          refine ⟨hencodable, rfl, rfl, ?_, ?_⟩
          · simp only
            omega
          · simp only [List.length_append]
            omega
        refine ⟨_, (hfirst _ _).2 hmid, (ih _ hmid.within).2 ⟨hothers, ?_, ?_, hwithin, hsized⟩⟩
        · rw [houtput, List.append_assoc]
        · rw [hitems, Nat.add_assoc]

/-- The entry the encoder makes of a field. -/
def entryOf (bound : Limits) (depth : Nat) (field : Bytes × Value) : Entry :=
  ⟨encodedText field.1, Encoder.visit bound field.2 depth⟩

theorem entries_eq_ok_iff {bound : Limits} {depth : Nat} {fields : Fields} {keys : List Bytes}
    {ordered : List Entry} : Encoder.entries bound fields depth keys = .ok ordered ↔
      ((fields.map (·.1)).Nodup ∧ (∀ field ∈ fields, field.1 ∉ keys)) ∧
        (∀ field ∈ fields, validText bound field.1 = true) ∧
        ordered = fields.map (entryOf bound depth) := by
  induction fields generalizing keys ordered with
  | nil =>
      rw [Encoder.entries, Except.ok.injEq]
      constructor
      · rintro rfl
        exact ⟨⟨List.nodup_nil, by simp⟩, by simp, rfl⟩
      · rintro ⟨-, -, rfl⟩
        rfl
  | cons field rest ih =>
      obtain ⟨key, child⟩ := field
      rw [Encoder.entries, guard_eq_ok_iff, guard_eq_ok_iff, bind_eq_ok_iff]
      simp only [List.map_cons, List.nodup_cons, List.forall_mem_cons, List.mem_map,
        Except.ok.injEq]
      constructor
      · rintro ⟨hfresh, hvalid, others, hrest, rfl⟩
        obtain ⟨⟨hdistinct, hnotin⟩, hkeys, rfl⟩ := ih.1 hrest
        refine ⟨⟨⟨?_, hdistinct⟩, hfresh, fun other hother hmem =>
          hnotin other hother (List.mem_cons_of_mem _ hmem)⟩, ⟨by simpa using hvalid, hkeys⟩, rfl⟩
        rintro ⟨other, hother, rfl⟩
        exact hnotin other hother (List.mem_cons_self ..)
      · rintro ⟨⟨⟨hhead, hdistinct⟩, hfresh, hnotin⟩, ⟨hvalid, hkeys⟩, rfl⟩
        refine ⟨hfresh, by simpa using hvalid, _, ih.2 ⟨⟨hdistinct, ?_⟩, hkeys, rfl⟩, rfl⟩
        intro other hother hmem
        rcases List.mem_cons.1 hmem with heq | hmem
        · exact hhead ⟨other, hother, heq⟩
        · exact hnotin other hother hmem

/-- The entries of a map in the order they are given, and the size check behind them. -/
theorem writeEntries_eq_ok_iff {bound : Limits} {levels depth : Nat} {fields : Fields}
    (hchild : ∀ field ∈ fields, ∀ writer writer',
      Encoder.visit bound field.2 depth writer = .ok writer' ↔
        Writes bound levels field.2 writer writer')
    (writer writer' : Encoder) (hcount : writer.itemCount ≤ bound.maxItems.toNat) :
    (writeEntries (fields.map (entryOf bound depth)) writer >>= Encoder.checkSize bound) =
        .ok writer' ↔
      (∀ field ∈ fields, Encodable bound levels field.2) ∧
        writer'.output = writer.output ++ wireFields (reorderFields fields) ∧
        writer'.itemCount = writer.itemCount + valueCountFields fields ∧
        writer'.itemCount ≤ bound.maxItems.toNat ∧
        writer'.output.length ≤ bound.maxBytes.toNat := by
  induction fields generalizing writer with
  | nil =>
      rw [List.map_nil, writeEntries, ok_bind, Encoder.checkSize_eq_ok_iff, reorderFields,
        wireFields, valueCountFields, List.append_nil, Nat.add_zero]
      constructor
      · rintro ⟨rfl, hsized⟩
        exact ⟨fun field hfield => absurd hfield (by simp), rfl, rfl, hcount, hsized⟩
      · rintro ⟨-, houtput, hitems, -, hsized⟩
        cases writer
        cases writer'
        simp only at houtput hitems
        subst houtput hitems
        exact ⟨rfl, hsized⟩
  | cons field rest ih =>
      obtain ⟨key, child⟩ := field
      have ih := ih fun other hother => hchild other (List.mem_cons_of_mem _ hother)
      have hfirst := hchild (key, child) (List.mem_cons_self ..)
      rw [List.map_cons, writeEntries, bind_assoc, bind_eq_ok_iff]
      simp only [reorderFields, wireFields, valueCountFields, List.forall_mem_cons, entryOf]
      constructor
      · rintro ⟨mid, hvisit, hrest⟩
        obtain ⟨hencodable, houtput, hitems, hwithin, -⟩ := (hfirst _ _).1 hvisit
        obtain ⟨hothers, houtput', hitems', hwithin', hsized'⟩ := (ih mid hwithin).1 hrest
        simp only [Encoder.append] at houtput hitems
        exact ⟨⟨hencodable, hothers⟩,
          by rw [houtput', houtput, List.append_assoc, List.append_assoc],
          by rw [hitems', hitems, Nat.add_assoc], hwithin', hsized'⟩
      · rintro ⟨⟨hencodable, hothers⟩, houtput, hitems, hwithin, hsized⟩
        have hlength := congrArg List.length houtput
        simp only [List.length_append] at hlength
        have hmid : Writes bound levels child (writer.append (encodedText key))
            ⟨writer.output ++ encodedText key ++ wire child.reorder,
              writer.itemCount + child.valueCount⟩ := by
          refine ⟨hencodable, rfl, rfl, ?_, ?_⟩
          · simp only
            omega
          · simp only [List.length_append]
            omega
        refine ⟨_, (hfirst _ _).2 hmid, (ih _ hmid.within).2 ⟨hothers, ?_, ?_, hwithin, hsized⟩⟩
        · rw [houtput, List.append_assoc, List.append_assoc]
        · rw [hitems, Nat.add_assoc]

/-- The writing of an item without members. -/
theorem writes_leaf_iff {bound : Limits} {levels : Nat} {item : Value} {bytes : Bytes} {p : Prop}
    (hone : item.valueCount = 1) (hbytes : wire item.reorder = bytes)
    (hp : ∀ lower, p ↔ Encodable bound (lower + 1) item) (writer writer' : Encoder) :
    (0 < levels ∧ writer.itemCount < bound.maxItems.toNat) ∧ p ∧
        (Encoder.append ⟨writer.output, writer.itemCount + 1⟩ bytes).checkSize bound = .ok writer' ↔
      Writes bound levels item writer writer' := by
  rw [Encoder.checkSize_eq_ok_iff]
  constructor
  · rintro ⟨⟨hpos, hcount⟩, hitem, rfl, hsized⟩
    obtain ⟨lower, rfl⟩ := Nat.exists_eq_succ_of_ne_zero hpos.ne'
    exact ⟨(hp lower).1 hitem, by rw [hbytes]; rfl, by rw [hone]; rfl, hcount, hsized⟩
  · rintro ⟨hencodable, houtput, hcount, hwithin, hsized⟩
    obtain ⟨lower, rfl⟩ := Nat.exists_eq_succ_of_ne_zero hencodable.pos.ne'
    rw [hbytes] at houtput
    rw [hone] at hcount
    cases writer'
    simp only at houtput hcount
    subst houtput hcount
    exact ⟨⟨hencodable.pos, hwithin⟩, (hp lower).2 hencodable, rfl, hsized⟩

/-- The first two tests of an encoder visit. -/
theorem visit_guards_iff {bound : Limits} {levels depth : Nat}
    (hlevels : depth + levels = bound.levels) (count : Nat) (p : Prop) :
    (¬ depth > bound.maxDepth.toNat ∧ ¬ count ≥ bound.maxItems.toNat ∧ p) ↔
      (0 < levels ∧ count < bound.maxItems.toNat) ∧ p := by
  rw [← depth_and_items_iff hlevels, not_or, and_assoc]

theorem valueCountFields_sortBy (fields : Fields) :
    valueCountFields (sortBy fieldLess fields) = valueCountFields fields := by
  rw [valueCountFields_eq_sum, valueCountFields_eq_sum]
  exact ((Sorting.sortBy_perm fieldLess fields).map fun field => field.2.valueCount).sum_eq

/-- **The encoder accepts exactly the encodable values within the bounds, and appends the wire
    bytes of the reordered value.** -/
theorem Encoder.visit_eq_ok_iff {bound : Limits} {item : Value} {levels depth : Nat}
    (hlevels : depth + levels = bound.levels) (writer writer' : Encoder) :
    Encoder.visit bound item depth writer = .ok writer' ↔
      Writes bound levels item writer writer' := by
  induction item using Value.induct generalizing levels depth writer writer' with
  | null =>
      rw [Encoder.visit, guard_eq_ok_iff, guard_eq_ok_iff, visit_guards_iff hlevels,
        ← writes_leaf_iff (p := True) rfl rfl (fun _ => ⟨fun _ => .null, fun _ => trivial⟩),
        true_and]
      rfl
  | bool item =>
      rw [Encoder.visit, guard_eq_ok_iff, guard_eq_ok_iff, visit_guards_iff hlevels,
        ← writes_leaf_iff (p := True) rfl rfl (fun _ => ⟨fun _ => .bool item, fun _ => trivial⟩),
        true_and]
      cases item <;> rfl
  | unsigned item =>
      rw [Encoder.visit, guard_eq_ok_iff, guard_eq_ok_iff, visit_guards_iff hlevels,
        ← writes_leaf_iff (p := True) rfl rfl
          (fun _ => ⟨fun _ => .unsigned item, fun _ => trivial⟩), true_and]
      rfl
  | negative item =>
      rw [Encoder.visit, guard_eq_ok_iff, guard_eq_ok_iff, visit_guards_iff hlevels,
        guard_eq_ok_iff, ← writes_leaf_iff rfl rfl (fun _ => (encodable_leaf_iff.1 item).symm),
        ge_iff_le, not_le]
      rfl
  | bytes item =>
      rw [Encoder.visit, guard_eq_ok_iff, guard_eq_ok_iff, visit_guards_iff hlevels,
        guard_eq_ok_iff, ← writes_leaf_iff rfl rfl (fun _ => (encodable_leaf_iff.2.1 item).symm),
        gt_iff_lt, not_lt]
      rfl
  | text item =>
      rw [Encoder.visit, guard_eq_ok_iff, guard_eq_ok_iff, visit_guards_iff hlevels,
        guard_eq_ok_iff, ← writes_leaf_iff rfl rfl (fun _ => (encodable_leaf_iff.2.2 item).symm),
        Bool.not_eq_true', Bool.not_eq_false]
      rfl
  | array items ih =>
      rw [Encoder.visit, guard_eq_ok_iff, guard_eq_ok_iff, visit_guards_iff hlevels,
        guard_eq_ok_iff, gt_iff_lt, not_lt]
      constructor
      · rintro ⟨⟨hpos, hcount⟩, hsize, hrun⟩
        obtain ⟨lower, rfl⟩ := Nat.exists_eq_succ_of_ne_zero hpos.ne'
        have hlower : depth + 1 + lower = bound.levels := by omega
        have hchild := fun child hmem => ih child hmem hlower
        obtain ⟨hitems, houtput, hlast, hwithin, hsized⟩ :=
          (visitItems_eq_ok_iff hchild (.append ⟨_, _ + 1⟩ _) _ hcount).1 hrun
        refine ⟨.array items hsize hitems, ?_, ?_, hwithin, hsized⟩
        · rw [houtput, Value.reorder, wire, reorderItems_eq_map, List.length_map, Encoder.append,
            List.append_assoc]
        · rw [hlast, Value.valueCount, ← Nat.add_assoc]
          rfl
      · rintro ⟨hencodable, houtput, hlast, hwithin, hsized⟩
        cases hencodable with
        | @array lower _ hsize hitems =>
            have hlower : depth + 1 + lower = bound.levels := by omega
            have hchild := fun child hmem => ih child hmem hlower
            rw [Value.valueCount] at hlast
            rw [Value.reorder, wire, reorderItems_eq_map, List.length_map] at houtput
            have hcount : writer.itemCount + 1 ≤ bound.maxItems.toNat := by omega
            refine ⟨⟨by omega, hcount⟩, hsize, (visitItems_eq_ok_iff hchild (.append ⟨_, _ + 1⟩ _) _ hcount).2
              ⟨hitems, ?_, ?_, hwithin, hsized⟩⟩
            · rw [houtput, reorderItems_eq_map, Encoder.append, List.append_assoc]
            · rw [hlast, ← Nat.add_assoc]
              rfl
  | map fields ih =>
      rw [Encoder.visit, guard_eq_ok_iff, guard_eq_ok_iff, visit_guards_iff hlevels,
        guard_eq_ok_iff, gt_iff_lt, not_lt, bind_eq_ok_iff]
      have hsort : ∀ fields : Fields, sortBy Entry.less (fields.map (entryOf bound (depth + 1))) =
          (sortBy fieldLess fields).map (entryOf bound (depth + 1)) := by
        intro fields
        have hless : ∀ a b, Entry.less (entryOf bound (depth + 1) a) (entryOf bound (depth + 1) b) =
            fieldLess a b := fun _ _ => rfl
        exact (Sorting.map_sortBy _ hless fields).symm
      have hmem := Sorting.mem_sortBy fieldLess fields
      have hwire : wireFields (reorderFields (sortBy fieldLess fields)) =
          wireFields (sortBy fieldLess (reorderFields fields)) := by
        rw [sortBy_reorderFields, reorderFields_eq_map]
      have hlength : (sortBy fieldLess (reorderFields fields)).length = fields.length := by
        rw [Sorting.length_sortBy, reorderFields_eq_map, List.length_map]
      constructor
      · rintro ⟨⟨hpos, hcount⟩, hsize, ordered, hentries, hrun⟩
        obtain ⟨lower, rfl⟩ := Nat.exists_eq_succ_of_ne_zero hpos.ne'
        obtain ⟨⟨hdistinct, -⟩, hkeys, rfl⟩ := entries_eq_ok_iff.1 hentries
        rw [hsort] at hrun
        have hlower : depth + 1 + lower = bound.levels := by omega
        have hchild := fun field hfield => ih field ((hmem field).1 hfield) hlower
        obtain ⟨hfields, houtput, hlast, hwithin, hsized⟩ :=
          (writeEntries_eq_ok_iff hchild (.append ⟨_, _ + 1⟩ _) _ hcount).1 hrun
        refine ⟨.map fields hsize hdistinct hkeys fun field hfield =>
          hfields field ((hmem field).2 hfield), ?_, ?_, hwithin, hsized⟩
        · rw [houtput, hwire, Value.reorder, wire, hlength, Encoder.append, List.length_map,
            List.append_assoc]
        · rw [hlast, valueCountFields_sortBy, Value.valueCount, ← Nat.add_assoc]
          rfl
      · rintro ⟨hencodable, houtput, hlast, hwithin, hsized⟩
        cases hencodable with
        | @map lower _ hsize hdistinct hkeys hfields =>
            have hlower : depth + 1 + lower = bound.levels := by omega
            have hchild := fun field hfield => ih field ((hmem field).1 hfield) hlower
            rw [Value.valueCount] at hlast
            rw [Value.reorder, wire, hlength] at houtput
            have hcount : writer.itemCount + 1 ≤ bound.maxItems.toNat := by omega
            refine ⟨⟨by omega, hcount⟩, hsize, _, entries_eq_ok_iff.2
              ⟨⟨hdistinct, by simp⟩, hkeys, rfl⟩, ?_⟩
            rw [hsort]
            refine (writeEntries_eq_ok_iff hchild (.append ⟨_, _ + 1⟩ _) _ hcount).2
              ⟨fun field hfield => hfields field ((hmem field).1 hfield), ?_, ?_, hwithin, hsized⟩
            · rw [houtput, hwire, Encoder.append, List.length_map, List.append_assoc]
            · rw [hlast, valueCountFields_sortBy, ← Nat.add_assoc]
              rfl

/-- **When encoding succeeds, and what it gives.** -/
theorem encode_eq_ok_iff {item : Value} {bound : Limits} {output : Bytes} :
    encode item bound = .ok output ↔
      Encodable bound bound.levels item ∧ item.valueCount ≤ bound.maxItems.toNat ∧
        output = wire item.reorder ∧ output.length ≤ bound.maxBytes.toNat := by
  have hlevels : 0 + bound.levels = bound.levels := Nat.zero_add _
  unfold encode validate
  rw [bind_assoc, bind_eq_ok_iff]
  simp only [ok_bind, bind_eq_ok_iff, Except.ok.injEq]
  constructor
  · rintro ⟨count, -, writer, hvisit, rfl⟩
    obtain ⟨hencodable, houtput, hcount, hwithin, hsized⟩ :=
      (Encoder.visit_eq_ok_iff hlevels _ _).1 hvisit
    rw [hcount, Nat.zero_add] at hwithin
    exact ⟨hencodable, hwithin, houtput, hsized⟩
  · rintro ⟨hencodable, hwithin, rfl, hsized⟩
    refine ⟨item.valueCount, (validateValue_eq_ok_iff hlevels _ _).2
      ⟨hencodable, (Nat.zero_add _).symm, hwithin⟩, ⟨wire item.reorder, item.valueCount⟩, ?_, rfl⟩
    exact (Encoder.visit_eq_ok_iff hlevels _ _).2
      ⟨hencodable, rfl, (Nat.zero_add _).symm, hwithin, hsized⟩

end Cxxlens.ProtocolV2.Cbor
