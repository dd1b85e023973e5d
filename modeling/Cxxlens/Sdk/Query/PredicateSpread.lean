import Cxxlens.Sdk.Query.PredicateClosure

set_option autoImplicit false

/-! # Predicates that stay predicates

Two predicates are alike when they are equal up to the order and the repetition of operands. A
predicate whose `and`s and `or`s all have two operands that are not alike is printed as a text that
the decoder accepts again, with the same meaning; any other is printed as a text that it refuses. -/

namespace Cxxlens.Sdk.Query

open Json Sorting Collections Fallible

/-! ## Alike predicates -/

mutual

/-- Equal up to the order and the repetition of operands. -/
def DecodedPredicate.sameAs : DecodedPredicate → DecodedPredicate → Bool
  | .all operands, .all others =>
    allCovered operands others && others.all fun other => anyCovers operands other
  | .any operands, .any others =>
    allCovered operands others && others.all fun other => anyCovers operands other
  | .equalsPresent column literalValue, .equalsPresent otherColumn otherValue =>
    decide (column = otherColumn ∧ literalValue = otherValue)
  | .columnEqualsPresent left right, .columnEqualsPresent otherLeft otherRight =>
    decide (left = otherLeft ∧ right = otherRight)
  | .isPresent column, .isPresent other => decide (column = other)
  | .isAbsent column, .isAbsent other => decide (column = other)
  | .isUnknown column, .isUnknown other => decide (column = other)
  | _, _ => false

/-- Every operand is among the others. -/
def allCovered : List DecodedPredicate → List DecodedPredicate → Bool
  | [], _ => true
  | operand :: rest, others => (others.any fun other => operand.sameAs other) && allCovered rest others

/-- The other is among the operands. -/
def anyCovers : List DecodedPredicate → DecodedPredicate → Bool
  | [], _ => false
  | operand :: rest, other => operand.sameAs other || anyCovers rest other

end

theorem allCovered_iff {operands others : List DecodedPredicate} :
    allCovered operands others = true ↔
      ∀ operand ∈ operands, ∃ other ∈ others, operand.sameAs other = true := by
  induction operands with
  | nil => simp [allCovered]
  | cons operand rest ih =>
      rw [allCovered, Bool.and_eq_true, List.any_eq_true, ih, List.forall_mem_cons]

theorem anyCovers_iff {operands : List DecodedPredicate} {other : DecodedPredicate} :
    anyCovers operands other = true ↔ ∃ operand ∈ operands, operand.sameAs other = true := by
  induction operands with
  | nil => simp [anyCovers]
  | cons operand rest ih => rw [anyCovers, Bool.or_eq_true, ih, List.exists_mem_cons_iff]

/-- Lists of operands of which each is among the other, up to `sameAs`. -/
theorem covered_iff {operands others : List DecodedPredicate} :
    (allCovered operands others && others.all fun other => anyCovers operands other) = true ↔
      (∀ operand ∈ operands, ∃ other ∈ others, operand.sameAs other = true) ∧
        ∀ other ∈ others, ∃ operand ∈ operands, operand.sameAs other = true := by
  rw [Bool.and_eq_true, allCovered_iff, List.all_eq_true]
  simp only [anyCovers_iff]

mutual

/-- Every `and` and `or` has two operands that are not alike. -/
def DecodedPredicate.spread : DecodedPredicate → Bool
  | .all operands =>
    (operands.any fun operand => operands.any fun other => !operand.sameAs other) &&
      operandsSpread operands
  | .any operands =>
    (operands.any fun operand => operands.any fun other => !operand.sameAs other) &&
      operandsSpread operands
  | _ => true

def operandsSpread : List DecodedPredicate → Bool
  | [] => true
  | operand :: rest => operand.spread && operandsSpread rest

end

theorem operandsSpread_eq (operands : List DecodedPredicate) :
    operandsSpread operands = operands.all DecodedPredicate.spread := by
  induction operands with
  | nil => rfl
  | cons operand rest ih => rw [operandsSpread, ih, List.all_cons]

/-! ## Predicates whose texts tell them apart -/

/-- A predicate that can be read back, within the limits of arguments. -/
structure DecodedPredicate.Printable (predicate : DecodedPredicate) : Prop where
  fits : predicate.Fits
  readable : predicate.Readable

theorem DecodedPredicate.Printable.ext {left right : DecodedPredicate} (hleft : left.Printable)
    (hright : right.Printable) (h : left.text = right.text) : left = right :=
  eq_of_text hleft.fits hright.fits hleft.readable hright.readable h

/-! ## Sorted operands -/

section Hash

variable {hash : Bytes → Bytes}

/-- The key by which operands are sorted. -/
def operandKey (hash : Bytes → Bytes) (operand : DecodedPredicate) : Bytes ×ₗ Bytes :=
  toLex (plainDigest hash operand.text, operand.text)

theorem operandKey_eq_iff {left right : DecodedPredicate} :
    operandKey hash left = operandKey hash right ↔ left.text = right.text := by
  constructor
  · intro h
    exact congrArg Prod.snd (toLex.injective h)
  · intro h
    unfold operandKey
    rw [h]

theorem operandLess_compares :
    Compares (fun left right : DecodedPredicate => operandLess hash left.text right.text)
      (operandKey hash) := by
  intro left right
  unfold operandKey operandLess
  rw [Prod.Lex.toLex_lt_toLex]
  by_cases hdigest : plainDigest hash left.text = plainDigest hash right.text
  · simp [hdigest]
  · simp [hdigest]

theorem operandText_beq_iff (hash : Bytes → Bytes) (left right : DecodedPredicate) :
    (left.text == right.text) = true ↔ operandKey hash left = operandKey hash right := by
  rw [beq_iff_eq, operandKey_eq_iff]

theorem mem_sortOperands_iff (hash : Bytes → Bytes) {operands : List DecodedPredicate}
    (h : ∀ operand ∈ operands, operand.Printable) (operand : DecodedPredicate) :
    operand ∈ sortOperands hash operands ↔ operand ∈ operands :=
  mem_sortUnique_of_injOn (operandText_beq_iff hash)
    (fun a ha b hb heq => (h a ha).ext (h b hb) (operandKey_eq_iff.1 heq)) operand

theorem sortOperands_nodup (operands : List DecodedPredicate) :
    (sortOperands hash operands).Nodup :=
  sortUnique_nodup operandLess_compares (operandText_beq_iff hash) operands

theorem sortOperands_eq_iff {left right : List DecodedPredicate}
    (hleft : ∀ operand ∈ left, operand.Printable) (hright : ∀ operand ∈ right, operand.Printable) :
    sortOperands hash left = sortOperands hash right ↔ ∀ operand, operand ∈ left ↔ operand ∈ right := by
  constructor
  · intro heq operand
    rw [← mem_sortOperands_iff hash hleft, heq, mem_sortOperands_iff hash hright]
  · intro hmem
    exact sortUnique_eq_of_injOn operandLess_compares (operandText_beq_iff hash)
      (fun a ha b hb heq => (hleft a ha).ext (hleft b hb) (operandKey_eq_iff.1 heq)) hmem

/-- A predicate whose canonical predicate is within the limits, so that the operands that are left
    out may take any room. -/
structure DecodedPredicate.Settled (hash : Bytes → Bytes) (predicate : DecodedPredicate) :
    Prop where
  wellFormed : WellFormed predicate.json
  height : predicate.json.height ≤ 64
  readable : predicate.Readable
  length : (predicate.canonical hash).text.length ≤ 4194304

theorem DecodedPredicate.Settled.canonical {predicate : DecodedPredicate}
    (h : predicate.Settled hash) : (predicate.canonical hash).Printable := by
  have hshrinks := shrinks_canonical hash predicate
  exact ⟨⟨hshrinks.wellFormed h.wellFormed, hshrinks.height.trans h.height, h.length⟩,
    h.readable.canonical⟩

/-- The text of an operand is among those that are printed. -/
theorem length_operand_le {kind : Bytes} {operands : List DecodedPredicate}
    {operand : DecodedPredicate} (h : operand ∈ operands) :
    (operand.canonical hash).text.length ≤ (canonicalJson (.object [("kind", .string kind),
      ("operands", .array ((sortOperands hash
        (operands.map (DecodedPredicate.canonical hash))).map DecodedPredicate.json))])).length := by
  have hcanonical : operand.canonical hash ∈ sortBy
      (fun left right => operandLess hash left.text right.text)
      (operands.map (DecodedPredicate.canonical hash)) :=
    (mem_sortBy _ _ _).2 (List.mem_map_of_mem h)
  obtain ⟨kept, hkept, hkey⟩ := exists_mem_unique (operandText_beq_iff hash) hcanonical
  have hmem : kept.json ∈ (sortOperands hash
      (operands.map (DecodedPredicate.canonical hash))).map DecodedPredicate.json :=
    List.mem_map_of_mem hkept
  have hlength := length_item_le hmem
  have hwhole := length_boolean kind ((sortOperands hash
    (operands.map (DecodedPredicate.canonical hash))).map DecodedPredicate.json)
  rw [← operandKey_eq_iff.1 hkey, hwhole]
  rw [canonicalJson] at hlength
  simp only [List.length_cons, List.length_append, List.length_nil] at hlength
  unfold DecodedPredicate.text
  omega

/-- The operands of what is settled are settled. -/
theorem settled_operand {kind : Bytes} {operands : List DecodedPredicate}
    (hwellFormed : WellFormed (.object [("kind", .string kind),
      ("operands", .array (operands.map DecodedPredicate.json))]))
    (hheight : (JsonValue.object [("kind", .string kind),
      ("operands", .array (operands.map DecodedPredicate.json))]).height ≤ 64)
    (hlength : (canonicalJson (.object [("kind", .string kind), ("operands", .array ((sortOperands
      hash (operands.map (DecodedPredicate.canonical hash))).map DecodedPredicate.json))])).length ≤
        4194304)
    {operand : DecodedPredicate} (hoperand : operand ∈ operands) (hreadable : operand.Readable) :
    operand.Settled hash := by
  have hmem : operand.json ∈ operands.map DecodedPredicate.json := List.mem_map_of_mem hoperand
  refine ⟨?_, ?_, hreadable, (length_operand_le hoperand).trans hlength⟩
  · have harray := hwellFormed.member (List.mem_cons_of_mem _ List.mem_cons_self)
    cases harray with
    | array hitems => exact hitems _ hmem
  · have hitems := height_item_le hmem
    simp only [JsonValue.height, membersHeight] at hheight
    omega

theorem DecodedPredicate.Settled.all_operand {operands : List DecodedPredicate}
    (h : (DecodedPredicate.all operands).Settled hash) {operand : DecodedPredicate}
    (hoperand : operand ∈ operands) : operand.Settled hash := by
  obtain ⟨hwellFormed, hheight, hreadable, hlength⟩ := h
  unfold DecodedPredicate.text DecodedPredicate.canonical at hlength
  rw [json_all] at hwellFormed hheight hlength
  rw [canonicalPredicates_eq] at hlength
  cases hreadable with
  | all hreadable =>
      exact settled_operand hwellFormed hheight hlength hoperand (hreadable operand hoperand)

theorem DecodedPredicate.Settled.any_operand {operands : List DecodedPredicate}
    (h : (DecodedPredicate.any operands).Settled hash) {operand : DecodedPredicate}
    (hoperand : operand ∈ operands) : operand.Settled hash := by
  obtain ⟨hwellFormed, hheight, hreadable, hlength⟩ := h
  unfold DecodedPredicate.text DecodedPredicate.canonical at hlength
  rw [json_any] at hwellFormed hheight hlength
  rw [canonicalPredicates_eq] at hlength
  cases hreadable with
  | any hreadable =>
      exact settled_operand hwellFormed hheight hlength hoperand (hreadable operand hoperand)

theorem printable_canonicals {operands : List DecodedPredicate}
    (h : ∀ operand ∈ operands, operand.Settled hash) :
    ∀ operand ∈ operands.map (DecodedPredicate.canonical hash), operand.Printable := by
  intro operand hoperand
  obtain ⟨source, hsource, rfl⟩ := List.mem_map.1 hoperand
  exact (h source hsource).canonical

/-- The operands that are printed are the canonical ones. -/
theorem mem_sortOperands_canonical (hash : Bytes → Bytes) {operands : List DecodedPredicate}
    (h : ∀ operand ∈ operands, operand.Settled hash) (operand : DecodedPredicate) :
    operand ∈ sortOperands hash (operands.map (DecodedPredicate.canonical hash)) ↔
      ∃ source ∈ operands, source.canonical hash = operand := by
  rw [mem_sortOperands_iff hash (printable_canonicals h), List.mem_map]

/-! ## The canonical predicate -/

/-- It is canonical already. -/
theorem canonical_canonical {predicate : DecodedPredicate} (h : predicate.Settled hash) :
    (predicate.canonical hash).canonical hash = predicate.canonical hash := by
  have hsorted : ∀ operands : List DecodedPredicate, (∀ operand ∈ operands, operand.Settled hash) →
      (∀ operand ∈ operands, (operand.canonical hash).canonical hash = operand.canonical hash) →
      sortOperands hash ((sortOperands hash (operands.map (DecodedPredicate.canonical hash))).map
        (DecodedPredicate.canonical hash)) =
      sortOperands hash (operands.map (DecodedPredicate.canonical hash)) := by
    intro operands hsettled hcanonical
    have hmap : (sortOperands hash (operands.map (DecodedPredicate.canonical hash))).map
        (DecodedPredicate.canonical hash) =
        sortOperands hash (operands.map (DecodedPredicate.canonical hash)) := by
      refine (List.map_congr_left ?_).trans (List.map_id _)
      intro operand hoperand
      obtain ⟨source, hsource, rfl⟩ := (mem_sortOperands_canonical hash hsettled _).1 hoperand
      exact hcanonical source hsource
    rw [hmap]
    refine (sortOperands_eq_iff ?_ (printable_canonicals hsettled)).2 ?_
    · intro operand hoperand
      exact printable_canonicals hsettled operand (mem_sortOperands hoperand)
    · exact mem_sortOperands_iff hash (printable_canonicals hsettled)
  induction predicate using DecodedPredicate.induct with
  | all operands ih =>
      simp only [DecodedPredicate.canonical, canonicalPredicates_eq]
      rw [hsorted operands (fun _ => h.all_operand) fun operand hoperand =>
        ih operand hoperand (h.all_operand hoperand)]
  | any operands ih =>
      simp only [DecodedPredicate.canonical, canonicalPredicates_eq]
      rw [hsorted operands (fun _ => h.any_operand) fun operand hoperand =>
        ih operand hoperand (h.any_operand hoperand)]
  | equalsPresent | columnEqualsPresent | isPresent | isAbsent | isUnknown => rfl

/-- It is printed as the predicate is. -/
theorem predicateJson_canonical {predicate : DecodedPredicate} (h : predicate.Settled hash) :
    predicateJson hash (predicate.canonical hash) = predicateJson hash predicate := by
  rw [predicateJson_eq, predicateJson_eq, canonical_canonical h]

/-- It holds of the rows of which the predicate holds. -/
theorem evaluatePredicate_canonical {predicate : DecodedPredicate} (h : predicate.Settled hash)
    (row : AnnotatedRow) (columnTypes : ColumnTypes) :
    evaluatePredicate row columnTypes (predicate.canonical hash) =
      evaluatePredicate row columnTypes predicate := by
  induction predicate using DecodedPredicate.induct with
  | all operands ih =>
      have hmem := mem_sortOperands_canonical hash fun _ => h.all_operand
      simp only [DecodedPredicate.canonical, canonicalPredicates_eq, evaluatePredicate,
        allOperands_eq]
      rw [Bool.eq_iff_iff, List.all_eq_true, List.all_eq_true]
      constructor
      · intro hall operand hoperand
        rw [← ih operand hoperand (h.all_operand hoperand)]
        exact hall _ ((hmem _).2 ⟨operand, hoperand, rfl⟩)
      · intro hall operand hoperand
        obtain ⟨source, hsource, rfl⟩ := (hmem _).1 hoperand
        rw [ih source hsource (h.all_operand hsource)]
        exact hall source hsource
  | any operands ih =>
      have hmem := mem_sortOperands_canonical hash fun _ => h.any_operand
      simp only [DecodedPredicate.canonical, canonicalPredicates_eq, evaluatePredicate,
        anyOperand_eq]
      rw [Bool.eq_iff_iff, List.any_eq_true, List.any_eq_true]
      constructor
      · intro hany
        obtain ⟨operand, hoperand, hholds⟩ := hany
        obtain ⟨source, hsource, rfl⟩ := (hmem _).1 hoperand
        rw [ih source hsource (h.any_operand hsource)] at hholds
        exact ⟨source, hsource, hholds⟩
      · intro hany
        obtain ⟨operand, hoperand, hholds⟩ := hany
        rw [← ih operand hoperand (h.any_operand hoperand)] at hholds
        exact ⟨_, (hmem _).2 ⟨operand, hoperand, rfl⟩, hholds⟩
  | equalsPresent | columnEqualsPresent | isPresent | isAbsent | isUnknown => rfl

/-! ## Which predicates stay predicates -/

/-- Alike predicates have one canonical predicate, and others have two. -/
theorem canonical_eq_iff (left : DecodedPredicate) : ∀ right : DecodedPredicate, left.Settled hash →
    right.Settled hash → (left.canonical hash = right.canonical hash ↔ left.sameAs right = true) := by
  have hlists : ∀ operands others : List DecodedPredicate,
      (∀ operand ∈ operands, operand.Settled hash) → (∀ other ∈ others, other.Settled hash) →
      (∀ operand ∈ operands, ∀ right : DecodedPredicate, operand.Settled hash → right.Settled hash →
        (operand.canonical hash = right.canonical hash ↔ operand.sameAs right = true)) →
      (sortOperands hash (operands.map (DecodedPredicate.canonical hash)) =
          sortOperands hash (others.map (DecodedPredicate.canonical hash)) ↔
        (allCovered operands others && others.all fun other => anyCovers operands other) = true) := by
    intro operands others hoperands hothers ih
    rw [sortOperands_eq_iff (printable_canonicals hoperands) (printable_canonicals hothers),
      covered_iff]
    constructor
    · intro hmem
      constructor
      · intro operand hoperand
        obtain ⟨other, hother, heq⟩ := List.mem_map.1 ((hmem _).1 (List.mem_map_of_mem hoperand))
        exact ⟨other, hother,
          (ih operand hoperand other (hoperands operand hoperand) (hothers other hother)).1 heq.symm⟩
      · intro other hother
        obtain ⟨operand, hoperand, heq⟩ := List.mem_map.1 ((hmem _).2 (List.mem_map_of_mem hother))
        exact ⟨operand, hoperand,
          (ih operand hoperand other (hoperands operand hoperand) (hothers other hother)).1 heq⟩
    · intro hcovered canonical
      rw [List.mem_map, List.mem_map]
      constructor
      · intro hleft
        obtain ⟨operand, hoperand, rfl⟩ := hleft
        obtain ⟨other, hother, hsame⟩ := hcovered.1 operand hoperand
        exact ⟨other, hother, ((ih operand hoperand other (hoperands operand hoperand)
          (hothers other hother)).2 hsame).symm⟩
      · intro hright
        obtain ⟨other, hother, rfl⟩ := hright
        obtain ⟨operand, hoperand, hsame⟩ := hcovered.2 other hother
        exact ⟨operand, hoperand, (ih operand hoperand other (hoperands operand hoperand)
          (hothers other hother)).2 hsame⟩
  induction left using DecodedPredicate.induct with
  | all operands ih =>
      intro right hleft hright
      cases right with
      | all others =>
          simp only [DecodedPredicate.canonical, canonicalPredicates_eq, DecodedPredicate.sameAs,
            DecodedPredicate.all.injEq]
          exact hlists operands others (fun _ => hleft.all_operand) (fun _ => hright.all_operand) ih
      | _ => simp [DecodedPredicate.canonical, DecodedPredicate.sameAs]
  | any operands ih =>
      intro right hleft hright
      cases right with
      | any others =>
          simp only [DecodedPredicate.canonical, canonicalPredicates_eq, DecodedPredicate.sameAs,
            DecodedPredicate.any.injEq]
          exact hlists operands others (fun _ => hleft.any_operand) (fun _ => hright.any_operand) ih
      | _ => simp [DecodedPredicate.canonical, DecodedPredicate.sameAs]
  | equalsPresent | columnEqualsPresent | isPresent | isAbsent | isUnknown =>
      intro right hleft hright
      cases right <;> simp [DecodedPredicate.canonical, DecodedPredicate.sameAs]

/-- A list in which nothing repeats has two elements where two are different. -/
theorem two_le_length_iff {α : Type} {items : List α} (h : items.Nodup) :
    2 ≤ items.length ↔ ∃ a ∈ items, ∃ b ∈ items, a ≠ b := by
  match items with
  | [] => simp
  | [a] => simp
  | a :: b :: rest =>
      have hne : a ≠ b := by
        intro heq
        simp [heq] at h
      simp only [List.length_cons, Nat.le_add_left, true_iff]
      exact ⟨a, by simp, b, by simp, hne⟩

/-- The canonical predicate has two operands everywhere where no `and` or `or` is of operands that
    are all alike. -/
theorem wide_canonical {predicate : DecodedPredicate} (h : predicate.Settled hash) :
    (predicate.canonical hash).wide = predicate.spread := by
  have hlists : ∀ operands : List DecodedPredicate, (∀ operand ∈ operands, operand.Settled hash) →
      (∀ operand ∈ operands, (operand.canonical hash).wide = operand.spread) →
      ((decide (2 ≤ (sortOperands hash (operands.map (DecodedPredicate.canonical hash))).length) &&
        operandsWide (sortOperands hash (operands.map (DecodedPredicate.canonical hash)))) = true ↔
      ((operands.any fun operand => operands.any fun other => !operand.sameAs other) &&
        operandsSpread operands) = true) := by
    intro operands hoperands ih
    have hmem := mem_sortOperands_canonical hash hoperands
    rw [Bool.and_eq_true, Bool.and_eq_true, decide_eq_true_iff, operandsWide_eq, operandsSpread_eq,
      List.all_eq_true, List.all_eq_true, two_le_length_iff (sortOperands_nodup _)]
    simp only [List.any_eq_true, Bool.not_eq_true', hmem]
    refine and_congr ?_ ?_
    · constructor
      · intro htwo
        obtain ⟨_, ⟨operand, hoperand, rfl⟩, _, ⟨other, hother, rfl⟩, hne⟩ := htwo
        rw [Ne, canonical_eq_iff _ _ (hoperands _ hoperand) (hoperands _ hother)] at hne
        exact ⟨operand, hoperand, other, hother, Bool.eq_false_iff.2 hne⟩
      · intro htwo
        obtain ⟨operand, hoperand, other, hother, hne⟩ := htwo
        refine ⟨_, ⟨operand, hoperand, rfl⟩, _, ⟨other, hother, rfl⟩, ?_⟩
        rw [Ne, canonical_eq_iff _ _ (hoperands _ hoperand) (hoperands _ hother)]
        exact Bool.eq_false_iff.1 hne
    · constructor
      · intro hwide operand hoperand
        rw [← ih operand hoperand]
        exact hwide _ ⟨operand, hoperand, rfl⟩
      · intro hspread canonical hcanonical
        obtain ⟨operand, hoperand, rfl⟩ := hcanonical
        rw [ih operand hoperand]
        exact hspread operand hoperand
  induction predicate using DecodedPredicate.induct with
  | all operands ih =>
      rw [Bool.eq_iff_iff]
      simp only [DecodedPredicate.canonical, canonicalPredicates_eq, DecodedPredicate.wide,
        DecodedPredicate.spread]
      exact hlists operands (fun _ => h.all_operand) fun operand hoperand =>
        ih operand hoperand (h.all_operand hoperand)
  | any operands ih =>
      rw [Bool.eq_iff_iff]
      simp only [DecodedPredicate.canonical, canonicalPredicates_eq, DecodedPredicate.wide,
        DecodedPredicate.spread]
      exact hlists operands (fun _ => h.any_operand) fun operand hoperand =>
        ih operand hoperand (h.any_operand hoperand)
  | equalsPresent | columnEqualsPresent | isPresent | isAbsent | isUnknown => rfl

end Hash

end Cxxlens.Sdk.Query
