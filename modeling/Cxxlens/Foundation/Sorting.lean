import Mathlib

set_option autoImplicit false

/-! # Sorting by a strict comparator

`sortBy less` puts a list in the order of a strict Boolean comparator, ties kept in their original
order. A comparator that compares a key of a linear order (`Compares less key`) sorts uniquely as
soon as the keys tell the elements apart: the result then depends on the elements only and not on
the order they came in. The key orders used most are the lexicographic order on byte strings and
the *shortlex* order, which compares lengths first. -/

/-- Bytes in their unsigned order. -/
instance instLinearOrderByte : LinearOrder UInt8 where
  le_refl := UInt8.le_refl
  le_trans _ _ _ := UInt8.le_trans
  le_antisymm _ _ := UInt8.le_antisymm
  le_total := UInt8.le_total
  lt_iff_le_not_ge a b := by
    rw [UInt8.lt_iff_toNat_lt, UInt8.le_iff_toNat_le, UInt8.le_iff_toNat_le]
    omega
  toDecidableLE := inferInstance
  toDecidableEq := inferInstance
  toDecidableLT := inferInstance

namespace Sorting

variable {α β κ : Type*} [LinearOrder κ]

/-- The list in the order of the strict comparator `less`. -/
def sortBy (less : α → α → Bool) (items : List α) : List α :=
  items.insertionSort (fun a b => less b a = false)

/-- `less` compares the key `key`. -/
def Compares (less : α → α → Bool) (key : α → κ) : Prop :=
  ∀ a b, less a b = true ↔ key a < key b

theorem Compares.eq_false_iff {less : α → α → Bool} {key : α → κ} (h : Compares less key)
    (a b : α) : less b a = false ↔ key a ≤ key b := by
  rw [← not_lt, ← h b a, Bool.not_eq_true]

theorem sortBy_perm (less : α → α → Bool) (items : List α) :
    (sortBy less items).Perm items :=
  List.perm_insertionSort _ items

@[simp] theorem mem_sortBy (less : α → α → Bool) (items : List α) (a : α) :
    a ∈ sortBy less items ↔ a ∈ items :=
  (sortBy_perm less items).mem_iff

@[simp] theorem length_sortBy (less : α → α → Bool) (items : List α) :
    (sortBy less items).length = items.length :=
  (sortBy_perm less items).length_eq

theorem sortBy_pairwise {less : α → α → Bool} {key : α → κ} (h : Compares less key)
    (items : List α) : (sortBy less items).Pairwise (fun a b => key a ≤ key b) := by
  have htotal : Std.Total (fun a b => less b a = false) :=
    ⟨fun a b => by
      rw [h.eq_false_iff, h.eq_false_iff]
      exact le_total _ _⟩
  have htrans : IsTrans α (fun a b => less b a = false) :=
    ⟨fun a b c hab hbc => by
      rw [h.eq_false_iff] at *
      exact le_trans hab hbc⟩
  have hsorted := List.pairwise_insertionSort (fun a b => less b a = false) items
  exact hsorted.imp fun hab => (h.eq_false_iff _ _).1 hab

theorem sortBy_eq_self {less : α → α → Bool} {key : α → κ} (h : Compares less key)
    {items : List α} (hsorted : items.Pairwise (fun a b => key a ≤ key b)) :
    sortBy less items = items :=
  List.Pairwise.insertionSort_eq (hsorted.imp fun hab => (h.eq_false_iff _ _).2 hab)

/-- Two lists with the same elements sort to the same list when the key tells the elements
    apart. -/
theorem sortBy_eq_of_perm {less : α → α → Bool} {key : α → κ} (h : Compares less key)
    {left right : List α} (hperm : left.Perm right)
    (hkey : ∀ a ∈ left, ∀ b ∈ left, key a = key b → a = b) :
    sortBy less left = sortBy less right := by
  refine List.Perm.eq_of_pairwise ?_ (sortBy_pairwise h left) (sortBy_pairwise h right)
    (((sortBy_perm less left).trans hperm).trans (sortBy_perm less right).symm)
  intro a b ha hb hab hba
  have hb' : b ∈ left := hperm.mem_iff.2 ((mem_sortBy less right b).1 hb)
  exact hkey a ((mem_sortBy less left a).1 ha) b hb' (le_antisymm hab hba)

/-- Sorting by distinct keys is strict. -/
theorem sortBy_pairwise_lt {less : α → α → Bool} {key : α → κ} (h : Compares less key)
    {items : List α} (hnodup : (items.map key).Nodup) :
    (sortBy less items).Pairwise (fun a b => key a < key b) := by
  have hle := sortBy_pairwise h items
  have hne : (sortBy less items).Pairwise (fun a b => key a ≠ key b) :=
    List.pairwise_map.1 ((((sortBy_perm less items).map key).nodup_iff).2 hnodup)
  exact hle.imp₂ (fun _ _ hab hneq => lt_of_le_of_ne hab hneq) hne

theorem map_sortBy (f : α → β) {less : α → α → Bool} {less' : β → β → Bool}
    (hf : ∀ a b, less' (f a) (f b) = less a b) (items : List α) :
    (sortBy less items).map f = sortBy less' (items.map f) :=
  List.map_insertionSort _ _ f items (fun a _ b _ => by rw [hf b a])

/-- Sorting pairs of a key and an element by their keys sorts the elements by theirs. -/
theorem map_snd_sortBy_pairs (less : β → β → Bool) (key : α → β) (items : List α) :
    (sortBy (fun left right : β × α => less left.1 right.1)
        (items.map fun item => (key item, item))).map Prod.snd =
      sortBy (fun left right => less (key left) (key right)) items := by
  have hless : ∀ a b : α, (fun left right : β × α => less left.1 right.1) (key a, a) (key b, b) =
      (fun left right => less (key left) (key right)) a b := fun _ _ => rfl
  rw [← map_sortBy (fun item => (key item, item)) hless, List.map_map]
  exact List.map_id _

theorem sortBy_idem {less : α → α → Bool} {key : α → κ} (h : Compares less key) (items : List α) :
    sortBy less (sortBy less items) = sortBy less items :=
  sortBy_eq_self h (sortBy_pairwise h items)

/-- A list of fewer than two elements is sorted. -/
theorem sortBy_eq_self_of_length {less : α → α → Bool} {items : List α} (h : items.length < 2) :
    sortBy less items = items := by
  cases items with
  | nil => rfl
  | cons item rest =>
      cases rest with
      | nil => rfl
      | cons next rest => exact absurd h (by simp)

/-! ## The shortlex order -/

/-- Shorter lists first, lists of one length in lexicographic order. -/
def shortlexLess (a b : List κ) : Bool :=
  if a.length ≠ b.length then decide (a.length < b.length) else decide (a < b)

/-- The key `shortlexLess` compares. -/
def shortlexKey (a : List κ) : Nat ×ₗ List κ :=
  toLex (a.length, a)

omit [LinearOrder κ] in
theorem shortlexKey_injective : Function.Injective (shortlexKey (κ := κ)) := by
  intro a b h
  exact congrArg Prod.snd (toLex.injective h)

theorem shortlexLess_compares : Compares (shortlexLess (κ := κ)) shortlexKey := by
  intro a b
  rw [shortlexKey, shortlexKey, Prod.Lex.toLex_lt_toLex, shortlexLess]
  by_cases hlen : a.length = b.length
  · simp [hlen]
  · simp [hlen]

/-- A longer list, or an equally long one that is not lexicographically smaller, is not below in
    the shortlex order; this is how decoders spell the test. -/
theorem shortlexLess_eq_false_iff (a b : List κ) :
    shortlexLess a b = false ↔ a.length ≥ b.length ∧ (a.length ≠ b.length ∨ ¬ a < b) := by
  rw [shortlexLess]
  split_ifs with hlen
  · simp only [decide_eq_false_iff_not]
    omega
  · rw [not_not] at hlen
    simp [hlen]

end Sorting
