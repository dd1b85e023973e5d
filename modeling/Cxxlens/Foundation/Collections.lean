import Cxxlens.Foundation.Fallible
import Cxxlens.Foundation.Sorting

set_option autoImplicit false

/-! # Runs, groups and collecting loops

Three ways programs walk a list. `unique` keeps the first of each run of equal neighbours; behind a
sort it makes a list canonical, so that it depends only on which elements there are
(`sortUnique_eq_of_mem_iff`). `groupBy` collects the elements by a key, as a map of vectors does.
`collect` appends what a fallible step returns for each element. -/

namespace Collections

open Sorting Fallible

variable {α β κ : Type*}

/-! ## Runs of equal neighbours -/

/-- The rest of a list behind an element that was kept. -/
def uniqueAfter (same : α → α → Bool) (kept : α) : List α → List α
  | [] => []
  | item :: rest =>
    if same kept item = true then uniqueAfter same kept rest
    else item :: uniqueAfter same item rest

/-- `std::unique`: the first element of each run. -/
def unique (same : α → α → Bool) : List α → List α
  | [] => []
  | item :: rest => item :: uniqueAfter same item rest

theorem mem_of_mem_uniqueAfter {same : α → α → Bool} {items : List α} :
    ∀ {kept a : α}, a ∈ uniqueAfter same kept items → a ∈ items := by
  induction items with
  | nil =>
      intro kept a h
      exact h
  | cons item rest ih =>
      intro kept a h
      rw [uniqueAfter] at h
      split_ifs at h with hsame
      · exact List.mem_cons_of_mem _ (ih h)
      · rcases List.mem_cons.1 h with rfl | h
        · exact List.mem_cons_self
        · exact List.mem_cons_of_mem _ (ih h)

theorem mem_of_mem_unique {same : α → α → Bool} {items : List α} {a : α}
    (h : a ∈ unique same items) : a ∈ items := by
  cases items with
  | nil => exact h
  | cons item rest =>
      rcases List.mem_cons.1 h with rfl | h
      · exact List.mem_cons_self
      · exact List.mem_cons_of_mem _ (mem_of_mem_uniqueAfter h)

/-- Every element has the key of one that was kept. -/
theorem exists_mem_uniqueAfter {same : α → α → Bool} {key : α → κ}
    (hsame : ∀ a b, same a b = true ↔ key a = key b) {items : List α} :
    ∀ {kept a : α}, a ∈ items → key a = key kept ∨ ∃ b ∈ uniqueAfter same kept items, key b = key a := by
  induction items with
  | nil =>
      intro kept a h
      exact absurd h (by simp)
  | cons item rest ih =>
      intro kept a h
      rw [uniqueAfter]
      split_ifs with heq
      · rcases List.mem_cons.1 h with rfl | h
        · exact .inl ((hsame _ _).1 heq).symm
        · exact ih h
      · rcases List.mem_cons.1 h with rfl | h
        · exact .inr ⟨_, List.mem_cons_self, rfl⟩
        · rcases ih h with hkey | ⟨b, hb, hkey⟩
          · exact .inr ⟨item, List.mem_cons_self, hkey.symm⟩
          · exact .inr ⟨b, List.mem_cons_of_mem _ hb, hkey⟩

theorem exists_mem_unique {same : α → α → Bool} {key : α → κ}
    (hsame : ∀ a b, same a b = true ↔ key a = key b) {items : List α} {a : α} (h : a ∈ items) :
    ∃ b ∈ unique same items, key b = key a := by
  cases items with
  | nil => exact absurd h (by simp)
  | cons item rest =>
      rcases List.mem_cons.1 h with rfl | h
      · exact ⟨_, List.mem_cons_self, rfl⟩
      · rcases exists_mem_uniqueAfter hsame h with hkey | ⟨b, hb, hkey⟩
        · exact ⟨item, List.mem_cons_self, hkey.symm⟩
        · exact ⟨b, List.mem_cons_of_mem _ hb, hkey⟩

theorem map_uniqueAfter (f : α → β) {same : α → α → Bool} {same' : β → β → Bool}
    (hf : ∀ a b, same' (f a) (f b) = same a b) (items : List α) :
    ∀ kept, (uniqueAfter same kept items).map f = uniqueAfter same' (f kept) (items.map f) := by
  induction items with
  | nil =>
      intro kept
      rfl
  | cons item rest ih =>
      intro kept
      rw [uniqueAfter, List.map_cons, uniqueAfter, hf]
      split_ifs
      · exact ih kept
      · rw [List.map_cons, ih item]

theorem map_unique (f : α → β) {same : α → α → Bool} {same' : β → β → Bool}
    (hf : ∀ a b, same' (f a) (f b) = same a b) (items : List α) :
    (unique same items).map f = unique same' (items.map f) := by
  cases items with
  | nil => rfl
  | cons item rest => rw [unique, List.map_cons, List.map_cons, unique, map_uniqueAfter f hf]

theorem uniqueAfter_sublist (same : α → α → Bool) (items : List α) :
    ∀ kept, (uniqueAfter same kept items).Sublist items := by
  induction items with
  | nil =>
      intro kept
      exact List.Sublist.refl _
  | cons item rest ih =>
      intro kept
      unfold uniqueAfter
      split_ifs
      · exact (ih kept).cons item
      · exact (ih item).cons_cons item

theorem unique_sublist (same : α → α → Bool) (items : List α) :
    (unique same items).Sublist items := by
  cases items with
  | nil => exact List.Sublist.refl _
  | cons item rest => exact (uniqueAfter_sublist same rest item).cons_cons item

/-! ## Canonical lists -/

section Canonical

variable [LinearOrder κ]

/-- A sort, then the first of each run. -/
def sortUnique (less same : α → α → Bool) (items : List α) : List α :=
  unique same (sortBy less items)

variable {less same : α → α → Bool} {key : α → κ}

theorem uniqueAfter_pairwise (hsame : ∀ a b, same a b = true ↔ key a = key b) {items : List α} :
    ∀ {kept : α}, (kept :: items).Pairwise (fun a b => key a ≤ key b) →
      (kept :: uniqueAfter same kept items).Pairwise (fun a b => key a < key b) := by
  induction items with
  | nil =>
      intro kept h
      exact List.pairwise_singleton _ _
  | cons item rest ih =>
      intro kept h
      obtain ⟨hkept, hrest⟩ := List.pairwise_cons.1 h
      rw [uniqueAfter]
      split_ifs with heq
      · refine ih (List.pairwise_cons.2 ⟨?_, (List.pairwise_cons.1 hrest).2⟩)
        exact fun b hb => hkept b (List.mem_cons_of_mem _ hb)
      · have hlt : key kept < key item :=
          lt_of_le_of_ne (hkept item List.mem_cons_self) fun hkey => heq ((hsame _ _).2 hkey)
        have hstrict := ih hrest
        refine List.pairwise_cons.2 ⟨?_, hstrict⟩
        intro b hb
        rcases List.mem_cons.1 hb with rfl | hb
        · exact hlt
        · exact hlt.trans ((List.pairwise_cons.1 hstrict).1 b hb)

theorem sortUnique_pairwise (hless : Compares less key)
    (hsame : ∀ a b, same a b = true ↔ key a = key b) (items : List α) :
    (sortUnique less same items).Pairwise (fun a b => key a < key b) := by
  have hsorted := sortBy_pairwise hless items
  rw [sortUnique]
  cases hitems : sortBy less items with
  | nil => exact List.Pairwise.nil
  | cons item rest =>
      rw [hitems] at hsorted
      exact uniqueAfter_pairwise hsame hsorted

omit [LinearOrder κ] in
/-- Where the key tells the elements of the list apart, no element is lost. -/
theorem mem_sortUnique_of_injOn (hsame : ∀ a b, same a b = true ↔ key a = key b) {items : List α}
    (hkey : ∀ a ∈ items, ∀ b ∈ items, key a = key b → a = b) (a : α) :
    a ∈ sortUnique less same items ↔ a ∈ items := by
  constructor
  · intro h
    exact (mem_sortBy less items a).1 (mem_of_mem_unique h)
  · intro h
    obtain ⟨b, hb, hba⟩ := exists_mem_unique hsame ((mem_sortBy less items a).2 h)
    have hmem : b ∈ items := (mem_sortBy less items b).1 (mem_of_mem_unique hb)
    exact hkey b hmem a h hba ▸ hb

omit [LinearOrder κ] in
theorem mem_sortUnique (hkey : Function.Injective key)
    (hsame : ∀ a b, same a b = true ↔ key a = key b) (items : List α) (a : α) :
    a ∈ sortUnique less same items ↔ a ∈ items :=
  mem_sortUnique_of_injOn hsame (fun _ _ _ _ heq => hkey heq) a

theorem sortUnique_nodup (hless : Compares less key)
    (hsame : ∀ a b, same a b = true ↔ key a = key b) (items : List α) :
    (sortUnique less same items).Nodup :=
  (sortUnique_pairwise hless hsame items).imp fun hlt heq => absurd (congrArg key heq) hlt.ne

omit [LinearOrder κ] in
/-- Where a comparator of elements compares their images, the images come out canonical. -/
theorem map_sortUnique (f : α → β) {less' same' : β → β → Bool}
    (hless : ∀ a b, less' (f a) (f b) = less a b) (hsame : ∀ a b, same' (f a) (f b) = same a b)
    (items : List α) :
    (sortUnique less same items).map f = sortUnique less' same' (items.map f) := by
  unfold sortUnique
  rw [map_unique f hsame, map_sortBy f hless]

omit [LinearOrder κ] in
/-- What is summed over the elements does not grow. -/
theorem sum_sortUnique_le (measure : α → Nat) (items : List α) :
    ((sortUnique less same items).map measure).sum ≤ (items.map measure).sum := by
  have hsublist := (unique_sublist same (sortBy less items)).map measure
  exact (hsublist.sum_le_sum fun _ _ => Nat.zero_le _).trans_eq ((sortBy_perm less items).map measure).sum_eq

omit [LinearOrder κ] in
theorem length_sortUnique_le (items : List α) :
    (sortUnique less same items).length ≤ items.length := by
  have hlength := (unique_sublist same (sortBy less items)).length_le
  rwa [length_sortBy] at hlength

/-- Two lists with the same elements have the same canonical form, where the key tells them apart. -/
theorem sortUnique_eq_of_injOn (hless : Compares less key)
    (hsame : ∀ a b, same a b = true ↔ key a = key b) {left right : List α}
    (hkey : ∀ a ∈ left, ∀ b ∈ left, key a = key b → a = b) (h : ∀ a, a ∈ left ↔ a ∈ right) :
    sortUnique less same left = sortUnique less same right := by
  have hmem : ∀ a, a ∈ sortUnique less same left ↔ a ∈ sortUnique less same right := by
    intro a
    have hkeyRight : ∀ a ∈ right, ∀ b ∈ right, key a = key b → a = b :=
      fun a ha b hb => hkey a ((h a).2 ha) b ((h b).2 hb)
    rw [mem_sortUnique_of_injOn hsame hkey, mem_sortUnique_of_injOn hsame hkeyRight, h]
  refine List.Perm.eq_of_pairwise ?_ (sortUnique_pairwise hless hsame left)
    (sortUnique_pairwise hless hsame right) ?_
  · intro a b ha hb hab hba
    exact absurd hab hba.not_gt
  · exact (List.perm_ext_iff_of_nodup (sortUnique_nodup hless hsame left)
      (sortUnique_nodup hless hsame right)).2 hmem

theorem sortUnique_eq_of_mem_iff (hless : Compares less key) (hkey : Function.Injective key)
    (hsame : ∀ a b, same a b = true ↔ key a = key b) {left right : List α}
    (h : ∀ a, a ∈ left ↔ a ∈ right) : sortUnique less same left = sortUnique less same right :=
  sortUnique_eq_of_injOn hless hsame (fun _ _ _ _ heq => hkey heq) h

end Canonical

/-! ## Groups -/

section Groups

variable [DecidableEq κ]

/-- `groups[key].push_back(value)` -/
def pushBack (key : κ) (value : α) : List (κ × List α) → List (κ × List α)
  | [] => [(key, [value])]
  | group :: rest =>
    if group.1 = key then (group.1, group.2 ++ [value]) :: rest
    else group :: pushBack key value rest

/-- `groups.find(key)`: the elements of the group, none where there is no group. -/
def findGroup (key : κ) : List (κ × List α) → List α
  | [] => []
  | group :: rest => if group.1 = key then group.2 else findGroup key rest

/-- The loop that puts every element in its group. -/
def groupBy (key : α → κ) (items : List α) : List (κ × List α) :=
  items.foldl (fun groups item => pushBack (key item) item groups) []

theorem findGroup_pushBack (key key' : κ) (value : α) (groups : List (κ × List α)) :
    findGroup key' (pushBack key value groups) =
      findGroup key' groups ++ if key = key' then [value] else [] := by
  induction groups with
  | nil => simp [pushBack, findGroup]
  | cons group rest ih =>
      rw [pushBack]
      by_cases hgroup : group.1 = key
      · rw [if_pos hgroup, findGroup, findGroup, ← hgroup]
        split_ifs
        · rfl
        · rw [List.append_nil]
      · rw [if_neg hgroup, findGroup, findGroup, ih]
        by_cases hkey : group.1 = key'
        · rw [if_pos hkey, if_pos hkey, if_neg fun heq => hgroup (hkey.trans heq.symm),
            List.append_nil]
        · rw [if_neg hkey, if_neg hkey]

/-- The keys of the groups after one more element. -/
theorem keys_pushBack (key : κ) (value : α) (groups : List (κ × List α)) :
    (pushBack key value groups).map Prod.fst =
      if key ∈ groups.map Prod.fst then groups.map Prod.fst else groups.map Prod.fst ++ [key] := by
  induction groups with
  | nil => simp [pushBack]
  | cons group rest ih =>
      rw [pushBack]
      by_cases hgroup : group.1 = key
      · simp [hgroup]
      · have hne : ¬ key = group.1 := fun heq => hgroup heq.symm
        rw [if_neg hgroup, List.map_cons, ih, List.map_cons]
        simp only [List.mem_cons, hne, false_or]
        split_ifs
        · rfl
        · rfl

theorem foldl_pushBack_spec (key : α → κ) (items : List α) :
    ∀ groups : List (κ × List α), (groups.map Prod.fst).Nodup →
      let folded := items.foldl (fun groups item => pushBack (key item) item groups) groups
      (folded.map Prod.fst).Nodup ∧
        (∀ k, k ∈ folded.map Prod.fst ↔ k ∈ groups.map Prod.fst ∨ k ∈ items.map key) ∧
        ∀ k, findGroup k folded = findGroup k groups ++ items.filter (fun item => key item = k) := by
  induction items with
  | nil =>
      intro groups hgroups
      exact ⟨hgroups, by simp, by simp⟩
  | cons item rest ih =>
      intro groups hgroups
      have hkeys := keys_pushBack (key item) item groups
      have hnodup : ((pushBack (key item) item groups).map Prod.fst).Nodup := by
        rw [hkeys]
        split_ifs with hmem
        · exact hgroups
        · rw [List.nodup_append_comm]
          exact List.nodup_cons.2 ⟨hmem, hgroups⟩
      obtain ⟨hfold, hmem, hfind⟩ := ih _ hnodup
      refine ⟨hfold, ?_, ?_⟩
      · intro k
        rw [List.foldl_cons, hmem, hkeys, List.map_cons, List.mem_cons]
        split_ifs with hold
        · constructor
          · exact fun h => h.imp_right .inr
          · rintro (h | rfl | h)
            · exact .inl h
            · exact .inl hold
            · exact .inr h
        · rw [List.mem_append, List.mem_singleton, or_assoc]
      · intro k
        rw [List.foldl_cons, hfind, findGroup_pushBack, List.filter_cons, List.append_assoc]
        by_cases hk : key item = k
        · simp [hk]
        · simp [hk]

@[simp] theorem findGroup_groupBy (key : α → κ) (items : List α) (k : κ) :
    findGroup k (groupBy key items) = items.filter (fun item => key item = k) := by
  rw [groupBy, (foldl_pushBack_spec key items [] List.nodup_nil).2.2 k]
  rfl

theorem findGroup_of_mem {groups : List (κ × List α)} (hnodup : (groups.map Prod.fst).Nodup)
    {group : κ × List α} (h : group ∈ groups) : findGroup group.1 groups = group.2 := by
  induction groups with
  | nil => exact absurd h (by simp)
  | cons head rest ih =>
      rw [List.map_cons, List.nodup_cons] at hnodup
      rw [findGroup]
      rcases List.mem_cons.1 h with rfl | h
      · rw [if_pos rfl]
      · rw [if_neg, ih hnodup.2 h]
        intro heq
        exact hnodup.1 (heq ▸ List.mem_map_of_mem h)

/-- A group holds the elements with its key, in their order, and every element is in a group. -/
theorem mem_groupBy_iff (key : α → κ) (items : List α) (group : κ × List α) :
    group ∈ groupBy key items ↔
      group.1 ∈ items.map key ∧ group.2 = items.filter (fun item => key item = group.1) := by
  obtain ⟨hnodup, hmem, -⟩ := foldl_pushBack_spec key items [] List.nodup_nil
  have hkeys : ∀ k, k ∈ (groupBy key items).map Prod.fst ↔ k ∈ items.map key := by
    intro k
    rw [groupBy, hmem k]
    simp
  constructor
  · intro h
    refine ⟨(hkeys _).1 (List.mem_map_of_mem h), ?_⟩
    rw [← findGroup_groupBy key items group.1]
    exact (findGroup_of_mem hnodup h).symm
  · rintro ⟨hkey, hgroup⟩
    obtain ⟨found, hfound, heq⟩ := List.mem_map.1 ((hkeys _).2 hkey)
    have hitems := findGroup_of_mem hnodup hfound
    rw [← groupBy, findGroup_groupBy, heq, ← hgroup] at hitems
    exact (Prod.ext heq hitems.symm : found = group) ▸ hfound

end Groups

/-! ## Pairs -/

/-- The pairs of two loops, the inner one from behind the element of the outer. -/
def pairs : List α → List (α × α)
  | [] => []
  | item :: rest => rest.map (fun other => (item, other)) ++ pairs rest

/-- For a symmetric property that no element has with itself, the pairs are all there is. -/
theorem exists_mem_pairs_iff {R : α → α → Prop} (hsymm : ∀ a b, R a b → R b a)
    (hirrefl : ∀ a, ¬ R a a) (items : List α) :
    (∃ pair ∈ pairs items, R pair.1 pair.2) ↔ ∃ a ∈ items, ∃ b ∈ items, R a b := by
  induction items with
  | nil => simp [pairs]
  | cons item rest ih =>
      constructor
      · rintro ⟨pair, hpair, hR⟩
        rcases List.mem_append.1 hpair with hpair | hpair
        · obtain ⟨other, hother, rfl⟩ := List.mem_map.1 hpair
          exact ⟨item, List.mem_cons_self, other, List.mem_cons_of_mem _ hother, hR⟩
        · obtain ⟨a, ha, b, hb, hab⟩ := ih.1 ⟨pair, hpair, hR⟩
          exact ⟨a, List.mem_cons_of_mem _ ha, b, List.mem_cons_of_mem _ hb, hab⟩
      · rintro ⟨a, ha, b, hb, hR⟩
        have hitem : ∀ other ∈ rest, R item other → ∃ pair ∈ pairs (item :: rest), R pair.1 pair.2 :=
          fun other hother hR => ⟨(item, other),
            List.mem_append_left _ (List.mem_map_of_mem hother), hR⟩
        rcases List.mem_cons.1 ha with rfl | ha'
        · rcases List.mem_cons.1 hb with rfl | hb'
          · exact absurd hR (hirrefl _)
          · exact hitem b hb' hR
        · rcases List.mem_cons.1 hb with rfl | hb'
          · exact hitem _ ha' (hsymm _ _ hR)
          · obtain ⟨pair, hpair, hR⟩ := ih.2 ⟨a, ha', b, hb', hR⟩
            exact ⟨pair, List.mem_append_right _ hpair, hR⟩

theorem mem_of_mem_pairs {items : List α} {pair : α × α} (h : pair ∈ pairs items) :
    pair.1 ∈ items ∧ pair.2 ∈ items := by
  induction items with
  | nil => exact absurd h (by simp [pairs])
  | cons item rest ih =>
      rcases List.mem_append.1 h with h | h
      · obtain ⟨other, hother, rfl⟩ := List.mem_map.1 h
        exact ⟨List.mem_cons_self, List.mem_cons_of_mem _ hother⟩
      · exact ⟨List.mem_cons_of_mem _ (ih h).1, List.mem_cons_of_mem _ (ih h).2⟩

/-! ## Loops that append -/

section Collect

universe u v

variable {ε : Type u} {γ δ : Type v}

/-- The loop that appends what `step` returns for each element, up to the first failure. -/
def collect (step : γ → Except ε (List δ)) : List γ → Except ε (List δ)
  | [] => .ok []
  | item :: rest => do
    let first ← step item
    let others ← collect step rest
    .ok (first ++ others)

/-- A loop that succeeded succeeded at every element, and returns what the steps returned. -/
theorem collect_eq_ok {step : γ → Except ε (List δ)} {items : List γ} {output : List δ}
    (h : collect step items = .ok output) :
    (∀ item ∈ items, ∃ returned, step item = .ok returned) ∧
      ∀ d, d ∈ output ↔ ∃ item ∈ items, ∃ returned, step item = .ok returned ∧ d ∈ returned := by
  induction items generalizing output with
  | nil =>
      obtain rfl := Except.ok.inj h
      exact ⟨by simp, by simp⟩
  | cons item rest ih =>
      rw [collect, bind_eq_ok_iff] at h
      obtain ⟨first, hfirst, h⟩ := h
      rw [bind_eq_ok_iff] at h
      obtain ⟨others, hothers, h⟩ := h
      obtain rfl := Except.ok.inj h
      obtain ⟨hall, hmem⟩ := ih hothers
      refine ⟨List.forall_mem_cons.2 ⟨⟨first, hfirst⟩, hall⟩, ?_⟩
      intro d
      rw [List.mem_append, hmem]
      constructor
      · rintro (hd | ⟨other, hother, hd⟩)
        · exact ⟨item, List.mem_cons_self, first, hfirst, hd⟩
        · exact ⟨other, List.mem_cons_of_mem _ hother, hd⟩
      · rintro ⟨other, hother, returned, hreturned, hd⟩
        rcases List.mem_cons.1 hother with rfl | hother
        · rw [hfirst] at hreturned
          exact .inl (Except.ok.inj hreturned ▸ hd)
        · exact .inr ⟨other, hother, returned, hreturned, hd⟩

/-- A loop that failed did so at some element. -/
theorem exists_of_collect_eq_error {step : γ → Except ε (List δ)} {items : List γ} {e : ε}
    (h : collect step items = .error e) : ∃ item ∈ items, step item = .error e := by
  induction items with
  | nil => cases h
  | cons item rest ih =>
      cases hitem : step item with
      | error other =>
          rw [collect, hitem, error_bind] at h
          obtain rfl := Except.error.inj h
          exact ⟨item, List.mem_cons_self, hitem⟩
      | ok first =>
          rw [collect, hitem, ok_bind] at h
          cases hrest : collect step rest with
          | error other =>
              rw [hrest, error_bind] at h
              obtain ⟨found, hfound, hstep⟩ := ih (hrest.trans h)
              exact ⟨found, List.mem_cons_of_mem _ hfound, hstep⟩
          | ok others =>
              rw [hrest, ok_bind] at h
              cases h

theorem collect_isOk_iff (step : γ → Except ε (List δ)) (items : List γ) :
    (∃ output, collect step items = .ok output) ↔
      ∀ item ∈ items, ∃ returned, step item = .ok returned := by
  constructor
  · rintro ⟨output, h⟩
    exact (collect_eq_ok h).1
  · intro h
    induction items with
    | nil => exact ⟨[], rfl⟩
    | cons item rest ih =>
        rw [List.forall_mem_cons] at h
        obtain ⟨⟨first, hfirst⟩, hrest⟩ := h
        obtain ⟨others, hothers⟩ := ih hrest
        exact ⟨first ++ others, by rw [collect, hfirst, ok_bind, hothers, ok_bind]⟩

end Collect

end Collections
