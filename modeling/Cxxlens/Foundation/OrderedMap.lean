import Cxxlens.Foundation.Fallible

set_option autoImplicit false

/-! # Ordered maps

A finite map as the list of its entries in the order of their keys, as an ordered map of a standard
library iterates over it. The order is part of the type, so two maps are equal as soon as they find
the same values (`ext_find`). -/

universe u v w

/-- A map of keys in ascending order. -/
structure OrderedMap (κ : Type u) (α : Type v) [LinearOrder κ] where
  entries : List (κ × α)
  ordered : (entries.map Prod.fst).Pairwise (· < ·)

namespace OrderedMap

variable {κ : Type u} {α : Type v} [LinearOrder κ]

theorem ext_entries {left right : OrderedMap κ α} (h : left.entries = right.entries) :
    left = right := by
  cases left
  cases right
  cases h
  rfl

instance [DecidableEq α] : DecidableEq (OrderedMap κ α) := fun left right =>
  decidable_of_iff (left.entries = right.entries) ⟨ext_entries, congrArg entries⟩

/-- The map without entries. -/
def empty : OrderedMap κ α where
  entries := []
  ordered := List.Pairwise.nil

/-- The value of the first entry of a key. -/
def findEntry (key : κ) : List (κ × α) → Option α
  | [] => none
  | entry :: rest => if entry.1 = key then some entry.2 else findEntry key rest

/-- `map.find(key)` -/
def find (map : OrderedMap κ α) (key : κ) : Option α :=
  findEntry key map.entries

/-- `map.contains(key)` -/
def contains (map : OrderedMap κ α) (key : κ) : Bool :=
  (map.find key).isSome

/-- The entries with `value` for `key`, in place of the one that is there. -/
def assignEntry (key : κ) (value : α) : List (κ × α) → List (κ × α)
  | [] => [(key, value)]
  | entry :: rest =>
    if key < entry.1 then (key, value) :: entry :: rest
    else if entry.1 = key then (key, value) :: rest
    else entry :: assignEntry key value rest

theorem mem_keys_assignEntry {key other : κ} {value : α} {entries : List (κ × α)}
    (h : other ∈ (assignEntry key value entries).map Prod.fst) :
    other = key ∨ other ∈ entries.map Prod.fst := by
  induction entries with
  | nil => simpa [assignEntry] using h
  | cons entry rest ih =>
      unfold assignEntry at h
      split_ifs at h with hbefore heq
      · simpa using h
      · simp only [List.map_cons, List.mem_cons] at h ⊢
        exact h.imp id Or.inr
      · simp only [List.map_cons, List.mem_cons] at h ⊢
        cases h with
        | inl hfirst => exact Or.inr (Or.inl hfirst)
        | inr hrest => exact (ih hrest).imp id Or.inr

theorem assignEntry_ordered (key : κ) (value : α) {entries : List (κ × α)}
    (h : (entries.map Prod.fst).Pairwise (· < ·)) :
    ((assignEntry key value entries).map Prod.fst).Pairwise (· < ·) := by
  induction entries with
  | nil => exact List.pairwise_singleton _ _
  | cons entry rest ih =>
      obtain ⟨hfirst, hrest⟩ := List.pairwise_cons.1 h
      unfold assignEntry
      split_ifs with hbefore heq
      · refine List.pairwise_cons.2 ⟨?_, h⟩
        intro other hother
        cases List.mem_cons.1 hother with
        | inl hhead => exact hhead ▸ hbefore
        | inr htail => exact hbefore.trans (hfirst other htail)
      · exact List.pairwise_cons.2 ⟨fun other hother => heq ▸ hfirst other hother, hrest⟩
      · refine List.pairwise_cons.2 ⟨?_, ih hrest⟩
        intro other hother
        cases mem_keys_assignEntry hother with
        | inl hkey => exact hkey ▸ lt_of_le_of_ne (not_lt.1 hbefore) heq
        | inr hold => exact hfirst other hold

/-- `map[key] = value` -/
def assign (map : OrderedMap κ α) (key : κ) (value : α) : OrderedMap κ α where
  entries := assignEntry key value map.entries
  ordered := assignEntry_ordered key value map.ordered

/-- `map.emplace(key, value)`: what is there stays. -/
def emplace (map : OrderedMap κ α) (key : κ) (value : α) : OrderedMap κ α :=
  if map.contains key = true then map else map.assign key value

theorem findEntry_eq_some_iff {entries : List (κ × α)}
    (h : (entries.map Prod.fst).Pairwise (· < ·)) {key : κ} {value : α} :
    findEntry key entries = some value ↔ (key, value) ∈ entries := by
  induction entries with
  | nil => simp [findEntry]
  | cons entry rest ih =>
      obtain ⟨hfirst, hrest⟩ := List.pairwise_cons.1 h
      unfold findEntry
      by_cases hkey : entry.1 = key
      · rw [if_pos hkey, List.mem_cons]
        constructor
        · intro hvalue
          exact Or.inl (by rw [← hkey, ← Option.some.inj hvalue])
        · intro hmem
          cases hmem with
          | inl heq => rw [← heq]
          | inr hin =>
              -- a second entry of the key would not stand behind the first
              have hlt := hfirst key (List.mem_map_of_mem hin)
              exact absurd hlt (hkey ▸ lt_irrefl _)
      · rw [if_neg hkey, ih hrest, List.mem_cons]
        constructor
        · exact Or.inr
        · intro hmem
          refine hmem.resolve_left fun heq => hkey ?_
          rw [← heq]

theorem find_eq_some_iff (map : OrderedMap κ α) {key : κ} {value : α} :
    map.find key = some value ↔ (key, value) ∈ map.entries :=
  findEntry_eq_some_iff map.ordered

/-- A map is what it finds. -/
theorem ext_find {left right : OrderedMap κ α} (h : ∀ key, left.find key = right.find key) :
    left = right := by
  have hmem : ∀ entry, entry ∈ left.entries ↔ entry ∈ right.entries := by
    intro entry
    rw [← find_eq_some_iff left, ← find_eq_some_iff right, h]
  have hleft := List.pairwise_map.1 left.ordered
  have hright := List.pairwise_map.1 right.ordered
  have hnodup : ∀ {entries : List (κ × α)}, entries.Pairwise (fun a b => a.1 < b.1) →
      entries.Nodup := by
    intro entries hentries
    exact hentries.imp fun hlt heq => absurd (congrArg Prod.fst heq) hlt.ne
  have hperm := (List.perm_ext_iff_of_nodup (hnodup hleft) (hnodup hright)).2 hmem
  exact ext_entries (hperm.eq_of_pairwise (fun a b _ _ hab hba => absurd hab hba.not_gt)
    hleft hright)

theorem findEntry_assignEntry (key other : κ) (value : α) (entries : List (κ × α)) :
    findEntry other (assignEntry key value entries) =
      if key = other then some value else findEntry other entries := by
  induction entries with
  | nil => simp [assignEntry, findEntry]
  | cons entry rest ih =>
      unfold assignEntry
      by_cases hbefore : key < entry.1
      · rw [if_pos hbefore]
        rfl
      · rw [if_neg hbefore]
        by_cases heq : entry.1 = key
        · rw [if_pos heq]
          subst heq
          by_cases hsame : entry.1 = other
          · simp [findEntry, hsame]
          · simp [findEntry, hsame]
        · rw [if_neg heq]
          by_cases hsame : key = other
          · subst hsame
            simp [findEntry, heq, ih]
          · simp [findEntry, ih, hsame]

@[simp] theorem find_assign (map : OrderedMap κ α) (key other : κ) (value : α) :
    (map.assign key value).find other = if key = other then some value else map.find other :=
  findEntry_assignEntry key other value map.entries

/-- A map is its entries, in whatever order they are listed. -/
theorem ext_perm {left right : OrderedMap κ α} (h : left.entries.Perm right.entries) :
    left = right := by
  refine ext_find fun key => Option.ext fun value => ?_
  rw [find_eq_some_iff, find_eq_some_iff, h.mem_iff]

theorem nodup_keys (map : OrderedMap κ α) : (map.entries.map Prod.fst).Nodup :=
  map.ordered.imp ne_of_lt

theorem contains_eq_true_iff (map : OrderedMap κ α) {key : κ} :
    map.contains key = true ↔ key ∈ map.entries.map Prod.fst := by
  rw [contains, Option.isSome_iff_exists]
  simp only [find_eq_some_iff, List.mem_map, Prod.exists, exists_and_right, exists_eq_right]

theorem assignEntry_perm {key : κ} {value : α} {entries : List (κ × α)}
    (h : key ∉ entries.map Prod.fst) :
    (assignEntry key value entries).Perm ((key, value) :: entries) := by
  induction entries with
  | nil => exact List.Perm.refl _
  | cons entry rest ih =>
      rw [List.map_cons, List.mem_cons, not_or] at h
      unfold assignEntry
      split_ifs with hbefore heq
      · exact List.Perm.refl _
      · exact absurd heq.symm h.1
      · exact ((ih h.2).cons entry).trans (List.Perm.swap _ _ _)

/-- `map.emplace(entry)`, where a key that is there is an error. -/
def emplaceNew {ε : Type w} (error : ε) (map : OrderedMap κ α) (entry : κ × α) :
    Except ε (OrderedMap κ α) :=
  if map.contains entry.1 = true then .error error else .ok (map.assign entry.1 entry.2)

/-- Entries can all be put into a map one after another when none of their keys is there twice. -/
theorem foldlM_emplaceNew_eq_ok_iff {ε : Type w} {error : ε} {entries : List (κ × α)}
    {map final : OrderedMap κ α} :
    entries.foldlM (emplaceNew error) map = .ok final ↔
      final.entries.Perm (map.entries ++ entries) := by
  induction entries generalizing map with
  | nil =>
      rw [List.append_nil]
      constructor
      · intro h
        exact Except.ok.inj h ▸ List.Perm.refl _
      · intro h
        rw [ext_perm h]
        rfl
  | cons entry rest ih =>
      rw [List.foldlM_cons, emplaceNew]
      by_cases hthere : map.contains entry.1 = true
      · rw [if_pos hthere]
        have hfailed : (Except.error error >>= rest.foldlM (emplaceNew error)) ≠ .ok final := by
          simp [bind, Except.bind]
        refine iff_of_false hfailed fun h => ?_
        -- the key would stand twice among those of the final map
        have hkeys := (h.map Prod.fst).nodup_iff.1 final.nodup_keys
        rw [List.map_append, List.nodup_append] at hkeys
        exact hkeys.2.2 entry.1 (map.contains_eq_true_iff.1 hthere) entry.1
          (List.mem_map_of_mem List.mem_cons_self) rfl
      · rw [if_neg hthere]
        have hnew : entry.1 ∉ map.entries.map Prod.fst :=
          fun hmem => hthere (map.contains_eq_true_iff.2 hmem)
        have hperm : ((map.assign entry.1 entry.2).entries ++ rest).Perm
            (map.entries ++ entry :: rest) :=
          ((assignEntry_perm hnew).append_right rest).trans List.perm_middle.symm
        show rest.foldlM (emplaceNew error) (map.assign entry.1 entry.2) = .ok final ↔ _
        rw [ih]
        exact ⟨fun h => h.trans hperm, fun h => h.trans hperm.symm⟩

/-! ## Values of all keys -/

variable {β : Type w}

/-- Every value through a function of its key. -/
def mapValues (f : κ → α → β) (map : OrderedMap κ α) : OrderedMap κ β where
  entries := map.entries.map fun entry => (entry.1, f entry.1 entry.2)
  ordered := by
    rw [List.map_map]
    exact map.ordered

@[simp] theorem entries_mapValues (f : κ → α → β) (map : OrderedMap κ α) :
    (map.mapValues f).entries = map.entries.map fun entry => (entry.1, f entry.1 entry.2) :=
  rfl

@[simp] theorem contains_mapValues (f : κ → α → β) (map : OrderedMap κ α) (key : κ) :
    (map.mapValues f).contains key = map.contains key := by
  rw [Bool.eq_iff_iff, contains_eq_true_iff, contains_eq_true_iff, entries_mapValues, List.map_map]
  rfl

/-- `map[key]`, with values behind those that are there. -/
def extend (map : OrderedMap κ (List α)) (key : κ) (values : List α) : OrderedMap κ (List α) :=
  map.assign key ((map.find key).getD [] ++ values)

@[simp] theorem find_empty (key : κ) : (empty : OrderedMap κ α).find key = none := rfl

theorem find_extend (map : OrderedMap κ (List α)) (key other : κ) (values : List α) :
    (map.extend key values).find other =
      if key = other then some ((map.find key).getD [] ++ values) else map.find other := by
  rw [extend, find_assign]

/-- Blocks of values, each behind those that are there for its key. -/
def gatherAll (blocks : List (κ × List α)) : OrderedMap κ (List α) :=
  blocks.foldl (fun map block => map.extend block.1 block.2) empty

theorem find_foldl_extend (blocks : List (κ × List α)) (map : OrderedMap κ (List α)) (key : κ) :
    (blocks.foldl (fun map block => map.extend block.1 block.2) map).find key =
      if key ∈ blocks.map Prod.fst then
        some ((map.find key).getD [] ++ (blocks.filter fun block => block.1 = key).flatMap Prod.snd)
      else map.find key := by
  induction blocks generalizing map with
  | nil => simp
  | cons block rest ih =>
      rw [List.foldl_cons, ih, find_extend, List.map_cons, List.filter_cons]
      by_cases hkey : block.1 = key
      · subst hkey
        by_cases hrest : block.1 ∈ rest.map Prod.fst
        · simp [hrest]
        · have hnone : rest.filter (fun other => decide (other.1 = block.1)) = [] := by
            rw [List.filter_eq_nil_iff]
            intro other hother heq
            exact hrest (List.mem_map.2 ⟨other, hother, of_decide_eq_true heq⟩)
          simp [hrest, hnone]
      · have hne : ¬ key = block.1 := fun heq => hkey heq.symm
        simp only [List.mem_cons, hne, false_or, hkey, if_false, decide_false, Bool.false_eq_true]

theorem find_gatherAll (blocks : List (κ × List α)) (key : κ) :
    (gatherAll blocks).find key = if key ∈ blocks.map Prod.fst then
      some ((blocks.filter fun block => block.1 = key).flatMap Prod.snd) else none := by
  rw [gatherAll, find_foldl_extend, find_empty, Option.getD_none, List.nil_append]

theorem filter_of_nodup {blocks : List (κ × α)} (h : (blocks.map Prod.fst).Nodup)
    {block : κ × α} (hblock : block ∈ blocks) :
    blocks.filter (fun other => decide (other.1 = block.1)) = [block] := by
  refine List.perm_singleton.1 ((List.perm_ext_iff_of_nodup
    ((List.Nodup.of_map _ h).filter _) (List.nodup_singleton _)).2 fun other => ?_)
  rw [List.mem_filter, decide_eq_true_iff, List.mem_singleton]
  constructor
  · rintro ⟨hother, heq⟩
    exact List.inj_on_of_nodup_map h hother hblock heq
  · rintro rfl
    exact ⟨hblock, rfl⟩

/-- Where no key comes twice, the blocks are the entries. -/
theorem gatherAll_perm {blocks : List (κ × List α)} (h : (blocks.map Prod.fst).Nodup) :
    (gatherAll blocks).entries.Perm blocks := by
  refine (List.perm_ext_iff_of_nodup (List.Nodup.of_map _ (gatherAll blocks).nodup_keys)
    (List.Nodup.of_map _ h)).2 fun entry => ?_
  rw [← find_eq_some_iff, find_gatherAll]
  constructor
  · intro hentry
    split_ifs at hentry with hkey
    obtain ⟨block, hblock, heq⟩ := List.mem_map.1 hkey
    rw [← heq, filter_of_nodup h hblock, List.flatMap_cons, List.flatMap_nil, List.append_nil,
      Option.some.injEq] at hentry
    have hsame : block = entry := Prod.ext heq hentry
    exact hsame ▸ hblock
  · intro hentry
    rw [if_pos (List.mem_map_of_mem hentry), filter_of_nodup h hentry, List.flatMap_cons,
      List.flatMap_nil, List.append_nil]

theorem gatherAll_entries (map : OrderedMap κ (List α)) : gatherAll map.entries = map :=
  ext_perm (gatherAll_perm map.nodup_keys)

theorem keys_gatherAll_subperm (blocks : List (κ × List α)) :
    ((gatherAll blocks).entries.map Prod.fst).Subperm (blocks.map Prod.fst) := by
  refine (gatherAll blocks).nodup_keys.subperm fun key hkey => ?_
  rw [← contains_eq_true_iff, contains, find_gatherAll] at hkey
  by_contra hnot
  rw [if_neg hnot] at hkey
  exact absurd hkey (by simp)

theorem length_gatherAll_le (blocks : List (κ × List α)) :
    (gatherAll blocks).entries.length ≤ blocks.length := by
  simpa only [List.length_map] using (keys_gatherAll_subperm blocks).length_le

/-- As many keys as blocks: no key came twice. -/
theorem nodup_of_length_gatherAll {blocks : List (κ × List α)}
    (h : (gatherAll blocks).entries.length = blocks.length) : (blocks.map Prod.fst).Nodup := by
  have hkeys := (keys_gatherAll_subperm blocks).perm_of_length_le
    (by rw [List.length_map, List.length_map, h])
  exact hkeys.nodup_iff.1 (gatherAll blocks).nodup_keys

/-- `map[key].push_back(value)` -/
def push (map : OrderedMap κ (List α)) (key : κ) (value : α) : OrderedMap κ (List α) :=
  map.extend key [value]

section Traverse

variable {κ α : Type u} [LinearOrder κ] {ε : Type w}

/-- The loop of `traverse`. -/
def traverseEntries (step : α → Except ε α) :
    List (κ × α) → Except ε (List (κ × α))
  | [] => .ok []
  | entry :: rest => do
    let value ← step entry.2
    let others ← traverseEntries step rest
    .ok ((entry.1, value) :: others)

omit [LinearOrder κ] in
theorem traverseEntries_eq_ok_iff {step : α → Except ε α} {entries found : List (κ × α)} :
    traverseEntries step entries = .ok found ↔
      List.Forall₂ (fun entry other => other.1 = entry.1 ∧ step entry.2 = .ok other.2)
        entries found := by
  induction entries generalizing found with
  | nil => simp [traverseEntries, eq_comm]
  | cons entry rest ih =>
      rw [traverseEntries, Fallible.bind_eq_ok_iff, List.forall₂_cons_left_iff]
      constructor
      · rintro ⟨value, hvalue, h⟩
        rw [Fallible.bind_eq_ok_iff] at h
        obtain ⟨others, hothers, h⟩ := h
        exact ⟨(entry.1, value), others, ⟨rfl, hvalue⟩, ih.1 hothers, (Except.ok.inj h).symm⟩
      · rintro ⟨⟨key, value⟩, others, ⟨rfl, hvalue⟩, hothers, rfl⟩
        refine ⟨value, hvalue, ?_⟩
        rw [ih.2 hothers]
        rfl

omit [LinearOrder κ] in
theorem keys_traverseEntries {step : α → Except ε α} {entries found : List (κ × α)}
    (h : traverseEntries step entries = .ok found) :
    found.map Prod.fst = entries.map Prod.fst := by
  have hall := traverseEntries_eq_ok_iff.1 h
  clear h
  induction hall with
  | nil => rfl
  | cons hhead _ ih => rw [List.map_cons, List.map_cons, hhead.1, ih]

theorem ordered_traverseEntries {step : α → Except ε α} (map : OrderedMap κ α)
    {found : List (κ × α)} (h : traverseEntries step map.entries = .ok found) :
    (found.map Prod.fst).Pairwise (· < ·) := by
  rw [keys_traverseEntries h]
  exact map.ordered

/-- Every value through a step that may fail, in the order of the keys. -/
def traverse (step : α → Except ε α) (map : OrderedMap κ α) :
    Except ε (OrderedMap κ α) :=
  match h : traverseEntries step map.entries with
  | .error error => .error error
  | .ok found => .ok ⟨found, ordered_traverseEntries map h⟩

theorem traverse_eq_ok_iff {step : α → Except ε α} {map found : OrderedMap κ α} :
    traverse step map = .ok found ↔ traverseEntries step map.entries = .ok found.entries := by
  unfold traverse
  split
  · rename_i error herror
    rw [herror]
    simp
  · rename_i entries hentries
    constructor
    · intro h
      rw [← Except.ok.inj h]
      exact hentries
    · intro h
      exact congrArg Except.ok (ext_entries (Except.ok.inj (hentries.symm.trans h)))

end Traverse

end OrderedMap
