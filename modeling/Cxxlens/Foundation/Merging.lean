import Mathlib

set_option autoImplicit false

/-! # Merging items of one key

A table keeps one item for each key. An item that comes in is dropped, or replaces the one that is
kept, or cannot be reconciled with it. Two items are reconciled pairwise, and which item is kept at
that moment depends on the order they came in. The results here say when the order does not show:
`outcome_eq_of_agreeing` and `outcome_eq_none` for the two ways it does not, `agreeing_of_outcome`
and `exists_outcome` for their converses. -/

namespace Merging

universe u v

/-- Which of two items stands for both: the same item again, or the higher of two. -/
structure Precedence (α : Type u) where
  same : α → α → Bool
  below : α → α → Bool
  rank : α → Nat
  same_refl : ∀ a, same a a = true
  rank_same : ∀ {a b}, same a b = true → rank a = rank b
  rank_below : ∀ {a b}, below a b = true → rank a < rank b

namespace Precedence

variable {α : Type u} (P : Precedence α)

/-- The item that is kept when `item` comes in. -/
def absorb (kept item : α) : Option α :=
  if P.same kept item = true then some kept
  else if P.below kept item = true then some item
  else if P.below item kept = true then some kept
  else none

/-- `kept` stands for `item`. -/
def Covers (kept item : α) : Prop :=
  P.same kept item = true ∨ P.below item kept = true

/-- One of two items stands for both. -/
def Compatible (left right : α) : Prop :=
  P.Covers left right ∨ P.below left right = true

variable {P}

theorem Covers.rank_le {kept item : α} (h : P.Covers kept item) : P.rank item ≤ P.rank kept := by
  cases h with
  | inl hsame => exact (P.rank_same hsame).ge
  | inr hbelow => exact (P.rank_below hbelow).le

theorem covers_refl (a : α) : P.Covers a a :=
  Or.inl (P.same_refl a)

theorem absorb_of_covers {kept item : α} (h : P.Covers kept item) :
    P.absorb kept item = some kept := by
  unfold absorb
  by_cases hsame : P.same kept item = true
  · simp [hsame]
  · have hbelow : P.below item kept = true := h.resolve_left hsame
    have hnot : P.below kept item ≠ true := by
      intro hother
      have hup := P.rank_below hother
      have hdown := P.rank_below hbelow
      omega
    simp [hsame, hbelow, hnot]

theorem absorb_of_below {kept item : α} (h : P.below kept item = true) :
    P.absorb kept item = some item := by
  unfold absorb
  have hsame : P.same kept item ≠ true := by
    intro hsame
    have hrank := P.rank_same hsame
    have hup := P.rank_below h
    omega
  simp [hsame, h]

theorem absorb_cases {kept item next : α} (h : P.absorb kept item = some next) :
    (next = kept ∧ P.Covers kept item) ∨ (next = item ∧ P.below kept item = true) := by
  unfold absorb at h
  by_cases hsame : P.same kept item = true
  · simp only [hsame, if_true, Option.some.injEq] at h
    exact Or.inl ⟨h.symm, Or.inl hsame⟩
  · by_cases hup : P.below kept item = true
    · simp only [hsame, hup, Bool.false_eq_true, if_true, if_false, Option.some.injEq] at h
      exact Or.inr ⟨h.symm, hup⟩
    · by_cases hdown : P.below item kept = true
      · simp only [hsame, hup, hdown, Bool.false_eq_true, if_true, if_false,
          Option.some.injEq] at h
        exact Or.inl ⟨h.symm, Or.inr hdown⟩
      · simp [hsame, hup, hdown] at h

theorem absorb_eq_none_iff {kept item : α} :
    P.absorb kept item = none ↔ ¬ P.Compatible kept item := by
  constructor
  · intro h hcompatible
    cases hcompatible with
    | inl hcovers => simp [absorb_of_covers hcovers] at h
    | inr hbelow => simp [absorb_of_below hbelow] at h
  · intro h
    cases hnext : P.absorb kept item with
    | none => rfl
    | some next =>
        refine absurd ?_ h
        cases absorb_cases hnext with
        | inl hkept => exact Or.inl hkept.2
        | inr hitem => exact Or.inr hitem.2

variable (P)

/-- The item that is kept after all of `items` came in. -/
def absorbAll (kept : α) (items : List α) : Option α :=
  items.foldlM P.absorb kept

@[simp] theorem absorbAll_nil (kept : α) : P.absorbAll kept [] = some kept := rfl

@[simp] theorem absorbAll_cons (kept item : α) (items : List α) :
    P.absorbAll kept (item :: items) = (P.absorb kept item).bind fun next =>
      P.absorbAll next items := rfl

theorem absorbAll_append (kept : α) (front back : List α) :
    P.absorbAll kept (front ++ back) = (P.absorbAll kept front).bind fun next =>
      P.absorbAll next back :=
  List.foldlM_append

/-- Items in ascending order. -/
abbrev Ascending (chain : List α) : Prop :=
  chain.IsChain fun lower higher => P.below lower higher = true

variable {P}

theorem absorbAll_of_covers {kept : α} {items : List α} (h : ∀ item ∈ items, P.Covers kept item) :
    P.absorbAll kept items = some kept := by
  induction items with
  | nil => rfl
  | cons item items ih =>
      have hrest := ih fun other hother => h other (List.mem_cons_of_mem _ hother)
      simp [absorb_of_covers (h item List.mem_cons_self), hrest]

/-- The items that were kept one after the other ascend, and each item that came in is covered by
    the one kept at that moment. -/
theorem exists_ascending {kept top : α} {items : List α} (h : P.absorbAll kept items = some top) :
    ∃ chain, P.Ascending (kept :: chain) ∧ (∀ c ∈ chain, c ∈ items) ∧
      ∀ item ∈ items, ∃ c ∈ kept :: chain, P.Covers c item := by
  induction items generalizing kept with
  | nil => exact ⟨[], List.isChain_singleton _, by simp, by simp⟩
  | cons item items ih =>
      obtain ⟨next, hnext, hrest⟩ := Option.bind_eq_some_iff.1 h
      obtain ⟨chain, hascending, hmem, hcovers⟩ := ih hrest
      cases absorb_cases hnext with
      | inl hkept =>
          obtain ⟨rfl, hitem⟩ := hkept
          refine ⟨chain, hascending, fun c hc => List.mem_cons_of_mem _ (hmem c hc), ?_⟩
          intro other hother
          cases List.mem_cons.1 hother with
          | inl heq => exact ⟨next, List.mem_cons_self, heq ▸ hitem⟩
          | inr hin => exact hcovers other hin
      | inr hitem =>
          obtain ⟨rfl, hbelow⟩ := hitem
          refine ⟨next :: chain, List.isChain_cons_cons.2 ⟨hbelow, hascending⟩, ?_, ?_⟩
          · intro c hc
            cases List.mem_cons.1 hc with
            | inl heq => exact heq ▸ List.mem_cons_self
            | inr hin => exact List.mem_cons_of_mem _ (hmem c hin)
          · intro other hother
            cases List.mem_cons.1 hother with
            | inl heq =>
                exact ⟨next, List.mem_cons_of_mem _ List.mem_cons_self, by
                  rw [heq]
                  exact covers_refl next⟩
            | inr hin =>
                obtain ⟨c, hc, hcover⟩ := hcovers other hin
                exact ⟨c, List.mem_cons_of_mem _ hc, hcover⟩

/-- The first item of an ascending chain is the lowest. -/
theorem rank_lt_of_ascending {first : α} {chain : List α} (h : P.Ascending (first :: chain)) :
    ∀ c ∈ chain, P.rank first < P.rank c := by
  induction chain generalizing first with
  | nil => simp
  | cons next chain ih =>
      obtain ⟨hbelow, hrest⟩ := List.isChain_cons_cons.1 h
      intro c hc
      have hfirst := P.rank_below hbelow
      cases List.mem_cons.1 hc with
      | inl heq => exact heq ▸ hfirst
      | inr hin => exact hfirst.trans (ih hrest c hin)

/-- Along a chain that covers everything the items can come in one after the other: first all that
    the lowest covers, then the next of the chain. -/
theorem exists_order {kept : α} {chain : List α} (hchain : P.Ascending (kept :: chain)) :
    ∀ items : List α, (∀ c ∈ chain, c ∈ items) →
      (∀ item ∈ items, ∃ c ∈ kept :: chain, P.Covers c item) →
      ∃ order top, order.Perm items ∧ P.absorbAll kept order = some top := by
  induction chain generalizing kept with
  | nil =>
      intro items _ hcovers
      refine ⟨items, kept, List.Perm.refl _, absorbAll_of_covers ?_⟩
      intro item hitem
      obtain ⟨c, hc, hcover⟩ := hcovers item hitem
      exact List.mem_singleton.1 hc ▸ hcover
  | cons next chain ih =>
      intro items hmem hcovers
      classical
      obtain ⟨hbelow, hrest⟩ := List.isChain_cons_cons.1 hchain
      -- What `kept` covers comes in now, the rest but for `next` after `next`.
      have hnext : next ∈ items := hmem next List.mem_cons_self
      let others := items.erase next
      let now := others.filter fun item => decide (P.Covers kept item)
      let later := others.filter fun item => !decide (P.Covers kept item)
      have hlater : ∀ c ∈ chain, c ∈ later := by
        intro c hc
        have hlow := rank_lt_of_ascending hchain c (List.mem_cons_of_mem _ hc)
        have hhigh := rank_lt_of_ascending hrest c hc
        have hne : c ≠ next := by
          rintro rfl
          exact lt_irrefl _ hhigh
        refine List.mem_filter.2 ⟨(List.mem_erase_of_ne hne).2
          (hmem c (List.mem_cons_of_mem _ hc)), ?_⟩
        have hnot : ¬ P.Covers kept c := fun hcover => absurd hcover.rank_le (not_le.2 hlow)
        simp [hnot]
      have hcovered : ∀ item ∈ later, ∃ c ∈ next :: chain, P.Covers c item := by
        intro item hitem
        obtain ⟨hother, hnot⟩ := List.mem_filter.1 hitem
        obtain ⟨c, hc, hcover⟩ := hcovers item (List.mem_of_mem_erase hother)
        cases List.mem_cons.1 hc with
        | inl heq => simp [← heq, hcover] at hnot
        | inr hin => exact ⟨c, hin, hcover⟩
      obtain ⟨order, top, hperm, htop⟩ := ih hrest later hlater hcovered
      refine ⟨now ++ next :: order, top, ?_, ?_⟩
      · have hsplit : (now ++ later).Perm others := List.filter_append_perm _ others
        calc (now ++ next :: order).Perm (now ++ next :: later) :=
              (hperm.cons next).append_left now
          _ |>.Perm (next :: (now ++ later)) := List.perm_middle
          _ |>.Perm (next :: others) := hsplit.cons next
          _ |>.Perm items := (List.perm_cons_erase hnext).symm
      · have hnow : P.absorbAll kept now = some kept := by
          refine absorbAll_of_covers fun item hitem => ?_
          exact of_decide_eq_true (List.mem_filter.1 hitem).2
        rw [absorbAll_append, hnow, Option.bind_some, absorbAll_cons, absorb_of_below hbelow,
          Option.bind_some, htop]

/-- Among pairwise compatible items one of the highest rank is kept. -/
theorem exists_absorbAll {kept : α} {items : List α}
    (h : ∀ a ∈ kept :: items, ∀ b ∈ kept :: items, P.Compatible a b) :
    ∃ top ∈ kept :: items, P.absorbAll kept items = some top ∧
      ∀ item ∈ kept :: items, P.rank item ≤ P.rank top := by
  induction items generalizing kept with
  | nil => exact ⟨kept, List.mem_cons_self, rfl, by simp⟩
  | cons item items ih =>
      have hitem : item ∈ kept :: item :: items := by simp
      obtain ⟨next, hnext⟩ : ∃ next, P.absorb kept item = some next := by
        refine Option.ne_none_iff_exists'.1 fun hnone => ?_
        exact absorb_eq_none_iff.1 hnone (h kept List.mem_cons_self item hitem)
      have hup : (next = kept ∨ next = item) ∧ P.rank kept ≤ P.rank next ∧
          P.rank item ≤ P.rank next := by
        cases absorb_cases hnext with
        | inl hkept =>
            obtain ⟨rfl, hcover⟩ := hkept
            exact ⟨Or.inl rfl, le_rfl, hcover.rank_le⟩
        | inr hreplaced =>
            obtain ⟨rfl, hbelow⟩ := hreplaced
            exact ⟨Or.inr rfl, (P.rank_below hbelow).le, le_rfl⟩
      obtain ⟨hwhich, hkept, hcame⟩ := hup
      have hsub : ∀ a ∈ next :: items, a ∈ kept :: item :: items := by
        intro a ha
        cases List.mem_cons.1 ha with
        | inl heq => cases hwhich with
          | inl hk => simp [heq, hk]
          | inr hi => simp [heq, hi]
        | inr hin => simp [hin]
      obtain ⟨top, htop, hrun, hhighest⟩ := ih fun a ha b hb => h a (hsub a ha) b (hsub b hb)
      refine ⟨top, hsub top htop, by simp [hnext, hrun], ?_⟩
      intro other hother
      have hnextTop := hhighest next List.mem_cons_self
      cases List.mem_cons.1 hother with
      | inl heq => exact heq ▸ hkept.trans hnextTop
      | inr hin =>
          cases List.mem_cons.1 hin with
          | inl heq => exact heq ▸ hcame.trans hnextTop
          | inr hrest => exact hhighest other (List.mem_cons_of_mem _ hrest)

/-- An item with nothing above it stays. -/
theorem absorbAll_of_highest {kept top : α} {items : List α}
    (h : ∀ item ∈ items, P.below kept item = false) (hrun : P.absorbAll kept items = some top) :
    top = kept := by
  induction items with
  | nil => exact (Option.some.inj hrun).symm
  | cons item items ih =>
      obtain ⟨next, hnext, hrest⟩ := Option.bind_eq_some_iff.1 hrun
      cases absorb_cases hnext with
      | inl hkept =>
          obtain ⟨rfl, -⟩ := hkept
          exact ih (fun other hother => h other (List.mem_cons_of_mem _ hother)) hrest
      | inr hreplaced =>
          have hnot := h item List.mem_cons_self
          simp [hnot] at hreplaced

/-! ## Tables -/

section Table

variable {κ : Type v} [DecidableEq κ] (P : Precedence α) (key : α → κ)

/-- What is kept for one key when `item` comes in for it. -/
def absorbInto (kept : Option α) (item : α) : Option (Option α) :=
  match kept with
  | none => some (some item)
  | some kept => (P.absorb kept item).map some

/-- The table with one more item. -/
def add : List α → α → Option (List α)
  | [], item => some [item]
  | kept :: rest, item =>
    if key kept = key item then (P.absorb kept item).map (· :: rest)
    else (add rest item).map (kept :: ·)

/-- The table with all of `items`. -/
def addAll (table items : List α) : Option (List α) :=
  items.foldlM (P.add key) table

/-- What a table keeps for a key. -/
def held (table : List α) (k : κ) : Option α :=
  table.find? fun item => key item = k

/-- The items of a key. -/
def group (items : List α) (k : κ) : List α :=
  items.filter fun item => key item = k

variable {P key}

theorem held_eq_some {table : List α} {k : κ} {item : α} (h : held key table k = some item) :
    item ∈ table ∧ key item = k :=
  ⟨List.mem_of_find?_eq_some h, by simpa using List.find?_some h⟩

theorem held_cons (first : α) (rest : List α) (k : κ) :
    held key (first :: rest) k = if key first = k then some first else held key rest k := by
  unfold held
  by_cases h : key first = k
  · simp [h]
  · simp [h]

omit [DecidableEq κ] in
theorem key_absorb {kept item next : α} (hkey : key kept = key item)
    (h : P.absorb kept item = some next) : key next = key item := by
  cases absorb_cases h with
  | inl hkept => exact hkept.1 ▸ hkey
  | inr hitem => exact hitem.1 ▸ rfl

/-- What one item does to what the table keeps, and to the other keys. -/
theorem held_add {table next : List α} {item : α} (h : P.add key table item = some next) :
    P.absorbInto (held key table (key item)) item = some (held key next (key item)) ∧
      ∀ k, k ≠ key item → held key next k = held key table k := by
  induction table generalizing next with
  | nil =>
      obtain rfl := Option.some.inj h
      refine ⟨by simp [absorbInto, held], ?_⟩
      intro k hk
      simp [held, hk.symm]
  | cons kept rest ih =>
      unfold add at h
      by_cases hkey : key kept = key item
      · rw [if_pos hkey] at h
        obtain ⟨top, htop, rfl⟩ := Option.map_eq_some_iff.1 h
        have htopKey := key_absorb hkey htop
        refine ⟨by simp [held_cons, hkey, htopKey, absorbInto, htop], ?_⟩
        intro k hk
        simp [held_cons, hkey, htopKey, hk.symm]
      · rw [if_neg hkey] at h
        obtain ⟨later, hlater, rfl⟩ := Option.map_eq_some_iff.1 h
        obtain ⟨hsame, hothers⟩ := ih hlater
        refine ⟨by simp only [held_cons, hkey, if_false, hsame], ?_⟩
        intro k hk
        simp only [held_cons, hothers k hk]

theorem add_eq_none_iff {table : List α} {item : α} :
    P.add key table item = none ↔ P.absorbInto (held key table (key item)) item = none := by
  induction table with
  | nil => simp [add, absorbInto, held]
  | cons kept rest ih =>
      unfold add
      by_cases hkey : key kept = key item
      · simp [held_cons, hkey, absorbInto]
      · simp [held_cons, hkey, ih]

/-- The keys of a table stay distinct. -/
theorem nodup_add {table next : List α} {item : α} (h : P.add key table item = some next)
    (hnodup : (table.map key).Nodup) : (next.map key).Nodup ∧
      ∀ k, k ∈ next.map key → k ∈ table.map key ∨ k = key item := by
  induction table generalizing next with
  | nil =>
      obtain rfl := Option.some.inj h
      simp
  | cons kept rest ih =>
      obtain ⟨hfirst, hrest⟩ := List.nodup_cons.1 hnodup
      unfold add at h
      by_cases hkey : key kept = key item
      · rw [if_pos hkey] at h
        obtain ⟨top, htop, rfl⟩ := Option.map_eq_some_iff.1 h
        have hkeys : (top :: rest).map key = (kept :: rest).map key := by
          simp [key_absorb hkey htop, hkey]
        rw [hkeys]
        exact ⟨hnodup, fun k hk => Or.inl hk⟩
      · rw [if_neg hkey] at h
        obtain ⟨later, hlater, rfl⟩ := Option.map_eq_some_iff.1 h
        obtain ⟨hlaterNodup, hlaterKeys⟩ := ih hlater hrest
        constructor
        · refine List.nodup_cons.2 ⟨fun hmem => ?_, hlaterNodup⟩
          cases hlaterKeys _ hmem with
          | inl hold => exact hfirst hold
          | inr hnew => exact hkey hnew
        · intro k hk
          rw [List.map_cons, List.mem_cons] at hk
          cases hk with
          | inl heq => exact Or.inl (by simp [heq])
          | inr hin => cases hlaterKeys k hin with
            | inl hold => exact Or.inl (by simp [hold])
            | inr hnew => exact Or.inr hnew

theorem nodup_addAll {table next items : List α} (h : P.addAll key table items = some next)
    (hnodup : (table.map key).Nodup) : (next.map key).Nodup := by
  induction items generalizing table with
  | nil => exact Option.some.inj h ▸ hnodup
  | cons item items ih =>
      obtain ⟨middle, hmiddle, hrest⟩ := Option.bind_eq_some_iff.1 h
      exact ih hrest (nodup_add hmiddle hnodup).1

theorem group_cons (item : α) (items : List α) (k : κ) :
    group key (item :: items) k =
      if key item = k then item :: group key items k else group key items k := by
  unfold group
  by_cases h : key item = k
  · simp [h]
  · simp [h]

/-- A table that took all of `items` keeps for each key what the items of that key come to. -/
theorem held_addAll {table next items : List α} (h : P.addAll key table items = some next)
    (k : κ) : (group key items k).foldlM P.absorbInto (held key table k) =
      some (held key next k) := by
  induction items generalizing table with
  | nil => exact Option.some.inj h ▸ rfl
  | cons item items ih =>
      obtain ⟨middle, hmiddle, hrest⟩ := Option.bind_eq_some_iff.1 h
      obtain ⟨hsame, hothers⟩ := held_add hmiddle
      rw [group_cons]
      by_cases hk : key item = k
      · subst hk
        rw [if_pos rfl, List.foldlM_cons, hsame]
        exact ih hrest
      · rw [if_neg hk, ← hothers k (Ne.symm hk)]
        exact ih hrest

/-- A table takes all of `items` unless the items of some key cannot be reconciled. -/
theorem addAll_eq_none_iff {table items : List α} :
    P.addAll key table items = none ↔
      ∃ k, (group key items k).foldlM P.absorbInto (held key table k) = none := by
  induction items generalizing table with
  | nil => simp [addAll, group]
  | cons item items ih =>
      have hrun : P.addAll key table (item :: items) =
        (P.add key table item).bind fun middle => P.addAll key middle items := rfl
      cases hmiddle : P.add key table item with
      | none =>
          have hfails := add_eq_none_iff.1 hmiddle
          simp only [hrun, hmiddle, Option.bind_none, true_iff]
          refine ⟨key item, ?_⟩
          rw [group_cons, if_pos rfl, List.foldlM_cons, hfails]
          rfl
      | some middle =>
          obtain ⟨hsame, hothers⟩ := held_add hmiddle
          rw [hrun, hmiddle, Option.bind_some, ih]
          refine exists_congr fun k => ?_
          rw [group_cons]
          by_cases hk : key item = k
          · subst hk
            rw [if_pos rfl, List.foldlM_cons, hsame]
            rfl
          · rw [if_neg hk, ← hothers k (Ne.symm hk)]

/-- With distinct keys a table is what it keeps for each key. -/
theorem held_eq_some_iff {table : List α} (hnodup : (table.map key).Nodup) {k : κ} {item : α} :
    held key table k = some item ↔ item ∈ table ∧ key item = k := by
  constructor
  · exact held_eq_some
  · intro h
    obtain ⟨hmem, hkey⟩ := h
    cases hfound : held key table k with
    | none =>
        have hnone := List.find?_eq_none.1 hfound item hmem
        simp [hkey] at hnone
    | some other =>
        obtain ⟨hother, hkeyOther⟩ := held_eq_some hfound
        rw [List.inj_on_of_nodup_map hnodup hother hmem (hkeyOther.trans hkey.symm)]

/-- Tables that keep the same come to tables that keep the same. -/
theorem held_addAll_congr {left right : List α} (hsame : held key left = held key right)
    (items : List α) :
    (P.addAll key left items = none ↔ P.addAll key right items = none) ∧
      ∀ next other, P.addAll key left items = some next → P.addAll key right items = some other →
        held key next = held key other := by
  constructor
  · rw [addAll_eq_none_iff, addAll_eq_none_iff, hsame]
  · intro next other hnext hother
    funext k
    have hleft := held_addAll hnext k
    rw [hsame, held_addAll hother k] at hleft
    exact (Option.some.inj hleft).symm

/-! ## Orders -/

theorem foldlM_absorbInto_some (kept : α) (items : List α) :
    items.foldlM P.absorbInto (some kept) = (P.absorbAll kept items).map some := by
  induction items generalizing kept with
  | nil => rfl
  | cons item items ih =>
      rw [List.foldlM_cons, absorbAll_cons]
      cases hnext : P.absorb kept item with
      | none => simp [absorbInto, hnext]
      | some next => simpa [absorbInto, hnext] using ih next

theorem mem_group {items : List α} {k : κ} {item : α} :
    item ∈ group key items k ↔ item ∈ items ∧ key item = k := by
  simp [group]

theorem group_perm {order items : List α} (h : order.Perm items) (k : κ) :
    (group key order k).Perm (group key items k) :=
  h.filter _

variable (P key)

/-- An ascending chain of the items of a key covers all of them. -/
def Laddered (items : List α) (k : κ) : Prop :=
  ∃ chain, P.Ascending chain ∧ (∀ c ∈ chain, c ∈ items ∧ key c = k) ∧
    ∀ item ∈ items, key item = k → ∃ c ∈ chain, P.Covers c item

/-- Any two items of one key are compatible, and two that are the same again differ in nothing
    unless a higher one stands for both. -/
def Agreeing (items : List α) : Prop :=
  ∀ a ∈ items, ∀ b ∈ items, key a = key b → P.Compatible a b ∧
    (P.same a b = true → (∀ c ∈ items, key c = key a → P.below a c = false) → a = b)

/-- An item of a key, of the highest rank among them. -/
structure Highest (items : List α) (k : κ) (top : α) : Prop where
  mem : top ∈ items
  key_eq : key top = k
  rank_le : ∀ item ∈ items, key item = k → P.rank item ≤ P.rank top

variable {P key}

/-- What was kept one after the other for a key is a chain that covers its items. -/
theorem laddered_of_addAll {order items table : List α} {k : κ} (hperm : order.Perm items)
    (h : P.addAll key [] order = some table) : P.Laddered key items k := by
  have hrun : (group key order k).foldlM P.absorbInto none = some (held key table k) :=
    held_addAll h k
  have hmem : ∀ item, item ∈ group key order k ↔ item ∈ items ∧ key item = k := by
    intro item
    rw [mem_group, hperm.mem_iff]
  cases hgroup : group key order k with
  | nil =>
      refine ⟨[], List.isChain_nil, by simp, fun item hitem hkey => ?_⟩
      have hin := (hmem item).2 ⟨hitem, hkey⟩
      simp [hgroup] at hin
  | cons first rest =>
      rw [hgroup, List.foldlM_cons] at hrun
      have hrest : rest.foldlM P.absorbInto (some first) = some (held key table k) := hrun
      rw [foldlM_absorbInto_some] at hrest
      obtain ⟨top, htop, -⟩ := Option.map_eq_some_iff.1 hrest
      obtain ⟨chain, hascending, hchain, hcovers⟩ := exists_ascending htop
      refine ⟨first :: chain, hascending, fun c hc => (hmem c).1 ?_, fun item hitem hkey => ?_⟩
      · rw [hgroup]
        cases List.mem_cons.1 hc with
        | inl heq => exact heq ▸ List.mem_cons_self
        | inr hin => exact List.mem_cons_of_mem _ (hchain c hin)
      · have hin := (hmem item).2 ⟨hitem, hkey⟩
        rw [hgroup] at hin
        cases List.mem_cons.1 hin with
        | inl heq => exact ⟨first, List.mem_cons_self, heq ▸ covers_refl item⟩
        | inr hlater => exact hcovers item hlater

theorem addAll_eq_none {order items : List α} {k : κ} (hperm : order.Perm items)
    (h : ¬ P.Laddered key items k) : P.addAll key [] order = none := by
  cases htable : P.addAll key [] order with
  | none => rfl
  | some table => exact absurd (laddered_of_addAll hperm htable) h

/-- The items of a key that a chain covers can come in along the chain. -/
theorem exists_group_order {items : List α} {k : κ} (h : P.Laddered key items k) :
    ∃ order : List α, order.Perm (group key items k) ∧ order.foldlM P.absorbInto none ≠ none := by
  classical
  obtain ⟨chain, hascending, hmem, hcovers⟩ := h
  have hgroup : ∀ c ∈ chain, c ∈ group key items k := fun c hc => mem_group.2 (hmem c hc)
  cases chain with
  | nil =>
      refine ⟨[], ?_, by simp⟩
      rw [List.nil_perm, List.eq_nil_iff_forall_not_mem]
      intro item hitem
      obtain ⟨hin, hkey⟩ := mem_group.1 hitem
      simpa using hcovers item hin hkey
  | cons first chain =>
      have hfirst := hgroup first List.mem_cons_self
      obtain ⟨order, top, hperm, htop⟩ := exists_order hascending ((group key items k).erase first)
        (fun c hc => by
          have hlow := rank_lt_of_ascending hascending c hc
          have hne : c ≠ first := by
            rintro rfl
            exact lt_irrefl _ hlow
          exact (List.mem_erase_of_ne hne).2 (hgroup c (List.mem_cons_of_mem _ hc)))
        (fun item hitem => by
          obtain ⟨hin, hkey⟩ := mem_group.1 (List.mem_of_mem_erase hitem)
          exact hcovers item hin hkey)
      refine ⟨first :: order, (hperm.cons first).trans (List.perm_cons_erase hfirst).symm, ?_⟩
      have hrun : (first :: order).foldlM P.absorbInto none =
        order.foldlM P.absorbInto (some first) := rfl
      rw [hrun, foldlM_absorbInto_some, htop]
      simp

/-- The orders of the items of some keys extend to an order of all items. -/
theorem exists_perm_group {items : List α} {orders : κ → List α} (keys : List κ)
    (hnodup : keys.Nodup) (h : ∀ k ∈ keys, (orders k).Perm (group key items k)) :
    ∃ order, order.Perm items ∧ (∀ k ∈ keys, group key order k = orders k) := by
  induction keys with
  | nil => exact ⟨items, List.Perm.refl _, by simp⟩
  | cons k keys ih =>
      obtain ⟨hk, hrest⟩ := List.nodup_cons.1 hnodup
      obtain ⟨order, hperm, horders⟩ := ih hrest fun other hother =>
        h other (List.mem_cons_of_mem _ hother)
      have hfirst := h k List.mem_cons_self
      have hkeys : ∀ item ∈ orders k, key item = k := fun item hitem =>
        (mem_group.1 (hfirst.mem_iff.1 hitem)).2
      refine ⟨orders k ++ order.filter fun item => !decide (key item = k), ?_, ?_⟩
      · have hsplit := (hfirst.trans (group_perm hperm k).symm).append_right
          (order.filter fun item => !decide (key item = k))
        exact (hsplit.trans (List.filter_append_perm _ order)).trans hperm
      · intro other hother
        unfold group
        rw [List.filter_append]
        cases List.mem_cons.1 hother with
        | inl heq =>
            subst heq
            have hall : (orders other).filter (fun item => decide (key item = other)) =
                orders other := by
              rw [List.filter_eq_self]
              intro item hitem
              simp [hkeys item hitem]
            have hnone : (order.filter fun item => !decide (key item = other)).filter
                (fun item => decide (key item = other)) = [] := by
              rw [List.filter_eq_nil_iff]
              intro item hitem
              simpa using (List.mem_filter.1 hitem).2
            rw [hall, hnone, List.append_nil]
        | inr hin =>
            have hne : other ≠ k := by
              rintro rfl
              exact hk hin
            have hnone : (orders k).filter (fun item => decide (key item = other)) = [] := by
              rw [List.filter_eq_nil_iff]
              intro item hitem
              simpa [hkeys item hitem] using hne.symm
            have hkept : (order.filter fun item => !decide (key item = k)).filter
                (fun item => decide (key item = other)) = group key order other := by
              unfold group
              rw [List.filter_filter]
              refine List.filter_congr fun item _ => ?_
              by_cases heq : key item = other
              · simp [heq, hne]
              · simp [heq]
            rw [hnone, List.nil_append, hkept, horders other hin]

/-- Where each key has its chain some order of the items succeeds. -/
theorem exists_addAll {items : List α} (h : ∀ k, P.Laddered key items k) :
    ∃ order table, order.Perm items ∧ P.addAll key [] order = some table := by
  classical
  choose orders hperm hsucceeds using fun k => exists_group_order (h k)
  obtain ⟨order, horder, hgroups⟩ := exists_perm_group (items.map key).dedup
    (List.nodup_dedup _) fun k _ => hperm k
  have hne : P.addAll key [] order ≠ none := by
    intro hnone
    obtain ⟨k, hk⟩ := addAll_eq_none_iff.1 hnone
    by_cases hmem : k ∈ (items.map key).dedup
    · rw [hgroups k hmem] at hk
      exact hsucceeds k hk
    · have hempty : group key order k = [] := by
        rw [List.eq_nil_iff_forall_not_mem]
        intro item hitem
        obtain ⟨hin, hkey⟩ := mem_group.1 hitem
        exact hmem (List.mem_dedup.2 (List.mem_map.2 ⟨item, horder.mem_iff.1 hin, hkey⟩))
      simp [hempty] at hk
  obtain ⟨table, htable⟩ := Option.ne_none_iff_exists'.1 hne
  exact ⟨order, table, horder, htable⟩

/-- Items that agree can come in in any order, and the highest of each key are kept. -/
theorem addAll_of_agreeing {order items : List α} (hperm : order.Perm items)
    (h : P.Agreeing key items) : ∃ table, P.addAll key [] order = some table ∧
      (∀ k top, held key table k = some top → P.Highest key items k top) ∧
      ∀ item ∈ items, ∃ top, held key table (key item) = some top := by
  have hmem : ∀ k item, item ∈ group key order k ↔ item ∈ items ∧ key item = k := by
    intro k item
    rw [mem_group, hperm.mem_iff]
  -- What the items of one key come to.
  have hgroup : ∀ k, (group key order k = [] ∧
      (group key order k).foldlM P.absorbInto none = some none) ∨
      ∃ top, (group key order k).foldlM P.absorbInto none = some (some top) ∧
        P.Highest key items k top := by
    intro k
    cases hitems : group key order k with
    | nil => exact Or.inl ⟨rfl, rfl⟩
    | cons first rest =>
        have hin : ∀ a ∈ first :: rest, a ∈ items ∧ key a = k := by
          intro a ha
          exact (hmem k a).1 (hitems ▸ ha)
        have hcompatible : ∀ a ∈ first :: rest, ∀ b ∈ first :: rest, P.Compatible a b := by
          intro a ha b hb
          exact (h a (hin a ha).1 b (hin b hb).1 ((hin a ha).2.trans (hin b hb).2.symm)).1
        obtain ⟨top, htop, hrun, hhighest⟩ := exists_absorbAll hcompatible
        refine Or.inr ⟨top, ?_, (hin top htop).1, (hin top htop).2, ?_⟩
        · have hfirst : (first :: rest).foldlM P.absorbInto none =
            rest.foldlM P.absorbInto (some first) := rfl
          rw [hfirst, foldlM_absorbInto_some, hrun]
          rfl
        · intro item hitem hkey
          exact hhighest item (hitems ▸ (hmem k item).2 ⟨hitem, hkey⟩)
  have hne : P.addAll key [] order ≠ none := by
    intro hnone
    obtain ⟨k, hk⟩ := addAll_eq_none_iff.1 hnone
    have hrun : (group key order k).foldlM P.absorbInto none = none := hk
    cases hgroup k with
    | inl hempty => simp [hempty.2] at hrun
    | inr htop =>
        obtain ⟨top, htop, -⟩ := htop
        simp [htop] at hrun
  obtain ⟨table, htable⟩ := Option.ne_none_iff_exists'.1 hne
  have hheld : ∀ k, (group key order k).foldlM P.absorbInto none = some (held key table k) :=
    fun k => held_addAll htable k
  refine ⟨table, htable, fun k top htop => ?_, fun item hitem => ?_⟩
  · have hrun := hheld k
    rw [htop] at hrun
    cases hgroup k with
    | inl hempty => simp [hempty.2] at hrun
    | inr hother =>
        obtain ⟨other, hother, hhighest⟩ := hother
        rw [hother] at hrun
        exact Option.some.inj (Option.some.inj hrun) ▸ hhighest
  · have hrun := hheld (key item)
    cases hgroup (key item) with
    | inl hempty =>
        have hin := (hmem (key item) item).2 ⟨hitem, rfl⟩
        simp [hempty.1] at hin
    | inr hother =>
        obtain ⟨other, hother, -⟩ := hother
        rw [hother] at hrun
        exact ⟨other, (Option.some.inj hrun).symm⟩

omit [DecidableEq κ] in
/-- Among items that agree each key has one highest item, which covers the others. -/
theorem Highest.covers {items : List α} {k : κ} {top item : α} (htop : P.Highest key items k top)
    (h : P.Agreeing key items) (hitem : item ∈ items) (hkey : key item = k) :
    P.Covers top item := by
  have hcompatible := (h top htop.mem item hitem (htop.key_eq.trans hkey.symm)).1
  cases hcompatible with
  | inl hcovers => exact hcovers
  | inr hbelow =>
      have hrank := htop.rank_le item hitem hkey
      have hup := P.rank_below hbelow
      omega

omit [DecidableEq κ] in
theorem Highest.unique {items : List α} {k : κ} {top other : α}
    (htop : P.Highest key items k top) (hother : P.Highest key items k other)
    (h : P.Agreeing key items) : top = other := by
  have hsame : P.same top other = true := by
    cases htop.covers h hother.mem hother.key_eq with
    | inl hsame => exact hsame
    | inr hbelow =>
        have hrank := hother.rank_le top htop.mem htop.key_eq
        have hup := P.rank_below hbelow
        omega
  refine (h top htop.mem other hother.mem (htop.key_eq.trans hother.key_eq.symm)).2 hsame ?_
  intro c hc hkey
  refine Bool.eq_false_iff.2 fun hbelow => ?_
  have hrank := htop.rank_le c hc (hkey.trans htop.key_eq)
  have hup := P.rank_below hbelow
  omega

/-- Items that end in one table whatever their order agree. -/
theorem agreeing_of_addAll {items : List α} {top : κ → Option α}
    (h : ∀ order, order.Perm items → ∃ table, P.addAll key [] order = some table ∧
      ∀ k, held key table k = top k) : P.Agreeing key items := by
  classical
  -- What an order says that starts with two given items.
  have hpair : ∀ a ∈ items, ∀ b ∈ items, a ≠ b → key a = key b →
      P.absorb a b ≠ none ∧
        ((∀ c ∈ items, key c = key a → P.below a c = false) → top (key a) = some a) := by
    intro a ha b hb hne hkey
    let rest := (items.erase a).erase b
    have hb' : b ∈ items.erase a := (List.mem_erase_of_ne (Ne.symm hne)).2 hb
    have hperm : (a :: b :: rest).Perm items :=
      ((List.perm_cons_erase hb').symm.cons a).trans (List.perm_cons_erase ha).symm
    obtain ⟨table, htable, hheld⟩ := h _ hperm
    have hrun : (group key (a :: b :: rest) (key a)).foldlM P.absorbInto none =
        some (held key table (key a)) := held_addAll htable _
    rw [hheld, group_cons, if_pos rfl, group_cons, if_pos hkey.symm] at hrun
    have hsome : (b :: group key rest (key a)).foldlM P.absorbInto (some a) =
        some (top (key a)) := hrun
    rw [foldlM_absorbInto_some] at hsome
    obtain ⟨kept, hkept, htop⟩ := Option.map_eq_some_iff.1 hsome
    constructor
    · intro hnone
      simp [hnone] at hkept
    · intro hhighest
      have hin : ∀ c ∈ b :: group key rest (key a), c ∈ items ∧ key c = key a := by
        intro c hc
        cases List.mem_cons.1 hc with
        | inl heq => exact heq ▸ ⟨hb, hkey.symm⟩
        | inr hlater =>
            obtain ⟨hrest, hc⟩ := mem_group.1 hlater
            exact ⟨List.mem_of_mem_erase (List.mem_of_mem_erase hrest), hc⟩
      have hstays := absorbAll_of_highest
        (fun c hc => hhighest c (hin c hc).1 (hin c hc).2) hkept
      rw [← htop, hstays]
  intro a ha b hb hkey
  by_cases heq : a = b
  · subst heq
    exact ⟨Or.inl (covers_refl a), fun _ _ => rfl⟩
  · constructor
    · by_contra hnot
      exact (hpair a ha b hb heq hkey).1 (absorb_eq_none_iff.2 hnot)
    · intro hsame hhighest
      have hfirst := (hpair a ha b hb heq hkey).2 hhighest
      have hrank := P.rank_same hsame
      -- Nothing stands above `b` either, since `a` has the rank of `b`.
      have hother : ∀ c ∈ items, key c = key b → P.below b c = false := by
        intro c hc hkeyc
        refine Bool.eq_false_iff.2 fun hbelow => ?_
        have hup := P.rank_below hbelow
        have hne : a ≠ c := by
          rintro rfl
          omega
        have hac : P.Compatible a c := by
          by_contra hnot
          exact (hpair a ha c hc hne (hkey.trans hkeyc.symm)).1 (absorb_eq_none_iff.2 hnot)
        cases hac with
        | inl hcovers =>
            have hdown := hcovers.rank_le
            omega
        | inr habove =>
            have hnone := hhighest c hc (hkeyc.trans hkey.symm)
            simp [hnone] at habove
      have hsecond := (hpair b hb a ha (Ne.symm heq) hkey.symm).2 hother
      rw [← hkey, hfirst] at hsecond
      exact Option.some.inj hsecond

end Table

end Precedence

end Merging
