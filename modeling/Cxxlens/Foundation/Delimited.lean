import Mathlib

set_option autoImplicit false

/-! # Texts that end where they end

A printer is delimited when its text can be split off the front of any longer text. Records and lists
of delimited parts are delimited, so two texts of one printer that are equal have equal parts; which
values these parts stand for is left to each printer. -/

universe u v

/-- Whatever follows, the text that was printed is known. -/
def Delimited {α : Type u} {β : Type v} (print : α → List β) : Prop :=
  ∀ a b rest other, print a ++ rest = print b ++ other → print a = print b

namespace Delimited

variable {α γ : Type u} {β : Type v} {p : α → List β} {q : α → List β}

/-- The text and what follows it are split off. -/
theorem split (h : Delimited p) {a b : α} {rest other : List β}
    (heq : p a ++ rest = p b ++ other) : p a = p b ∧ rest = other := by
  have hprint := h a b rest other heq
  rw [hprint] at heq
  exact ⟨hprint, List.append_cancel_left heq⟩

theorem const (text : List β) : Delimited fun _ : α => text := by
  intro a b rest other _
  rfl

theorem append (hp : Delimited p) (hq : Delimited q) : Delimited fun a => p a ++ q a := by
  intro a b rest other h
  rw [List.append_assoc, List.append_assoc] at h
  obtain ⟨hfirst, h⟩ := hp.split h
  obtain ⟨hsecond, -⟩ := hq.split h
  show p a ++ q a = p b ++ q b
  rw [hfirst, hsecond]

theorem comp (hp : Delimited p) (f : γ → α) : Delimited fun c => p (f c) := by
  intro a b rest other h
  exact hp (f a) (f b) rest other h

/-- Texts that are equal or do not begin alike. -/
theorem of_prefix (h : ∀ a b, p a <+: p b → p a = p b) : Delimited p := by
  intro a b rest other heq
  rcases List.append_eq_append_iff.1 heq with ⟨middle, hmiddle, -⟩ | ⟨middle, hmiddle, -⟩
  · exact h a b ⟨middle, hmiddle.symm⟩
  · exact (h b a ⟨middle, hmiddle.symm⟩).symm

/-! ## Lists -/

section Lists

variable {separator closer : β}

/-- Items behind one another, each with a separator in front. -/
theorem split_separated (hp : Delimited p) (hseparator : separator ≠ closer) {items others : List α}
    {rest other : List β}
    (h : (items.flatMap fun item => separator :: p item) ++ closer :: rest =
      (others.flatMap fun item => separator :: p item) ++ closer :: other) :
    items.map p = others.map p ∧ rest = other := by
  induction items generalizing others with
  | nil =>
      cases others with
      | nil => exact ⟨rfl, (List.cons.inj h).2⟩
      | cons second others =>
          have hhead : closer = separator := (List.cons.inj h).1
          exact absurd hhead.symm hseparator
  | cons first items ih =>
      cases others with
      | nil =>
          have hhead : separator = closer := (List.cons.inj h).1
          exact absurd hhead hseparator
      | cons second others =>
          simp only [List.flatMap_cons, List.cons_append, List.append_assoc, List.cons.injEq,
            true_and] at h
          obtain ⟨hfirst, h⟩ := hp.split h
          obtain ⟨hitems, hrest⟩ := ih h
          rw [List.map_cons, List.map_cons, hfirst, hitems]
          exact ⟨rfl, hrest⟩

theorem intercalate_cons (first : List β) (texts : List (List β)) :
    List.intercalate [separator] (first :: texts) =
      first ++ texts.flatMap fun text => separator :: text := by
  induction texts generalizing first with
  | nil => simp
  | cons second texts ih =>
      rw [List.intercalate_cons_cons, ih, List.flatMap_cons]
      simp

/-- Items with separators between them, up to a closer with which neither a separator nor an item
    begins. -/
theorem split_list (hp : Delimited p) (hseparator : separator ≠ closer)
    (hbegins : ∀ a, ∃ first rest, p a = first :: rest ∧ first ≠ closer) {items others : List α}
    {rest other : List β}
    (h : List.intercalate [separator] (items.map p) ++ closer :: rest =
      List.intercalate [separator] (others.map p) ++ closer :: other) :
    items.map p = others.map p ∧ rest = other := by
  cases items with
  | nil =>
      cases others with
      | nil => exact ⟨rfl, (List.cons.inj h).2⟩
      | cons second others =>
          obtain ⟨begin, tail, htext, hne⟩ := hbegins second
          rw [List.map_cons, intercalate_cons, htext] at h
          exact absurd (List.cons.inj h).1.symm hne
  | cons first items =>
      cases others with
      | nil =>
          obtain ⟨begin, tail, htext, hne⟩ := hbegins first
          rw [List.map_cons, intercalate_cons, htext] at h
          exact absurd (List.cons.inj h).1 hne
      | cons second others =>
          rw [List.map_cons, List.map_cons, intercalate_cons, intercalate_cons, List.append_assoc,
            List.append_assoc] at h
          obtain ⟨hfirst, h⟩ := hp.split h
          rw [List.flatMap_map, List.flatMap_map] at h
          obtain ⟨hitems, hrest⟩ := hp.split_separated hseparator h
          rw [List.map_cons, List.map_cons, hfirst, hitems]
          exact ⟨rfl, hrest⟩

end Lists

end Delimited
