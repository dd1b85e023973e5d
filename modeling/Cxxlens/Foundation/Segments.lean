import Mathlib

set_option autoImplicit false

/-! # Segments

A text is cut at its separators, and segments are joined by them. A separator at the end of a text
starts no further segment, so that a text is the join of its segments with or without a separator
behind it. -/

universe u

namespace Segments

variable {α : Type u} [DecidableEq α] (separator : α)

/-- The segments of a text in front of which `current` has been read. -/
def segmentsFrom : List α → List α → List (List α)
  | current, [] => if current = [] then [] else [current]
  | current, a :: rest =>
    if a = separator then current :: segmentsFrom [] rest else segmentsFrom (current ++ [a]) rest

def segments (text : List α) : List (List α) :=
  segmentsFrom separator [] text

/-- The segments with a separator between each two of them. -/
def joined : List (List α) → List α
  | [] => []
  | [segment] => segment
  | segment :: next :: more => segment ++ separator :: joined (next :: more)

variable {separator}

@[simp] theorem segments_nil : segments separator [] = [] := rfl

@[simp] theorem joined_nil : joined separator [] = [] := rfl

@[simp] theorem joined_singleton (segment : List α) : joined separator [segment] = segment := rfl

theorem joined_cons {segment : List α} {more : List (List α)} (h : more ≠ []) :
    joined separator (segment :: more) = segment ++ separator :: joined separator more := by
  obtain ⟨next, more, rfl⟩ := List.exists_cons_of_ne_nil h
  rfl

theorem joined_append {left right : List (List α)} (hleft : left ≠ []) (hright : right ≠ []) :
    joined separator (left ++ right) =
      joined separator left ++ separator :: joined separator right := by
  induction left with
  | nil => exact absurd rfl hleft
  | cons segment left ih =>
    by_cases hnil : left = []
    · subst hnil
      exact joined_cons hright
    · rw [List.cons_append, joined_cons (by simp [hnil]), joined_cons hnil, ih hnil,
        List.append_assoc, List.cons_append]

/-- A segment is read up to the separator behind it. -/
theorem segmentsFrom_append {segment : List α} (h : separator ∉ segment)
    (current rest : List α) :
    segmentsFrom separator current (segment ++ separator :: rest) =
      (current ++ segment) :: segments separator rest := by
  induction segment generalizing current with
  | nil => simp [segmentsFrom, segments]
  | cons a segment ih =>
    simp only [List.mem_cons, not_or] at h
    rw [List.cons_append, segmentsFrom, if_neg (Ne.symm h.1), ih h.2, List.append_assoc,
      List.singleton_append]

/-- A segment with nothing behind it. -/
theorem segmentsFrom_of_notMem {segment : List α} (h : separator ∉ segment) (current : List α) :
    segmentsFrom separator current segment =
      if current ++ segment = [] then [] else [current ++ segment] := by
  induction segment generalizing current with
  | nil => rw [segmentsFrom, List.append_nil]
  | cons a segment ih =>
    simp only [List.mem_cons, not_or] at h
    rw [segmentsFrom, if_neg (Ne.symm h.1), ih h.2, List.append_assoc, List.singleton_append]

/-- Joined segments and a separator are cut into the segments and what is behind the separator. -/
theorem segments_joined_append {list : List (List α)} (hne : list ≠ [])
    (h : ∀ segment ∈ list, separator ∉ segment) (rest : List α) :
    segments separator (joined separator list ++ separator :: rest) =
      list ++ segments separator rest := by
  induction list with
  | nil => exact absurd rfl hne
  | cons segment list ih =>
    have hsegment := h segment (by simp)
    by_cases hnil : list = []
    · subst hnil
      exact segmentsFrom_append hsegment [] rest
    · have hrest := ih hnil fun other hother => h other (List.mem_cons_of_mem _ hother)
      rw [joined_cons hnil, List.append_assoc, List.cons_append, segments,
        segmentsFrom_append hsegment, hrest]
      rfl

/-- Joined segments are cut into themselves. -/
theorem segments_joined {list : List (List α)}
    (h : ∀ segment ∈ list, segment ≠ [] ∧ separator ∉ segment) :
    segments separator (joined separator list) = list := by
  induction list with
  | nil => rfl
  | cons segment list ih =>
    obtain ⟨hne, hsegment⟩ := h segment (by simp)
    have hrest := ih fun other hother => h other (List.mem_cons_of_mem _ hother)
    by_cases hnil : list = []
    · subst hnil
      rw [joined_singleton, segments, segmentsFrom_of_notMem hsegment, List.nil_append, if_neg hne]
    · rw [joined_cons hnil, segments, segmentsFrom_append hsegment, hrest]
      rfl

theorem joined_injective {left right : List (List α)}
    (hleft : ∀ segment ∈ left, segment ≠ [] ∧ separator ∉ segment)
    (hright : ∀ segment ∈ right, segment ≠ [] ∧ separator ∉ segment)
    (h : joined separator left = joined separator right) : left = right := by
  rw [← segments_joined hleft, h, segments_joined hright]

/-- No segment has a separator in it. -/
theorem notMem_of_mem_segmentsFrom {current text : List α} (hcurrent : separator ∉ current)
    {segment : List α} (h : segment ∈ segmentsFrom separator current text) :
    separator ∉ segment := by
  induction text generalizing current with
  | nil =>
    rw [segmentsFrom] at h
    split_ifs at h with hnil
    · exact absurd h (by simp)
    · rw [List.mem_singleton.1 h]
      exact hcurrent
  | cons a rest ih =>
    rw [segmentsFrom] at h
    split_ifs at h with heq
    · rcases List.mem_cons.1 h with rfl | h
      · exact hcurrent
      · exact ih (by simp) h
    · exact ih (by simp [hcurrent, Ne.symm heq]) h

theorem notMem_of_mem_segments {text segment : List α} (h : segment ∈ segments separator text) :
    separator ∉ segment :=
  notMem_of_mem_segmentsFrom (by simp) h

/-- Joined segments do not start with a separator when their first segment does not. -/
theorem joined_head? {list : List (List α)} (h : ∀ segment ∈ list, segment ≠ []) :
    (joined separator list).head? = list.head?.bind List.head? := by
  cases list with
  | nil => rfl
  | cons segment list =>
    have hne := h segment (by simp)
    by_cases hnil : list = []
    · subst hnil
      rfl
    · rw [joined_cons hnil, List.head?_append_of_ne_nil _ hne]
      rfl

theorem joined_ne_nil {list : List (List α)} (hne : list ≠ [])
    (h : ∀ segment ∈ list, segment ≠ []) : joined separator list ≠ [] := by
  obtain ⟨segment, more, rfl⟩ := List.exists_cons_of_ne_nil hne
  by_cases hnil : more = []
  · subst hnil
    exact h segment (by simp)
  · rw [joined_cons hnil]
    simp

end Segments
