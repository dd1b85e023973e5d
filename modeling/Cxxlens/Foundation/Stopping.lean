import Mathlib

set_option autoImplicit false

/-! # Loops that stop early

A loop may end before its list does: because its state has failed, or because a step says that there
is nothing to be had. What a loop leaves behind is then known from what one step does, without a
look at how the loop was left. -/

namespace Stopping

universe u v w

variable {ε : Type u} {σ : Type v} {α : Type w}

/-! ## Until the state fails -/

section UntilFailed

variable (failed : σ → Bool) (body : σ → α → Except ε σ)

/-- The loop that ends at the first state that failed. -/
def untilFailed : σ → List α → Except ε σ
  | state, [] => .ok state
  | state, item :: rest =>
    if failed state = true then .ok state
    else do
      let state ← body state item
      untilFailed state rest

variable {failed body}

theorem untilFailed_of_failed {state : σ} (h : failed state = true) (items : List α) :
    untilFailed failed body state items = .ok state := by
  cases items with
  | nil => rfl
  | cons item rest => rw [untilFailed, if_pos h]

theorem untilFailed_cons_eq_ok_iff {start final : σ} {item : α} {rest : List α} :
    untilFailed failed body start (item :: rest) = .ok final ↔
      (failed start = true ∧ start = final) ∨
        (failed start = false ∧ ∃ state, body start item = .ok state ∧
          untilFailed failed body state rest = .ok final) := by
  rw [untilFailed]
  by_cases hfailed : failed start = true
  · simp [hfailed]
  · cases hbody : body start item with
    | error e => simp [hfailed, bind, Except.bind]
    | ok state => simp [hfailed, bind, Except.bind]

theorem not_failed_of_untilFailed {items : List α} {start final : σ}
    (h : untilFailed failed body start items = .ok final) (hfinal : failed final = false) :
    failed start = false := by
  by_contra hnot
  have hstart : failed start = true := by simpa using hnot
  rw [untilFailed_of_failed hstart, Except.ok.injEq] at h
  rw [h, hfinal] at hstart
  exact Bool.false_ne_true hstart

/-- A loop that did not fail made the last step from a state that had not failed. -/
theorem untilFailed_concat_eq_ok {items : List α} {last : α} {final : σ}
    (hfinal : failed final = false) : ∀ {start : σ},
      untilFailed failed body start (items ++ [last]) = .ok final →
        ∃ state, untilFailed failed body start items = .ok state ∧ failed state = false ∧
          body state last = .ok final := by
  induction items with
  | nil =>
    intro start hrun
    cases untilFailed_cons_eq_ok_iff.1 hrun with
    | inl hstop => exact absurd hstop.1 (by rw [hstop.2, hfinal]; exact Bool.false_ne_true)
    | inr hgo =>
      obtain ⟨hfailed, state, hbody, hrest⟩ := hgo
      rw [untilFailed, Except.ok.injEq] at hrest
      exact ⟨start, rfl, hfailed, hrest ▸ hbody⟩
  | cons item rest ih =>
    intro start hrun
    cases untilFailed_cons_eq_ok_iff.1 hrun with
    | inl hstop => exact absurd hstop.1 (by rw [hstop.2, hfinal]; exact Bool.false_ne_true)
    | inr hgo =>
      obtain ⟨hfailed, state, hbody, hrest⟩ := hgo
      obtain ⟨before, hbefore, hnot, hlast⟩ := ih hrest
      exact ⟨before, untilFailed_cons_eq_ok_iff.2 (Or.inr ⟨hfailed, state, hbody, hbefore⟩), hnot,
        hlast⟩

/-- What holds of the start and is kept by every step holds of the end, failed or not. -/
theorem untilFailed_invariant {Inv : σ → Prop}
    (hstep : ∀ state item state', failed state = false → Inv state →
      body state item = .ok state' → Inv state') {items : List α} :
    ∀ {start final : σ}, Inv start → untilFailed failed body start items = .ok final →
      Inv final := by
  induction items with
  | nil =>
    intro start final hstart hrun
    rw [untilFailed, Except.ok.injEq] at hrun
    exact hrun ▸ hstart
  | cons item rest ih =>
    intro start final hstart hrun
    cases untilFailed_cons_eq_ok_iff.1 hrun with
    | inl hstop => exact hstop.2 ▸ hstart
    | inr hgo =>
      obtain ⟨hfailed, state, hbody, hrest⟩ := hgo
      exact ih (hstep start item state hfailed hstart hbody) hrest

/-- A loop that did not fail made every step, from an invariant about the steps that are done. -/
theorem untilFailed_spec {Inv : List α → σ → Prop}
    (hstep : ∀ done state item state', failed state = false → Inv done state →
      body state item = .ok state' → failed state' = false → Inv (done ++ [item]) state')
    {items : List α} :
    ∀ {done : List α} {start final : σ}, Inv done start →
      untilFailed failed body start items = .ok final → failed final = false →
      Inv (done ++ items) final := by
  induction items with
  | nil =>
    intro done start final hstart hrun hfinal
    rw [untilFailed, Except.ok.injEq] at hrun
    rw [List.append_nil]
    exact hrun ▸ hstart
  | cons item rest ih =>
    intro done start final hstart hrun hfinal
    cases untilFailed_cons_eq_ok_iff.1 hrun with
    | inl hstop => exact absurd hstop.1 (by rw [hstop.2, hfinal]; exact Bool.false_ne_true)
    | inr hgo =>
      obtain ⟨hfailed, state, hbody, hrest⟩ := hgo
      have hstate := not_failed_of_untilFailed hrest hfinal
      have hnext := ih (hstep done start item state hfailed hstart hbody hstate) hrest hfinal
      rwa [List.append_assoc, List.singleton_append] at hnext

end UntilFailed

/-! ## Until there is nothing -/

section CollectSome

variable {β : Type v}

/-- The loop that collects what the steps return, up to the first error, or the first step that
    returns nothing. -/
def collectSome (step : α → Except ε (Option (List β))) : List α → Except ε (Option (List β))
  | [] => .ok (some [])
  | item :: rest => do
    match ← step item with
    | none => .ok none
    | some first => do
      let others ← collectSome step rest
      .ok (others.map (first ++ ·))

end CollectSome

end Stopping
