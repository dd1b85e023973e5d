import Cxxlens.Foundation.Stopping

set_option autoImplicit false

/-! # Trails

What a computation passes through on its way, as a list. A relation that holds along a trail carries
an invariant from its start to everything on it, and a high-water mark is the greatest value so
far. -/

namespace Trails

universe u v w x

variable {β : Type u} {R : β → β → Prop}

/-! ## From a start to an end -/

/-- Everything on the trail is related to what is before it, and the trail ends at `final`. -/
def Leads (R : β → β → Prop) : β → List β → β → Prop
  | start, [], final => start = final
  | start, next :: rest, final => R start next ∧ Leads R next rest final

theorem leads_singleton {start final : β} (h : R start final) : Leads R start [final] final :=
  ⟨h, rfl⟩

theorem Leads.append {trail more : List β} : ∀ {start middle final : β},
    Leads R start trail middle → Leads R middle more final →
      Leads R start (trail ++ more) final := by
  induction trail with
  | nil =>
      intro start middle final hfirst hsecond
      rw [Leads] at hfirst
      exact hfirst ▸ hsecond
  | cons next rest ih =>
      intro start middle final hfirst hsecond
      exact ⟨hfirst.1, ih hfirst.2 hsecond⟩

/-- A trail passes through what it is cut at. -/
theorem Leads.split {before : List β} : ∀ {start middle final : β} {after : List β},
    Leads R start (before ++ middle :: after) final →
      Leads R start (before ++ [middle]) middle ∧ Leads R middle after final := by
  induction before with
  | nil =>
      intro start middle final after h
      exact ⟨⟨h.1, rfl⟩, h.2⟩
  | cons next rest ih =>
      intro start middle final after h
      obtain ⟨hfirst, hsecond⟩ := ih h.2
      exact ⟨⟨h.1, hfirst⟩, hsecond⟩

theorem Leads.mem {trail : List β} : ∀ {start final : β}, Leads R start trail final →
    final ∈ start :: trail := by
  induction trail with
  | nil =>
      intro start final h
      rw [Leads] at h
      exact h ▸ List.mem_singleton.2 rfl
  | cons next rest ih =>
      intro start final h
      exact List.mem_cons_of_mem _ (ih h.2)

/-- What every step keeps holds at the end of a trail. -/
theorem Leads.invariant {Inv : β → Prop} (hstep : ∀ {before behind}, R before behind → Inv before →
    Inv behind) {trail : List β} : ∀ {start final : β}, Leads R start trail final → Inv start →
      Inv final := by
  induction trail with
  | nil =>
      intro start final h hstart
      rw [Leads] at h
      exact h ▸ hstart
  | cons next rest ih =>
      intro start final h hstart
      exact ih h.2 (hstep h.1 hstart)

/-- A mark that every step raises to the value it reaches is the greatest value of the trail. -/
theorem Leads.isGreatest {ω : Type v} [LinearOrder ω] {Inv : β → Prop} {mark value : β → ω}
    (hinv : ∀ {before behind}, R before behind → Inv before → Inv behind)
    (hmark : ∀ {before behind}, R before behind → Inv before →
      mark behind = max (mark before) (value behind)) {trail : List β} :
    ∀ {start final : β} {values : Set ω}, Leads R start trail final → Inv start →
      IsGreatest values (mark start) →
      IsGreatest (values ∪ {result | ∃ point ∈ trail, value point = result}) (mark final) := by
  induction trail with
  | nil =>
      intro start final values h hstart hgreatest
      rw [Leads] at h
      subst h
      simpa using hgreatest
  | cons next rest ih =>
      intro start final values h hstart hgreatest
      have hnext : IsGreatest (values ∪ {value next}) (mark next) := by
        rw [hmark h.1 hstart]
        exact hgreatest.union isGreatest_singleton
      have hrest := ih h.2 (hinv h.1 hstart) hnext
      rw [Set.union_assoc] at hrest
      convert hrest using 2
      ext result
      simp [eq_comm]

/-! ## Computations -/

section Computations

variable {ε : Type v} {σ : Type w} {α : Type x}

/-- The trail behind a computation that has a result. -/
def andThen (result : Except ε σ) (trail : σ → List β) : List β :=
  match result with
  | .ok state => trail state
  | .error _ => []

/-- The trail leads to the result of a computation, if it has one. -/
def Reaches (R : β → β → Prop) (start : β) (trail : List β) (result : Except ε β) : Prop :=
  ∃ final, Leads R start trail final ∧ ∀ value, result = .ok value → final = value

theorem reaches_ok_iff {start final : β} {trail : List β} :
    Reaches R start trail (.ok final : Except ε β) ↔ Leads R start trail final := by
  refine ⟨?_, fun h => ⟨final, h, fun value hvalue => Except.ok.inj hvalue⟩⟩
  rintro ⟨reached, hleads, hreached⟩
  exact hreached final rfl ▸ hleads

theorem reaches_error {start : β} {e : ε} : Reaches R start [] (.error e : Except ε β) :=
  ⟨start, rfl, fun _ hvalue => by cases hvalue⟩

/-- One computation behind the other. -/
theorem Reaches.bind {τ : Type w} {start : β} {trail : List β} {result : Except ε σ}
    {next : σ → Except ε τ} {more : σ → List β} {view : σ → β} {view' : τ → β}
    (h : Reaches R start trail (result.map view))
    (hnext : ∀ state, result = .ok state → Reaches R (view state) (more state)
      ((next state).map view')) :
    Reaches R start (trail ++ andThen result more) ((result >>= next).map view') := by
  cases result with
  | error e =>
      obtain ⟨final, hleads, -⟩ := h
      refine ⟨final, ?_, fun _ hvalue => by cases hvalue⟩
      simpa [andThen] using hleads
  | ok state =>
      obtain ⟨final, hmore, hfinal⟩ := hnext state rfl
      exact ⟨final, (reaches_ok_iff.1 h).append hmore, hfinal⟩

open Stopping

/-- What a loop passes through, from what its steps pass through. -/
def visits (failed : σ → Bool) (body : σ → α → Except ε σ) (within : σ → α → List β) :
    σ → List α → List β
  | _, [] => []
  | state, item :: rest =>
    if failed state = true then []
    else
      within state item ++ andThen (body state item) fun state =>
        visits failed body within state rest

theorem visits_reaches {failed : σ → Bool} {body : σ → α → Except ε σ} {within : σ → α → List β}
    {view : σ → β}
    (hstep : ∀ state item, failed state = false →
      Reaches R (view state) (within state item) ((body state item).map view)) (items : List α) :
    ∀ start, Reaches R (view start) (visits failed body within start items)
      ((untilFailed failed body start items).map view) := by
  induction items with
  | nil =>
      intro start
      exact reaches_ok_iff.2 rfl
  | cons item rest ih =>
      intro start
      rw [visits, untilFailed]
      by_cases hfailed : failed start = true
      · rw [if_pos hfailed, if_pos hfailed]
        exact reaches_ok_iff.2 rfl
      · rw [if_neg hfailed, if_neg hfailed]
        exact (hstep start item (by simpa using hfailed)).bind fun state _ => ih state

end Computations

end Trails
