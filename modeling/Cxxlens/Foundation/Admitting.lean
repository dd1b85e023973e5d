import Mathlib

set_option autoImplicit false

/-! # States that admit and reject

A state is offered inputs one after another. It admits an input and moves on, or rejects it and stays
as it was. What is known of the inputs it has admitted is an invariant of the state and the list of
them, which only an admission extends. -/

namespace Admitting

universe u v w

variable {ε : Type u} {σ : Type v} {ι : Type w}

section Runs

variable (step : σ → ι → Except ε σ)

/-- The state after an input has been offered. -/
def offer (state : σ) (input : ι) : σ :=
  match step state input with
  | .ok next => next
  | .error _ => state

/-- The state after a run. -/
def final (state : σ) (inputs : List ι) : σ :=
  inputs.foldl (offer step) state

/-- The inputs of a run that are admitted, in order. -/
def admitted : σ → List ι → List ι
  | _, [] => []
  | state, input :: rest =>
    match step state input with
    | .ok next => input :: admitted next rest
    | .error _ => admitted state rest

variable {step}

theorem offer_of_error {state : σ} {input : ι} {e : ε} (h : step state input = .error e) :
    offer step state input = state := by
  simp [offer, h]

@[simp] theorem final_nil (state : σ) : final step state [] = state := rfl

@[simp] theorem final_cons (state : σ) (input : ι) (rest : List ι) :
    final step state (input :: rest) = final step (offer step state input) rest := rfl

theorem final_concat (state : σ) (inputs : List ι) (input : ι) :
    final step state (inputs ++ [input]) = offer step (final step state inputs) input := by
  simp [final]

/-- A rejected input leaves the state a run has reached. -/
theorem final_concat_of_error {state : σ} {inputs : List ι} {input : ι} {e : ε}
    (h : step (final step state inputs) input = .error e) :
    final step state (inputs ++ [input]) = final step state inputs := by
  rw [final_concat, offer_of_error h]

variable {P : σ → List ι → Prop}

theorem invariant_from
    (hstep : ∀ state done input next, P state done → step state input = .ok next →
      P next (done ++ [input])) (inputs : List ι) :
    ∀ state done, P state done →
      P (final step state inputs) (done ++ admitted step state inputs) := by
  induction inputs with
  | nil =>
      intro state done h
      simpa [admitted] using h
  | cons input rest ih =>
      intro state done h
      cases hinput : step state input with
      | error e => simpa [admitted, offer, hinput] using ih state done h
      | ok next =>
          have hnext := ih next (done ++ [input]) (hstep state done input next h hinput)
          simpa [admitted, offer, hinput] using hnext

/-- What holds at the start and is kept by every admission holds of the state after a run and the
    inputs it admitted. -/
theorem invariant {start : σ} (hstart : P start [])
    (hstep : ∀ state done input next, P state done → step state input = .ok next →
      P next (done ++ [input])) (inputs : List ι) :
    P (final step start inputs) (admitted step start inputs) := by
  simpa using invariant_from hstep inputs start [] hstart

end Runs

/-! ## Consecutive inputs -/

section Chains

variable {R : ι → ι → Prop}

/-- One more input is consecutive to the last one only. -/
theorem isChain_concat_iff {done : List ι} {input : ι} :
    (done ++ [input]).IsChain R ↔
      done.IsChain R ∧ ∀ last, done.getLast? = some last → R last input := by
  rw [List.isChain_append]
  simp

/-- A transitive relation between consecutive inputs holds between any two. -/
theorem pairwise_of_isChain (htrans : ∀ a b c, R a b → R b c → R a c) {done : List ι}
    (h : done.IsChain R) : done.Pairwise R := by
  have : IsTrans ι R := ⟨htrans⟩
  exact List.isChain_iff_pairwise.1 h

end Chains

end Admitting
