import Cxxlens.Sdk.Store.BinaryCodec
import Cxxlens.Sdk.Store.Graph

set_option autoImplicit false

/-! # Reading from a source

`binary_reader` over a pass of a source (`read_exact` of `snapshot_store_v5_codec_internal.cpp`). A
source answers a window with as many bytes as it likes; over a source that serves a text, every
reading program runs as it does over the text itself. -/

namespace Cxxlens.Sdk.Store

/-- `binary_reader` over a source -/
structure SourceReader (σ : Type) where
  source : σ
  expectedSize : Nat
  offset : Nat := 0

/-- What `read_exact` returns, or the exception that leaves it. -/
inductive ReadOutcome where
  | returned (answer : Result (Option Bytes))
  | threw (exception : Error)

section Reads

variable {σ : Type} (answers : BoundedByteSource σ)

/-- The loop of `read_exact`: `missing` bytes are still to come. A read that goes on gives at least
    one byte, so as many rounds as missing bytes are enough. -/
def fill : Nat → Nat → Bytes → SourceReader σ → ReadOutcome × SourceReader σ
  | 0, _, copied, reader => (.returned (.ok (some copied)), reader)
  | rounds + 1, missing, copied, reader =>
    if missing = 0 then (.returned (.ok (some copied)), reader)
    else
      match answers reader.source missing with
      | (.failed error, source) => (.returned (.error error), { reader with source })
      | (.threwBadAlloc, source) => (.threw thrownBadAlloc, { reader with source })
      | (.threw, source) => (.threw thrown, { reader with source })
      | (.returned count output, source) =>
        if count = 0 then (.returned (.ok none), { reader with source })
        else if count > missing then
          (.returned (.error (storeError "store.corrupt" "payload" "source-window")),
            { reader with source })
        else fill rounds (missing - count) (copied ++ output.toList.take count)
          { reader with source, offset := reader.offset + count }

/-- `read_exact` -/
def SourceReader.readExact (reader : SourceReader σ) (count : Nat) :
    ReadOutcome × SourceReader σ :=
  if count > reader.expectedSize - reader.offset then (.returned (.ok none), reader)
  else fill answers count count [] reader

/-- A reading program over a source: what it returns, and the reader it leaves behind. -/
def runSource {α : Type} : Reading Error α → SourceReader σ → Result (α × SourceReader σ)
  | .done value, reader => .ok (value, reader)
  | .failed error, _ => .error error
  | .exact count next, reader =>
    match reader.readExact answers count with
    | (.threw exception, _) => .error exception
    | (.returned answer, reader) => runSource (next answer) reader

/-- A source that serves a text: a window gets something of what is left, and nothing at its end. -/
structure Serves (serving : σ → Bytes → Prop) : Prop where
  read : ∀ source text window, serving source text → 0 < window →
    ∃ count output next, answers source window = (.returned count output, next) ∧
      count ≤ window ∧ count ≤ text.length ∧ (count = 0 → text = []) ∧
      output.toList.take count = text.take count ∧ serving next (text.drop count)

variable {answers} {serving : σ → Bytes → Prop}

theorem fill_serving (h : Serves answers serving) {rounds missing : Nat}
    (hrounds : missing ≤ rounds) (copied : Bytes) {text : Bytes} (reader : SourceReader σ)
    (hserving : serving reader.source text) (hmissing : missing ≤ text.length) :
    ∃ source, fill answers rounds missing copied reader =
        (.returned (.ok (some (copied ++ text.take missing))),
          { reader with source, offset := reader.offset + missing }) ∧
      serving source (text.drop missing) := by
  induction rounds generalizing missing copied text reader with
  | zero =>
      obtain rfl := Nat.le_zero.1 hrounds
      exact ⟨reader.source, by simp [fill], hserving⟩
  | succ rounds ih =>
      rw [fill]
      by_cases hzero : missing = 0
      · subst hzero
        rw [if_pos rfl]
        exact ⟨reader.source, by simp, hserving⟩
      · obtain ⟨count, output, next, hanswer, hwindow, hleft, hend, houtput, hnext⟩ :=
          h.read reader.source text missing hserving (Nat.pos_of_ne_zero hzero)
        have hcount : count ≠ 0 := by
          intro hnothing
          rw [hend hnothing, List.length_nil] at hmissing
          omega
        rw [if_neg hzero, hanswer]
        simp only
        rw [if_neg hcount, if_neg (by omega), houtput]
        obtain ⟨source, hfill, hserved⟩ := ih (by omega : missing - count ≤ rounds)
          (copied ++ text.take count)
          { reader with source := next, offset := reader.offset + count } hnext
          (by rw [List.length_drop]; omega)
        refine ⟨source, ?_, ?_⟩
        · -- what the round has copied and what the rest copies are one piece of the text
          have hsplit : text.take missing =
              text.take count ++ (text.drop count).take (missing - count) := by
            rw [← List.take_add, Nat.add_sub_cancel' hwindow]
          rw [hfill, hsplit, List.append_assoc]
          simp only [Nat.add_assoc, Nat.add_sub_cancel' hwindow]
        · rwa [List.drop_drop, Nat.add_sub_cancel' hwindow] at hserved

/-- Over a source that serves a text a program runs as over the text: the windows do not matter. -/
theorem runSource_serving {α : Type} (h : Serves answers serving) (program : Reading Error α)
    (text : Bytes) (reader : SourceReader σ) (hserving : serving reader.source text)
    (hsize : reader.expectedSize = reader.offset + text.length) :
    (∀ error, program.run text = .error error → runSource answers program reader = .error error) ∧
      ∀ value rest, program.run text = .ok (value, rest) →
        ∃ source, runSource answers program reader = .ok (value, { reader with
            source, offset := reader.expectedSize - rest.length }) ∧
          serving source rest ∧ rest.length ≤ text.length := by
  induction program generalizing text reader with
  | done value =>
      refine ⟨fun error herror => absurd herror (by simp), ?_⟩
      intro value rest hrun
      simp only [Reading.run_done, Except.ok.injEq, Prod.mk.injEq] at hrun
      obtain ⟨rfl, rfl⟩ := hrun
      refine ⟨reader.source, ?_, hserving, le_refl _⟩
      rw [hsize, Nat.add_sub_cancel, ← hsize]
      rfl
  | failed error =>
      refine ⟨fun other hother => ?_, fun value rest hrun => absurd hrun (by simp)⟩
      rw [Reading.run_failed, Except.error.injEq] at hother
      rw [← hother]
      rfl
  | exact count next ih =>
      rw [Reading.run, runSource, SourceReader.readExact]
      have hremaining : reader.expectedSize - reader.offset = text.length := by omega
      rw [hremaining]
      by_cases hcount : count ≤ text.length
      · obtain ⟨source, hfill, hserved⟩ := fill_serving h (le_refl count) [] reader
          hserving hcount
        rw [if_pos hcount, if_neg (by omega), hfill, List.nil_append]
        have hrest : (text.drop count).length = text.length - count := List.length_drop
        obtain ⟨herror, hok⟩ := ih (.ok (some (text.take count))) (text.drop count)
          { reader with source, offset := reader.offset + count } hserved
          (by simp only; omega)
        refine ⟨herror, fun value rest hrun => ?_⟩
        obtain ⟨last, hlast, hserved, hle⟩ := hok value rest hrun
        exact ⟨last, hlast, hserved, by omega⟩
      · rw [if_neg hcount, if_pos (by omega)]
        exact ih (.ok none) text reader hserving hsize

end Reads

end Cxxlens.Sdk.Store
