import Cxxlens.Sdk.Store.SourceReader
import Cxxlens.Sdk.Store.WriterModes

set_option autoImplicit false

/-! # Comparing what is written with a source

`sqlite_byte_comparison_sink` of `snapshot_store_v5_codec_internal.cpp`: a sink that reads a source
alongside and refuses the first byte that differs. Over a source that serves a text it accepts the
text and nothing else, however the text is cut into spans and the source into answers. -/

namespace Cxxlens.Sdk.Store

/-- The size of `scratch_`. -/
def comparisonScratchBytes : Nat := 64 * 1024

/-- `sqlite_byte_comparison_sink` -/
structure ByteComparisonSink (σ : Type) where
  source : Option σ
  expectedSize : Nat
  offset : Nat := 0

section Comparison

variable {σ : Type} (answers : BoundedByteSource σ)

/-- The loop that fills the scratch with `missing` bytes. A read that goes on gives at least one
    byte. -/
def fillScratch : Nat → Nat → Bytes → σ → Result Bytes × σ
  | 0, _, copied, source => (.ok copied, source)
  | rounds + 1, missing, copied, source =>
    if missing = 0 then (.ok copied, source)
    else
      match answers source missing with
      | (.failed error, source) => (.error error, source)
      | (.threwBadAlloc, source) => (.error thrownBadAlloc, source)
      | (.threw, source) => (.error thrown, source)
      | (.returned count output, source) =>
        if count = 0 ∨ count > missing then
          (.error (storeError "store.corrupt" "payload" "noncanonical-size"), source)
        else fillScratch rounds (missing - count) (copied ++ output.toList.take count) source

/-- The loop over the pieces of a span: no piece is empty. -/
def comparePieces : Nat → Bytes → σ → Nat → Result Unit × σ × Nat
  | 0, _, source, offset => (.ok (), source, offset)
  | rounds + 1, bytes, source, offset =>
    if bytes = [] then (.ok (), source, offset)
    else
      let count := min comparisonScratchBytes bytes.length
      match fillScratch answers count count [] source with
      | (.error error, source) => (.error error, source, offset)
      | (.ok scratch, source) =>
        if scratch ≠ bytes.take count then
          (.error (storeError "store.corrupt" "payload" "noncanonical"), source, offset)
        else comparePieces rounds (bytes.drop count) source (offset + count)

/-- `sqlite_byte_comparison_sink::append` -/
def ByteComparisonSink.append : BoundedByteSink (ByteComparisonSink σ) := fun sink bytes =>
  let size := storeError "store.corrupt" "payload" "noncanonical-size"
  match sink.source with
  | none => (.error size, sink)
  | some source =>
    if sink.offset > sink.expectedSize ∨ bytes.length > sink.expectedSize - sink.offset then
      (.error size, sink)
    else
      let (outcome, source, offset) :=
        comparePieces answers bytes.length bytes source sink.offset
      (outcome, { sink with source := some source, offset })

/-- `sqlite_byte_comparison_sink::finish` -/
def ByteComparisonSink.finish (sink : ByteComparisonSink σ) : Result Unit :=
  let size := storeError "store.corrupt" "payload" "noncanonical-size"
  match sink.source with
  | none => .error size
  | some source =>
    if sink.offset ≠ sink.expectedSize then .error size
    else
      match (answers source 1).1 with
      | .failed error => .error error
      | .threwBadAlloc => .error thrownBadAlloc
      | .threw => .error thrown
      | .returned count _ => if count ≠ 0 then .error size else .ok ()

variable {answers} {serving : σ → Bytes → Prop}

theorem fillScratch_serving (h : Serves answers serving) {rounds missing : Nat}
    (hrounds : missing ≤ rounds) (copied : Bytes) {text : Bytes} {source : σ}
    (hserving : serving source text) (hmissing : missing ≤ text.length) :
    ∃ next, fillScratch answers rounds missing copied source =
        (.ok (copied ++ text.take missing), next) ∧ serving next (text.drop missing) := by
  induction rounds generalizing missing copied text source with
  | zero =>
      obtain rfl := Nat.le_zero.1 hrounds
      exact ⟨source, by simp [fillScratch], hserving⟩
  | succ rounds ih =>
      rw [fillScratch]
      by_cases hzero : missing = 0
      · subst hzero
        rw [if_pos rfl]
        exact ⟨source, by simp, hserving⟩
      · obtain ⟨count, output, next, hanswer, hwindow, hleft, hend, houtput, hnext⟩ :=
          h.read source text missing hserving (Nat.pos_of_ne_zero hzero)
        have hcount : count ≠ 0 := by
          intro hnothing
          rw [hend hnothing, List.length_nil] at hmissing
          omega
        rw [if_neg hzero, hanswer]
        simp only
        rw [if_neg (by omega), houtput]
        obtain ⟨last, hfill, hserved⟩ := ih (by omega : missing - count ≤ rounds)
          (copied ++ text.take count) hnext (by rw [List.length_drop]; omega)
        refine ⟨last, ?_, ?_⟩
        · have hsplit : text.take missing =
              text.take count ++ (text.drop count).take (missing - count) := by
            rw [← List.take_add, Nat.add_sub_cancel' hwindow]
          rw [hfill, hsplit, List.append_assoc]
        · rwa [List.drop_drop, Nat.add_sub_cancel' hwindow] at hserved

/-- The pieces of a span are the next bytes of the text, or one of them is refused. -/
theorem comparePieces_serving (h : Serves answers serving) {rounds : Nat} (bytes text : Bytes)
    (hrounds : bytes.length ≤ rounds) {source : σ} (hserving : serving source text)
    (hlength : bytes.length ≤ text.length) (offset : Nat) :
    (bytes <+: text → ∃ next, comparePieces answers rounds bytes source offset =
        (.ok (), next, offset + bytes.length) ∧ serving next (text.drop bytes.length)) ∧
      (¬ bytes <+: text → ∃ error, (comparePieces answers rounds bytes source offset).1 =
        .error error) := by
  induction rounds generalizing bytes text source offset with
  | zero =>
      obtain rfl := List.length_eq_zero_iff.1 (Nat.le_zero.1 hrounds)
      exact ⟨fun _ => ⟨source, rfl, hserving⟩, fun hnot => absurd (List.nil_prefix) hnot⟩
  | succ rounds ih =>
      rw [comparePieces]
      by_cases hempty : bytes = []
      · subst hempty
        rw [if_pos rfl]
        exact ⟨fun _ => ⟨source, rfl, hserving⟩, fun hnot => absurd (List.nil_prefix) hnot⟩
      · have hpos : 0 < bytes.length := List.length_pos_iff.2 hempty
        have hcount : 0 < min comparisonScratchBytes bytes.length := by
          rw [lt_min_iff]
          exact ⟨by decide, hpos⟩
        have hle : min comparisonScratchBytes bytes.length ≤ bytes.length := min_le_right _ _
        generalize min comparisonScratchBytes bytes.length = count at hcount hle
        obtain ⟨next, hfill, hserved⟩ := fillScratch_serving h (le_refl count) []
          hserving (hle.trans hlength)
        rw [if_neg hempty]
        simp only
        rw [hfill, List.nil_append]
        simp only
        -- a span is a prefix when its first piece is one and the rest is one of what is left
        have hprefix : bytes <+: text ↔ text.take count = bytes.take count ∧
            bytes.drop count <+: text.drop count := by
          constructor
          · rintro ⟨rest, rfl⟩
            rw [List.take_append_of_le_length hle, List.drop_append_of_le_length hle]
            exact ⟨rfl, List.prefix_append _ _⟩
          · rintro ⟨htake, rest, hrest⟩
            refine ⟨rest, ?_⟩
            rw [← List.take_append_drop count bytes, List.append_assoc, hrest, ← htake,
              List.take_append_drop]
        by_cases htake : text.take count = bytes.take count
        · rw [if_neg (not_not.2 htake), hprefix]
          obtain ⟨hok, herror⟩ := ih (bytes.drop count) (text.drop count)
            (by rw [List.length_drop]; omega) hserved
            (by rw [List.length_drop, List.length_drop]; omega) (offset + count)
          refine ⟨fun hall => ?_, fun hnot => herror fun hrest => hnot ⟨htake, hrest⟩⟩
          obtain ⟨last, hlast, hservedLast⟩ := hok hall.2
          rw [List.length_drop] at hlast hservedLast
          rw [List.drop_drop] at hservedLast
          have hsum : count + (bytes.length - count) = bytes.length := by omega
          rw [hsum] at hservedLast
          exact ⟨last, by rw [hlast, Nat.add_assoc, hsum], hservedLast⟩
        · rw [if_pos htake, hprefix]
          exact ⟨fun hall => absurd hall.1 htake, fun _ => ⟨_, rfl⟩⟩

/-- A comparison stands in the text. -/
structure ByteComparisonSink.At (serving : σ → Bytes → Prop) (sink : ByteComparisonSink σ)
    (text : Bytes) : Prop where
  size : sink.expectedSize = sink.offset + text.length
  source : ∃ source, sink.source = some source ∧ serving source text

/-- Spans are accepted one after another as long as they are what comes next in the text. -/
theorem streamSpans_comparing (h : Serves answers serving) {spans : Spans} {text : Bytes}
    {sink : ByteComparisonSink σ} (hat : sink.At serving text) :
    (spans.flatten <+: text → ∃ last, streamSpans (ByteComparisonSink.append answers) spans sink =
        (.ok (), last) ∧ last.At serving (text.drop spans.flatten.length)) ∧
      (¬ spans.flatten <+: text → ∃ error, (streamSpans (ByteComparisonSink.append answers) spans
        sink).1 = .error error) := by
  induction spans generalizing text sink with
  | nil => exact ⟨fun _ => ⟨sink, rfl, hat⟩, fun hnot => absurd (List.nil_prefix) hnot⟩
  | cons span rest ih =>
      obtain ⟨hsize, source, hsource, hserving⟩ := hat
      rw [streamSpans_cons, ByteComparisonSink.append, hsource, List.flatten_cons]
      simp only
      by_cases hfits : span.length ≤ text.length
      · rw [if_neg (by omega)]
        obtain ⟨hok, herror⟩ := comparePieces_serving h span text (le_refl _) hserving hfits
          sink.offset
        by_cases hspan : span <+: text
        · obtain ⟨next, hnext, hserved⟩ := hok hspan
          obtain ⟨left, rfl⟩ := hspan
          rw [List.drop_left] at hserved
          rw [hnext, List.prefix_append_right_inj, List.length_append, List.drop_append]
          simp only
          have hstart : ({ sink with source := some next, offset := sink.offset + span.length } :
              ByteComparisonSink σ).At serving left :=
            ⟨by rw [List.length_append] at hsize; simp only; omega, next, rfl, hserved⟩
          rw [List.drop_eq_nil_of_le (by omega), List.nil_append, Nat.add_sub_cancel_left]
          exact ih hstart
        · obtain ⟨error, hrefused⟩ := herror hspan
          refine ⟨fun hall => absurd ((List.prefix_append _ _).trans hall) hspan, fun _ => ?_⟩
          refine ⟨error, ?_⟩
          cases hpieces : comparePieces answers span.length span source sink.offset with
          | mk outcome state =>
              rw [hpieces] at hrefused
              simp only at hrefused
              rw [hrefused]
      · rw [if_pos (by omega)]
        refine ⟨fun hall => absurd hall.length_le ?_, fun _ => ⟨_, rfl⟩⟩
        rw [List.length_append]
        omega

/-- At the end of the text a comparison finishes, and nowhere else. -/
theorem finish_comparing (h : Serves answers serving) {text : Bytes} {sink : ByteComparisonSink σ}
    (hat : sink.At serving text) : sink.finish answers = .ok () ↔ text = [] := by
  obtain ⟨hsize, source, hsource, hserving⟩ := hat
  obtain ⟨count, output, next, hanswer, hwindow, hleft, hend, -⟩ :=
    h.read source text 1 hserving Nat.one_pos
  rw [ByteComparisonSink.finish, hsource]
  simp only
  constructor
  · intro hfinish
    split_ifs at hfinish with hoffset
    exact List.length_eq_zero_iff.1 (by omega)
  · rintro rfl
    rw [if_neg (by simpa using hsize.symm), hanswer]
    simp only
    rw [if_neg (by simp only [List.length_nil] at hleft; omega)]

end Comparison

end Cxxlens.Sdk.Store
