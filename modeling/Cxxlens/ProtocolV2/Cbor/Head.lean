import Cxxlens.Foundation.Span
import Cxxlens.Foundation.BigEndian
import Cxxlens.Foundation.Fallible
import Cxxlens.ProtocolV2.Cbor.Value

set_option autoImplicit false

/-! # Item heads

A CBOR item starts with a head: the major type in the top three bits of the initial byte and an
argument in the low five or in one, two, four or eight following bytes. `append_head` writes the
shortest form. The source reads a head in three places (`read_head`, `scan_head` and the closure
codec's `read_wire_head`); they differ in their error values, and the last one does not insist on
the shortest form. All three are `headAt` here. -/

namespace Cxxlens.ProtocolV2.Cbor

open Sdk (Error Result)

/-! ## Writing a head -/

/-- `prefix | low`: the initial byte of a head. -/
def initialByte (kind : Major) (low : Nat) : UInt8 :=
  UInt8.ofNat (kind.toByte.toNat * 32 + low)

/-- The bytes `append_head(output, kind, argument)` appends. -/
def head (kind : Major) (argument : Nat) : Bytes :=
  if argument < 24 then [initialByte kind argument]
  else if argument ≤ 0xff then initialByte kind 24 :: BigEndian.encode 1 argument
  else if argument ≤ 0xffff then initialByte kind 25 :: BigEndian.encode 2 argument
  else if argument ≤ 0xffffffff then initialByte kind 26 :: BigEndian.encode 4 argument
  else initialByte kind 27 :: BigEndian.encode 8 argument

/-- `encoded_text` -/
def encodedText (text : Bytes) : Bytes :=
  head .text text.length ++ text

/-! ## Reading a head -/

/-- What can be wrong with the head at an offset, in the order the readers look. -/
inductive HeadFault where
  | truncatedHead
  | indefiniteOrReserved
  | truncatedArgument
  | nonShortest
  deriving DecidableEq, Repr

/-- A head read from a buffer: `next` is the offset after it. -/
structure Head where
  kind : Major
  argument : Nat
  next : Nat
  deriving DecidableEq, Repr

/-- The width in bytes of the argument that follows an initial byte with this low part. -/
def argumentWidth (additional : Nat) : Nat :=
  if additional = 24 then 1 else if additional = 25 then 2 else if additional = 26 then 4 else 8

/-- The smallest argument that needs this width. -/
def shortestArgument (width : Nat) : Nat :=
  if width = 1 then 24 else if width = 2 then 256 else if width = 4 then 65536 else 2 ^ 32

/-- The head at an offset; `shortest` asks for the shortest form. -/
def headAt (shortest : Bool) (input : Bytes) (offset : Nat) : Except HeadFault Head :=
  match input[offset]? with
  | none => .error .truncatedHead
  | some initial =>
    let kind := Major.ofInitial initial
    let additional := initial.toNat % 32
    if additional ≥ 28 then .error .indefiniteOrReserved
    else if additional < 24 then .ok ⟨kind, additional, offset + 1⟩
    else
      let width := argumentWidth additional
      if width > input.length - offset - 1 then .error .truncatedArgument
      else
        let argument := BigEndian.decode (Span.slice input (offset + 1) (offset + 1 + width))
        if shortest ∧ argument < shortestArgument width then .error .nonShortest
        else .ok ⟨kind, argument, offset + 1 + width⟩

/-- `read_head` -/
def readHead (input : Bytes) (offset : Nat) : Result Head :=
  (headAt true input offset).mapError fun
    | .truncatedHead => failure "cbor" "truncated-head"
    | .indefiniteOrReserved => failure "cbor" "indefinite-or-reserved"
    | .truncatedArgument => failure "cbor" "truncated-argument"
    | .nonShortest => failure "cbor" "non-shortest"

/-! ## Initial bytes -/

theorem toNat_initialByte (kind : Major) {low : Nat} (hlow : low < 32) :
    (initialByte kind low).toNat = kind.toByte.toNat * 32 + low := by
  have hkind : kind.toByte.toNat < 8 := by cases kind <;> decide
  rw [initialByte, UInt8.toNat_ofNat', Nat.mod_eq_of_lt (by omega)]

theorem ofInitial_initialByte (kind : Major) {low : Nat} (hlow : low < 32) :
    Major.ofInitial (initialByte kind low) = kind := by
  have hdiv : (kind.toByte.toNat * 32 + low) / 32 = kind.toByte.toNat := by omega
  rw [Major.ofInitial, toNat_initialByte kind hlow, hdiv]
  cases kind <;> rfl

theorem toByte_ofInitial (initial : UInt8) :
    (Major.ofInitial initial).toByte.toNat = initial.toNat / 32 := by
  have hlt := initial.toNat_lt
  have hdiv : initial.toNat / 32 < 8 := by omega
  unfold Major.ofInitial
  generalize initial.toNat / 32 = bits at hdiv ⊢
  interval_cases bits <;> rfl

theorem initialByte_ofInitial (initial : UInt8) :
    initialByte (Major.ofInitial initial) (initial.toNat % 32) = initial := by
  apply UInt8.toNat_inj.1
  rw [toNat_initialByte _ (Nat.mod_lt _ (by decide)), toByte_ofInitial]
  omega

/-! ## A head of a given width -/

/-- The low part of the initial byte that announces an argument of `width` bytes. -/
def additionalOf (width : Nat) : Nat :=
  if width = 1 then 24 else if width = 2 then 25 else if width = 4 then 26 else 27

/-- The head with its argument in `width` following bytes. -/
def wideHead (kind : Major) (width argument : Nat) : Bytes :=
  initialByte kind (additionalOf width) :: BigEndian.encode width argument

@[simp] theorem length_wideHead (kind : Major) (width argument : Nat) :
    (wideHead kind width argument).length = width + 1 := by
  rw [wideHead, List.length_cons, BigEndian.length_encode]

/-- The width the shortest form gives an argument that does not fit the initial byte. -/
def headWidth (argument : Nat) : Nat :=
  if argument ≤ 0xff then 1 else if argument ≤ 0xffff then 2
  else if argument ≤ 0xffffffff then 4 else 8

theorem head_eq (kind : Major) (argument : Nat) :
    head kind argument = if argument < 24 then [initialByte kind argument]
      else wideHead kind (headWidth argument) argument := by
  unfold head headWidth wideHead additionalOf
  split_ifs <;> first | rfl | omega

theorem head_ne_nil (kind : Major) (argument : Nat) : head kind argument ≠ [] := by
  rw [head_eq, wideHead]
  split_ifs <;> simp

theorem head_length_le (kind : Major) (argument : Nat) : (head kind argument).length ≤ 9 := by
  rw [head_eq]
  split_ifs
  · simp
  · rw [length_wideHead, headWidth]
    split_ifs <;> omega

/-! ## Reading back -/

theorem argumentWidth_additionalOf {width : Nat} (h : width = 1 ∨ width = 2 ∨ width = 4 ∨ width = 8) :
    argumentWidth (additionalOf width) = width ∧ 24 ≤ additionalOf width ∧
      additionalOf width < 28 := by
  rcases h with rfl | rfl | rfl | rfl <;> decide

theorem additionalOf_argumentWidth {additional : Nat} (hlow : 24 ≤ additional)
    (hhigh : additional < 28) : additionalOf (argumentWidth additional) = additional ∧
      (argumentWidth additional = 1 ∨ argumentWidth additional = 2 ∨
        argumentWidth additional = 4 ∨ argumentWidth additional = 8) := by
  interval_cases additional <;> decide

theorem headWidth_cases (argument : Nat) : headWidth argument = 1 ∨ headWidth argument = 2 ∨
    headWidth argument = 4 ∨ headWidth argument = 8 := by
  unfold headWidth
  split_ifs <;> simp

theorem lt_pow_headWidth {argument : Nat} (h : argument < 2 ^ 64) :
    argument < 256 ^ headWidth argument := by
  unfold headWidth
  split_ifs <;> omega

/-- The shortest form is the form whose width its argument needs. -/
theorem headWidth_eq_iff {width argument : Nat}
    (hwidth : width = 1 ∨ width = 2 ∨ width = 4 ∨ width = 8) (hlt : argument < 256 ^ width)
    (h24 : 24 ≤ argument) : headWidth argument = width ↔ shortestArgument width ≤ argument := by
  unfold headWidth shortestArgument
  rcases hwidth with rfl | rfl | rfl | rfl <;> split_ifs <;> omega

/-- A shortest head standing at an offset is read back, whether or not the reader insists on the
    shortest form. -/
theorem headAt_of_at (shortest : Bool) {input : Bytes} {offset : Nat} {kind : Major}
    {argument : Nat} (hlt : argument < 2 ^ 64) (hat : Span.At input offset (head kind argument)) :
    headAt shortest input offset
      = .ok ⟨kind, argument, offset + (head kind argument).length⟩ := by
  rw [head_eq] at hat ⊢
  unfold headAt
  split_ifs at hat ⊢ with h24
  · rw [Span.at_cons] at hat
    have hmod : (kind.toByte.toNat * 32 + argument) % 32 = argument := by omega
    simp only [hat.1, toNat_initialByte kind (show argument < 32 by omega), hmod,
      ofInitial_initialByte kind (show argument < 32 by omega)]
    rw [if_neg (by omega), if_pos h24]
    rfl
  · have hwidth := headWidth_cases argument
    obtain ⟨hback, hlow, hhigh⟩ := argumentWidth_additionalOf hwidth
    have hshort := (headWidth_eq_iff hwidth (lt_pow_headWidth hlt) (by omega)).1 rfl
    have hend := hat.end_le (by simp [wideHead])
    rw [length_wideHead] at hend ⊢
    rw [wideHead, Span.at_cons] at hat
    have hslice := hat.2.slice_eq
    rw [BigEndian.length_encode] at hslice
    have hmod : (kind.toByte.toNat * 32 + additionalOf (headWidth argument)) % 32
        = additionalOf (headWidth argument) := by omega
    simp only [hat.1, toNat_initialByte kind (show additionalOf (headWidth argument) < 32 by omega),
      hmod, ofInitial_initialByte kind (show additionalOf (headWidth argument) < 32 by omega), hback,
      hslice, BigEndian.decode_encode (lt_pow_headWidth hlt)]
    rw [if_neg (by omega), if_neg (by omega), if_neg (by omega), if_neg (by omega)]
    congr 2
    omega

/-- **Reading a head in its shortest form inverts writing it.** -/
theorem headAt_eq_ok_iff {input : Bytes} {offset : Nat} {kind : Major} {argument next : Nat} :
    headAt true input offset = .ok ⟨kind, argument, next⟩ ↔
      argument < 2 ^ 64 ∧ Span.At input offset (head kind argument) ∧
        next = offset + (head kind argument).length := by
  constructor
  · intro h
    unfold headAt at h
    rcases hinit : input[offset]? with _ | initial
    · rw [hinit] at h
      exact absurd h (by simp)
    · rw [hinit] at h
      have hrange : offset < input.length := (List.getElem?_eq_some_iff.1 hinit).1
      simp only at h
      split_ifs at h with h28 h24 hwide hshort
      · obtain ⟨rfl, rfl, rfl⟩ := Head.mk.inj (Except.ok.inj h)
        rw [head_eq, if_pos h24, Span.at_cons, initialByte_ofInitial]
        exact ⟨by omega, ⟨hinit, Span.at_nil _ _⟩, rfl⟩
      · obtain ⟨rfl, rfl, rfl⟩ := Head.mk.inj (Except.ok.inj h)
        obtain ⟨hback, hwidth⟩ :=
          additionalOf_argumentWidth (not_lt.1 h24) (not_le.1 h28)
        generalize argumentWidth (initial.toNat % 32) = width at *
        have hlen : (Span.slice input (offset + 1) (offset + 1 + width)).length = width := by
          rw [Span.length_slice (by omega)]
          omega
        have hlt := BigEndian.decode_lt (Span.slice input (offset + 1) (offset + 1 + width))
        have hcode := BigEndian.encode_decode (Span.slice input (offset + 1) (offset + 1 + width))
        rw [hlen] at hlt hcode
        have hge : shortestArgument width
            ≤ BigEndian.decode (Span.slice input (offset + 1) (offset + 1 + width)) := by
          simpa using hshort
        have h24' : 24 ≤ shortestArgument width := by
          rcases hwidth with rfl | rfl | rfl | rfl <;> decide
        have hfit := (headWidth_eq_iff hwidth hlt (by omega)).2 hge
        rw [head_eq, if_neg (by omega), hfit, wideHead, Span.at_cons, hback,
          initialByte_ofInitial, hcode, List.length_cons, hlen]
        refine ⟨?_, ⟨hinit, Span.at_slice _ _ _⟩, by omega⟩
        rcases hwidth with rfl | rfl | rfl | rfl <;> omega
  · rintro ⟨hlt, hat, rfl⟩
    exact headAt_of_at true hlt hat

theorem readHead_eq_ok_iff {input : Bytes} {offset : Nat} {h : Head} :
    readHead input offset = .ok h ↔ headAt true input offset = .ok h := by
  unfold readHead
  cases headAt true input offset with
  | error fault => simp [Except.mapError]
  | ok value => simp [Except.mapError]

end Cxxlens.ProtocolV2.Cbor
