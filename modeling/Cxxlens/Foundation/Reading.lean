import Cxxlens.Foundation.Fallible
import Cxxlens.Foundation.Framing

set_option autoImplicit false

/-! # Reading programs

A decoder that only ever asks for an exact number of bytes is a program in that one operation. What
the bytes come from is a matter of how the program is run: over a text in memory (`run`), or over
anything else that answers requests. `Accepts` characterises a program by its spellings, the texts
that stand for each value; spellings compose as programs do. -/

/-- A program that takes exact numbers of bytes off something. A request can fail, or find too few
    bytes (`none`). -/
inductive Reading (ε α : Type) where
  | done (value : α)
  | failed (error : ε)
  | exact (count : Nat) (next : Except ε (Option (List UInt8)) → Reading ε α)

namespace Reading

variable {ε α β : Type}

/-- One program behind another. -/
def bind : Reading ε α → (α → Reading ε β) → Reading ε β
  | done value, rest => rest value
  | failed error, _ => failed error
  | exact count next, rest => exact count fun answer => (next answer).bind rest

instance : Monad (Reading ε) where
  pure := done
  bind := bind

/-- The program with `error` for every error of its own. -/
def orError (error : ε) : Reading ε α → Reading ε α
  | done value => done value
  | failed _ => failed error
  | exact count next => exact count fun answer => (next answer).orError error

/-- What a computation returns, without reading. -/
def lift : Except ε α → Reading ε α
  | .ok value => done value
  | .error error => failed error

/-- `program`, a number of times. -/
def times (program : Reading ε α) : Nat → Reading ε (List α)
  | 0 => done []
  | count + 1 => do
    let value ← program
    let values ← program.times count
    done (value :: values)

/-- `program`, a number of times, each value put into what is there by `insert`. -/
def gather (program : Reading ε α) (insert : β → α → Except ε β) : Nat → β → Reading ε β
  | 0, state => done state
  | count + 1, state => do
    let value ← program
    let next ← lift (insert state value)
    program.gather insert count next

/-! ## Texts -/

/-- The program over a text: what it returns, and what it leaves of the text. -/
def run : Reading ε α → List UInt8 → Except ε (α × List UInt8)
  | done value, text => .ok (value, text)
  | failed error, _ => .error error
  | exact count next, text =>
    if count ≤ text.length then (next (.ok (some (text.take count)))).run (text.drop count)
    else (next (.ok none)).run text

@[simp] theorem run_done (value : α) (text : List UInt8) :
    (done value : Reading ε α).run text = .ok (value, text) := rfl

@[simp] theorem run_pure (value : α) (text : List UInt8) :
    (pure value : Reading ε α).run text = .ok (value, text) := rfl

@[simp] theorem run_failed (error : ε) (text : List UInt8) :
    (failed error : Reading ε α).run text = .error error := rfl

@[simp] theorem run_bind (program : Reading ε α) (rest : α → Reading ε β) (text : List UInt8) :
    (program >>= rest).run text =
      program.run text >>= fun read => (rest read.1).run read.2 := by
  show (program.bind rest).run text = _
  induction program generalizing text with
  | done value => rfl
  | failed error => rfl
  | exact count next ih =>
      simp only [Reading.bind, run]
      by_cases hcount : count ≤ text.length
      · rw [if_pos hcount, if_pos hcount, ih]
      · rw [if_neg hcount, if_neg hcount, ih]

theorem run_bind_eq_ok_iff {program : Reading ε α} {rest : α → Reading ε β}
    {text after : List UInt8} {value : β} :
    (program >>= rest).run text = .ok (value, after) ↔
      ∃ first between, program.run text = .ok (first, between) ∧
        (rest first).run between = .ok (value, after) := by
  rw [run_bind, Fallible.bind_eq_ok_iff]
  constructor
  · rintro ⟨⟨first, between⟩, hfirst, hrest⟩
    exact ⟨first, between, hfirst, hrest⟩
  · rintro ⟨first, between, hfirst, hrest⟩
    exact ⟨(first, between), hfirst, hrest⟩

@[simp] theorem run_orError_eq_ok_iff {program : Reading ε α} {error : ε} {text : List UInt8}
    {read : α × List UInt8} :
    (program.orError error).run text = .ok read ↔ program.run text = .ok read := by
  induction program generalizing text with
  | done value => rfl
  | failed _ => simp [orError]
  | exact count next ih =>
      simp only [orError, run]
      by_cases hcount : count ≤ text.length
      · rw [if_pos hcount, if_pos hcount, ih]
      · rw [if_neg hcount, if_neg hcount, ih]

@[simp] theorem run_lift_eq_ok_iff {computation : Except ε α} {text after : List UInt8}
    {value : α} :
    (lift computation).run text = .ok (value, after) ↔ computation = .ok value ∧ text = after := by
  cases computation with
  | error error => simp [lift]
  | ok found => simp [lift]

/-! ## Spellings

A program accepts spellings up to a limit when it takes exactly the spellings of a value off the
front of every text below the limit. -/

section Spellings

variable {limit : Nat} {program : Reading ε α} {spells spells' : α → List UInt8 → Prop}

/-- The program takes exactly the spellings of a value off the front of a text. -/
def Accepts (limit : Nat) (program : Reading ε α) (spells : α → List UInt8 → Prop) : Prop :=
  ∀ text value rest, text.length < limit →
    (program.run text = .ok (value, rest) ↔ ∃ front, spells value front ∧ text = front ++ rest)

theorem Accepts.congr (h : program.Accepts limit spells)
    (hspells : ∀ value front, spells value front ↔ spells' value front) :
    program.Accepts limit spells' := by
  intro text value rest hlimit
  rw [h text value rest hlimit]
  simp only [hspells]

theorem Accepts.done (value : α) :
    (done value : Reading ε α).Accepts limit fun found front => found = value ∧ front = [] := by
  intro text found rest _
  simp only [run_done, Except.ok.injEq, Prod.mk.injEq]
  constructor
  · rintro ⟨rfl, rfl⟩
    exact ⟨[], ⟨rfl, rfl⟩, rfl⟩
  · rintro ⟨front, ⟨rfl, rfl⟩, rfl⟩
    exact ⟨rfl, rfl⟩

theorem Accepts.failed (error : ε) :
    (failed error : Reading ε α).Accepts limit fun _ _ => False := by
  intro text value rest _
  simp

theorem Accepts.lift (computation : Except ε α) :
    (lift computation).Accepts limit fun value front =>
      computation = .ok value ∧ front = [] := by
  intro text value rest _
  rw [run_lift_eq_ok_iff]
  constructor
  · rintro ⟨hvalue, rfl⟩
    exact ⟨[], ⟨hvalue, rfl⟩, rfl⟩
  · rintro ⟨front, ⟨hvalue, rfl⟩, rfl⟩
    exact ⟨hvalue, rfl⟩

theorem Accepts.orError (h : program.Accepts limit spells) (error : ε) :
    (program.orError error).Accepts limit spells := by
  intro text value rest hlimit
  rw [run_orError_eq_ok_iff, h text value rest hlimit]

/-- A request that does not go on without its bytes. -/
theorem Accepts.exact {count : Nat} {next : Except ε (Option (List UInt8)) → Reading ε α}
    {behind : List UInt8 → α → List UInt8 → Prop}
    (hnext : ∀ bytes, (next (.ok (some bytes))).Accepts limit (behind bytes))
    (hnone : (next (.ok none)).Accepts limit fun _ _ => False) :
    (exact count next).Accepts limit fun value text =>
      ∃ bytes back, bytes.length = count ∧ behind bytes value back ∧ text = bytes ++ back := by
  intro text value rest hlimit
  rw [run]
  by_cases hcount : count ≤ text.length
  · have hdrop : (text.drop count).length < limit := by
      rw [List.length_drop]
      omega
    rw [if_pos hcount, hnext _ _ _ _ hdrop]
    constructor
    · rintro ⟨back, hback, heq⟩
      refine ⟨text.take count ++ back, ⟨_, back, List.length_take_of_le hcount, hback, rfl⟩, ?_⟩
      rw [List.append_assoc, ← heq, List.take_append_drop]
    · rintro ⟨_, ⟨bytes, back, rfl, hback, rfl⟩, rfl⟩
      rw [List.append_assoc, List.take_left, List.drop_left]
      exact ⟨back, hback, rfl⟩
  · rw [if_neg hcount, hnone _ _ _ hlimit]
    constructor
    · rintro ⟨_, hfalse, _⟩
      exact hfalse.elim
    · rintro ⟨_, ⟨bytes, back, rfl, _, rfl⟩, rfl⟩
      simp only [List.length_append] at hcount
      omega

/-- One program behind another spells the texts of the one behind those of the other. -/
theorem Accepts.bind {rest : α → Reading ε β} {behind : α → β → List UInt8 → Prop}
    (h : program.Accepts limit spells)
    (hrest : ∀ value, (rest value).Accepts limit (behind value)) :
    (program >>= rest).Accepts limit fun value text =>
      ∃ first front back, spells first front ∧ behind first value back ∧ text = front ++ back := by
  intro text value after hlimit
  rw [run_bind_eq_ok_iff]
  constructor
  · rintro ⟨first, between, hfirst, hvalue⟩
    obtain ⟨front, hfront, rfl⟩ := (h _ _ _ hlimit).1 hfirst
    rw [List.length_append] at hlimit
    obtain ⟨back, hback, rfl⟩ := (hrest _ _ _ _ (by omega)).1 hvalue
    exact ⟨front ++ back, ⟨first, front, back, hfront, hback, rfl⟩,
      (List.append_assoc _ _ _).symm⟩
  · rintro ⟨_, ⟨first, front, back, hfront, hback, rfl⟩, rfl⟩
    have hbetween : (back ++ after).length < limit := by
      simp only [List.length_append] at hlimit ⊢
      omega
    exact ⟨first, back ++ after,
      (h _ _ _ hlimit).2 ⟨front, hfront, List.append_assoc _ _ _⟩,
      (hrest _ _ _ _ hbetween).2 ⟨back, hback, rfl⟩⟩

/-- `Accepts.bind` with the texts behind the first value written down. -/
theorem Accepts.bind_as {rest : α → Reading ε β} (h : program.Accepts limit spells)
    (behind : α → β → List UInt8 → Prop)
    (hrest : ∀ value, (rest value).Accepts limit (behind value)) :
    (program >>= rest).Accepts limit fun value text =>
      ∃ first front back, spells first front ∧ behind first value back ∧ text = front ++ back :=
  h.bind hrest

/-- A number of values, each in one of its spellings. -/
theorem Accepts.times (h : program.Accepts limit spells) (count : Nat) :
    (program.times count).Accepts limit fun values text =>
      values.length = count ∧ ∃ fronts, List.Forall₂ spells values fronts ∧
        text = fronts.flatten := by
  induction count with
  | zero =>
      refine (Accepts.done []).congr fun values text => ?_
      rw [List.length_eq_zero_iff]
      constructor
      · rintro ⟨rfl, rfl⟩
        exact ⟨rfl, [], .nil, rfl⟩
      · rintro ⟨rfl, fronts, hfronts, rfl⟩
        rw [List.forall₂_nil_left_iff] at hfronts
        exact ⟨rfl, by rw [hfronts, List.flatten_nil]⟩
  | succ count ih =>
      refine (h.bind fun value => ih.bind fun values => Accepts.done (value :: values)).congr
        fun values text => ?_
      constructor
      · rintro ⟨value, front, _, hvalue, ⟨rest, _, _, ⟨hcount, fronts, hfronts, rfl⟩,
          ⟨rfl, rfl⟩, rfl⟩, rfl⟩
        exact ⟨by rw [List.length_cons, hcount], front :: fronts, .cons hvalue hfronts,
          by rw [List.flatten_cons, List.append_nil]⟩
      · rintro ⟨hcount, fronts, hfronts, rfl⟩
        obtain ⟨value, rest, rfl⟩ := List.exists_cons_of_length_eq_add_one hcount
        rw [List.forall₂_cons_left_iff] at hfronts
        obtain ⟨front, fronts, hvalue, hrest, rfl⟩ := hfronts
        exact ⟨value, front, _, hvalue, ⟨rest, _, [], ⟨Nat.succ.inj hcount, fronts, hrest, rfl⟩,
          ⟨rfl, rfl⟩, (List.append_nil _).symm⟩, List.flatten_cons⟩

/-- What is gathered is folded together from a number of values, each in one of its spellings. -/
theorem Accepts.gather (h : program.Accepts limit spells) (insert : β → α → Except ε β)
    (count : Nat) (state : β) :
    (program.gather insert count state).Accepts limit fun final text =>
      ∃ values fronts, values.length = count ∧ List.Forall₂ spells values fronts ∧
        text = fronts.flatten ∧ values.foldlM insert state = .ok final := by
  induction count generalizing state with
  | zero =>
      refine (Accepts.done state).congr fun final text => ?_
      constructor
      · rintro ⟨rfl, rfl⟩
        exact ⟨[], [], rfl, .nil, rfl, rfl⟩
      · rintro ⟨values, fronts, hcount, hfronts, rfl, hfinal⟩
        obtain rfl := List.length_eq_zero_iff.1 hcount
        rw [List.forall₂_nil_left_iff] at hfronts
        exact ⟨(Except.ok.inj hfinal).symm, by rw [hfronts, List.flatten_nil]⟩
  | succ count ih =>
      refine (h.bind fun value => (Accepts.lift (insert state value)).bind fun next =>
        ih next).congr fun final text => ?_
      constructor
      · rintro ⟨value, front, _, hvalue, ⟨next, _, _, ⟨hinsert, rfl⟩,
          ⟨values, fronts, hcount, hfronts, rfl, hfinal⟩, rfl⟩, rfl⟩
        refine ⟨value :: values, front :: fronts, by rw [List.length_cons, hcount],
          .cons hvalue hfronts, by rw [List.flatten_cons, List.nil_append], ?_⟩
        rw [List.foldlM_cons, hinsert]
        exact hfinal
      · rintro ⟨values, fronts, hcount, hfronts, rfl, hfinal⟩
        obtain ⟨value, rest, rfl⟩ := List.exists_cons_of_length_eq_add_one hcount
        rw [List.forall₂_cons_left_iff] at hfronts
        obtain ⟨front, fronts, hvalue, hrest, rfl⟩ := hfronts
        rw [List.foldlM_cons, Fallible.bind_eq_ok_iff] at hfinal
        obtain ⟨next, hinsert, hfinal⟩ := hfinal
        exact ⟨value, front, _, hvalue, ⟨next, [], _, ⟨hinsert, rfl⟩,
          ⟨rest, fronts, Nat.succ.inj hcount, hrest, rfl, hfinal⟩, rfl⟩, List.flatten_cons⟩

/-- No text starts with spellings of two values. -/
theorem Accepts.unique (h : program.Accepts limit spells) {left right : α}
    {front front' rest rest' : List UInt8} (hleft : spells left front)
    (hright : spells right front') (heq : front ++ rest = front' ++ rest') (hlimit : (front ++ rest).length < limit) :
    left = right ∧ rest = rest' := by
  have hrun := (h _ left rest hlimit).2 ⟨front, hleft, rfl⟩
  have hrun' := (h _ right rest' hlimit).2 ⟨front', hright, heq⟩
  rwa [hrun, Except.ok.injEq, Prod.mk.injEq] at hrun'

/-- A text spells values one after another. -/
def Spelled (spells : α → List UInt8 → Prop) (values : List α) (text : List UInt8) : Prop :=
  ∃ fronts, List.Forall₂ spells values fronts ∧ text = fronts.flatten

/-- Each value is spelled by what is written of it. -/
theorem spelled_flatMap {write : α → List UInt8} {values : List α}
    (h : ∀ value ∈ values, spells value (write value)) :
    Spelled spells values (values.flatMap write) := by
  refine ⟨values.map write, ?_, rfl⟩
  induction values with
  | nil => exact .nil
  | cons value rest ih =>
      rw [List.forall_mem_cons] at h
      exact .cons h.1 (ih h.2)

theorem spelled_and_iff {valid : α → Prop} {values : List α} {text : List UInt8} :
    Spelled (fun value front => valid value ∧ spells value front) values text ↔
      (∀ value ∈ values, valid value) ∧ Spelled spells values text := by
  constructor
  · rintro ⟨fronts, hfronts, rfl⟩
    induction hfronts with
    | nil => exact ⟨by simp, [], .nil, rfl⟩
    | cons hfirst _ ih =>
        obtain ⟨hvalid, fronts, hfronts, heq⟩ := ih
        refine ⟨List.forall_mem_cons.2 ⟨hfirst.1, hvalid⟩, _, .cons hfirst.2 hfronts, ?_⟩
        rw [List.flatten_cons, List.flatten_cons, heq]
  · rintro ⟨hvalid, fronts, hfronts, rfl⟩
    refine ⟨fronts, ?_, rfl⟩
    induction hfronts with
    | nil => exact .nil
    | cons hfirst _ ih =>
        rw [List.forall_mem_cons] at hvalid
        exact .cons ⟨hvalid.1, hfirst⟩ (ih hvalid.2)

theorem Accepts.times_spelled {valid : α → Prop}
    (h : program.Accepts limit fun value front => valid value ∧ spells value front) (count : Nat) :
    (program.times count).Accepts limit fun values text =>
      values.length = count ∧ (∀ value ∈ values, valid value) ∧ Spelled spells values text := by
  refine (h.times count).congr fun values text => and_congr_right fun _ => ?_
  rw [← spelled_and_iff]
  rfl

theorem Accepts.gather_spelled {valid : α → Prop}
    (h : program.Accepts limit fun value front => valid value ∧ spells value front)
    (insert : β → α → Except ε β) (count : Nat) (state : β) :
    (program.gather insert count state).Accepts limit fun final text =>
      ∃ values : List α, values.length = count ∧ (∀ value ∈ values, valid value) ∧
        Spelled spells values text ∧ values.foldlM insert state = .ok final := by
  refine (h.gather insert count state).congr fun final text => exists_congr fun values => ?_
  constructor
  · rintro ⟨fronts, hcount, hfronts, rfl, hfinal⟩
    obtain ⟨hvalid, hspelled⟩ := spelled_and_iff.1 ⟨fronts, hfronts, rfl⟩
    exact ⟨hcount, hvalid, hspelled, hfinal⟩
  · rintro ⟨hcount, hvalid, hspelled, hfinal⟩
    obtain ⟨fronts, hfronts, rfl⟩ := spelled_and_iff.2 ⟨hvalid, hspelled⟩
    exact ⟨fronts, hcount, hfronts, rfl, hfinal⟩

/-- Values that are each spelled in one way. -/
theorem forall₂_spelling_iff {valid : α → Prop} {write : α → List UInt8} {values : List α}
    {fronts : List (List UInt8)} :
    List.Forall₂ (fun value front => valid value ∧ front = write value) values fronts ↔
      (∀ value ∈ values, valid value) ∧ fronts = values.map write := by
  induction values generalizing fronts with
  | nil => simp
  | cons value values ih =>
      rw [List.forall₂_cons_left_iff, List.forall_mem_cons, List.map_cons]
      constructor
      · rintro ⟨_, fronts, ⟨hvalue, rfl⟩, hrest, rfl⟩
        obtain ⟨hvalues, rfl⟩ := ih.1 hrest
        exact ⟨⟨hvalue, hvalues⟩, rfl⟩
      · rintro ⟨⟨hvalue, hvalues⟩, rfl⟩
        exact ⟨_, _, ⟨hvalue, rfl⟩, ih.2 ⟨hvalues, rfl⟩, rfl⟩

variable {valid : α → Prop} {write : α → List UInt8}

theorem Accepts.times_written
    (h : program.Accepts limit fun value front => valid value ∧ front = write value)
    (count : Nat) :
    (program.times count).Accepts limit fun values text =>
      values.length = count ∧ (∀ value ∈ values, valid value) ∧ text = values.flatMap write := by
  refine (h.times count).congr fun values text => and_congr_right fun _ => ?_
  simp only [forall₂_spelling_iff, and_assoc, exists_and_left, exists_eq_left, List.flatMap]

theorem Accepts.gather_written
    (h : program.Accepts limit fun value front => valid value ∧ front = write value)
    (insert : β → α → Except ε β) (count : Nat) (state : β) :
    (program.gather insert count state).Accepts limit fun final text =>
      ∃ values : List α, values.length = count ∧ (∀ value ∈ values, valid value) ∧
        values.foldlM insert state = .ok final ∧ text = values.flatMap write := by
  refine (h.gather insert count state).congr fun final text => exists_congr fun values => ?_
  simp only [forall₂_spelling_iff, and_assoc, exists_and_left, exists_eq_left, List.flatMap]
  tauto

end Spellings

end Reading
