import Cxxlens.ProtocolV2.Guards

set_option autoImplicit false

/-! # What the guards have admitted

The sequence numbers and the credit of a stream as a ledger of the calls that succeeded. The source
calls `grant` and `consume` on windows and `accept` on transcript guards, whose window it shows to
nobody; here the window of a guard takes all three, so that a run of either kind is a run here. -/

namespace Cxxlens.ProtocolV2

open Sdk (Error Result)

/-! ## Calls -/

/-- A call on the guards of a stream. -/
inductive GuardCall where
  | accept (value : Frame) (consumeCredit : Bool)
  | grant (increment : Credit)
  | consume (value : Frame)

/-- A window with its answer to a call that changed it, or that did not. -/
def TranscriptGuard.keep (guard : TranscriptGuard) : Result CreditWindow → Result Unit × TranscriptGuard
  | .ok window => (.ok (), { guard with credit := window })
  | .error e => (.error e, guard)

def TranscriptGuard.call (guard : TranscriptGuard) : GuardCall → Result Unit × TranscriptGuard
  | .accept value consumeCredit => guard.accept value consumeCredit
  | .grant increment => guard.keep (guard.credit.grant increment)
  | .consume value => guard.keep (guard.credit.consume value)

/-- The guard behind a run of calls, and the calls that succeeded. -/
def TranscriptGuard.run : TranscriptGuard → List GuardCall → TranscriptGuard × List GuardCall
  | guard, [] => (guard, [])
  | guard, call :: rest =>
    match guard.call call with
    | (.ok (), next) => let (final, done) := next.run rest; (final, call :: done)
    | (.error _, next) => next.run rest

/-- The frame of a call that a transcript guard accepts. -/
def GuardCall.acceptedFrame? : GuardCall → Option Frame
  | .accept value _ => some value
  | _ => none

/-- The frame of a call that is charged. -/
def GuardCall.chargedFrame? : GuardCall → Option Frame
  | .accept value true => some value
  | .consume value => some value
  | _ => none

def GuardCall.increment? : GuardCall → Option Credit
  | .grant increment => some increment
  | _ => none

def acceptedFrames (done : List GuardCall) : List Frame :=
  done.filterMap GuardCall.acceptedFrame?

def chargedFrames (done : List GuardCall) : List Frame :=
  done.filterMap GuardCall.chargedFrame?

def increments (done : List GuardCall) : List Credit :=
  done.filterMap GuardCall.increment?

/-- The bytes a frame is charged with: the fixed header, its control and its payload. -/
def chargedBytes (value : Frame) : Nat :=
  104 + value.control.length + value.payload.length

theorem acceptedFrames_concat (done : List GuardCall) (call : GuardCall) :
    acceptedFrames (done ++ [call]) = acceptedFrames done ++ call.acceptedFrame?.toList := by
  cases hcall : call.acceptedFrame? <;> simp [acceptedFrames, hcall]

theorem chargedFrames_concat (done : List GuardCall) (call : GuardCall) :
    chargedFrames (done ++ [call]) = chargedFrames done ++ call.chargedFrame?.toList := by
  cases hcall : call.chargedFrame? <;> simp [chargedFrames, hcall]

theorem increments_concat (done : List GuardCall) (call : GuardCall) :
    increments (done ++ [call]) = increments done ++ call.increment?.toList := by
  cases hcall : call.increment? <;> simp [increments, hcall]

/-! ## One call -/

section Calls

variable {guard next : TranscriptGuard} {value : Frame}

/-- What the sequence guard is behind a frame that it accepts. -/
theorem SequenceGuard.accept_eq_ok {sequence next : SequenceGuard}
    (h : sequence.accept value = .ok next) :
    value.streamId = sequence.streamId ∧ sequence.exhausted = false ∧
      value.sequence = sequence.nextSequence ∧ next.streamId = sequence.streamId ∧
      (next.exhausted = false → next.nextSequence.toNat = sequence.nextSequence.toNat + 1) ∧
      (next.exhausted = true → sequence.nextSequence.toNat + 1 = 2 ^ 64) := by
  unfold SequenceGuard.accept at h
  split_ifs at h with hstream hreplay hgap hlast
  · obtain rfl := Except.ok.inj h
    have hexhausted : sequence.exhausted = false := by simpa using fun hx => hreplay (Or.inl hx)
    exact ⟨not_not.1 hstream, hexhausted, not_not.1 hgap, rfl, nofun, fun _ => by omega⟩
  · obtain rfl := Except.ok.inj h
    have hexhausted : sequence.exhausted = false := by simpa using fun hx => hreplay (Or.inl hx)
    refine ⟨not_not.1 hstream, hexhausted, not_not.1 hgap, rfl, fun _ => ?_, fun hx => ?_⟩
    · have hbound := sequence.nextSequence.toNat_lt
      rw [UInt64.toNat_add]
      exact Nat.mod_eq_of_lt (show _ + 1 < _ by omega)
    · rw [hexhausted] at hx
      cases hx

/-- What a window is behind a frame that it is charged with. -/
theorem CreditWindow.consume_eq_ok {window next : CreditWindow}
    (h : window.consume value = .ok next) :
    next.available.frames.toNat + 1 = window.available.frames.toNat ∧
      next.available.bytes.toNat + chargedBytes value = window.available.bytes.toNat := by
  unfold CreditWindow.consume CreditWindow.consumeEncoded at h
  dsimp only at h
  split_ifs at h with hframes hoverflow hbytes
  obtain rfl := Except.ok.inj h
  have hbound := window.available.bytes.toNat_lt
  have hused : (UInt64.ofNat (fixedHeaderBytes + value.control.length + value.payload.length)).toNat =
      fixedHeaderBytes + value.control.length + value.payload.length :=
    UInt64.toNat_ofNat_of_lt' (show _ < 2 ^ 64 by omega)
  have hpositive : 0 < window.available.frames.toNat :=
    Nat.pos_of_ne_zero fun hzero => hframes (UInt64.toNat_inj.1 hzero)
  constructor
  · dsimp only
    have hone : (1 : UInt64) ≤ window.available.frames := UInt64.le_iff_toNat_le.2 hpositive
    rw [UInt64.toNat_sub_of_le _ _ hone]
    exact Nat.sub_add_cancel hpositive
  · dsimp only
    rw [UInt64.toNat_sub_of_le _ _ (UInt64.le_iff_toNat_le.2 (by omega)), hused]
    unfold chargedBytes fixedHeaderBytes at *
    omega

/-- What a window is behind a grant. -/
theorem CreditWindow.grant_eq_ok {window next : CreditWindow} {increment : Credit}
    (h : window.grant increment = .ok next) :
    next.available.frames.toNat = window.available.frames.toNat + increment.frames.toNat ∧
      next.available.bytes.toNat = window.available.bytes.toNat + increment.bytes.toNat := by
  unfold CreditWindow.grant sizeMax at h
  split_ifs at h with hzero hoverflow
  obtain rfl := Except.ok.inj h
  have hframes := window.available.frames.toNat_lt
  have hbytes := window.available.bytes.toNat_lt
  dsimp only
  rw [UInt64.toNat_add, UInt64.toNat_add]
  exact ⟨Nat.mod_eq_of_lt (by omega), Nat.mod_eq_of_lt (by omega)⟩

/-- A call that is rejected changes nothing. -/
theorem TranscriptGuard.call_of_error {call : GuardCall} {e : Error}
    (h : (guard.call call).1 = .error e) : (guard.call call).2 = guard := by
  rcases call with ⟨value, consumeCredit⟩ | increment | value
  · simp only [TranscriptGuard.call, TranscriptGuard.accept] at h ⊢
    rcases hsequence : guard.sequence.accept value with e | sequenceCopy
    · rfl
    · simp only [hsequence] at h ⊢
      cases consumeCredit
      · cases h
      · rcases hcredit : guard.credit.consume value with e | creditCopy
        · rfl
        · simp only [hcredit, if_true] at h
          cases h
  · simp only [TranscriptGuard.call] at h ⊢
    rcases hcredit : guard.credit.grant increment with e | window
    · rfl
    · rw [hcredit] at h
      cases h
  · simp only [TranscriptGuard.call] at h ⊢
    rcases hcredit : guard.credit.consume value with e | window
    · rfl
    · rw [hcredit] at h
      cases h

end Calls

/-! ## The ledger -/

/-- What the calls that succeeded say of the guard they have led to. -/
structure Ledger (streamId firstSequence : UInt64) (available : Credit) (guard : TranscriptGuard)
    (done : List GuardCall) : Prop where
  stream : guard.sequence.streamId = streamId
  streams : ∀ value ∈ acceptedFrames done, value.streamId = streamId
  sequences : (acceptedFrames done).map (·.sequence.toNat) =
    List.range' firstSequence.toNat (acceptedFrames done).length
  next : guard.sequence.exhausted = false →
    guard.sequence.nextSequence.toNat = firstSequence.toNat + (acceptedFrames done).length
  last : guard.sequence.exhausted = true →
    firstSequence.toNat + (acceptedFrames done).length = 2 ^ 64
  frames : guard.credit.available.frames.toNat + (chargedFrames done).length =
    available.frames.toNat + ((increments done).map (·.frames.toNat)).sum
  bytes : guard.credit.available.bytes.toNat + ((chargedFrames done).map chargedBytes).sum =
    available.bytes.toNat + ((increments done).map (·.bytes.toNat)).sum

section Ledgers

variable {streamId firstSequence : UInt64} {available : Credit} {guard next : TranscriptGuard}
  {done : List GuardCall} {call : GuardCall}

theorem ledger_start (streamId firstSequence : UInt64) (available : Credit) :
    Ledger streamId firstSequence available
      { sequence := { streamId := streamId, nextSequence := firstSequence }
        credit := ⟨available⟩ } [] where
  stream := rfl
  streams _ hvalue := nomatch hvalue
  sequences := rfl
  next _ := rfl
  last h := nomatch h
  frames := rfl
  bytes := rfl

/-- What a call does to the window is its entry in the ledger. -/
structure Entered (before behind : CreditWindow) (call : GuardCall) : Prop where
  frames : behind.available.frames.toNat + call.chargedFrame?.toList.length =
    before.available.frames.toNat + (call.increment?.toList.map (·.frames.toNat)).sum
  bytes : behind.available.bytes.toNat + (call.chargedFrame?.toList.map chargedBytes).sum =
    before.available.bytes.toNat + (call.increment?.toList.map (·.bytes.toNat)).sum

theorem Entered.refl {call : GuardCall} (window : CreditWindow) (hcharged : call.chargedFrame? = none)
    (hincrement : call.increment? = none) : Entered window window call where
  frames := by rw [hcharged, hincrement]; rfl
  bytes := by rw [hcharged, hincrement]; rfl

theorem entered_of_consume {window behind : CreditWindow} {value : Frame}
    (h : window.consume value = .ok behind) (hcharged : call.chargedFrame? = some value)
    (hincrement : call.increment? = none) : Entered window behind call := by
  obtain ⟨hframes, hbytes⟩ := CreditWindow.consume_eq_ok h
  refine ⟨?_, ?_⟩ <;> rw [hcharged, hincrement]
  · simpa using hframes
  · simpa using hbytes

theorem entered_of_grant {window behind : CreditWindow} {increment : Credit}
    (h : window.grant increment = .ok behind) : Entered window behind (.grant increment) := by
  obtain ⟨hframes, hbytes⟩ := CreditWindow.grant_eq_ok h
  exact ⟨by simpa [GuardCall.chargedFrame?, GuardCall.increment?] using hframes,
    by simpa [GuardCall.chargedFrame?, GuardCall.increment?] using hbytes⟩

/-- The totals go on with an entry. -/
theorem Ledger.totals (h : Ledger streamId firstSequence available guard done)
    {window : CreditWindow} (hentered : Entered guard.credit window call) :
    window.available.frames.toNat + (chargedFrames (done ++ [call])).length =
        available.frames.toNat + ((increments (done ++ [call])).map (·.frames.toNat)).sum ∧
      window.available.bytes.toNat + ((chargedFrames (done ++ [call])).map chargedBytes).sum =
        available.bytes.toNat + ((increments (done ++ [call])).map (·.bytes.toNat)).sum := by
  have hframes := h.frames
  have hbytes := h.bytes
  obtain ⟨hframes', hbytes'⟩ := hentered
  rw [chargedFrames_concat, increments_concat]
  simp only [List.length_append, List.map_append, List.sum_append]
  exact ⟨by omega, by omega⟩

/-- A call that accepts no frame leaves the sequence. -/
theorem Ledger.window (h : Ledger streamId firstSequence available guard done)
    (haccepted : call.acceptedFrame? = none) {window : CreditWindow}
    (hentered : Entered guard.credit window call) :
    Ledger streamId firstSequence available { guard with credit := window } (done ++ [call]) := by
  have hframes : acceptedFrames (done ++ [call]) = acceptedFrames done := by
    rw [acceptedFrames_concat, haccepted]
    exact List.append_nil _
  exact ⟨h.stream, hframes ▸ h.streams, hframes ▸ h.sequences, hframes ▸ h.next, hframes ▸ h.last,
    (h.totals hentered).1, (h.totals hentered).2⟩

/-- A frame goes on with the sequence. -/
theorem Ledger.sequence (h : Ledger streamId firstSequence available guard done) {value : Frame}
    (hcall : call.acceptedFrame? = some value) {sequence : SequenceGuard}
    (haccept : guard.sequence.accept value = .ok sequence) {window : CreditWindow}
    (hentered : Entered guard.credit window call) :
    Ledger streamId firstSequence available { sequence := sequence, credit := window }
      (done ++ [call]) := by
  obtain ⟨hstream, hexhausted, hsequence, hkept, hnext, hlast⟩ :=
    SequenceGuard.accept_eq_ok haccept
  have hposition := h.next hexhausted
  have haccepted : acceptedFrames (done ++ [call]) = acceptedFrames done ++ [value] := by
    rw [acceptedFrames_concat, hcall]
    rfl
  refine ⟨hkept.trans h.stream, ?_, ?_, ?_, ?_, (h.totals hentered).1, (h.totals hentered).2⟩
  · rw [haccepted]
    intro other hother
    rcases List.mem_append.1 hother with hother | hother
    · exact h.streams other hother
    · rw [List.mem_singleton.1 hother, hstream, h.stream]
  · rw [haccepted, List.map_append, h.sequences, List.length_append, List.length_singleton,
      List.range'_1_concat, ← hposition, ← hsequence]
    rfl
  · rw [haccepted, List.length_append, List.length_singleton, ← Nat.add_assoc, ← hposition]
    exact hnext
  · rw [haccepted, List.length_append, List.length_singleton, ← Nat.add_assoc, ← hposition]
    exact hlast

/-- A call that succeeds is entered. -/
theorem Ledger.step (h : Ledger streamId firstSequence available guard done)
    (hcall : guard.call call = (.ok (), next)) :
    Ledger streamId firstSequence available next (done ++ [call]) := by
  rcases call with ⟨value, consumeCredit⟩ | increment | value
  · simp only [TranscriptGuard.call, TranscriptGuard.accept] at hcall
    rcases hsequence : guard.sequence.accept value with e | sequenceCopy
    · rw [hsequence] at hcall
      cases hcall
    · simp only [hsequence] at hcall
      cases consumeCredit with
      | false =>
        obtain rfl := (Prod.mk.inj hcall).2
        exact h.sequence rfl hsequence (.refl guard.credit rfl rfl)
      | true =>
        rcases hcredit : guard.credit.consume value with e | creditCopy
        · simp only [hcredit, if_true] at hcall
          cases hcall
        · simp only [hcredit, if_true] at hcall
          obtain rfl := (Prod.mk.inj hcall).2
          exact h.sequence rfl hsequence (entered_of_consume hcredit rfl rfl)
  · simp only [TranscriptGuard.call] at hcall
    rcases hcredit : guard.credit.grant increment with e | window
    · rw [hcredit] at hcall
      cases hcall
    · rw [hcredit] at hcall
      obtain rfl := (Prod.mk.inj hcall).2
      exact h.window rfl (entered_of_grant hcredit)
  · simp only [TranscriptGuard.call] at hcall
    rcases hcredit : guard.credit.consume value with e | window
    · rw [hcredit] at hcall
      cases hcall
    · rw [hcredit] at hcall
      obtain rfl := (Prod.mk.inj hcall).2
      exact h.window rfl (entered_of_consume hcredit rfl rfl)

/-- A run goes on with the ledger. -/
theorem Ledger.run (calls : List GuardCall) : ∀ {guard : TranscriptGuard} {done : List GuardCall},
    Ledger streamId firstSequence available guard done →
      Ledger streamId firstSequence available (guard.run calls).1
        (done ++ (guard.run calls).2) := by
  induction calls with
  | nil =>
    intro guard done h
    simpa [TranscriptGuard.run] using h
  | cons call rest ih =>
    intro guard done h
    rcases hcall : guard.call call with ⟨_ | ⟨⟩, next⟩
    · -- the guard that a rejected call leaves is the one it was made on
      have hnext : next = guard := by
        have hkept := TranscriptGuard.call_of_error (congrArg Prod.fst hcall)
        rw [hcall] at hkept
        exact hkept
      simp only [TranscriptGuard.run, hcall, hnext]
      exact ih h
    · simp only [TranscriptGuard.run, hcall]
      simpa using ih (h.step hcall)

/-- Behind the last number of a stream no frame is accepted. -/
theorem Ledger.refuses (h : Ledger streamId firstSequence available guard done) {last : Frame}
    (hlast : last ∈ acceptedFrames done) (hmax : last.sequence.toNat = 2 ^ 64 - 1) (value : Frame)
    (consumeCredit : Bool) : ∃ e, (guard.accept value consumeCredit).1 = .error e := by
  have hmem : 2 ^ 64 - 1 ∈ (acceptedFrames done).map (·.sequence.toNat) :=
    List.mem_map.2 ⟨last, hlast, hmax⟩
  rw [h.sequences, List.mem_range'_1] at hmem
  rcases haccept : guard.sequence.accept value with e | next
  · exact ⟨e, by rw [TranscriptGuard.accept, haccept]⟩
  · have hposition := h.next (SequenceGuard.accept_eq_ok haccept).2.1
    have hbound := guard.sequence.nextSequence.toNat_lt
    omega

end Ledgers

/-- In every run the accepted frames of the stream are numbered from the first number on, none
    follows the last number there is, the credit left is what was there and was granted less what
    was charged, and a call that is rejected leaves the guards as they are. -/
theorem transcriptGuard_accounts (streamId firstSequence : UInt64) (available : Credit)
    (calls : List GuardCall) :
    let start : TranscriptGuard :=
      { sequence := { streamId := streamId, nextSequence := firstSequence }
        credit := ⟨available⟩ }
    let final := (start.run calls).1
    let done := (start.run calls).2
    (∀ value ∈ acceptedFrames done, value.streamId = streamId) ∧
      (acceptedFrames done).map (·.sequence.toNat) =
        List.range' firstSequence.toNat (acceptedFrames done).length ∧
      firstSequence.toNat + (acceptedFrames done).length ≤ 2 ^ 64 ∧
      (∀ last ∈ acceptedFrames done, last.sequence.toNat = 2 ^ 64 - 1 →
        ∀ value consumeCredit, ∃ e, (final.accept value consumeCredit).1 = .error e) ∧
      final.credit.available.frames.toNat + (chargedFrames done).length =
        available.frames.toNat + ((increments done).map (·.frames.toNat)).sum ∧
      final.credit.available.bytes.toNat + ((chargedFrames done).map chargedBytes).sum =
        available.bytes.toNat + ((increments done).map (·.bytes.toNat)).sum ∧
      ∀ call e, (final.call call).1 = .error e → (final.call call).2 = final := by
  intro start final done
  have hledger : Ledger streamId firstSequence available final done := by
    simpa using (ledger_start streamId firstSequence available).run calls
  refine ⟨hledger.streams, hledger.sequences, ?_, fun last hmem hmax => hledger.refuses hmem hmax,
    hledger.frames, hledger.bytes, fun call e => TranscriptGuard.call_of_error⟩
  by_cases hexhausted : final.sequence.exhausted = true
  · exact le_of_eq (hledger.last hexhausted)
  · have hposition := hledger.next (by simpa using hexhausted)
    have hbound := final.sequence.nextSequence.toNat_lt
    omega

end Cxxlens.ProtocolV2
