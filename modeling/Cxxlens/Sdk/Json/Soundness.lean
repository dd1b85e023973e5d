import Cxxlens.Sdk.Json.Texts

set_option autoImplicit false

/-! # What the parser accepts is in the grammar

A successful call of `parse_value` has read a text of the grammar, returns the value it denotes,
and has counted its values and the bytes of its strings. The three loops call each other with less
fuel, so the proof is by induction on the fuel. -/

namespace Cxxlens.Sdk.Json

open Fallible
open Cxxlens.Sdk.Json.Parser (space)

theorem ite_bind {ε α β : Type} (p : Prop) [Decidable p] (x y : Except ε α) (f : α → Except ε β) :
    ((if p then x else y) >>= f) = if p then x >>= f else y >>= f := by
  split
  · rfl
  · rfl

theorem itemsCount_append (a b : List JsonValue) :
    itemsCount (a ++ b) = itemsCount a + itemsCount b := by
  induction a with
  | nil => simp [itemsCount]
  | cons item a ih =>
      rw [List.cons_append, itemsCount, itemsCount, ih]
      ring

theorem membersCount_eq (members : Members) :
    membersCount members = (members.map fun member => member.2.valueCount).sum := by
  induction members with
  | nil => rfl
  | cons member members ih => rw [membersCount, ih, List.map_cons, List.sum_cons]

theorem membersBytes_eq (members : Members) :
    membersBytes members =
      (members.map fun member => member.1.length + member.2.stringBytes).sum := by
  induction members with
  | nil => rfl
  | cons member members ih => rw [membersBytes, ih, List.map_cons, List.sum_cons]

theorem membersCount_byName (members : Members) :
    membersCount (byName members) = membersCount members := by
  rw [membersCount_eq, membersCount_eq]
  exact ((byName_perm members).map _).sum_eq

theorem membersBytes_byName (members : Members) :
    membersBytes (byName members) = membersBytes members := by
  rw [membersBytes_eq, membersBytes_eq]
  exact ((byName_perm members).map _).sum_eq

/-! ## Soundness -/

section Soundness

variable (parser : Parser)

/-- The counters are within their limits. -/
structure InLimits (state : ParserState) : Prop where
  count : state.valueCount ≤ parser.limits.maxTotalValues.toNat
  total : state.totalStringBytes ≤ parser.limits.maxTotalStringBytes.toNat

/-- Reading so many values with so many bytes of strings took the one state to the other. -/
structure Took (values bytes : Nat) (state state' : ParserState) : Prop where
  count : state'.valueCount = state.valueCount + values
  total : state'.totalStringBytes = state.totalStringBytes + bytes
  limits : InLimits parser state'

abbrev WithinAt (depth : Nat) (value : JsonValue) : Prop :=
  Within parser.limits parser.contract.depth parser.depthLimit depth value

/-- What a successful call of `parse_value` has read. -/
def SoundValue (fuel : Nat) : Prop :=
  ∀ depth state value state', InLimits parser state →
    parser.parseValue fuel depth state = .ok (value, state') →
    ∃ pad core, state.rest = pad ++ (core ++ state'.rest) ∧ Whitespace pad ∧
      ValueText parser.contract.numbers core value ∧ WithinAt parser depth value ∧
      Took parser value.valueCount value.stringBytes state state'

/-- What a successful run of the loop of `parse_array` has read. -/
def SoundElements (fuel : Nat) : Prop :=
  ∀ depth output state items state', InLimits parser state →
    parser.parseElements fuel depth output state = .ok (items, state') →
    ∃ body more, state.rest = body ++ 0x5d :: state'.rest ∧
      ElementsText parser.contract.numbers body more ∧ items = output ++ more ∧
      items.length ≤ parser.limits.maxArrayElements.toNat ∧
      (∀ item ∈ more, WithinAt parser depth item) ∧
      Took parser (itemsCount more) (itemsBytes more) state state'

/-- What a successful run of the loop of `parse_object` has read. -/
def SoundMembers (fuel : Nat) : Prop :=
  ∀ depth prior state members state', InLimits parser state → (prior.map Prod.fst).Nodup →
    parser.parseMembers fuel depth (byName prior) state = .ok (members, state') →
    ∃ body more, state.rest = body ++ 0x7d :: state'.rest ∧
      MembersText parser.contract.numbers body more ∧ members = byName (prior ++ more) ∧
      ((prior ++ more).map Prod.fst).Nodup ∧
      (prior ++ more).length ≤ parser.limits.maxObjectMembers.toNat ∧
      (∀ member ∈ more, member.1.length ≤ parser.limits.maxStringBytes.toNat) ∧
      (∀ member ∈ more, WithinAt parser depth member.2) ∧
      Took parser (membersCount more) (membersBytes more) state state'

variable {parser}

theorem Took.trans {a b c d : Nat} {first second third : ParserState}
    (h : Took parser a b first second) (h' : Took parser c d second third) :
    Took parser (a + c) (b + d) first third where
  count := by rw [h'.count, h.count, Nat.add_assoc]
  total := by rw [h'.total, h.total, Nat.add_assoc]
  limits := h'.limits

theorem InLimits.moved {state : ParserState} (h : InLimits parser state) (rest : Bytes) :
    InLimits parser { state with rest := rest } :=
  ⟨h.count, h.total⟩

theorem Took.moved {a b : Nat} {state state' : ParserState} (h : Took parser a b state state')
    (rest : Bytes) : Took parser a b state { state' with rest := rest } :=
  ⟨h.count, h.total, h.limits.moved rest⟩

theorem soundElements_succ {fuel : Nat} (hvalue : SoundValue parser fuel)
    (helements : SoundElements parser fuel) : SoundElements parser (fuel + 1) := by
  intro depth output state items state' hlimits h
  rw [Parser.parseElements, Parser.fail, guard_eq_ok_iff, bind_eq_ok_iff] at h
  obtain ⟨hroom, ⟨child, middle⟩, hchild, h⟩ := h
  obtain ⟨pad, core, hrest, hpad, htext, hwithin, htook⟩ := hvalue _ _ _ _ hlimits hchild
  obtain ⟨after, hafter, hspace⟩ := exists_space middle.rest
  dsimp only at h
  split at h
  · -- the closing bracket
    rename_i tail hclose
    obtain ⟨rfl, rfl⟩ := Prod.mk.injEq .. ▸ Except.ok.inj h
    refine ⟨pad ++ (core ++ after), [child], ?_, .last hpad htext hspace, rfl, ?_, ?_, ?_⟩
    · rw [hrest, hafter, hclose]
      simp
    · rw [List.length_append, List.length_singleton]
      omega
    · intro item hitem
      obtain rfl := List.mem_singleton.1 hitem
      exact hwithin
    · exact htook.moved tail
  · -- a comma
    rename_i tail hcomma
    obtain ⟨body, more, hbody, hmore, rfl, hlength, hall, htook'⟩ :=
      helements _ _ _ _ _ (htook.limits.moved tail) h
    refine ⟨pad ++ (core ++ (after ++ 0x2c :: body)), child :: more, ?_,
      .cons hpad htext hspace hmore, by simp, hlength, ?_, ?_⟩
    · rw [hrest, hafter, hcomma, show tail = body ++ 0x5d :: state'.rest from hbody]
      simp
    · intro item hitem
      rcases List.mem_cons.1 hitem with rfl | hitem
      · exact hwithin
      · exact hall item hitem
    · exact (htook.moved tail).trans htook'
  · exact absurd h (by simp [Parser.fail])

/-- Whitespace in front of the members belongs to the first one. -/
theorem MembersText.pad {numbers : JsonNumberSyntax} {pad body : Bytes} {members : Members}
    (hpad : Whitespace pad) (h : MembersText numbers body members) :
    MembersText numbers (pad ++ body) members := by
  cases h with
  | last hfirst hkey hsecond hthird hvalue hafter =>
      rw [← List.append_assoc]
      exact .last (hpad.append hfirst) hkey hsecond hthird hvalue hafter
  | cons hfirst hkey hsecond hthird hvalue hafter hrest =>
      rw [← List.append_assoc]
      exact .cons (hpad.append hfirst) hkey hsecond hthird hvalue hafter hrest

theorem ElementsText.pad {numbers : JsonNumberSyntax} {pad body : Bytes} {items : List JsonValue}
    (hpad : Whitespace pad) (h : ElementsText numbers body items) :
    ElementsText numbers (pad ++ body) items := by
  cases h with
  | last hbefore hvalue hafter =>
      rw [← List.append_assoc]
      exact .last (hpad.append hbefore) hvalue hafter
  | cons hbefore hvalue hafter hrest =>
      rw [← List.append_assoc]
      exact .cons (hpad.append hbefore) hvalue hafter hrest

theorem soundMembers_succ {fuel : Nat} (hvalue : SoundValue parser fuel)
    (hmembers : SoundMembers parser fuel) : SoundMembers parser (fuel + 1) := by
  intro depth prior state members state' hlimits hnames h
  rw [Parser.parseMembers, bind_eq_ok_iff] at h
  obtain ⟨⟨key, first⟩, hkey, h⟩ := h
  dsimp only at h
  rw [Parser.fail, Parser.fail, guard_eq_ok_iff, guard_eq_ok_iff, containsName_eq,
    ((byName_perm prior).map Prod.fst).mem_iff, (byName_perm prior).length_eq] at h
  obtain ⟨hnew, hroom, h⟩ := h
  obtain ⟨text, hrest, htext, hkeybytes, hkeycount, hkeytotal, hkeylimit⟩ :=
    parseString_sound hlimits.total hkey
  have hfirst : InLimits parser first := ⟨hkeycount ▸ hlimits.count, hkeylimit⟩
  obtain ⟨second, hsecond, hsecondspace⟩ := exists_space first.rest
  have hempty : Whitespace [] := by simp [Whitespace]
  have hnames' : ∀ value : JsonValue, ((prior ++ [(key, value)]).map Prod.fst).Nodup := by
    intro value
    rw [List.map_append, List.map_singleton, List.nodup_append_comm]
    exact List.nodup_cons.2 ⟨hnew, hnames⟩
  split at h
  · rename_i colon hcolon
    rw [bind_eq_ok_iff] at h
    obtain ⟨⟨child, middle⟩, hchild, h⟩ := h
    obtain ⟨third, core, hthird, hthirdspace, hcore, hwithin, htook⟩ :=
      hvalue _ _ _ _ (hfirst.moved colon) hchild
    obtain ⟨after, hafter, hspace⟩ := exists_space middle.rest
    have hmember : Took parser child.valueCount (key.length + child.stringBytes) state middle :=
      ⟨by rw [htook.count, hkeycount], by rw [htook.total, hkeytotal, Nat.add_assoc],
        htook.limits⟩
    dsimp only at h hthird
    rw [emplace_byName child hnames hnew] at h
    split at h
    · -- the closing brace
      rename_i tail hclose
      obtain ⟨rfl, rfl⟩ := Prod.mk.injEq .. ▸ Except.ok.inj h
      refine ⟨text ++ (second ++ 0x3a :: (third ++ (core ++ after))), [(key, child)], ?_,
        @MembersText.last _ [] _ _ _ _ _ _ _ hempty htext hsecondspace hthirdspace hcore hspace, rfl,
        hnames' child, ?_, ?_, ?_, ?_⟩
      · rw [hrest, hsecond, hcolon, hthird, hafter, hclose]
        simp
      · rw [List.length_append, List.length_singleton]
        omega
      · intro member hmember
        obtain rfl := List.mem_singleton.1 hmember
        exact hkeybytes
      · intro member hmember
        obtain rfl := List.mem_singleton.1 hmember
        exact hwithin
      · exact hmember.moved tail
    · -- a comma
      rename_i tail hcomma
      obtain ⟨fourth, hfourth, hfourthspace⟩ := exists_space tail
      obtain ⟨body, more, hbody, hmore, rfl, hnodup, hlength, hbytes, hall, htook'⟩ :=
        hmembers _ _ _ _ _ (hmember.limits.moved (space tail)) (hnames' child) h
      rw [List.append_assoc, List.singleton_append] at hnodup hlength ⊢
      refine ⟨text ++ (second ++ 0x3a :: (third ++ (core ++ (after ++ 0x2c :: (fourth ++ body))))),
        (key, child) :: more, ?_,
        @MembersText.cons _ [] _ _ _ _ _ _ _ _ _ hempty htext hsecondspace hthirdspace hcore hspace
          (hmore.pad hfourthspace), rfl, hnodup, hlength, ?_, ?_, ?_⟩
      · rw [hrest, hsecond, hcolon, hthird, hafter, hcomma, hfourth,
          show space tail = body ++ 0x7d :: state'.rest from hbody]
        simp
      · intro member hmember
        rcases List.mem_cons.1 hmember with rfl | hmember
        · exact hkeybytes
        · exact hbytes member hmember
      · intro member hmember
        rcases List.mem_cons.1 hmember with rfl | hmember
        · exact hwithin
        · exact hall member hmember
      · exact (hmember.moved _).trans htook'
    · exact absurd h (by simp [Parser.fail])
  · exact absurd h (by simp [Parser.fail])

theorem containerDepth {depth : Nat}
    (h : ¬ (parser.contract.depth = .containers ∧ depth ≥ parser.depthLimit)) :
    parser.contract.depth = .containers → depth < parser.depthLimit :=
  fun heq => not_le.1 fun hle => h ⟨heq, hle⟩

/-- A value counts itself before its parts. -/
theorem Took.counted {values bytes : Nat} {state state' : ParserState} {rest : Bytes}
    (h : Took parser values bytes
      { state with rest := rest, valueCount := state.valueCount + 1 } state') :
    Took parser (1 + values) bytes state state' where
  count := by rw [h.count, Nat.add_assoc]
  total := h.total
  limits := h.limits

theorem InLimits.counted {state : ParserState} {rest : Bytes}
    (h : InLimits parser { state with rest := rest, valueCount := state.valueCount + 1 }) :
    Took parser 1 0 state { state with rest := rest, valueCount := state.valueCount + 1 } :=
  ⟨rfl, rfl, h⟩

/-- What `literal` has read. -/
theorem literal_sound {expected : Bytes} {value value' : JsonValue} {rest rest' : Bytes}
    (h : parser.literal expected value rest = .ok (value', rest')) :
    rest = expected ++ rest' ∧ value' = value := by
  rw [Parser.literal, Parser.fail, guard_eq_ok_iff, not_not] at h
  obtain ⟨hexpected, h⟩ := h
  obtain ⟨rfl, rfl⟩ := Prod.mk.injEq .. ▸ Except.ok.inj h
  refine ⟨?_, rfl⟩
  conv_lhs => rw [← List.take_append_drop expected.length rest, hexpected]

theorem Denotes.integer {numbers : JsonNumberSyntax} {number : Number} {value : JsonValue}
    (h : Denotes numbers number value) :
    (∃ item, value = .unsignedInteger item) ∨ ∃ item, value = .signedInteger item := by
  cases h with
  | unsignedToken | unsignedValue => exact .inl ⟨_, rfl⟩
  | signedToken | signedValue => exact .inr ⟨_, rfl⟩

/-- A literal or a number. -/
theorem scalar_sound {first : UInt8} {rest tail : Bytes} {depth : Nat} {value : JsonValue}
    (hdepth : parser.contract.depth = .allValues → depth ≤ parser.depthLimit)
    (h : (if first = 0x74 then parser.literal "true" (.boolean true) rest
      else if first = 0x66 then parser.literal "false" (.boolean false) rest
      else if first = 0x6e then parser.literal "null" .null rest
      else parser.parseNumber rest) = .ok (value, tail)) :
    ∃ core, rest = core ++ tail ∧ ValueText parser.contract.numbers core value ∧
      WithinAt parser depth value ∧ value.valueCount = 1 ∧ value.stringBytes = 0 := by
  split at h
  · obtain ⟨hrest, rfl⟩ := literal_sound h
    exact ⟨_, hrest, .trueLiteral, .boolean hdepth, rfl, rfl⟩
  · split at h
    · obtain ⟨hrest, rfl⟩ := literal_sound h
      exact ⟨_, hrest, .falseLiteral, .boolean hdepth, rfl, rfl⟩
    · split at h
      · obtain ⟨hrest, rfl⟩ := literal_sound h
        exact ⟨_, hrest, .nullLiteral, .null hdepth, rfl, rfl⟩
      · obtain ⟨number, hrest, hform, hvalue⟩ := parseNumber_sound h
        refine ⟨_, hrest, .number hform hvalue, ?_⟩
        rcases hvalue.integer with ⟨_, rfl⟩ | ⟨_, rfl⟩
        · exact ⟨.unsignedInteger hdepth, rfl, rfl⟩
        · exact ⟨.signedInteger hdepth, rfl, rfl⟩

theorem ofString_eq_ok {decoded : Bytes} {value : JsonValue}
    (h : JsonValue.ofString decoded = .ok value) : value = .string decoded := by
  rw [JsonValue.ofString] at h
  split at h
  · exact absurd h (by simp)
  · exact (Except.ok.inj h).symm

theorem ofMembers_eq_ok_iff (members : Members) (value : JsonValue) :
    JsonValue.ofMembers members = .ok value ↔
      checkNames members = .ok () ∧ value = .object members := by
  rw [JsonValue.ofMembers, seq_eq_ok_iff, Except.ok.injEq]
  exact and_congr_right fun _ => eq_comm

theorem soundValue_succ {fuel : Nat} (helements : SoundElements parser fuel)
    (hmembers : SoundMembers parser fuel) : SoundValue parser (fuel + 1) := by
  intro depth state value state' hlimits h
  obtain ⟨pad, hpad, hspace⟩ := exists_space state.rest
  unfold Parser.parseValue at h
  dsimp only at h
  rw [Parser.fail, guard_eq_ok_iff] at h
  obtain ⟨hall, h⟩ := h
  have hdepth : parser.contract.depth = .allValues → depth ≤ parser.depthLimit :=
    fun heq => not_lt.1 fun hlt => hall ⟨heq, hlt⟩
  split at h
  · exact absurd h (by simp [Parser.fail])
  rename_i first tail hrest
  rw [Parser.fail, guard_eq_ok_iff] at h
  obtain ⟨hroom, h⟩ := h
  have hcounted : InLimits parser
      { state with rest := first :: tail, valueCount := state.valueCount + 1 } :=
    ⟨by dsimp only; omega, hlimits.total⟩
  rw [hrest] at hpad
  obtain ⟨inner, hinner, hinnerspace⟩ := exists_space tail
  split at h
  · -- an object
    rename_i hfirst
    subst hfirst
    rw [guard_eq_ok_iff] at h
    obtain ⟨hopen, h⟩ := h
    have hcontainer := containerDepth hopen
    split at h
    · rename_i rest hclose
      rw [bind_eq_ok_iff] at h
      obtain ⟨child, hchild, h⟩ := h
      obtain ⟨rfl, rfl⟩ := Prod.mk.injEq .. ▸ Except.ok.inj h
      obtain ⟨-, rfl⟩ := (ofMembers_eq_ok_iff _ _).1 hchild
      refine ⟨pad, 0x7b :: (inner ++ [0x7d]), ?_, hspace, .emptyObject hinnerspace,
        .object hdepth hcontainer (Nat.zero_le _) (by simp) (by simp), hcounted.counted.moved rest⟩
      rw [hpad, hinner, hclose]
      simp
    · rw [bind_eq_ok_iff] at h
      obtain ⟨⟨members, middle⟩, hread, h⟩ := h
      rw [bind_eq_ok_iff] at h
      obtain ⟨child, hchild, h⟩ := h
      obtain ⟨rfl, rfl⟩ := Prod.mk.injEq .. ▸ Except.ok.inj h
      obtain ⟨-, rfl⟩ := (ofMembers_eq_ok_iff _ _).1 hchild
      obtain ⟨body, more, hbody, htext, rfl, hnames, hlength, hbytes, hwithin, htook⟩ :=
        hmembers _ [] _ _ _ (hcounted.moved (space tail)) List.nodup_nil hread
      rw [List.nil_append] at hnames hlength ⊢
      refine ⟨pad, 0x7b :: (inner ++ body ++ [0x7d]), ?_, hspace,
        .object (htext.pad hinnerspace) hnames,
        .object hdepth hcontainer ?_ ?_ ?_, ?_⟩
      · rw [hpad, hinner, show space tail = body ++ 0x7d :: middle.rest from hbody]
        simp
      · rw [(byName_perm more).length_eq]
        exact hlength
      · intro member hmember
        exact hbytes member ((byName_perm more).mem_iff.1 hmember)
      · intro member hmember
        exact hwithin member ((byName_perm more).mem_iff.1 hmember)
      · rw [JsonValue.valueCount, JsonValue.stringBytes, membersCount_byName, membersBytes_byName]
        exact htook.counted
  split at h
  · -- an array
    rename_i hfirst
    subst hfirst
    rw [guard_eq_ok_iff] at h
    obtain ⟨hopen, h⟩ := h
    have hcontainer := containerDepth hopen
    split at h
    · rename_i rest hclose
      obtain ⟨rfl, rfl⟩ := Prod.mk.injEq .. ▸ Except.ok.inj h
      refine ⟨pad, 0x5b :: (inner ++ [0x5d]), ?_, hspace, .emptyArray hinnerspace,
        .array hdepth hcontainer (Nat.zero_le _) (by simp), hcounted.counted.moved rest⟩
      rw [hpad, hinner, hclose]
      simp
    · rw [bind_eq_ok_iff] at h
      obtain ⟨⟨items, middle⟩, hread, h⟩ := h
      obtain ⟨rfl, rfl⟩ := Prod.mk.injEq .. ▸ Except.ok.inj h
      obtain ⟨body, more, hbody, htext, rfl, hlength, hwithin, htook⟩ :=
        helements _ [] _ _ _ (hcounted.moved (space tail)) hread
      refine ⟨pad, 0x5b :: (inner ++ body ++ [0x5d]), ?_, hspace, .array (htext.pad hinnerspace),
        .array hdepth hcontainer hlength hwithin, htook.counted⟩
      rw [hpad, hinner, show space tail = body ++ 0x5d :: middle.rest from hbody]
      simp
  split at h
  · -- a string
    rw [bind_eq_ok_iff] at h
    obtain ⟨⟨decoded, middle⟩, hread, h⟩ := h
    rw [hrest] at hread
    rw [bind_eq_ok_iff] at h
    obtain ⟨child, hchild, h⟩ := h
    obtain ⟨rfl, rfl⟩ := Prod.mk.injEq .. ▸ Except.ok.inj h
    obtain ⟨text, hrest', htext, hbytes, hcount, htotal, hlimit⟩ :=
      parseString_sound hcounted.total hread
    obtain rfl := ofString_eq_ok hchild
    refine ⟨pad, text, ?_, hspace, .string htext, .string hdepth hbytes, hcount, htotal, ?_⟩
    · rw [hpad, show first :: tail = text ++ middle.rest from hrest']
    · exact ⟨hcount ▸ hcounted.count, hlimit⟩
  · -- a literal or a number
    rw [← ite_bind, ← ite_bind, ← ite_bind, bind_eq_ok_iff, hrest] at h
    obtain ⟨⟨child, rest⟩, hscalar, h⟩ := h
    obtain ⟨rfl, rfl⟩ := Prod.mk.injEq .. ▸ Except.ok.inj h
    obtain ⟨core, hcore, htext, hwithin, hcount, hbytes⟩ := scalar_sound hdepth hscalar
    refine ⟨pad, core, ?_, hspace, htext, hwithin, ?_, ?_, ?_⟩
    · rw [hpad, hcore]
    · rw [hcount]
    · rw [hbytes]
      rfl
    · exact hcounted.moved rest

theorem sound (fuel : Nat) :
    SoundValue parser fuel ∧ SoundElements parser fuel ∧ SoundMembers parser fuel := by
  induction fuel with
  | zero =>
      refine ⟨?_, ?_, ?_⟩
      · intro depth state value state' hlimits h
        exact absurd h (by simp [Parser.parseValue, Parser.fail])
      · intro depth output state items state' hlimits h
        exact absurd h (by simp [Parser.parseElements, Parser.fail])
      · intro depth prior state members state' hlimits hnames h
        exact absurd h (by simp [Parser.parseMembers, Parser.fail])
  | succ fuel ih =>
      obtain ⟨hvalue, helements, hmembers⟩ := ih
      exact ⟨soundValue_succ helements hmembers, soundElements_succ hvalue helements,
        soundMembers_succ hvalue hmembers⟩

end Soundness

end Cxxlens.Sdk.Json
