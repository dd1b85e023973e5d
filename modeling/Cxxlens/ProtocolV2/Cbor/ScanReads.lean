import Cxxlens.ProtocolV2.Cbor.Scan

set_option autoImplicit false

/-! # The scanner computes the reader

From an item position with the open containers `stack`, the scanner's main loop does what the
reader does: where the reader finds no item the loop ends in an error, and where it reads an item
the loop arrives at the completion of that item with the same cursor and the same count
(`scanLoop_item`). The induction is on the levels of nesting left, and inside it on the children a
container still misses. -/

namespace Cxxlens.ProtocolV2.Cbor

open Sorting (shortlexLess)
open Fallible

/-! ## Kinds and counts -/

/-- The major type of a value's head. -/
def Value.kind : Value → Major
  | .null => .simple
  | .bool _ => .simple
  | .unsigned _ => .unsignedInteger
  | .negative _ => .negativeInteger
  | .bytes _ => .byteString
  | .text _ => .text
  | .array _ => .array
  | .map _ => .map

theorem Value.kind_eq_text_iff (item : Value) : item.kind = .text ↔ ∃ text, item = .text text := by
  cases item <;> simp [Value.kind]

theorem kind_of_readBody {bound : ScanLimits} {input : Bytes}
    {child : Cursor → Option (Value × Cursor)} {kind : Major} {count : Nat} {cursor after : Cursor}
    {item : Value} (h : readBody bound input child kind count cursor = some (item, after)) :
    item.kind = kind := by
  cases kind <;> simp only [readBody] at h
  case unnamed6 => exact absurd h (by simp)
  case simple =>
    split_ifs at h
    all_goals
      obtain ⟨rfl, -⟩ := Prod.mk.inj (Option.some.inj h)
      rfl
  case array =>
    split_ifs at h
    obtain ⟨read, -, hout⟩ := Option.map_eq_some_iff.1 h
    obtain ⟨rfl, -⟩ := Prod.mk.inj hout
    rfl
  case map =>
    split_ifs at h
    obtain ⟨read, -, hout⟩ := Option.map_eq_some_iff.1 h
    obtain ⟨rfl, -⟩ := Prod.mk.inj hout
    rfl
  all_goals
    try split_ifs at h
    obtain ⟨rfl, -⟩ := Prod.mk.inj (Option.some.inj h)
    rfl

theorem length_le_itemCountItems (items : List Value) : items.length ≤ itemCountItems items := by
  induction items with
  | nil => exact le_refl _
  | cons child rest ih =>
      have hpos := child.itemCount_pos
      rw [itemCountItems, List.length_cons]
      omega

theorem length_le_itemCountFields (fields : Fields) :
    2 * fields.length ≤ itemCountFields fields := by
  induction fields with
  | nil => exact le_refl _
  | cons field rest ih =>
      obtain ⟨key, child⟩ := field
      have hpos := child.itemCount_pos
      rw [itemCountFields, List.length_cons]
      omega

/-! ## Items without members -/

/-- The kinds whose items have no members. -/
def Major.isLeaf (kind : Major) : Prop :=
  kind ≠ .array ∧ kind ≠ .map

theorem scanItem_leaf (bound : ScanLimits) (input : Bytes)
    (child : Cursor → Option (Value × Cursor)) {kind : Major} (hkind : kind.isLeaf) (count : Nat)
    (workspace : Workspace) (itemBegin next itemCount : Nat) :
    (scanItem bound input workspace itemBegin kind count next).toOption =
      (readBody bound input child kind count ⟨next, itemCount⟩).map
        fun (_, after) => .finished kind after.next := by
  cases kind with
  | array => exact absurd rfl hkind.1
  | map => exact absurd rfl hkind.2
  | unsignedInteger => rfl
  | unnamed6 => rfl
  | negativeInteger =>
      simp only [scanItem, readBody, toOption_ite, toOption_ok]
      by_cases hlow : count ≥ 2 ^ 63
      · rw [if_pos (by omega), if_pos hlow]
        rfl
      · rw [if_neg (by omega), if_neg hlow]
        rfl
  | byteString =>
      simp only [scanItem, readBody, toOption_ite, toOption_ok]
      split_ifs <;> rfl
  | text =>
      simp only [scanItem, readBody, toOption_ite, toOption_ok, Bool.not_eq_true']
      split_ifs <;> rfl
  | simple =>
      simp only [scanItem, readBody, toOption_ite, toOption_ok]
      split_ifs <;> first | rfl | omega

theorem itemCount_of_leaf {bound : ScanLimits} {input : Bytes}
    {child : Cursor → Option (Value × Cursor)} {kind : Major} (hkind : kind.isLeaf) {count : Nat}
    {cursor after : Cursor} {item : Value}
    (h : readBody bound input child kind count cursor = some (item, after)) :
    after.itemCount = cursor.itemCount := by
  cases kind with
  | array => exact absurd rfl hkind.1
  | map => exact absurd rfl hkind.2
  | unnamed6 => exact absurd h (by simp [readBody])
  | _ =>
      simp only [readBody] at h
      try split_ifs at h
      all_goals
        obtain ⟨-, rfl⟩ := Prod.mk.inj (Option.some.inj h)
        rfl

/-! ## After an item -/

/-- The rest of a scan behind an item that has just ended. -/
def afterItem (bound : ScanLimits) (input : Bytes) (budget : Nat) (workspace : Workspace)
    (kind : Major) (itemBegin itemEnd : Nat) : Except ScanResult (Major × Nat × Workspace) :=
  match complete input itemEnd workspace.stack kind itemBegin with
  | .error error => .error (workspace.result error)
  | .ok (.root rootKind) => .ok (rootKind, itemEnd, { workspace with stack := [] })
  | .ok (.resume stack) =>
    scanLoop bound input budget { workspace with stack := stack } itemEnd

/-- Behind a child: its parent's bookkeeping, then the next child or the end of the parent. -/
theorem afterItem_cons (bound : ScanLimits) (input : Bytes) (budget itemCount maximumDepth : Nat)
    (parent : StackEntry) (stack : List StackEntry) (kind : Major) (itemBegin itemEnd : Nat) :
    afterItem bound input budget ⟨parent :: stack, itemCount, maximumDepth⟩ kind itemBegin itemEnd =
      match closeChild input parent kind itemBegin itemEnd with
      | .error error => .error ⟨error, itemCount, maximumDepth⟩
      | .ok parent =>
        if parent.remaining - 1 ≠ 0 then
          scanLoop bound input budget
            ⟨{ parent with remaining := parent.remaining - 1 } :: stack, itemCount, maximumDepth⟩
            itemEnd
        else
          afterItem bound input budget ⟨stack, itemCount, maximumDepth⟩ parent.containerKind
            parent.itemBegin itemEnd := by
  unfold afterItem
  simp only [complete]
  rcases closeChild input parent kind itemBegin itemEnd with error | parent
  · rfl
  · simp only [ok_bind]
    split_ifs <;> rfl

/-- What the main loop does from an item position, given what a reader does there: it fails where
    the reader does, and otherwise arrives behind what was read, with `stack` open and the read part
    ending as an item of kind `kind` that began at `itemBegin`. -/
def Follows {α : Type} (bound : ScanLimits) (input : Bytes) (stack : List StackEntry)
    (kind : α → Major) (itemBegin budget : Nat) (workspace : Workspace) (cursor : Nat) :
    Option (α × Cursor) → Prop
  | none => ∃ fault, scanLoop bound input budget workspace cursor = .error fault
  | some (item, after) => ∃ maximumDepth,
      scanLoop bound input budget workspace cursor =
        afterItem bound input (bound.maxItems.toNat - after.itemCount)
          ⟨stack, after.itemCount, maximumDepth⟩ (kind item) itemBegin after.next

/-- The main loop follows `child` at every item position inside a container on `stack`. -/
def FollowsChild (bound : ScanLimits) (input : Bytes) (stack : List StackEntry)
    (child : Cursor → Option (Value × Cursor)) : Prop :=
  ∀ (parent : StackEntry) (budget itemCount maximumDepth cursor : Nat),
    budget + itemCount = bound.maxItems.toNat →
    Follows bound input (parent :: stack) Value.kind cursor budget
      ⟨parent :: stack, itemCount, maximumDepth⟩ cursor (child ⟨cursor, itemCount⟩)

/-- A scan that continues where another one starts follows what is read there. -/
theorem Follows.step {α β : Type} {bound : ScanLimits} {input : Bytes} {stack : List StackEntry}
    {kind : α → Major} {itemBegin budget budget' cursor cursor' : Nat}
    {workspace workspace' : Workspace} {read : Option (α × Cursor)}
    (hstep : scanLoop bound input budget' workspace' cursor' =
      scanLoop bound input budget workspace cursor)
    (h : Follows bound input stack kind itemBegin budget workspace cursor read) (f : α → β)
    (kind' : β → Major) (hkind : ∀ item, kind' (f item) = kind item) :
    Follows bound input stack kind' itemBegin budget' workspace' cursor'
      (read.map fun (item, after) => (f item, after)) := by
  rcases read with _ | ⟨item, after⟩
  · obtain ⟨fault, hfault⟩ := h
    exact ⟨fault, hstep.trans hfault⟩
  · obtain ⟨maximumDepth, hrun⟩ := h
    refine ⟨maximumDepth, ?_⟩
    rw [hstep, hrun, hkind]

/-! ## The children of a container -/

theorem follows_items {bound : ScanLimits} {input : Bytes} {levels : Nat} {stack : List StackEntry}
    {child : Cursor → Option (Value × Cursor)} (hreads : ReadsExactly bound input levels child)
    (hchild : FollowsChild bound input stack child) (count : Nat) (parent : StackEntry)
    (hkind : parent.containerKind = .array) (hremaining : parent.remaining = count + 1)
    (budget itemCount maximumDepth cursor : Nat)
    (hbudget : budget + itemCount = bound.maxItems.toNat) :
    Follows bound input stack (fun _ : List Value => .array) parent.itemBegin budget
      ⟨parent :: stack, itemCount, maximumDepth⟩ cursor
      (readItems child (count + 1) ⟨cursor, itemCount⟩) := by
  induction count generalizing parent budget itemCount maximumDepth cursor with
  | zero =>
      have hfirst := hchild parent budget itemCount maximumDepth cursor hbudget
      rw [readItems]
      rcases hread : child ⟨cursor, itemCount⟩ with _ | ⟨item, mid⟩
      · rw [hread] at hfirst
        exact hfirst
      · rw [hread] at hfirst
        obtain ⟨depth, hrun⟩ := hfirst
        -- the last child closes the array
        refine ⟨depth, ?_⟩
        rw [hrun, afterItem_cons]
        simp [closeChild, hkind, hremaining]
  | succ count ih =>
      have hfirst := hchild parent budget itemCount maximumDepth cursor hbudget
      rw [readItems]
      rcases hread : child ⟨cursor, itemCount⟩ with _ | ⟨item, mid⟩
      · rw [hread] at hfirst
        exact hfirst
      · rw [hread] at hfirst
        obtain ⟨depth, hrun⟩ := hfirst
        have hwithin := ((hreads _ _ _).1 hread).within
        have hrest := ih { parent with remaining := count + 1 } hkind rfl
          (bound.maxItems.toNat - mid.itemCount) mid.itemCount depth mid.next (by omega)
        have hstep : scanLoop bound input budget ⟨parent :: stack, itemCount, maximumDepth⟩ cursor =
            scanLoop bound input (bound.maxItems.toNat - mid.itemCount)
              ⟨{ parent with remaining := count + 1 } :: stack, mid.itemCount, depth⟩
              mid.next := by
          rw [hrun, afterItem_cons]
          simp [closeChild, hkind, hremaining]
        have hfollows := hrest.step hstep (item :: ·) (fun _ => Major.array) (fun _ => rfl)
        rwa [Option.map_eq_bind] at hfollows

/-- The parent of a map remembers the key before as a window of the input. -/
def RemembersKey (input : Bytes) (parent : StackEntry) (previous : Bytes) : Prop :=
  Span.slice input parent.previousKeyOffset
      (parent.previousKeyOffset + parent.previousKeySize) = previous ∧
    parent.previousKeySize = previous.length

/-- The parent of a map after a key that lies between two offsets. -/
def StackEntry.afterKey (parent : StackEntry) (keyBegin keyEnd : Nat) : StackEntry :=
  { parent with
    previousKeyOffset := keyBegin, previousKeySize := keyEnd - keyBegin, expectingKey := false }

theorem closeChild_key {input previous encodedKey : Bytes} {parent : StackEntry}
    {keyBegin keyEnd : Nat} (hmap : parent.containerKind = .map)
    (hexpecting : parent.expectingKey = true) (hprevious : RemembersKey input parent previous)
    (hkeyEnd : keyEnd = keyBegin + encodedKey.length)
    (hslice : Span.slice input keyBegin keyEnd = encodedKey) (hne : encodedKey ≠ []) :
    closeChild input parent .text keyBegin keyEnd =
      if shortlexLess previous encodedKey = false then .error .mapOrderOrDuplicate
      else .ok (parent.afterKey keyBegin keyEnd) := by
  have hend : keyBegin + (keyEnd - keyBegin) = keyEnd := by omega
  have hcond : (parent.previousKeySize ≠ 0 ∧ notAbove previous encodedKey = true) ↔
      shortlexLess previous encodedKey = false := by
    have hboth := isEmpty_or_notAbove previous hne
    rw [hprevious.2, ← Bool.not_eq_true', ← hboth, Bool.and_eq_true]
    cases previous <;> simp
  rw [closeChild, if_pos ⟨hmap, hexpecting⟩, if_neg (by simp)]
  simp only [hend, hslice, hprevious.1]
  by_cases hless : shortlexLess previous encodedKey = false
  · rw [if_pos (hcond.2 hless), if_pos hless]
  · rw [if_neg (fun h => hless (hcond.1 h)), if_neg hless]
    rfl

theorem closeChild_not_text {input : Bytes} {parent : StackEntry} {kind : Major}
    {keyBegin keyEnd : Nat} (hmap : parent.containerKind = .map)
    (hexpecting : parent.expectingKey = true) (hkind : kind ≠ .text) :
    closeChild input parent kind keyBegin keyEnd = .error .mapKeyNotText := by
  rw [closeChild, if_pos ⟨hmap, hexpecting⟩, if_pos hkind]

/-- A scan that has read the key of an entry and stands at its value. -/
theorem follows_key {bound : ScanLimits} {input : Bytes} {levels : Nat} {stack : List StackEntry}
    {child : Cursor → Option (Value × Cursor)} (hreads : ReadsExactly bound input levels child)
    (hchild : FollowsChild bound input stack child) {parent : StackEntry}
    (hkind : parent.containerKind = .map) (hexpecting : parent.expectingKey = true)
    (hremaining : 2 ≤ parent.remaining) {previous : Bytes}
    (hprevious : RemembersKey input parent previous)
    {budget itemCount maximumDepth cursor : Nat}
    (hbudget : budget + itemCount = bound.maxItems.toNat) :
    (∃ fault, scanLoop bound input budget ⟨parent :: stack, itemCount, maximumDepth⟩ cursor =
        .error fault ∧ readField child previous ⟨cursor, itemCount⟩ = none) ∨
      ∃ key keyEnd depth,
        Reads bound input levels ⟨cursor, itemCount⟩ (.text key) keyEnd ∧
        readField child previous ⟨cursor, itemCount⟩ =
          (child keyEnd).map (fun (item, after) => ((key, item), after)) ∧
        scanLoop bound input budget ⟨parent :: stack, itemCount, maximumDepth⟩ cursor =
          scanLoop bound input (bound.maxItems.toNat - keyEnd.itemCount)
            ⟨{ parent.afterKey cursor keyEnd.next with remaining := parent.remaining - 1 } :: stack,
              keyEnd.itemCount, depth⟩ keyEnd.next := by
  have hfirst := hchild parent budget itemCount maximumDepth cursor hbudget
  rw [readField]
  rcases hread : child ⟨cursor, itemCount⟩ with _ | ⟨keyItem, keyEnd⟩
  · rw [hread] at hfirst
    obtain ⟨fault, hfault⟩ := hfirst
    exact Or.inl ⟨fault, hfault, rfl⟩
  · rw [hread] at hfirst
    obtain ⟨depth, hrun⟩ := hfirst
    rw [afterItem_cons] at hrun
    have hkeyReads := (hreads _ _ _).1 hread
    by_cases htext : keyItem.kind = .text
    · obtain ⟨key, rfl⟩ := (Value.kind_eq_text_iff keyItem).1 htext
      have hkeyNext : keyEnd.next = cursor + (encodedText key).length := hkeyReads.next
      rw [htext, closeChild_key hkind hexpecting hprevious hkeyNext hkeyReads.slice_key
        (encodedText_ne_nil key)] at hrun
      simp only [Option.bind_eq_bind, Option.bind_some]
      by_cases hless : shortlexLess previous (encodedText key) = false
      · rw [if_pos hless] at hrun ⊢
        exact Or.inl ⟨_, hrun, rfl⟩
      · rw [if_neg hless] at hrun ⊢
        refine Or.inr ⟨key, keyEnd, depth, hkeyReads, ?_, ?_⟩
        · rw [Option.map_eq_bind]
          rfl
        · have hmore : parent.remaining - 1 ≠ 0 := by omega
          rw [hrun]
          exact if_pos hmore
    · rw [closeChild_not_text hkind hexpecting htext] at hrun
      refine Or.inl ⟨_, hrun, ?_⟩
      cases keyItem with
      | text key => exact absurd rfl htext
      | _ => rfl

/-- A scan that has read an entry: the map goes on with the next key, or is complete. -/
theorem follows_field {bound : ScanLimits} {input : Bytes} {levels : Nat} {stack : List StackEntry}
    {child : Cursor → Option (Value × Cursor)} (hreads : ReadsExactly bound input levels child)
    (hchild : FollowsChild bound input stack child) {parent : StackEntry}
    (hkind : parent.containerKind = .map) (hexpecting : parent.expectingKey = true)
    (hremaining : 2 ≤ parent.remaining) {previous : Bytes}
    (hprevious : RemembersKey input parent previous)
    {budget itemCount maximumDepth cursor : Nat}
    (hbudget : budget + itemCount = bound.maxItems.toNat) :
    (∃ fault, scanLoop bound input budget ⟨parent :: stack, itemCount, maximumDepth⟩ cursor =
        .error fault ∧ readField child previous ⟨cursor, itemCount⟩ = none) ∨
      ∃ field after depth parent',
        readField child previous ⟨cursor, itemCount⟩ = some (field, after) ∧
        after.itemCount ≤ bound.maxItems.toNat ∧
        (parent'.containerKind = .map ∧ parent'.expectingKey = true ∧
          parent'.remaining = parent.remaining - 2 ∧ parent'.itemBegin = parent.itemBegin ∧
          RemembersKey input parent' (encodedText field.1)) ∧
        scanLoop bound input budget ⟨parent :: stack, itemCount, maximumDepth⟩ cursor =
          if parent'.remaining ≠ 0 then
            scanLoop bound input (bound.maxItems.toNat - after.itemCount)
              ⟨parent' :: stack, after.itemCount, depth⟩ after.next
          else
            afterItem bound input (bound.maxItems.toNat - after.itemCount)
              ⟨stack, after.itemCount, depth⟩ .map parent.itemBegin after.next := by
  rcases follows_key hreads hchild hkind hexpecting hremaining hprevious hbudget with
    hfault | ⟨key, keyEnd, depth, hkeyReads, hfield, hrun⟩
  · exact Or.inl hfault
  · have hwithin := hkeyReads.within
    have hsecond := hchild { parent.afterKey cursor keyEnd.next with
      remaining := parent.remaining - 1 } (bound.maxItems.toNat - keyEnd.itemCount)
      keyEnd.itemCount depth keyEnd.next (by omega)
    rcases hread : child keyEnd with _ | ⟨item, after⟩
    · rw [hread] at hsecond hfield
      obtain ⟨fault, hfault⟩ := hsecond
      exact Or.inl ⟨fault, hrun.trans hfault, hfield⟩
    · rw [hread] at hsecond hfield
      obtain ⟨depth', hrun'⟩ := hsecond
      rw [afterItem_cons] at hrun'
      have hclose : closeChild input { parent.afterKey cursor keyEnd.next with
          remaining := parent.remaining - 1 } item.kind keyEnd.next after.next =
          .ok { parent.afterKey cursor keyEnd.next with
            remaining := parent.remaining - 1, expectingKey := true } := by
        simp [closeChild, StackEntry.afterKey, hkind]
      rw [hclose] at hrun'
      have hsize := hkeyReads.next
      simp only [wire] at hsize
      refine Or.inr ⟨(key, item), after, depth', { parent.afterKey cursor keyEnd.next with
        remaining := parent.remaining - 1 - 1, expectingKey := true }, hfield,
        ((hreads _ _ _).1 hread).within, ⟨hkind, rfl, by simp only; omega, rfl, ?_, ?_⟩, ?_⟩
      · have hslice := hkeyReads.slice_key
        rw [hsize] at hslice
        simp only [StackEntry.afterKey, hsize, Nat.add_sub_cancel_left]
        exact hslice
      · simp only [StackEntry.afterKey, hsize, Nat.add_sub_cancel_left]
      · rw [hrun, hrun']
        simp only [StackEntry.afterKey, hkind]

theorem follows_fields {bound : ScanLimits} {input : Bytes} {levels : Nat} {stack : List StackEntry}
    {child : Cursor → Option (Value × Cursor)} (hreads : ReadsExactly bound input levels child)
    (hchild : FollowsChild bound input stack child) (count : Nat) (parent : StackEntry)
    (hkind : parent.containerKind = .map) (hexpecting : parent.expectingKey = true)
    (hremaining : parent.remaining = (count + 1) * 2) (previous : Bytes)
    (hprevious : RemembersKey input parent previous)
    (budget itemCount maximumDepth cursor : Nat)
    (hbudget : budget + itemCount = bound.maxItems.toNat) :
    Follows bound input stack (fun _ : Fields => .map) parent.itemBegin budget
      ⟨parent :: stack, itemCount, maximumDepth⟩ cursor
      (readFields child (count + 1) previous ⟨cursor, itemCount⟩) := by
  induction count generalizing parent previous budget itemCount maximumDepth cursor with
  | zero =>
      rw [readFields]
      rcases follows_field hreads hchild hkind hexpecting (by omega) hprevious hbudget with
        ⟨fault, hfault, hnone⟩ | ⟨field, after, depth, parent', hsome, -, hparent, hrun⟩
      · rw [hnone]
        exact ⟨fault, hfault⟩
      · rw [hsome]
        obtain ⟨-, -, hleft, -, -⟩ := hparent
        rw [if_neg (by omega)] at hrun
        exact ⟨depth, hrun⟩
  | succ count ih =>
      rw [readFields]
      rcases follows_field hreads hchild hkind hexpecting (by omega) hprevious hbudget with
        ⟨fault, hfault, hnone⟩ | ⟨field, after, depth, parent', hsome, hwithin, hparent, hrun⟩
      · rw [hnone]
        exact ⟨fault, hfault⟩
      · rw [hsome]
        obtain ⟨hkind', hexpecting', hleft, hbegin, hremembers⟩ := hparent
        rw [if_pos (by omega)] at hrun
        have hrest := ih parent' hkind' hexpecting' (by omega) _ hremembers
          (bound.maxItems.toNat - after.itemCount) after.itemCount depth after.next (by omega)
        rw [hbegin] at hrest
        have hfollows := hrest.step hrun (field :: ·) (fun _ => Major.map) (fun _ => rfl)
        rwa [Option.map_eq_bind] at hfollows

/-! ## One item -/

/-- The depths the scanner admits: the depth limit, and the stack it has. -/
def ScanLimits.levels (bound : ScanLimits) : Nat :=
  min bound.maxDepth.toNat maximumScanDepth + 1

/-- One pass of the main loop below the depth limit and with a head at the cursor. -/
theorem scanLoop_of_head {bound : ScanLimits} {input : Bytes} {stack : List StackEntry}
    (hdepth : stack.length < bound.levels) {cursor : Nat} {kind : Major} {count next : Nat}
    (hhead : headAt true input cursor = .ok ⟨kind, count, next⟩)
    (budget itemCount maximumDepth : Nat) :
    scanLoop bound input (budget + 1) ⟨stack, itemCount, maximumDepth⟩ cursor =
      match scanItem bound input ⟨stack, itemCount + 1, max maximumDepth stack.length⟩ cursor kind
        count next with
      | .error error => .error ⟨error, itemCount + 1, max maximumDepth stack.length⟩
      | .ok (.opened entry next) =>
        scanLoop bound input budget
          ⟨entry :: stack, itemCount + 1, max maximumDepth stack.length⟩ next
      | .ok (.finished kind itemEnd) =>
        afterItem bound input budget ⟨stack, itemCount + 1, max maximumDepth stack.length⟩ kind
          cursor itemEnd := by
  unfold ScanLimits.levels at hdepth
  have hok : ¬ (stack.length > bound.maxDepth.toNat ∨ stack.length > maximumScanDepth) := by omega
  rw [scanLoop]
  simp only [if_neg hok, scanHead, hhead, Except.mapError]
  rfl

/-- An item without members. -/
theorem follows_leaf {bound : ScanLimits} {input : Bytes} {stack : List StackEntry}
    {child : Cursor → Option (Value × Cursor)} (hdepth : stack.length < bound.levels)
    {cursor : Nat} {kind : Major} {count next : Nat} (hkind : kind.isLeaf)
    (hhead : headAt true input cursor = .ok ⟨kind, count, next⟩)
    {budget itemCount : Nat} (hbudget : budget + 1 + itemCount = bound.maxItems.toNat)
    (maximumDepth : Nat) :
    Follows bound input stack Value.kind cursor (budget + 1) ⟨stack, itemCount, maximumDepth⟩ cursor
      (readBody bound input child kind count ⟨next, itemCount + 1⟩) := by
  have hscan := scanItem_leaf bound input child hkind count
    ⟨stack, itemCount + 1, max maximumDepth stack.length⟩ cursor next (itemCount + 1)
  have hrun := scanLoop_of_head hdepth hhead budget itemCount maximumDepth
  rcases hread : readBody bound input child kind count ⟨next, itemCount + 1⟩ with
    _ | ⟨item, after⟩
  · rw [hread, Option.map_none, toOption_eq_none_iff] at hscan
    obtain ⟨error, herror⟩ := hscan
    rw [herror] at hrun
    exact ⟨_, hrun⟩
  · rw [hread, Option.map_some, toOption_eq_some_iff] at hscan
    rw [hscan] at hrun
    have hcount : after.itemCount = itemCount + 1 := itemCount_of_leaf hkind hread
    have hleft : budget = bound.maxItems.toNat - after.itemCount := by omega
    refine ⟨max maximumDepth stack.length, ?_⟩
    rw [hrun, hcount, kind_of_readBody hread, hleft, hcount]

/-- A container: `members` is what the reader reads behind its head. -/
theorem follows_container {α : Type} {bound : ScanLimits} {input : Bytes} {stack : List StackEntry}
    (hdepth : stack.length < bound.levels) {cursor : Nat} {kind : Major}
    {count next shapeLimit : Nat} {shapeError : ScanError}
    (hhead : headAt true input cursor = .ok ⟨kind, count, next⟩)
    {budget itemCount : Nat} (hbudget : budget + 1 + itemCount = bound.maxItems.toNat)
    (maximumDepth : Nat)
    (hscan : ∀ workspace, scanItem bound input workspace cursor kind count next =
      scanContainer bound workspace cursor kind count shapeLimit shapeError next)
    {children : Nat} (hchildren : (if kind = .map then count * 2 else count) = children)
    (members : Option (α × Cursor)) (wrap : α → Value) (hwrap : ∀ item, (wrap item).kind = kind)
    (hempty : count = 0 → ∃ item, members = some (item, ⟨next, itemCount + 1⟩))
    (hroom : ∀ item after, members = some (item, after) →
      itemCount + 1 + children ≤ bound.maxItems.toNat)
    (hopen : count ≠ 0 → ∀ depth, Follows bound input stack (fun _ : α => kind) cursor budget
      ⟨⟨children, cursor, 0, 0, kind, decide (kind = .map)⟩ :: stack, itemCount + 1, depth⟩ next
      members) :
    Follows bound input stack Value.kind cursor (budget + 1) ⟨stack, itemCount, maximumDepth⟩ cursor
      (if count > shapeLimit then none
        else members.map fun (item, cursor) => (wrap item, cursor)) := by
  have hrun := scanLoop_of_head hdepth hhead budget itemCount maximumDepth
  have hmax := bound.maxItems.toNat_lt
  rw [hscan] at hrun
  unfold scanContainer at hrun
  by_cases hshape : count > shapeLimit
  · rw [if_pos hshape] at hrun ⊢
    exact ⟨_, hrun⟩
  · rw [if_neg hshape] at hrun ⊢
    have hfails : ∀ result, scanLoop bound input (budget + 1) ⟨stack, itemCount, maximumDepth⟩
        cursor = .error result → bound.maxItems.toNat < itemCount + 1 + children →
        Follows bound input stack Value.kind cursor (budget + 1) ⟨stack, itemCount, maximumDepth⟩
          cursor (members.map fun (item, cursor) => (wrap item, cursor)) := by
      intro result hresult hmany
      rcases members with _ | ⟨item, after⟩
      · exact ⟨result, hresult⟩
      · have hfew := hroom item after rfl
        omega
    simp only [decide_eq_true_eq, hchildren] at hrun
    have hbound : count ≤ children ∧ (kind = .map → count * 2 = children) := by
      rw [← hchildren]
      by_cases hmap : kind = .map
      · rw [if_pos hmap]
        exact ⟨by omega, fun _ => rfl⟩
      · rw [if_neg hmap]
        exact ⟨le_refl _, fun h => absurd h hmap⟩
    by_cases hhuge : count > 2 ^ 64 - 1
    · rw [if_pos hhuge] at hrun
      exact hfails _ hrun (by omega)
    · rw [if_neg hhuge] at hrun
      by_cases hhalf : kind = .map ∧ count > (2 ^ 64 - 1) / 2
      · rw [if_pos hhalf] at hrun
        have htwice := hbound.2 hhalf.1
        exact hfails _ hrun (by omega)
      · rw [if_neg hhalf] at hrun
        by_cases hmany : children > bound.maxItems.toNat - (itemCount + 1)
        · rw [if_pos hmany] at hrun
          exact hfails _ hrun (by omega)
        · rw [if_neg hmany] at hrun
          by_cases hzero : children = 0
          · -- an empty container ends with its head
            rw [if_neg (by omega)] at hrun
            obtain ⟨item, hitem⟩ := hempty (by omega)
            have hleft : budget = bound.maxItems.toNat - (itemCount + 1) := by omega
            rw [hitem]
            refine ⟨max maximumDepth stack.length, ?_⟩
            rw [hrun, hwrap, hleft]
          · have hstack : ¬ stack.length ≥ maximumScanDepth + 1 := by
              unfold ScanLimits.levels at hdepth
              omega
            rw [if_pos hzero, if_neg hstack] at hrun
            have hcount : count ≠ 0 := by
              rintro rfl
              rw [Nat.zero_mul, ite_self] at hchildren
              exact hzero hchildren.symm
            exact (hopen hcount _).step hrun wrap Value.kind hwrap

/-- **The main loop of the scanner computes the reader.** From any item position, with any
    containers open, it fails where no item fits, and otherwise goes on behind the item read. -/
theorem scanLoop_follows (bound : ScanLimits) (input : Bytes) (levels : Nat)
    (stack : List StackEntry) (hlevels : stack.length + levels = bound.levels)
    (budget itemCount maximumDepth cursor : Nat)
    (hbudget : budget + itemCount = bound.maxItems.toNat) :
    Follows bound input stack Value.kind cursor budget ⟨stack, itemCount, maximumDepth⟩ cursor
      (readItem bound input levels ⟨cursor, itemCount⟩) := by
  induction levels generalizing stack budget itemCount maximumDepth cursor with
  | zero =>
      have hdeep : stack.length > bound.maxDepth.toNat ∨ stack.length > maximumScanDepth := by
        unfold ScanLimits.levels at hlevels
        omega
      refine ⟨Workspace.result ⟨stack, itemCount, maximumDepth⟩ .depthLimit, ?_⟩
      unfold scanLoop
      exact if_pos hdeep
  | succ levels ih =>
      have hdepth : stack.length < bound.levels := by omega
      have hreads := readItem_readsExactly bound input levels
      have hchild : FollowsChild bound input stack (readItem bound input levels) := by
        intro parent budget itemCount maximumDepth cursor hbudget
        exact ih (parent :: stack) (by rw [List.length_cons]; omega) budget itemCount maximumDepth
          cursor hbudget
      have hok : ¬ (stack.length > bound.maxDepth.toNat ∨ stack.length > maximumScanDepth) := by
        unfold ScanLimits.levels at hdepth
        omega
      rw [readItem]
      cases budget with
      | zero =>
          rw [if_pos (by simp only; omega)]
          refine ⟨Workspace.result ⟨stack, itemCount, maximumDepth⟩ .itemLimit, ?_⟩
          rw [scanLoop]
          exact if_neg hok
      | succ budget =>
          rw [if_neg (by simp only; omega)]
          rcases hhead : headAt true input cursor with fault | ⟨kind, count, next⟩
          · rw [Follows, scanLoop]
            simp only [if_neg hok, scanHead, hhead, Except.mapError]
            exact ⟨_, rfl⟩
          · cases hkind : kind with
            | array =>
                subst hkind
                refine follows_container hdepth hhead hbudget maximumDepth (fun _ => rfl) rfl
                  (readItems (readItem bound input levels) count ⟨next, itemCount + 1⟩) .array
                  (fun _ => rfl) ?_ ?_ ?_
                · rintro rfl
                  exact ⟨[], rfl⟩
                · intro items after hread
                  obtain ⟨rfl, hitems⟩ := (readItems_eq_some_iff hreads _ ⟨_, itemCount + 1⟩
                    (by simp only; omega) _ _).1 hread
                  have hlength := length_le_itemCountItems items
                  have hcount := hitems.count
                  have hwithin := hitems.within
                  simp only [reduceCtorEq, if_false] at hcount ⊢
                  omega
                · intro hcount depth
                  obtain ⟨count, rfl⟩ := Nat.exists_eq_succ_of_ne_zero hcount
                  exact follows_items hreads hchild count _ rfl rfl _ _ _ _ (by omega)
            | map =>
                subst hkind
                refine follows_container hdepth hhead hbudget maximumDepth (fun _ => rfl) rfl
                  (readFields (readItem bound input levels) count [] ⟨next, itemCount + 1⟩) .map
                  (fun _ => rfl) ?_ ?_ ?_
                · rintro rfl
                  exact ⟨[], rfl⟩
                · intro fields after hread
                  obtain ⟨rfl, hfields⟩ := (readFields_eq_some_iff hreads _ _ ⟨_, itemCount + 1⟩
                    (by simp only; omega) _ _).1 hread
                  have hlength := length_le_itemCountFields fields
                  have hcount := hfields.count
                  have hwithin := hfields.within
                  simp only [if_true] at hcount ⊢
                  omega
                · intro hcount depth
                  obtain ⟨count, rfl⟩ := Nat.exists_eq_succ_of_ne_zero hcount
                  exact follows_fields hreads hchild count _ rfl rfl rfl [] ⟨rfl, rfl⟩ _ _ _ _
                    (by omega)
            | _ =>
                subst hkind
                exact follows_leaf hdepth ⟨by decide, by decide⟩ hhead hbudget maximumDepth

/-! ## Errors are errors -/

theorem scanHead_error_ne {input : Bytes} {offset : Nat} {error : ScanError}
    (h : scanHead input offset = .error error) : error ≠ .none := by
  unfold scanHead at h
  rcases hhead : headAt true input offset with fault | read
  · rw [hhead] at h
    obtain rfl := Except.error.inj h
    cases fault <;> decide
  · rw [hhead] at h
    exact absurd h (by simp [Except.mapError])

theorem scanContainer_error_ne {bound : ScanLimits} {workspace : Workspace} {kind : Major}
    {itemBegin count shapeLimit itemEnd : Nat} {shapeError error : ScanError}
    (hshape : shapeError ≠ .none)
    (h : scanContainer bound workspace itemBegin kind count shapeLimit shapeError itemEnd =
      .error error) : error ≠ .none := by
  simp only [scanContainer] at h
  split_ifs at h <;> cases h <;> first | exact hshape | decide

theorem scanItem_error_ne {bound : ScanLimits} {input : Bytes} {workspace : Workspace}
    {itemBegin count itemEnd : Nat} {kind : Major} {error : ScanError}
    (h : scanItem bound input workspace itemBegin kind count itemEnd = .error error) :
    error ≠ .none := by
  cases kind with
  | array => exact scanContainer_error_ne (by decide) h
  | map => exact scanContainer_error_ne (by decide) h
  | _ =>
      simp only [scanItem] at h
      try split_ifs at h
      all_goals
        cases h
        try decide

theorem complete_error_ne {input : Bytes} {itemEnd : Nat} {stack : List StackEntry} {kind : Major}
    {completedBegin : Nat} {error : ScanError}
    (h : complete input itemEnd stack kind completedBegin = .error error) : error ≠ .none := by
  induction stack generalizing kind completedBegin with
  | nil => exact absurd h (by simp [complete])
  | cons parent rest ih =>
      simp only [complete] at h
      rcases hclose : closeChild input parent kind completedBegin itemEnd with fault | parent'
      · rw [hclose] at h
        obtain rfl := Except.error.inj h
        simp only [closeChild] at hclose
        split_ifs at hclose <;> cases hclose <;> decide
      · rw [hclose, ok_bind] at h
        split_ifs at h
        exact ih h

/-- A scan that stops early names a fault. -/
theorem scanLoop_error_ne {bound : ScanLimits} {input : Bytes} {budget : Nat}
    {workspace : Workspace} {cursor : Nat} {fault : ScanResult}
    (h : scanLoop bound input budget workspace cursor = .error fault) : fault.error ≠ .none := by
  induction budget generalizing workspace cursor with
  | zero =>
      unfold scanLoop at h
      simp only at h
      split_ifs at h <;>
        · obtain rfl := Except.error.inj h
          simp [Workspace.result]
  | succ budget ih =>
      rw [scanLoop] at h
      simp only at h
      split_ifs at h
      · obtain rfl := Except.error.inj h
        simp [Workspace.result]
      · split at h
        next error hhead =>
          obtain rfl := Except.error.inj h
          exact scanHead_error_ne hhead
        next kind count next hhead =>
          split at h
          next error hitem =>
            obtain rfl := Except.error.inj h
            exact scanItem_error_ne hitem
          next entry next hitem => exact ih h
          next kind itemEnd hitem =>
            split at h
            next error hcomplete =>
              obtain rfl := Except.error.inj h
              exact complete_error_ne hcomplete
            · exact absurd h (by simp)
            next stack hcomplete => exact ih h

/-! ## A whole input -/

/-- **What the scanner accepts**, for every set of bounds: the inputs the reader reads, as a map
    where a map is asked for. -/
theorem scanCanonical_eq_none_iff {input : Bytes} {bound : ScanLimits} {items : Nat} :
    ((scanCanonical input bound).error = .none ∧ (scanCanonical input bound).itemCount = items) ↔
      ∃ item, readInput bound input bound.levels = some (item, items) ∧
        (bound.requireRootMap = true → item.kind = .map) := by
  have hfollows := scanLoop_follows bound input bound.levels [] (Nat.zero_add _)
    bound.maxItems.toNat 0 0 0 (Nat.add_zero _)
  unfold scanCanonical readInput
  by_cases hempty : input.isEmpty = true
  · obtain rfl := List.isEmpty_iff.1 hempty
    rw [if_pos (Or.inl hempty), readItem_nil]
    simp
  by_cases hbytes : input.length > bound.maxBytes.toNat
  · rw [if_pos (Or.inr (Or.inl hbytes)), if_pos hbytes]
    simp
  by_cases hzero : bound.maxItems = 0
  · have hnone : readItem bound input bound.levels ⟨0, 0⟩ = none := by
      rw [ScanLimits.levels, readItem, if_pos (by simp [hzero])]
    rw [if_pos (Or.inr (Or.inr hzero)), hnone]
    simp
  rw [if_neg (by simp [hempty, hbytes, hzero]), if_neg hbytes]
  unfold scanCanonicalImpl
  rcases hread : readItem bound input bound.levels ⟨0, 0⟩ with _ | ⟨item, after⟩
  · rw [hread] at hfollows
    obtain ⟨fault, hfault⟩ := hfollows
    have hne := scanLoop_error_ne hfault
    rw [hfault]
    simp [hne]
  · rw [hread] at hfollows
    obtain ⟨maximumDepth, hrun⟩ := hfollows
    -- with no container open the item read is the root
    rw [hrun]
    simp only [afterItem, complete, Workspace.result, Option.bind_eq_bind, Option.bind_some]
    by_cases hroot : bound.requireRootMap = true ∧ item.kind ≠ .map
    · rw [if_pos hroot]
      constructor
      · rintro ⟨herror, -⟩
        exact absurd herror (by simp)
      · rintro ⟨item', hitem, hmap⟩
        split_ifs at hitem
        obtain ⟨rfl, -⟩ := Prod.mk.inj (Option.some.inj hitem)
        exact absurd (hmap hroot.1) hroot.2
    · rw [if_neg hroot]
      by_cases hnext : after.next = input.length
      · rw [if_neg (not_not.2 hnext), if_neg (not_not.2 hnext)]
        constructor
        · rintro ⟨-, rfl⟩
          exact ⟨item, rfl, fun hrequire => by_contra fun hkind => hroot ⟨hrequire, hkind⟩⟩
        · rintro ⟨item', hitem, -⟩
          obtain ⟨rfl, rfl⟩ := Prod.mk.inj (Option.some.inj hitem)
          exact ⟨rfl, rfl⟩
      · rw [if_pos hnext, if_pos hnext]
        simp

/-- **The scanner and the decoder accept the same inputs**, at every depth limit the scanner's stack
    can hold, and count the same items. -/
theorem scanCanonical_iff_decode (input : Bytes) (bound : Limits)
    (hdepth : bound.maxDepth.toNat ≤ maximumScanDepth) :
    ((scanCanonical input bound.toScanLimits).error = .none ↔
        ∃ item, decode input bound = .ok item) ∧
      ((scanCanonical input bound.toScanLimits).error = .none →
        ∃ item, decodeCounting input bound =
            .ok (item, (scanCanonical input bound.toScanLimits).itemCount) ∧
          (scanCanonical input bound.toScanLimits).itemCount = item.itemCount) := by
  have hlevels : bound.toScanLimits.levels = bound.levels := by
    rw [ScanLimits.levels, Limits.levels, Limits.toScanLimits, min_eq_left hdepth]
  have hcounting : (scanCanonical input bound.toScanLimits).error = .none →
      ∃ item, decodeCounting input bound =
          .ok (item, (scanCanonical input bound.toScanLimits).itemCount) ∧
        (scanCanonical input bound.toScanLimits).itemCount = item.itemCount := by
    intro hscan
    obtain ⟨item, hread, -⟩ := scanCanonical_eq_none_iff.1 ⟨hscan, rfl⟩
    rw [hlevels, ← decodeCounting_toOption, toOption_eq_some_iff] at hread
    exact ⟨item, hread, (decodeCounting_eq_ok_iff.1 hread).2.2.2.1⟩
  refine ⟨⟨?_, ?_⟩, hcounting⟩
  · intro hscan
    obtain ⟨item, hrun, -⟩ := hcounting hscan
    refine ⟨item, ?_⟩
    rw [decode, hrun]
    rfl
  · rintro ⟨item, hdecode⟩
    obtain ⟨hfits, hinput, hbytes, hitems⟩ := decode_eq_ok_iff.1 hdecode
    have hrun := decodeCounting_eq_ok_iff.2 ⟨hfits, hinput, hbytes, rfl, hitems⟩
    rw [← toOption_eq_some_iff, decodeCounting_toOption, ← hlevels] at hrun
    exact (scanCanonical_eq_none_iff.2
      ⟨item, hrun, fun hrequire => absurd hrequire (by simp [Limits.toScanLimits])⟩).1

theorem scanCanonical_iff_decode_default :
    ((scanCanonical [0xa1, 0x61, 0x61, 0x05] ({} : Limits).toScanLimits).error = .none ↔
        ∃ item, decode [0xa1, 0x61, 0x61, 0x05] {} = .ok item) ∧
      ((scanCanonical [0xa1, 0x61, 0x61, 0x05] ({} : Limits).toScanLimits).error = .none →
        ∃ item, decodeCounting [0xa1, 0x61, 0x61, 0x05] {} =
            .ok (item, (scanCanonical [0xa1, 0x61, 0x61, 0x05] ({} : Limits).toScanLimits).itemCount)
          ∧ (scanCanonical [0xa1, 0x61, 0x61, 0x05] ({} : Limits).toScanLimits).itemCount =
            item.itemCount) :=
  scanCanonical_iff_decode [0xa1, 0x61, 0x61, 0x05] {} (by decide)

end Cxxlens.ProtocolV2.Cbor
