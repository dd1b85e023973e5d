import Cxxlens.ProtocolV2.Cbor.Decode

set_option autoImplicit false

/-! # The iterative scanner

`scan_canonical` walks the same wire form without building a value: the containers that are open
stand on a stack of at most `maximum_scan_depth + 1` entries, and an inner loop closes every
container whose last child has just ended. The stack is a list here, innermost container first, so
`stack_size` is its length. -/

namespace Cxxlens.ProtocolV2.Cbor

/-! ## The source -/

/-- `scan_error` -/
inductive ScanError where
  | none
  | emptyOrLimit
  | truncated
  | nonShortest
  | indefiniteOrReserved
  | depthLimit
  | itemLimit
  | arrayShapeLimit
  | mapShapeLimit
  | textLimitOrUtf8
  | byteStringLimit
  | mapKeyNotText
  | mapOrderOrDuplicate
  | unsupported
  | trailingBytes
  deriving DecidableEq, Repr

/-- `scan_result` -/
structure ScanResult where
  error : ScanError
  itemCount : Nat
  maximumDepth : Nat
  deriving DecidableEq, Repr

/-- `maximum_scan_depth` -/
def maximumScanDepth : Nat := 32

/-- `scan_stack_entry` -/
structure StackEntry where
  remaining : Nat
  itemBegin : Nat
  previousKeyOffset : Nat
  previousKeySize : Nat
  containerKind : Major
  expectingKey : Bool
  deriving DecidableEq, Repr

/-- `scan_workspace` -/
structure Workspace where
  stack : List StackEntry
  itemCount : Nat
  maximumDepth : Nat
  deriving DecidableEq, Repr

/-- `scan_head` -/
def scanHead (input : Bytes) (offset : Nat) : Except ScanError Head :=
  (headAt true input offset).mapError fun
    | .truncatedHead => .truncated
    | .indefiniteOrReserved => .indefiniteOrReserved
    | .truncatedArgument => .truncated
    | .nonShortest => .nonShortest

/-- What the body of the main loop makes of the item at the cursor: it opens a container with
    children and goes on with the next item, or the item is finished. -/
inductive ScannedItem where
  | opened (entry : StackEntry) (next : Nat)
  | finished (kind : Major) (itemEnd : Nat)
  deriving DecidableEq, Repr

/-- The two container cases of the switch; `children` is what the container announces. -/
def scanContainer (bound : ScanLimits) (workspace : Workspace) (itemBegin : Nat) (kind : Major)
    (count shapeLimit : Nat) (shapeError : ScanError) (itemEnd : Nat) :
    Except ScanError ScannedItem :=
  let mapItem := decide (kind = .map)
  if count > shapeLimit then .error shapeError
  else if count > 2 ^ 64 - 1 then .error .itemLimit
  else if mapItem ∧ count > (2 ^ 64 - 1) / 2 then .error .itemLimit
  else
    let children := if mapItem then count * 2 else count
    if children > bound.maxItems.toNat - workspace.itemCount then .error .itemLimit
    else if children ≠ 0 then
      if workspace.stack.length ≥ maximumScanDepth + 1 then .error .depthLimit
      else .ok (.opened ⟨children, itemBegin, 0, 0, kind, mapItem⟩ itemEnd)
    else .ok (.finished kind itemEnd)

/-- The switch over the kind of the item at the cursor. -/
def scanItem (bound : ScanLimits) (input : Bytes) (workspace : Workspace) (itemBegin : Nat)
    (kind : Major) (count itemEnd : Nat) : Except ScanError ScannedItem :=
  match kind with
  | .unsignedInteger => .ok (.finished kind itemEnd)
  | .negativeInteger =>
    if count > 2 ^ 63 - 1 then .error .unsupported else .ok (.finished kind itemEnd)
  | .byteString =>
    if count > bound.maxByteStringBytes.toNat ∨ count > input.length - itemEnd then
      .error .byteStringLimit
    else .ok (.finished kind (itemEnd + count))
  | .text =>
    if count > bound.maxTextBytes.toNat ∨ count > input.length - itemEnd then
      .error .textLimitOrUtf8
    else if !validUtf8 (Span.slice input itemEnd (itemEnd + count)) then .error .textLimitOrUtf8
    else .ok (.finished kind (itemEnd + count))
  | .array =>
    scanContainer bound workspace itemBegin .array count bound.maxArrayItems.toNat
      .arrayShapeLimit itemEnd
  | .map =>
    scanContainer bound workspace itemBegin .map count bound.maxMapItems.toNat
      .mapShapeLimit itemEnd
  | .simple =>
    if count ≠ 20 ∧ count ≠ 21 ∧ count ≠ 22 then .error .unsupported
    else .ok (.finished kind itemEnd)
  | .unnamed6 => .error .unsupported

/-- The parent's bookkeeping for a child that ended: keys are texts in strictly increasing order,
    keys and values alternate. -/
def closeChild (input : Bytes) (parent : StackEntry) (kind : Major) (completedBegin itemEnd : Nat) :
    Except ScanError StackEntry :=
  if parent.containerKind = .map ∧ parent.expectingKey then
    if kind ≠ .text then .error .mapKeyNotText
    else
      let keySize := itemEnd - completedBegin
      let previous := Span.slice input parent.previousKeyOffset
        (parent.previousKeyOffset + parent.previousKeySize)
      let current := Span.slice input completedBegin (completedBegin + keySize)
      if parent.previousKeySize ≠ 0 ∧ notAbove previous current then .error .mapOrderOrDuplicate
      else .ok { parent with
        previousKeyOffset := completedBegin, previousKeySize := keySize, expectingKey := false }
  else if parent.containerKind = .map then .ok { parent with expectingKey := true }
  else .ok parent

/-- Where the completion loop leaves the scan. -/
inductive Completion where
  | root (kind : Major)
  | resume (stack : List StackEntry)
  deriving DecidableEq, Repr

/-- The completion loop: an item of this kind that began at `completedBegin` has ended. -/
def complete (input : Bytes) (itemEnd : Nat) :
    List StackEntry → Major → Nat → Except ScanError Completion
  | [], kind, _ => .ok (.root kind)
  | parent :: rest, kind, completedBegin => do
    let parent ← closeChild input parent kind completedBegin itemEnd
    let parent := { parent with remaining := parent.remaining - 1 }
    if parent.remaining ≠ 0 then .ok (.resume (parent :: rest))
    else complete input itemEnd rest parent.containerKind parent.itemBegin

/-- `return {error, workspace.item_count, workspace.maximum_depth}` -/
def Workspace.result (workspace : Workspace) (error : ScanError) : ScanResult :=
  ⟨error, workspace.itemCount, workspace.maximumDepth⟩

/-- The main loop from an item at `cursor`; `budget` is `max_items - item_count`. It ends with the
    kind of the root item and the cursor behind it. -/
def scanLoop (bound : ScanLimits) (input : Bytes) :
    Nat → Workspace → Nat → Except ScanResult (Major × Nat × Workspace)
  | budget, workspace, cursor =>
    let depth := workspace.stack.length
    if depth > bound.maxDepth.toNat ∨ depth > maximumScanDepth then
      .error (workspace.result .depthLimit)
    else
      match budget with
      | 0 => .error (workspace.result .itemLimit)
      | budget + 1 =>
        let workspace : Workspace := { workspace with
          itemCount := workspace.itemCount + 1
          maximumDepth := max workspace.maximumDepth depth }
        match scanHead input cursor with
        | .error error => .error (workspace.result error)
        | .ok ⟨kind, count, next⟩ =>
          match scanItem bound input workspace cursor kind count next with
          | .error error => .error (workspace.result error)
          | .ok (.opened entry next) =>
            scanLoop bound input budget { workspace with stack := entry :: workspace.stack } next
          | .ok (.finished kind itemEnd) =>
            match complete input itemEnd workspace.stack kind cursor with
            | .error error => .error (workspace.result error)
            | .ok (.root rootKind) => .ok (rootKind, itemEnd, { workspace with stack := [] })
            | .ok (.resume stack) =>
              scanLoop bound input budget { workspace with stack := stack } itemEnd

/-- `scan_canonical_impl` -/
def scanCanonicalImpl (input : Bytes) (bound : ScanLimits) : ScanResult :=
  match scanLoop bound input bound.maxItems.toNat ⟨[], 0, 0⟩ 0 with
  | .error result => result
  | .ok (rootKind, cursor, workspace) =>
    if bound.requireRootMap ∧ rootKind ≠ .map then workspace.result .mapShapeLimit
    else if cursor ≠ input.length then workspace.result .trailingBytes
    else workspace.result .none

/-- `scan_canonical` -/
def scanCanonical (input : Bytes) (bound : ScanLimits) : ScanResult :=
  if input.isEmpty ∨ input.length > bound.maxBytes.toNat ∨ bound.maxItems = 0 then
    ⟨.emptyOrLimit, 0, 0⟩
  else scanCanonicalImpl input bound

example : scanCanonical [0xa1, 0x61, 0x61, 0x82, 0x00, 0x20] {} = ⟨.none, 5, 2⟩ := by decide

example : scanCanonical [0xa2, 0x61, 0x62, 0x00, 0x61, 0x61, 0x00] {} =
    ⟨.mapOrderOrDuplicate, 4, 1⟩ := by decide

end Cxxlens.ProtocolV2.Cbor
