import Cxxlens.Foundation.DepthFirst
import Cxxlens.Sdk.Decimal
import Cxxlens.Sdk.Relation.Row

set_option autoImplicit false

/-! # The registry

`relation_registry` collects valid descriptors under their names and builds the engine when their
references resolve (`relation.cpp`). The flag of a frozen registry is shared with its copies; flags
are numbered here, and a state says which of them are set. -/

namespace Cxxlens.Sdk

open Fallible Sorting
open Relation (TransGen)

/-- `container_target_type_matches` -/
def containerTargetTypeMatches (source target : ValueType) : Bool :=
  source.scalar == .set && !target.optional &&
    (if target.scalar == .typedId then target.parameter == source.parameter
    else target.canonicalName == source.parameter)

/-- The flags that `frozen_` points at. -/
abbrev Flags := Nat → Bool

variable (hash : Bytes → Bytes)

/-- `relation_registry`: the descriptors in the order of their names, and the number of the flag; a
    registry that was moved from has none. -/
structure RelationRegistry where
  descriptors : List RelationDescriptor
  ordered : (descriptors.map RelationDescriptor.name).Pairwise (· < ·)
  valid : ∀ descriptor ∈ descriptors, descriptor.validate hash = .ok ()
  flag : Option Nat

/-- `relation_registry{}` with a flag of its own. -/
def RelationRegistry.fresh (flag : Nat) : RelationRegistry hash where
  descriptors := []
  ordered := List.Pairwise.nil
  valid := by simp
  flag := some flag

/-- `relation_engine` as `build` leaves it. The digest is the one `semantic_digest` is asked for. -/
structure BuiltEngine extends RelationEngine hash where
  registryDigest : Result Bytes
  generation : Bytes

namespace RelationRegistry

variable {hash}

/-- `relation_registry::frozen` -/
def frozen (flags : Flags) (registry : RelationRegistry hash) : Bool :=
  match registry.flag with
  | none => true
  | some flag => flags flag

/-- `descriptors_.find(name)` -/
def find (registry : RelationRegistry hash) (name : Bytes) : Option RelationDescriptor :=
  registry.descriptors.find? fun descriptor => descriptor.name == name

/-! ## Adding -/

/-- The digest that `add` fills in where there is none. -/
def bindDigest (descriptor : RelationDescriptor) : Result RelationDescriptor :=
  if descriptor.descriptorDigest = [] then do
    reject (!descriptor.contractCanonical.isEmpty)
      (relationError "sdk.descriptor-digest-mismatch" "descriptor_digest")
    let digest ← descriptorBinding hash descriptor
    .ok { descriptor with descriptorDigest := digest }
  else .ok descriptor

def nameLess (left right : RelationDescriptor) : Bool :=
  bytesLess left.name right.name

theorem nameLess_compares : Compares nameLess RelationDescriptor.name := by
  intro a b
  rw [nameLess, bytesLess, decide_eq_true_iff]

theorem names_nodup (registry : RelationRegistry hash) :
    (registry.descriptors.map RelationDescriptor.name).Nodup :=
  registry.ordered.imp fun h => h.ne

theorem find_eq_some_iff {registry : RelationRegistry hash} {name : Bytes}
    {descriptor : RelationDescriptor} :
    registry.find name = some descriptor ↔
      descriptor ∈ registry.descriptors ∧ descriptor.name = name := by
  constructor
  · intro h
    exact ⟨List.mem_of_find?_eq_some h, by simpa using List.find?_some h⟩
  · rintro ⟨hmem, rfl⟩
    cases hfound : registry.find descriptor.name with
    | none =>
        have hnone := List.find?_eq_none.1 hfound descriptor hmem
        simp at hnone
    | some found =>
        have hfoundMem := List.mem_of_find?_eq_some hfound
        have hname : found.name = descriptor.name := by simpa using List.find?_some hfound
        rw [List.inj_on_of_nodup_map registry.names_nodup hfoundMem hmem hname]

theorem find_eq_none_iff {registry : RelationRegistry hash} {name : Bytes} :
    registry.find name = none ↔ name ∉ registry.descriptors.map RelationDescriptor.name := by
  rw [find, List.find?_eq_none, List.mem_map]
  constructor
  · rintro h ⟨descriptor, hmem, rfl⟩
    exact h descriptor hmem (beq_self_eq_true _)
  · intro h descriptor hmem hname
    exact h ⟨descriptor, hmem, beq_iff_eq.1 hname⟩

/-- The registry with one more descriptor, under a name of its own. -/
def insert (registry : RelationRegistry hash) (descriptor : RelationDescriptor)
    (hvalid : descriptor.validate hash = .ok ())
    (hfresh : registry.find descriptor.name = none) : RelationRegistry hash where
  descriptors := sortBy nameLess (descriptor :: registry.descriptors)
  ordered := by
    rw [List.pairwise_map]
    refine sortBy_pairwise_lt nameLess_compares ?_
    rw [List.map_cons, List.nodup_cons]
    exact ⟨find_eq_none_iff.1 hfresh, registry.names_nodup⟩
  valid := by
    intro other hother
    rw [mem_sortBy, List.mem_cons] at hother
    rcases hother with rfl | hother
    · exact hvalid
    · exact registry.valid other hother
  flag := registry.flag

/-- `relation_registry::add` -/
def add (flags : Flags) (registry : RelationRegistry hash) (descriptor : RelationDescriptor) :
    Result (RelationRegistry hash) := do
  reject (registry.frozen flags) (relationError "sdk.registry-frozen" descriptor.name)
  let descriptor ← @bindDigest hash descriptor
  match hvalid : descriptor.validate hash with
  | .error error => .error error
  | .ok () =>
    match hfound : registry.find descriptor.name with
    | some found =>
      if found = descriptor then
        .error (relationError "sdk.duplicate-descriptor" descriptor.name)
      else .error (relationError "sdk.descriptor-conflict" descriptor.name found.id)
    | none => .ok (registry.insert descriptor hvalid hfound)

/-- A descriptor with a valid digest is added as it is. -/
theorem bindDigest_of_validate {descriptor : RelationDescriptor}
    (h : descriptor.validate hash = .ok ()) :
    @bindDigest hash descriptor = .ok descriptor := by
  have hbound : descriptor.bound hash = true := by
    simp only [RelationDescriptor.validate, RelationDescriptor.validateContract, bind_eq_ok_iff,
      Unique.exists_iff, PUnit.default_eq_unit] at h
    obtain ⟨-, -, -, ⟨-, hcontract⟩, -, -, -, -, -, -, -, -, -, -, -, -, -, hlast⟩ := h
    by_cases hempty : descriptor.contractCanonical.isEmpty = true
    · rw [if_pos hempty, reject_eq_ok_iff, Bool.not_eq_false'] at hlast
      exact hlast
    · rw [if_pos (by simpa using hempty)] at hcontract
      simp only [seq_eq_ok_iff, reject_eq_ok_iff, Bool.not_eq_false'] at hcontract
      exact hcontract.2
  have hdigest : descriptor.descriptorDigest ≠ [] := by
    rw [RelationDescriptor.bound] at hbound
    split at hbound
    · cases hbound
    · rename_i expected hexpected
      rw [beq_iff_eq.1 hbound]
      rw [descriptorBinding, semanticDigest, guard_eq_ok_iff, bind_eq_ok_iff] at hexpected
      obtain ⟨-, framed, -, hexpected⟩ := hexpected
      obtain rfl := Except.ok.inj hexpected
      simp [ascii]
  rw [bindDigest, if_neg hdigest]

/-- A valid descriptor under a new name is added. -/
theorem add_of_validate {flags : Flags} {registry : RelationRegistry hash}
    {descriptor : RelationDescriptor} (hopen : registry.frozen flags = false)
    (hvalid : descriptor.validate hash = .ok ()) (hfresh : registry.find descriptor.name = none) :
    registry.add flags descriptor = .ok (registry.insert descriptor hvalid hfresh) := by
  simp only [add, hopen, bindDigest_of_validate hvalid, ok_bind]
  rw [seq_eq_ok_iff]
  refine ⟨rfl, ?_⟩
  split
  · rename_i error herror
    rw [hvalid] at herror
    cases herror
  · split
    · rename_i found hfound
      rw [hfresh] at hfound
      cases hfound
    · rfl

/-- Valid descriptors under different names can all be added, in any order. -/
theorem exists_addAll {flags : Flags} (added : List RelationDescriptor) :
    ∀ {registry : RelationRegistry hash}, registry.frozen flags = false →
      (∀ descriptor ∈ added, descriptor.validate hash = .ok ()) →
      ((added ++ registry.descriptors).map RelationDescriptor.name).Nodup →
        ∃ next, added.foldlM (fun registry => registry.add flags) registry = .ok next ∧
          next.flag = registry.flag ∧ next.descriptors.Perm (added ++ registry.descriptors) := by
  induction added with
  | nil => exact fun _ _ _ => ⟨_, rfl, rfl, List.Perm.refl _⟩
  | cons descriptor rest ih =>
      intro registry hopen hvalid hnodup
      obtain ⟨hfirst, hrest⟩ := List.forall_mem_cons.1 hvalid
      rw [List.cons_append, List.map_cons, List.nodup_cons, List.map_append, List.mem_append,
        not_or] at hnodup
      have hfresh := find_eq_none_iff.2 hnodup.1.2
      have hperm : (rest ++ (registry.insert descriptor hfirst hfresh).descriptors).Perm
          (descriptor :: rest ++ registry.descriptors) :=
        (((sortBy_perm _ _).append_left rest).trans List.perm_middle)
      obtain ⟨next, hnext, hflag, hmembers⟩ := @ih (registry.insert descriptor hfirst hfresh) hopen
        hrest ((hperm.map _).nodup_iff.2 (by
          rw [List.cons_append, List.map_cons, List.nodup_cons, List.map_append, List.mem_append,
            not_or]
          exact hnodup))
      refine ⟨next, ?_, hflag, hmembers.trans hperm⟩
      rw [List.foldlM_cons, add_of_validate hopen hfirst hfresh]
      exact hnext

/-! ## Building -/

/-- Identifiers and digests, in the order of the identifiers. -/
def inventory (registry : RelationRegistry hash) : List (Bytes × Bytes) :=
  sortBy (fun left right => bytesLess left.1 right.1)
    (registry.descriptors.map fun descriptor => (descriptor.id, descriptor.descriptorDigest))

/-- The first identifier that stands next to itself. -/
def adjacentDuplicate : List (Bytes × Bytes) → Option Bytes
  | first :: second :: rest =>
    if first.1 = second.1 then some second.1 else adjacentDuplicate (second :: rest)
  | _ => none

/-- Two columns of a reference. -/
def columnsMatch (descriptor target : RelationDescriptor) (reference : RelationReferenceDescriptor)
    (columns : Bytes × Bytes) : Bool :=
  match descriptor.column columns.1, target.column columns.2 with
  | .ok sourceColumn, .ok targetColumn =>
    if reference.containerElements = true then
      containerTargetTypeMatches sourceColumn.type targetColumn.type
    else sourceColumn.type.scalar == targetColumn.type.scalar &&
      sourceColumn.type.parameter == targetColumn.type.parameter
  | _, _ => false

/-- A reference of a descriptor. -/
def checkReference (registry : RelationRegistry hash) (descriptor : RelationDescriptor)
    (reference : RelationReferenceDescriptor) : Result Unit :=
  match registry.find reference.targetRelation with
  | none => reject (reference.strength == .hard)
      (relationError "sdk.registry-reference-missing" descriptor.name reference.targetRelation)
  | some target => firstError (fun columns => reject (!columnsMatch descriptor target reference columns)
      (relationError "sdk.reference-invalid" descriptor.name reference.targetRelation))
      (List.zip reference.sourceColumns reference.targetColumns)

/-- The relations that `visit` goes on to. -/
def hardTargets (registry : RelationRegistry hash) (name : Bytes) : List Bytes :=
  match registry.find name with
  | none => []
  | some descriptor =>
    (descriptor.references.filter fun reference =>
      reference.strength == .hard && (registry.find reference.targetRelation).isSome).map
        RelationReferenceDescriptor.targetRelation

/-- `visit`, for every descriptor -/
def visitAll (registry : RelationRegistry hash) : Result Unit :=
  match DepthFirst.search registry.hardTargets
      (fun name => relationError "sdk.hard-reference-cycle" name)
      (registry.descriptors.map RelationDescriptor.name) with
  | .error error => .error error
  | .ok _ => .ok ()

/-- The checks of `build`. -/
def checkBuild (flags : Flags) (registry : RelationRegistry hash) (generation : Bytes) :
    Result Unit := do
  reject (registry.frozen flags) (relationError "sdk.registry-frozen" "registry")
  reject generation.isEmpty (relationError "sdk.engine-generation-invalid" "generation")
  reject registry.descriptors.isEmpty (relationError "sdk.registry-empty" "registry")
  match adjacentDuplicate registry.inventory with
  | some id => .error (relationError "sdk.duplicate-descriptor" id)
  | none => .ok ()
  firstError (fun descriptor => firstError (registry.checkReference descriptor) descriptor.references)
    registry.descriptors
  registry.visitAll

theorem id_of_validate {descriptor : RelationDescriptor}
    (h : descriptor.validate hash = .ok ()) :
    descriptor.id = descriptor.name ++ ascii ".v" ++
      CanonicalValue.decimal descriptor.semanticMajor.toNat := by
  simp only [RelationDescriptor.validate, bind_eq_ok_iff, Unique.exists_iff,
    PUnit.default_eq_unit, reject_eq_ok_iff, bne_eq_false_iff_eq] at h
  exact h.2.2.2.2.2.2.1

/-- An identifier says the name in front of its last dot. -/
theorem name_of_id {left right : RelationDescriptor} (hleft : left.validate hash = .ok ())
    (hright : right.validate hash = .ok ()) (h : left.id = right.id) : left.name = right.name := by
  have hmarker : ascii ".v" = [0x2e, 0x76] := rfl
  have hdot : ∀ value : Nat, (0x2e : UInt8) ∉ 0x76 :: CanonicalValue.decimal value := by
    intro value hmem
    rcases List.mem_cons.1 hmem with heq | hmem
    · exact absurd heq (by decide)
    · exact dot_not_mem_decimal value hmem
  rw [id_of_validate hleft, id_of_validate hright, hmarker, List.append_assoc, List.append_assoc]
    at h
  exact (split_at_last (hdot _) (hdot _) h).1

theorem ids_nodup (registry : RelationRegistry hash) :
    (registry.descriptors.map RelationDescriptor.id).Nodup := by
  refine (List.nodup_map_iff_inj_on (List.Nodup.of_map _ registry.names_nodup)).2 ?_
  intro a ha b hb h
  have hname := name_of_id (registry.valid a ha) (registry.valid b hb) h
  exact List.inj_on_of_nodup_map registry.names_nodup ha hb hname

/-- What `semantic_digest` is asked for. -/
def registryDigest (registry : RelationRegistry hash) : Result Bytes :=
  semanticDigest hash "cxxlens.relation-registry.v1"
    (registry.inventory.flatMap fun entry => entry.1 ++ ascii "=" ++ entry.2 ++ ascii "\n")

/-- `*frozen_ = true` -/
def freeze (flags : Flags) (registry : RelationRegistry hash) : Flags :=
  match registry.flag with
  | none => flags
  | some flag => Function.update flags flag true

/-- `relation_registry::build` -/
def build (flags : Flags) (registry : RelationRegistry hash) (generation : Bytes) :
    Result (BuiltEngine hash) × Flags :=
  match registry.checkBuild flags generation with
  | .error error => (.error error, flags)
  | .ok () =>
    (.ok { descriptors := registry.descriptors, ordered := registry.ordered,
           valid := registry.valid, distinct := registry.ids_nodup,
           registryDigest := registry.registryDigest, generation := generation },
      registry.freeze flags)

/-! ## Conditions on the references -/

/-- Every hard reference has a registered target. -/
def HardTargetsRegistered (registry : RelationRegistry hash) : Prop :=
  ∀ descriptor ∈ registry.descriptors, ∀ reference ∈ descriptor.references,
    reference.strength = .hard →
      ∃ target ∈ registry.descriptors, target.name = reference.targetRelation

/-- Two types that a reference may pair; the source of a container reference is a set, and its
    elements are what the target has. -/
def TypesMatch (reference : RelationReferenceDescriptor) (source target : ValueType) : Prop :=
  if reference.containerElements = true then
    source.scalar = .set ∧ target.optional = false ∧
      source.parameter =
        if target.scalar = .typedId then target.parameter else target.canonicalName
  else source.scalar = target.scalar ∧ source.parameter = target.parameter

/-- Every reference to a registered target pairs existing columns of matching types. -/
def ColumnsPaired (registry : RelationRegistry hash) : Prop :=
  ∀ descriptor ∈ registry.descriptors, ∀ reference ∈ descriptor.references,
    ∀ target ∈ registry.descriptors, target.name = reference.targetRelation →
      ∀ columns ∈ List.zip reference.sourceColumns reference.targetColumns,
        ∃ sourceColumn targetColumn, descriptor.column columns.1 = .ok sourceColumn ∧
          target.column columns.2 = .ok targetColumn ∧
          TypesMatch reference sourceColumn.type targetColumn.type

/-- A hard reference between registered relations. -/
def HardReference (registry : RelationRegistry hash) (source target : Bytes) : Prop :=
  (∃ descriptor ∈ registry.descriptors, descriptor.name = source ∧
    ∃ reference ∈ descriptor.references,
      reference.strength = .hard ∧ reference.targetRelation = target) ∧
    ∃ descriptor ∈ registry.descriptors, descriptor.name = target

/-- No relation refers to itself, over any number of hard references. -/
def Acyclic (registry : RelationRegistry hash) : Prop :=
  ∀ name, ¬ TransGen registry.HardReference name name

/-! ## What the checks ask for -/

theorem containerTargetTypeMatches_eq_true_iff {source target : ValueType} :
    containerTargetTypeMatches source target = true ↔
      source.scalar = .set ∧ target.optional = false ∧ source.parameter =
        if target.scalar = .typedId then target.parameter else target.canonicalName := by
  rw [containerTargetTypeMatches, Bool.and_eq_true, Bool.and_eq_true, beq_iff_eq,
    Bool.not_eq_true', and_assoc]
  refine and_congr_right fun _ => and_congr_right fun _ => ?_
  by_cases htyped : target.scalar = .typedId
  · rw [if_pos (beq_iff_eq.2 htyped), if_pos htyped, beq_iff_eq, eq_comm]
  · rw [if_neg (mt beq_iff_eq.1 htyped), if_neg htyped, beq_iff_eq, eq_comm]

theorem columnsMatch_eq_true_iff {descriptor target : RelationDescriptor}
    {reference : RelationReferenceDescriptor} {columns : Bytes × Bytes} :
    columnsMatch descriptor target reference columns = true ↔
      ∃ sourceColumn targetColumn, descriptor.column columns.1 = .ok sourceColumn ∧
        target.column columns.2 = .ok targetColumn ∧
        TypesMatch reference sourceColumn.type targetColumn.type := by
  rw [columnsMatch]
  cases hsource : descriptor.column columns.1 with
  | error error => simp
  | ok sourceColumn =>
      cases htarget : target.column columns.2 with
      | error error => simp
      | ok targetColumn =>
          have htypes : (if reference.containerElements = true then
              containerTargetTypeMatches sourceColumn.type targetColumn.type
            else sourceColumn.type.scalar == targetColumn.type.scalar &&
              sourceColumn.type.parameter == targetColumn.type.parameter) = true ↔
                TypesMatch reference sourceColumn.type targetColumn.type := by
            rw [TypesMatch]
            by_cases hcontainer : reference.containerElements = true
            · rw [if_pos hcontainer, if_pos hcontainer]
              exact containerTargetTypeMatches_eq_true_iff
            · rw [if_neg hcontainer, if_neg hcontainer, Bool.and_eq_true, beq_iff_eq, beq_iff_eq]
          simp only [htypes]
          constructor
          · exact fun h => ⟨sourceColumn, targetColumn, rfl, rfl, h⟩
          · rintro ⟨_, _, hfirst, hsecond, h⟩
            obtain rfl := Except.ok.inj hfirst
            obtain rfl := Except.ok.inj hsecond
            exact h

theorem checkReference_eq_ok_iff {registry : RelationRegistry hash}
    {descriptor : RelationDescriptor} {reference : RelationReferenceDescriptor} :
    registry.checkReference descriptor reference = .ok () ↔
      (reference.strength = .hard →
        ∃ target ∈ registry.descriptors, target.name = reference.targetRelation) ∧
      ∀ target ∈ registry.descriptors, target.name = reference.targetRelation →
        ∀ columns ∈ List.zip reference.sourceColumns reference.targetColumns,
          columnsMatch descriptor target reference columns = true := by
  rw [checkReference]
  cases hfound : registry.find reference.targetRelation with
  | none =>
      have hmissing : ∀ target ∈ registry.descriptors, target.name ≠ reference.targetRelation :=
        fun target hmem hname => find_eq_none_iff.1 hfound (List.mem_map.2 ⟨target, hmem, hname⟩)
      simp only [reject_eq_ok_iff, beq_eq_false_iff_ne]
      constructor
      · intro hsoft
        exact ⟨fun hhard => absurd hhard hsoft, fun target hmem hname =>
          absurd hname (hmissing target hmem)⟩
      · rintro ⟨hregistered, -⟩ hhard
        obtain ⟨target, hmem, hname⟩ := hregistered hhard
        exact hmissing target hmem hname
  | some target =>
      obtain ⟨hmem, hname⟩ := find_eq_some_iff.1 hfound
      simp only [firstError_eq_ok_iff, reject_eq_ok_iff, Bool.not_eq_false']
      constructor
      · intro h
        refine ⟨fun _ => ⟨target, hmem, hname⟩, fun other hother hotherName => ?_⟩
        obtain rfl := List.inj_on_of_nodup_map registry.names_nodup hother hmem
          (hotherName.trans hname.symm)
        exact h
      · exact fun h => h.2 target hmem hname

theorem checkReferences_eq_ok_iff {registry : RelationRegistry hash} :
    firstError (fun descriptor =>
        firstError (registry.checkReference descriptor) descriptor.references)
      registry.descriptors = .ok () ↔
      registry.HardTargetsRegistered ∧ registry.ColumnsPaired := by
  simp only [firstError_eq_ok_iff, checkReference_eq_ok_iff, HardTargetsRegistered, ColumnsPaired,
    columnsMatch_eq_true_iff]
  constructor
  · exact fun h => ⟨fun descriptor hmem reference href => (h descriptor hmem reference href).1,
      fun descriptor hmem reference href => (h descriptor hmem reference href).2⟩
  · exact fun h descriptor hmem reference href =>
      ⟨h.1 descriptor hmem reference href, h.2 descriptor hmem reference href⟩

/-- `visit` follows the hard references between registered relations. -/
theorem mem_hardTargets_iff {registry : RelationRegistry hash} {source target : Bytes} :
    target ∈ registry.hardTargets source ↔ registry.HardReference source target := by
  rw [hardTargets, HardReference]
  cases hfound : registry.find source with
  | none =>
      have hmissing := find_eq_none_iff.1 hfound
      rw [List.mem_map] at hmissing
      refine iff_of_false (by simp) ?_
      rintro ⟨⟨descriptor, hmem, hname, -⟩, -⟩
      exact hmissing ⟨descriptor, hmem, hname⟩
  | some found =>
      obtain ⟨hmem, hname⟩ := find_eq_some_iff.1 hfound
      simp only [List.mem_map, List.mem_filter, Bool.and_eq_true, beq_iff_eq,
        Option.isSome_iff_exists, find_eq_some_iff]
      constructor
      · rintro ⟨reference, ⟨href, hhard, other, hother⟩, rfl⟩
        exact ⟨⟨found, hmem, hname, reference, href, hhard, rfl⟩, other, hother⟩
      · rintro ⟨⟨descriptor, hdescriptor, hsource, reference, href, hhard, rfl⟩, other, hother⟩
        obtain rfl := List.inj_on_of_nodup_map registry.names_nodup hdescriptor hmem
          (hsource.trans hname.symm)
        exact ⟨reference, ⟨href, hhard, other, hother⟩, rfl⟩

/-- The search of `build` fails exactly where the hard references have a cycle. -/
theorem visitAll_eq_ok_iff {registry : RelationRegistry hash} :
    registry.visitAll = .ok () ↔ registry.Acyclic := by
  have hclosed : ∀ name ∈ registry.descriptors.map RelationDescriptor.name,
      ∀ target ∈ registry.hardTargets name,
        target ∈ registry.descriptors.map RelationDescriptor.name := by
    intro name _ target htarget
    obtain ⟨-, descriptor, hmem, hname⟩ := mem_hardTargets_iff.1 htarget
    exact List.mem_map.2 ⟨descriptor, hmem, hname⟩
  have hedges : DepthFirst.Edge registry.hardTargets = registry.HardReference := by
    funext source target
    exact propext mem_hardTargets_iff
  have hvisit : registry.visitAll = .ok () ↔ (DepthFirst.search registry.hardTargets
      (fun name => relationError "sdk.hard-reference-cycle" name)
      (registry.descriptors.map RelationDescriptor.name)).isOk = true := by
    rw [visitAll]
    split
    · rename_i error herror
      simp [herror, Except.isOk, Except.toBool]
    · rename_i colors hcolors
      simp [hcolors, Except.isOk, Except.toBool]
  rw [hvisit, DepthFirst.search_isOk_iff hclosed, hedges, Acyclic]
  constructor
  · intro h name hcycle
    -- A name on a cycle has a reference, and so is registered.
    obtain ⟨next, ⟨⟨descriptor, hmem, hname, -⟩, -⟩, -⟩ := TransGen.head'_iff.1 hcycle
    exact h name (List.mem_map.2 ⟨descriptor, hmem, hname⟩) hcycle
  · exact fun h name _ => h name

theorem adjacentDuplicate_eq_none {items : List (Bytes × Bytes)}
    (h : (items.map Prod.fst).Nodup) : adjacentDuplicate items = none := by
  induction items with
  | nil => rfl
  | cons first rest ih =>
      cases rest with
      | nil => rfl
      | cons second rest =>
          rw [List.map_cons, List.nodup_cons] at h
          have hne : first.1 ≠ second.1 := by
            intro heq
            exact h.1 (heq ▸ List.mem_cons_self)
          rw [adjacentDuplicate, if_neg hne, ih h.2]

/-- Valid descriptors under different names have different identifiers. -/
theorem adjacentDuplicate_inventory (registry : RelationRegistry hash) :
    adjacentDuplicate registry.inventory = none := by
  refine adjacentDuplicate_eq_none ?_
  rw [inventory, ((sortBy_perm _ _).map Prod.fst).nodup_iff, List.map_map]
  exact registry.ids_nodup

theorem checkBuild_eq_ok_iff {flags : Flags} {registry : RelationRegistry hash}
    {generation : Bytes} :
    registry.checkBuild flags generation = .ok () ↔
      registry.frozen flags = false ∧ generation ≠ [] ∧ registry.descriptors ≠ [] ∧
        registry.HardTargetsRegistered ∧ registry.ColumnsPaired ∧ registry.Acyclic := by
  rw [checkBuild]
  simp only [adjacentDuplicate_inventory, seq_eq_ok_iff, reject_eq_ok_iff,
    List.isEmpty_eq_false_iff, checkReferences_eq_ok_iff, visitAll_eq_ok_iff, true_and, and_assoc]

/-! ## The result -/

theorem frozen_freeze {flags : Flags} {registry other : RelationRegistry hash}
    (h : other.flag = registry.flag) : other.frozen (registry.freeze flags) = true := by
  rw [frozen, freeze, h]
  cases registry.flag with
  | none => rfl
  | some flag => exact Function.update_self ..

/-- **Building succeeds exactly on resolved, acyclic references**, once there is a descriptor and a
generation; and a registry that was built is frozen, with every copy. -/
theorem build_isOk_iff (flags : Flags) (registry : RelationRegistry hash) (generation : Bytes) :
    ((registry.build flags generation).1.isOk = true ↔
      registry.frozen flags = false ∧ generation ≠ [] ∧ registry.descriptors ≠ [] ∧
        registry.HardTargetsRegistered ∧ registry.ColumnsPaired ∧ registry.Acyclic) ∧
      ((registry.build flags generation).1.isOk = true → ∀ copy : RelationRegistry hash,
        copy.flag = registry.flag → copy.frozen (registry.build flags generation).2 = true) := by
  rw [← checkBuild_eq_ok_iff, build]
  cases hcheck : registry.checkBuild flags generation with
  | error error => simp [Except.isOk, Except.toBool]
  | ok value =>
      refine ⟨iff_of_true rfl rfl, fun _ copy hcopy => ?_⟩
      exact frozen_freeze hcopy

/-- Without a descriptor there is nothing to build, though no reference is wrong. -/
theorem build_fresh_registry :
    ¬ ∀ (flags : Flags) (registry : RelationRegistry id) (generation : Bytes),
      registry.frozen flags = false → generation ≠ [] →
        ((registry.build flags generation).1.isOk = true ↔
          registry.HardTargetsRegistered ∧ registry.ColumnsPaired ∧ registry.Acyclic) := by
  intro h
  have hbuild := h (fun _ => false) (fresh id 0) "generation" rfl (by decide)
  have hnone : ∀ {descriptor}, descriptor ∉ (fresh id 0).descriptors := List.not_mem_nil
  have hfails : ((fresh id 0).build (fun _ => false) "generation").1.isOk = false := rfl
  rw [hfails] at hbuild
  refine Bool.false_ne_true (hbuild.2 ⟨?_, ?_, ?_⟩)
  · exact fun descriptor hmem => absurd hmem hnone
  · exact fun descriptor hmem => absurd hmem hnone
  · intro name hcycle
    obtain ⟨next, ⟨⟨descriptor, hmem, -⟩, -⟩, -⟩ := TransGen.head'_iff.1 hcycle
    exact hnone hmem

end RelationRegistry

end Cxxlens.Sdk
