import Cxxlens.Sdk.CanonicalValue

set_option autoImplicit false

/-! # JSON values and limits

The DOM of `bounded_json_internal.hpp` and the policies of its parser. Floating-point numbers are
absent; an object is a `std::map` and keeps its members in the order of their names. -/

namespace Cxxlens.Sdk.Json

/-- `utf8_byte_less`: the first byte that differs decides, then the length. -/
def utf8ByteLess : Bytes → Bytes → Bool
  | [], right => decide (right ≠ [])
  | _ :: _, [] => false
  | left :: lefts, right :: rights =>
    if left ≠ right then decide (left < right) else utf8ByteLess lefts rights

/-- `json_limits` -/
structure JsonLimits where
  maxInputBytes : SizeT := 16777216
  maxDepth : SizeT := 64
  maxArrayElements : SizeT := 16384
  maxObjectMembers : SizeT := 16384
  maxStringBytes : SizeT := 8388608
  maxTotalStringBytes : SizeT := 16777216
  maxTotalValues : SizeT := 262144
  deriving DecidableEq, Repr

/-- `json_number_syntax` -/
inductive JsonNumberSyntax where
  | integerTokens
  | exactIntegerValues
  deriving DecidableEq, Repr

/-- `json_depth_semantics` -/
inductive JsonDepthSemantics where
  | allValues
  | containers
  deriving DecidableEq, Repr

/-- `json_parse_contract` -/
structure JsonParseContract where
  errorCode : Bytes := ascii "sdk.json-invalid"
  errorField : Bytes := ascii "input"
  includeByteOffset : Bool := true
  requireTopLevelObject : Bool := true
  rejectUtf8Bom : Bool := true
  numbers : JsonNumberSyntax := .exactIntegerValues
  depth : JsonDepthSemantics := .containers
  deriving DecidableEq, Repr

/-- `json_value`, as its equality sees it -/
inductive JsonValue where
  | null
  | boolean (value : Bool)
  | signedInteger (value : Int64)
  | unsignedInteger (value : UInt64)
  | string (value : Bytes)
  | array (items : List JsonValue)
  | object (members : List (Bytes × JsonValue))
  deriving Repr

/-- The members of an object in some order. -/
abbrev Members := List (Bytes × JsonValue)

/-- `json_error` -/
def jsonError (contract : JsonParseContract) (reason : Bytes) (offset : Nat) : Error where
  code := contract.errorCode
  field := contract.errorField
  detail :=
    if contract.includeByteOffset = true then
      reason ++ ":byte=" ++ CanonicalValue.decimal offset
    else reason

/-- `json_value_error` -/
def jsonValueError (reason : Bytes) (offset : Nat) : Error where
  code := "sdk.json-value-invalid"
  field := "value"
  detail := reason ++ ":byte=" ++ CanonicalValue.decimal offset

/-- `json_value::string` -/
def JsonValue.ofString (value : Bytes) : Result JsonValue :=
  match invalidUtf8Offset value with
  | some invalid => .error (jsonValueError "invalid-utf8" invalid)
  | none => .ok (.string value)

/-- The loop of `json_value::object` over the names. -/
def checkNames : Members → Result Unit
  | [] => .ok ()
  | (name, _) :: rest =>
    match invalidUtf8Offset name with
    | some invalid => .error (jsonValueError "invalid-utf8-object-key" invalid)
    | none => checkNames rest

/-- `json_value::object` -/
def JsonValue.ofMembers (members : Members) : Result JsonValue := do
  checkNames members
  .ok (.object members)

/-- `object_type::contains` -/
def containsName (members : Members) (name : Bytes) : Bool :=
  members.any fun member => member.1 == name

/-- `object_type::emplace` -/
def emplace (name : Bytes) (value : JsonValue) : Members → Members
  | [] => [(name, value)]
  | member :: rest =>
    if utf8ByteLess name member.1 = true then (name, value) :: member :: rest
    else if utf8ByteLess member.1 name = true then member :: emplace name value rest
    else member :: rest

/-- `as_object() != nullptr` -/
def JsonValue.isObject : JsonValue → Bool
  | .object _ => true
  | _ => false

/-! ## Induction on values -/

/-- Induction on a value through its elements and members. -/
theorem JsonValue.induct {P : JsonValue → Prop} (null : P .null)
    (boolean : ∀ value, P (.boolean value)) (signed : ∀ value, P (.signedInteger value))
    (unsigned : ∀ value, P (.unsignedInteger value)) (string : ∀ value, P (.string value))
    (array : ∀ items : List JsonValue, (∀ item ∈ items, P item) → P (.array items))
    (object : ∀ members : Members, (∀ member ∈ members, P member.2) → P (.object members)) :
    ∀ value, P value := by
  intro value
  refine @JsonValue.rec P (fun items => ∀ item ∈ items, P item)
    (fun members => ∀ member ∈ members, P member.2) (fun member => P member.2)
    null boolean signed unsigned string array object ?_ ?_ ?_ ?_ ?_ value
  · intro item hitem
    exact absurd hitem (by simp)
  · intro head tail hhead htail item hitem
    rcases List.mem_cons.1 hitem with rfl | hmem
    · exact hhead
    · exact htail item hmem
  · intro member hmember
    exact absurd hmember (by simp)
  · intro head tail hhead htail member hmember
    rcases List.mem_cons.1 hmember with rfl | hmem
    · exact hhead
    · exact htail member hmem
  · intro name item hitem
    exact hitem

end Cxxlens.Sdk.Json
