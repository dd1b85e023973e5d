import Cxxlens.Foundation.Sorting

set_option autoImplicit false

/-! # Bytes and results of the SDK

`std::string`, `std::string_view` and `std::span<const std::byte>` are byte strings here; the
source treats a `std::string` as bytes throughout and checks UTF-8 where it needs it. -/

namespace Cxxlens

/-- `std::vector<std::byte>`, and also `std::string`: a string is its bytes. -/
abbrev Bytes := List UInt8

instance instLawfulBEqByte : LawfulBEq UInt8 := inferInstance

instance instLawfulBEqBytes : LawfulBEq (List UInt8) := inferInstance

/-- The bytes of an ASCII string literal. -/
def ascii (literal : String) : Bytes :=
  literal.toList.map fun character => UInt8.ofNat character.toNat

instance : Coe String Bytes := ⟨ascii⟩

/-- `std::size_t` of the 64-bit targets. -/
abbrev SizeT := UInt64

namespace Sdk

/-- `sdk::error` -/
structure Error where
  code : Bytes
  field : Bytes
  detail : Bytes
  deriving DecidableEq, Repr

/-- `sdk::result<T>` -/
abbrev Result (α : Type) := Except Error α

end Sdk

end Cxxlens
