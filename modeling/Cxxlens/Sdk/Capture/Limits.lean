import Cxxlens.Foundation.Fallible
import Cxxlens.Sdk.Result

set_option autoImplicit false

/-! # Import limits

The bounds of `application_analysis.hpp` that every reader of a capture checks before it keeps
anything, and the errors the capture readers share. Sizes are natural numbers: no reader lets a
total grow beyond the bound it is compared with. -/

namespace Cxxlens.Sdk.Capture

/-- `import_limits` -/
structure ImportLimits where
  maximumBundleBytes : Nat := 64 * 1024 * 1024
  maximumNestingDepth : Nat := 32
  maximumCompileUnits : Nat := 4096
  maximumArgumentsPerUnit : Nat := 4096
  maximumAuxiliaryFilesPerUnit : Nat := 4096
  maximumEnvironmentEffectsPerUnit : Nat := 1024
  maximumPathMappings : Nat := 4096
  maximumStringBytes : Nat := 4096
  maximumTotalMetadataBytes : Nat := 64 * 1024 * 1024
  maximumSourceClosureMembers : Nat := 4096
  maximumSourceClosures : Nat := 4096
  maximumSourceClosureBlobs : Nat := 4096
  maximumSourceClosureBytes : Nat := 48 * 1024 * 1024
  deriving DecidableEq, Repr

/-- `import_limits::validate` -/
def ImportLimits.validate (limits : ImportLimits) : Result Unit :=
  if limits.maximumBundleBytes = 0 ∨ limits.maximumNestingDepth = 0 ∨
      64 < limits.maximumNestingDepth ∨ limits.maximumCompileUnits = 0 ∨
      limits.maximumArgumentsPerUnit = 0 ∨ limits.maximumAuxiliaryFilesPerUnit = 0 ∨
      limits.maximumEnvironmentEffectsPerUnit = 0 ∨ limits.maximumPathMappings = 0 ∨
      limits.maximumStringBytes = 0 ∨ limits.maximumTotalMetadataBytes = 0 ∨
      limits.maximumSourceClosureMembers = 0 ∨ limits.maximumSourceClosures = 0 ∨
      limits.maximumSourceClosureBlobs = 0 ∨ limits.maximumSourceClosureBytes = 0 then
    .error
      { code := "application-analysis.import-limits-invalid", field := "limits", detail := [] }
  else .ok ()

/-- `invalid` of the readers of captured files -/
def inputInvalid (field detail : Bytes) : Error :=
  { code := "application-analysis.capture-input-invalid", field := field, detail := detail }

/-- `limit` -/
def limitExceeded (field detail : Bytes) : Error :=
  { code := "application-analysis.import-limit-exceeded", field := field, detail := detail }

/-- `ascii_space` -/
def asciiSpace (byte : UInt8) : Bool :=
  byte == 0x20 || byte == 0x09 || byte == 0x0a || byte == 0x0d || byte == 0x0c || byte == 0x0b

/-- What a list of texts has to fit into: each of them, all of them together, and their number,
    which every reader takes from another field of the limits. -/
structure ImportLimits.Admits (limits : ImportLimits) (maximumCount : Nat) (texts : List Bytes) :
    Prop where
  valid : limits.validate = .ok ()
  count : texts.length ≤ maximumCount
  each : ∀ text ∈ texts, text.length ≤ limits.maximumStringBytes
  total : (texts.map List.length).sum ≤ limits.maximumTotalMetadataBytes

namespace ImportLimits.Admits

variable {limits : ImportLimits} {maximumCount : Nat}

/-- A part of what fits fits. -/
theorem sublist {texts part : List Bytes} (h : limits.Admits maximumCount texts)
    (hpart : part.Sublist texts) : limits.Admits maximumCount part where
  valid := h.valid
  count := hpart.length_le.trans h.count
  each text htext := h.each text (hpart.subset htext)
  total := ((hpart.map List.length).sum_le_sum fun _ _ => Nat.zero_le _).trans h.total

/-- A shorter text fits in the place of a longer one. -/
theorem shorten {texts : List Bytes} {longer shorter : Bytes}
    (h : limits.Admits maximumCount (texts ++ [longer])) (hshorter : shorter.length ≤ longer.length) :
    limits.Admits maximumCount (texts ++ [shorter]) where
  valid := h.valid
  count := by simpa using h.count
  each text htext := by
    rcases List.mem_append.1 htext with htext | htext
    · exact h.each text (List.mem_append_left _ htext)
    · obtain rfl := List.mem_singleton.1 htext
      exact hshorter.trans (h.each longer (by simp))
  total := by
    have htotal := h.total
    simp only [List.map_append, List.map_cons, List.map_nil, List.sum_append, List.sum_cons,
      List.sum_nil] at htotal ⊢
    omega

end ImportLimits.Admits

end Cxxlens.Sdk.Capture
