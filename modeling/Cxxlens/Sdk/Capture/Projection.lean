import Cxxlens.Sdk.Capture.Limits

set_option autoImplicit false

/-! # Decoded captures

The parts of `application_analysis_internal.hpp` that replay planning reads. -/

namespace Cxxlens.Sdk.Capture

/-- `decoded_capture_path_mapping` -/
structure DecodedCapturePathMapping where
  physicalPrefix : Bytes
  logicalPrefix : Bytes
  deriving DecidableEq, Repr

/-- `decoded_capture_auxiliary_file` -/
structure DecodedCaptureAuxiliaryFile where
  logicalPath : Bytes
  contentDigest : Option Bytes
  deriving DecidableEq, Repr

/-- `decoded_capture_source_member` -/
structure DecodedCaptureSourceMember where
  logicalPath : Bytes
  content : Bytes
  deriving DecidableEq, Repr

/-- `decoded_capture_source_closure` -/
structure DecodedCaptureSourceClosure where
  id : Bytes
  members : List DecodedCaptureSourceMember
  deriving DecidableEq, Repr

/-- `decoded_capture_environment_effect` -/
structure DecodedCaptureEnvironmentEffect where
  name : Bytes
  state : Bytes
  deriving DecidableEq, Repr

/-- `decoded_capture_unit` -/
structure DecodedCaptureUnit where
  compileUnitId : Bytes
  sourceLogicalPath : Bytes
  logicalWorkingDirectory : Bytes
  originalArguments : Option (List Bytes)
  responseFiles : List DecodedCaptureAuxiliaryFile
  environmentEffects : List DecodedCaptureEnvironmentEffect
  languageStandard : Option Bytes
  extensionMode : Option Bytes
  sourceClosureId : Bytes
  deriving DecidableEq, Repr

/-- `decoded_capture_projection` -/
structure DecodedCaptureProjection where
  pathMappings : List DecodedCapturePathMapping
  sourceClosures : List DecodedCaptureSourceClosure
  deriving DecidableEq, Repr

/-- `capture_gap` -/
structure CaptureGap where
  field : Bytes
  state : Bytes
  reason : Bytes
  completionAction : Bytes
  deriving DecidableEq, Repr

/-- `replay_fidelity` -/
inductive ReplayFidelity where
  | exact
  | semanticsPreserving
  | approximation
  | unsupported
  | nonsemantic
  deriving DecidableEq, Repr

/-- `replay_option_mapping` -/
structure ReplayOptionMapping where
  productionToken : Bytes := []
  replayTokens : List Bytes := []
  fidelity : ReplayFidelity := .unsupported
  affectedScope : Bytes := []
  reason : Bytes := []
  completionAction : Bytes := []
  deriving DecidableEq, Repr

end Cxxlens.Sdk.Capture
