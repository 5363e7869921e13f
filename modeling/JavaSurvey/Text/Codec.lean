set_option autoImplicit false

namespace JavaSurvey

/-- The text that bytes stand for, with what is malformed in them replaced, or why they are
refused. -/
abbrev Codec := List UInt8 → Except String String

/-- Why a name stands for no text encoding. -/
inductive EncodingFault where
  | unknown
  /-- It encodes something else than text. -/
  | notText
  /-- A name with a NUL in it. -/
  | refused
  deriving DecidableEq, Repr, Inhabited

def EncodingFault.message (name : String) : EncodingFault → String
  | .unknown => "unknown encoding: " ++ name
  | .notText => s!"'{name}' is not a text encoding; use codecs.open() to handle arbitrary codecs"
  | .refused => "embedded null character"

/-- The encodings of a system, by name. -/
abbrev Codecs := String → Except EncodingFault Codec

end JavaSurvey
