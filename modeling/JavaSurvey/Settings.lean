import JavaSurvey.Text.Upper

set_option autoImplicit false

namespace JavaSurvey

structure Settings where
  /-- Files whose names end so are sources. -/
  sourceSuffix : String := ".java"
  encoding : String := "utf-8"
  logLevel : String := "INFO"
  deriving DecidableEq, Repr, Inhabited

/-- Variables by name. -/
abbrev Environment := String → Option String

def Settings.names : List String :=
  ["CODE_ANALYZER_SOURCE_SUFFIX", "CODE_ANALYZER_ENCODING", "CODE_ANALYZER_LOG_LEVEL"]

def Settings.ofEnvironment (env : Environment) : Settings :=
  let usual : Settings := {}
  { sourceSuffix := (env "CODE_ANALYZER_SOURCE_SUFFIX").getD usual.sourceSuffix
    encoding := (env "CODE_ANALYZER_ENCODING").getD usual.encoding
    logLevel := Upper.upper ((env "CODE_ANALYZER_LOG_LEVEL").getD usual.logLevel) }

end JavaSurvey
