set_option autoImplicit false

namespace JavaSurvey

/-- A call by simple name. `receiver` is the text before the dot; `line` and `col` count from 0. -/
structure Call where
  name : String
  receiver : Option String := none
  line : Int := 0
  col : Int := 0
  deriving DecidableEq, Repr, Inhabited

structure Method where
  name : String
  lineCount : Int := 1
  paramCount : Int := 0
  /-- In source order. -/
  calls : List Call := []
  deriving DecidableEq, Repr, Inhabited

/-- A class or interface. -/
structure TypeFacts where
  name : String
  lineCount : Int := 1
  fieldCount : Int := 0
  methods : List Method := []
  deriving DecidableEq, Repr, Inhabited

structure Sheet where
  package : Option String := none
  types : List TypeFacts := []
  deriving DecidableEq, Repr, Inhabited

structure FileFault where
  path : String
  reason : String
  deriving DecidableEq, Repr, Inhabited

def FileFault.message (f : FileFault) : String := f.path ++ ": " ++ f.reason

abbrev SourceParser := String → String → Except FileFault Sheet

end JavaSurvey
