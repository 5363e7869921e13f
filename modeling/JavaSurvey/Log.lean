set_option autoImplicit false

namespace JavaSurvey

inductive LogLevel where
  | trace | debug | info | success | warning | error | critical
  deriving DecidableEq, Repr, Inhabited

namespace LogLevel

def rank : LogLevel → Nat
  | trace => 5
  | debug => 10
  | info => 20
  | success => 25
  | warning => 30
  | error => 40
  | critical => 50

def name : LogLevel → String
  | trace => "TRACE"
  | debug => "DEBUG"
  | info => "INFO"
  | success => "SUCCESS"
  | warning => "WARNING"
  | error => "ERROR"
  | critical => "CRITICAL"

def all : List LogLevel := [trace, debug, info, success, warning, error, critical]

def ofName? (s : String) : Option LogLevel := all.find? (·.name == s)

end LogLevel

structure LogRecord where
  level : LogLevel
  /-- Where it was written. -/
  origin : String
  message : String
  deriving DecidableEq, Repr, Inhabited

namespace LogRecord

/-- The name of the level takes eight columns. -/
def line (r : LogRecord) : String :=
  let name := r.level.name
  name ++ String.ofList (List.replicate (8 - name.length) ' ') ++ " | " ++ r.origin ++ " - " ++
    r.message ++ "\n"

def lines (least : LogLevel) (rs : List LogRecord) : String :=
  String.join ((rs.filter fun r => decide (least.rank ≤ r.level.rank)).map line)

end LogRecord

end JavaSurvey
