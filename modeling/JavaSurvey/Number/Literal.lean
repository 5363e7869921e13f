import JavaSurvey.Number.Binary64
import JavaSurvey.Number.Digits
import JavaSurvey.Text.Blank

set_option autoImplicit false

namespace JavaSurvey.Binary64

/-- Digits with single underscores between them, without the underscores. -/
def digitRun : List Char → List Char × List Char
  | '_' :: rest => ([], '_' :: rest)
  | cs => go cs
where
  go : List Char → List Char × List Char
    | c :: '_' :: d :: rest =>
      if c.isDigit then
        if d.isDigit then let (ds, left) := go (d :: rest); (c :: ds, left)
        else ([c], '_' :: d :: rest)
      else ([], c :: '_' :: d :: rest)
    | c :: rest =>
      if c.isDigit then let (ds, left) := go rest; (c :: ds, left) else ([], c :: rest)
    | [] => ([], [])

def splitSign : List Char → Bool × List Char
  | '-' :: rest => (true, rest)
  | '+' :: rest => (false, rest)
  | cs => (false, cs)

def power? : List Char → Option Int
  | [] => some 0
  | c :: rest =>
    if c = 'e' ∨ c = 'E' then
      let (s, rest) := splitSign rest
      match digitRun rest with
      | ([], _) => none
      | (ds, []) => some (if s then -(digitsValue ds : Int) else digitsValue ds)
      | _ => none
    else none

def ofText? (text : String) : Option Binary64 :=
  let (s, cs) := splitSign (Blank.trimList text.toList)
  let lower := String.ofList (cs.map Char.toLower)
  if lower = "inf" ∨ lower = "infinity" then some (.infinite s)
  else if lower = "nan" then some .nan
  else
    let (whole, rest) := digitRun cs
    let (part, rest) := match rest with
      | '.' :: more => digitRun more
      | _ => ([], rest)
    if whole ++ part = [] then none
    else (power? rest).map fun x => ofDecimal s (digitsValue (whole ++ part)) (x - part.length)

end JavaSurvey.Binary64
