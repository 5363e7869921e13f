import JavaSurvey.Text.Printable

set_option autoImplicit false

namespace JavaSurvey.Quoted

def hex : Nat → Nat → List Char
  | 0, _ => []
  | k + 1, n => hex k (n / 16) ++ [Nat.digitChar (n % 16)]

def escape (q : Char) (c : Char) : List Char :=
  if c = q ∨ c = '\\' then ['\\', c]
  else if c = '\n' then ['\\', 'n']
  else if c = '\r' then ['\\', 'r']
  else if c = '\t' then ['\\', 't']
  else if Printable.isPrintable c then [c]
  else if c.toNat < 0x100 then '\\' :: 'x' :: hex 2 c.toNat
  else if c.toNat < 0x10000 then '\\' :: 'u' :: hex 4 c.toNat
  else '\\' :: 'U' :: hex 8 c.toNat

def quoteMark (cs : List Char) : Char := if cs.contains '\'' && !cs.contains '"' then '"' else '\''

def quoteList (cs : List Char) : List Char :=
  quoteMark cs :: (cs.flatMap (escape (quoteMark cs)) ++ [quoteMark cs])

def quote (s : String) : String := String.ofList (quoteList s.toList)

end JavaSurvey.Quoted
