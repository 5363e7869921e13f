import JavaSurvey.Json.Value

set_option autoImplicit false

namespace JavaSurvey.Json

def isSpace (c : Char) : Bool := c == ' ' || c == '\n' || c == '\r' || c == '\t'

def skipSpace (cs : List Char) : List Char := cs.dropWhile isSpace

def hexValue? (c : Char) : Option Nat :=
  if '0' ≤ c ∧ c ≤ '9' then some (c.toNat - '0'.toNat)
  else if 'a' ≤ c ∧ c ≤ 'f' then some (c.toNat - 'a'.toNat + 10)
  else if 'A' ≤ c ∧ c ≤ 'F' then some (c.toNat - 'A'.toNat + 10)
  else none

def unit? (a b c d : Char) : Option Nat := do
  let a ← hexValue? a
  let b ← hexValue? b
  let c ← hexValue? c
  let d ← hexValue? d
  some (((a * 0x10 + b) * 0x10 + c) * 0x10 + d)

def shortEscape? (c : Char) : Option CodePoint :=
  ([('"', '"'), ('\\', '\\'), ('/', '/'), ('n', '\n'), ('r', '\r'), ('t', '\t'), ('b', '\x08'),
    ('f', '\x0c')].lookup c).map CodePoint.ofChar

def before {α : Type} (d : α) (found : Option (List α × List Char)) : Option (List α × List Char) :=
  found.map fun (ds, left) => (d :: ds, left)

/-- Reads up to the closing quote, with every escape as a code point of its own. -/
def readUnits : List Char → Option (List CodePoint × List Char)
  | [] => none
  | '"' :: rest => some ([], rest)
  | '\\' :: 'u' :: a :: b :: c :: d :: rest =>
    match unit? a b c d with
    | some n => before (.ofNat n) (readUnits rest)
    | none => none
  | '\\' :: c :: rest =>
    match shortEscape? c with
    | some d => before d (readUnits rest)
    | none => none
  | c :: rest =>
    if c.toNat < 0x20 ∨ c = '\\' then none else before (CodePoint.ofChar c) (readUnits rest)

/-- No character is a surrogate, so that those which are joined were escapes. -/
def readText (cs : List Char) : Option (List CodePoint × List Char) :=
  (readUnits cs).map fun (ps, left) => (CodePoint.joined ps, left)

/-! A number is read as its text and what is left after it. -/

def readDigits (cs : List Char) : Option (List Char × List Char) :=
  if cs.takeWhile Char.isDigit = [] then none
  else some (cs.takeWhile Char.isDigit, cs.dropWhile Char.isDigit)

/-- The digits before the point. A zero stands alone. -/
def readWhole : List Char → Option (List Char × List Char)
  | '0' :: rest => some (['0'], rest)
  | cs => readDigits cs

def readFraction : List Char → Option (List Char × List Char)
  | '.' :: rest => before '.' (readDigits rest)
  | cs => some ([], cs)

def readPower : List Char → Option (List Char × List Char)
  | [] => some ([], [])
  | c :: rest =>
    if c = 'e' ∨ c = 'E' then
      match rest with
      | '+' :: rest => before c (before '+' (readDigits rest))
      | '-' :: rest => before c (before '-' (readDigits rest))
      | rest => before c (readDigits rest)
    else some ([], c :: rest)

def readUnsigned (cs : List Char) : Option (List Char × List Char) := do
  let (whole, cs) ← readWhole cs
  let (fraction, cs) ← readFraction cs
  let (power, cs) ← readPower cs
  return (whole ++ fraction ++ power, cs)

def readNumber : List Char → Option (List Char × List Char)
  | '-' :: rest => before '-' (readUnsigned rest)
  | cs => readUnsigned cs

/-- Digits alone, or with a minus before them, are an integer. -/
def ofNumeral (cs : List Char) : Json :=
  match cs with
  | '-' :: ds => if ds.all Char.isDigit then .integer (-digitsValue ds) else .real (String.ofList cs)
  | ds => if ds.all Char.isDigit then .integer (digitsValue ds) else .real (String.ofList cs)

mutual

/-- Reads one value. Every item and every level of nesting takes some of the `fuel`. -/
def readValue : Nat → List Char → Option (Json × List Char)
  | 0, _ => none
  | fuel + 1, cs =>
    match skipSpace cs with
    | 'n' :: 'u' :: 'l' :: 'l' :: rest => some (.null, rest)
    | 't' :: 'r' :: 'u' :: 'e' :: rest => some (.bool true, rest)
    | 'f' :: 'a' :: 'l' :: 's' :: 'e' :: rest => some (.bool false, rest)
    | '"' :: rest => (readText rest).map fun (s, left) => (.string s, left)
    | '[' :: rest =>
      match skipSpace rest with
      | ']' :: left => some (.array [], left)
      | _ => (readItems fuel rest).map fun (vs, left) => (.array vs, left)
    | '{' :: rest =>
      match skipSpace rest with
      | '}' :: left => some (.object [], left)
      | _ => (readMembers fuel rest).map fun (ms, left) => (.object ms, left)
    | cs => (readNumber cs).map fun (ds, left) => (ofNumeral ds, left)

def readItems : Nat → List Char → Option (List Json × List Char)
  | 0, _ => none
  | fuel + 1, cs =>
    match readValue fuel cs with
    | some (v, rest) =>
      match skipSpace rest with
      | ',' :: more => (readItems fuel more).map fun (vs, left) => (v :: vs, left)
      | ']' :: left => some ([v], left)
      | _ => none
    | none => none

def readMembers : Nat → List Char → Option (List (List CodePoint × Json) × List Char)
  | 0, _ => none
  | fuel + 1, cs =>
    match skipSpace cs with
    | '"' :: rest =>
      match readText rest with
      | some (k, rest) =>
        match skipSpace rest with
        | ':' :: rest =>
          match readValue fuel rest with
          | some (v, rest) =>
            match skipSpace rest with
            | ',' :: more => (readMembers fuel more).map fun (ms, left) => ((k, v) :: ms, left)
            | '}' :: left => some ([(k, v)], left)
            | _ => none
          | none => none
        | _ => none
      | none => none
    | _ => none

end

end JavaSurvey.Json
