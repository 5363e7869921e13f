set_option autoImplicit false

namespace JavaSurvey.Java.Number

abbrev Reader := List Char → Option (List Char)

def isHex (c : Char) : Bool := c.isDigit || "abcdefABCDEF".toList.contains c
def isOctal (c : Char) : Bool := '0' ≤ c && c ≤ '7'
def isBinary (c : Char) : Bool := c == '0' || c == '1'

def one (p : Char → Bool) : Reader
  | c :: cs => if p c then some cs else none
  | [] => none

def oneOf (s : String) : Reader := one s.toList.contains

def maybe (r : Reader) : Reader := fun cs => some ((r cs).getD cs)

def both (r q : Reader) : Reader := fun cs => (r cs).bind q

def inOrder (rs : List Reader) : Reader := fun cs => rs.foldlM (fun left r => r left) cs

/-- Digits, in groups that underscores part. `inGroup` says that the last one read was a digit. -/
def groups (p : Char → Bool) (inGroup : Bool) : List Char → Option (List Char)
  | [] => if inGroup then some [] else none
  | c :: cs =>
    if p c then groups p true cs
    else if c = '_' ∧ inGroup then some ((groups p false cs).getD (c :: cs))
    else if inGroup then some (c :: cs) else none

def digits (p : Char → Bool) : Reader := groups p false

/-- Groups of digits that any number of underscores may part, after a digit if `inGroup`. -/
def looseGroups (inGroup : Bool) : List Char → Option (List Char)
  | [] => if inGroup then some [] else none
  | c :: cs =>
    if c.isDigit then looseGroups true cs
    else if c = '_' then
      if inGroup then some ((looseGroups false cs).getD (c :: cs)) else looseGroups false cs
    else if inGroup then some (c :: cs) else none

/-- A zero, or digits that do not begin with one. At most one underscore follows the first digit. -/
def whole : Reader
  | '0' :: cs => some cs
  | c :: '_' :: '_' :: cs => if c.isDigit then some ('_' :: '_' :: cs) else none
  | c :: cs => if c.isDigit then looseGroups true cs else none
  | [] => none

def exponent (marks : String) : Reader :=
  inOrder [oneOf marks, maybe (oneOf "+-"), digits Char.isDigit]

def floatMark : Reader := oneOf "fFdD"
def longMark : Reader := oneOf "lL"
def hexMark : Reader := both (oneOf "0") (oneOf "xX")

def forms : List Reader :=
  [both whole (maybe longMark),
   inOrder [hexMark, digits isHex, maybe longMark],
   inOrder [oneOf "0", maybe (oneOf "oO"), digits isOctal, maybe longMark],
   inOrder [oneOf "0", oneOf "bB", digits isBinary, maybe longMark],
   inOrder [digits Char.isDigit, oneOf ".", maybe (digits Char.isDigit), maybe (exponent "eE"),
     maybe floatMark],
   inOrder [oneOf ".", digits Char.isDigit, maybe (exponent "eE"), maybe floatMark],
   inOrder [whole, exponent "eEpP", maybe floatMark],
   inOrder [whole, maybe (exponent "eE"), floatMark],
   inOrder [hexMark, digits isHex, maybe (oneOf "."),
     maybe (both (exponent "eEpP") (maybe floatMark))],
   inOrder [hexMark, maybe (digits isHex), oneOf ".", digits isHex,
     maybe (both (exponent "eEpP") (maybe floatMark))]]

/-- Length of the number at the front of a text, 0 if there is none. -/
def length (cs : List Char) : Nat :=
  (forms.filterMap fun r => (r cs).map fun left => cs.length - left.length).foldl max 0

end JavaSurvey.Java.Number
