import JavaSurvey.Json.Value

set_option autoImplicit false

namespace JavaSurvey.Json

def hexDigit (n : Nat) : Char := ("0123456789abcdef".toList[n]?).getD '0'

def unitEscape (n : Nat) : List Char :=
  ['\\', 'u', hexDigit (n / 0x1000 % 0x10), hexDigit (n / 0x100 % 0x10), hexDigit (n / 0x10 % 0x10),
    hexDigit (n % 0x10)]

def escape (p : CodePoint) : List Char :=
  let n := p.val
  if n = '"'.toNat then ['\\', '"']
  else if n = '\\'.toNat then ['\\', '\\']
  else if n = '\n'.toNat then ['\\', 'n']
  else if n = '\r'.toNat then ['\\', 'r']
  else if n = '\t'.toNat then ['\\', 't']
  else if n = '\x08'.toNat then ['\\', 'b']
  else if n = '\x0c'.toNat then ['\\', 'f']
  else if 0x20 ≤ n ∧ n ≤ 0x7E then [Char.ofNat n]
  else if n < 0x10000 then unitEscape n
  else unitEscape (0xD800 + (n - 0x10000) / 0x400) ++ unitEscape (0xDC00 + (n - 0x10000) % 0x400)

def quote (s : List CodePoint) : List Char := '"' :: (s.flatMap escape ++ ['"'])

def newLine (depth : Nat) : List Char := '\n' :: List.replicate (2 * depth) ' '

mutual

def write (depth : Nat) : Json → List Char
  | .null => "null".toList
  | .bool true => "true".toList
  | .bool false => "false".toList
  | .integer n => (toString n).toList
  | .real text => text.toList
  | .string s => quote s
  | .array [] => ['[', ']']
  | .array (v :: vs) =>
    '[' :: (newLine (depth + 1) ++ write (depth + 1) v ++ writeItems (depth + 1) vs ++
      newLine depth ++ [']'])
  | .object [] => ['{', '}']
  | .object ((k, v) :: ms) =>
    '{' :: (newLine (depth + 1) ++ quote k ++ [':', ' '] ++ write (depth + 1) v ++
      writeMembers (depth + 1) ms ++ newLine depth ++ ['}'])

def writeItems (depth : Nat) : List Json → List Char
  | [] => []
  | v :: vs => ',' :: (newLine depth ++ write depth v ++ writeItems depth vs)

def writeMembers (depth : Nat) : List (List CodePoint × Json) → List Char
  | [] => []
  | (k, v) :: ms =>
    ',' :: (newLine depth ++ quote k ++ [':', ' '] ++ write depth v ++ writeMembers depth ms)

end

def render (j : Json) : Except DigitLimit String :=
  if ∀ n ∈ j.integers, Writable n then .ok (String.ofList (write 0 j)) else .error .exceeded

end JavaSurvey.Json
