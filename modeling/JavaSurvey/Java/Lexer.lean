import JavaSurvey.Grammar.Token
import JavaSurvey.Java.Number
import JavaSurvey.Text.Identifier

/-!
Java sources as tokens. Blanks and comments part tokens and are left out. Which words are keywords
is for the grammar to say; a closing angle bracket is always a token of its own, so that the ends of
nested type arguments need no care.
-/

set_option autoImplicit false

namespace JavaSurvey.Java

/-- Only these part tokens; other white space is junk. -/
def isGap (c : Char) : Bool := c == ' ' || (0x9 ≤ c.toNat && c.toNat ≤ 0xD)

inductive TextEnd where
  | closed (rest : List Char)
  /-- At the opening of an expression. -/
  | hole (rest : List Char)

/-- The end of a text in quotes, for what stands after the opening one. -/
def endString : List Char → Option TextEnd
  | [] => none
  | '"' :: rest => some (.closed rest)
  | '\\' :: '{' :: rest => some (.hole rest)
  | '\\' :: 'x' :: a :: b :: rest =>
    if Number.isHex a && Number.isHex b then endString rest else none
  | '\\' :: 'u' :: '{' :: a :: rest => if Number.isHex a then endString rest else none
  | '\\' :: 'u' :: a :: b :: c :: d :: rest =>
    if [a, b, c, d].all Number.isHex then endString rest else none
  | ['\\'] => none
  | '\\' :: c :: rest => if c = 'x' ∨ c = 'u' then none else endString rest
  | _ :: rest => endString rest

def endBlock : List Char → Option TextEnd
  | '"' :: '"' :: '"' :: rest => some (.closed rest)
  | '\\' :: '{' :: rest => some (.hole rest)
  | '\\' :: _ :: rest => endBlock rest
  | _ :: rest => endBlock rest
  | [] => none

/-- What follows the closing mark of a character literal; `some` must stand before it. -/
def closeCharacter (some? : Bool) : List Char → Option (List Char)
  | [] => none
  | '\'' :: rest => if some? then some rest else none
  | '\n' :: _ => none
  | '\\' :: _ :: rest => closeCharacter true rest
  | ['\\'] => none
  | _ :: rest => closeCharacter true rest

def closeComment : List Char → Option (List Char)
  | '*' :: '/' :: rest => some rest
  | _ :: rest => closeComment rest
  | [] => none

/-- Symbols of more than one character, longest first. -/
def longSymbols : List String :=
  ["<<=", "...", "->", "::", "++", "--", "&&", "||", "==", "!=", "<=", "+=", "-=", "*=", "/=",
   "&=", "|=", "^=", "%=", "<<"]

def shortSymbols : String := "()\x7b\x7d[];,.@=><!~?:+-*/&|^%"

def symbolLength (cs : List Char) : Nat :=
  match longSymbols.find? fun w => w.toList.isPrefixOf cs with
  | some w => w.length
  | none =>
    match cs with
    | c :: _ => if shortSymbols.toList.contains c then 1 else 0
    | [] => 0

inductive Piece where
  | gap | comment | token (kind : TokenKind)

/-- An expression inside a text, as it is read: how many braces are open in it, and whether the text
around it is a block. -/
structure Hole where
  depth : Nat
  inBlock : Bool

def textPiece (cs : List Char) (closed hole : TokenKind) : Option TextEnd → Piece × Nat
  | some (.closed rest) => (.token closed, cs.length - rest.length)
  | some (.hole rest) => (.token hole, cs.length - rest.length)
  | none => (.token .junk, 0)

/-- The kind of the piece that starts with `c`, and how many of the characters after `c` belong
to it. -/
def piece (holes : List Hole) (c : Char) (cs : List Char) : Piece × Nat :=
  let plain : Piece × Nat :=
    match symbolLength (c :: cs) with
    | 0 => (.token .junk, 0)
    | n + 1 => (.token .symbol, n)
  if isGap c then (.gap, 0)
  else if Identifier.isStart c then (.token .word, (cs.takeWhile Identifier.isPart).length)
  else match c, cs, holes with
    | '/', '/' :: rest, _ => (.comment, 1 + (rest.takeWhile (· != '\n')).length)
    | '/', '*' :: rest, _ =>
      match closeComment rest with
      | some left => (.comment, cs.length - left.length)
      | none => plain
    | '"', '"' :: '"' :: rest, _ => textPiece cs .text .textStart (endBlock rest)
    | '"', _, _ => textPiece cs .text .textStart (endString cs)
    | '}', _, ⟨0, inBlock⟩ :: _ =>
      textPiece cs .textEnd .textMiddle (if inBlock then endBlock cs else endString cs)
    | '\'', _, _ =>
      match closeCharacter false cs with
      | some left => (.token .character, cs.length - left.length)
      | none => (.token .junk, 0)
    | _, _, _ =>
      match Number.length (c :: cs) with
      | 0 => plain
      | n + 1 => (.token .number, n)

def holesAfter (holes : List Hole) (kind : TokenKind) (text : String) : List Hole :=
  match kind, text, holes with
  | .textStart, _, _ => ⟨0, "\"\"\"".toList.isPrefixOf text.toList⟩ :: holes
  | .textEnd, _, _ :: outer => outer
  | .symbol, "\x7b", h :: outer => { h with depth := h.depth + 1 } :: outer
  | .symbol, "\x7d", h :: outer => { h with depth := h.depth - 1 } :: outer
  | _, _, _ => holes

structure Place where
  byte : Nat
  row : Nat
  col : Nat

def Place.point (p : Place) : Point := ⟨p.row, p.col⟩

def Place.step (p : Place) (c : Char) : Place :=
  if c = '\n' then ⟨p.byte + 1, p.row + 1, 0⟩
  else ⟨p.byte + Utf8.width c, p.row, p.col + Utf8.width c⟩

def Place.past (p : Place) (cs : List Char) : Place := cs.foldl Place.step p

def Place.to (p q : Place) : Extent := ⟨p.byte, q.byte, p.point, q.point⟩

def tokensFrom (holes : List Hole) (p : Place) (before : Point) : List Char → List Token
  | [] => [⟨.finish, "", p.to p, before⟩]
  | c :: cs =>
    let found := piece holes c cs
    let lexeme := c :: cs.take found.2
    let q := p.past lexeme
    match found.1 with
    | .gap => tokensFrom holes q before (cs.drop found.2)
    | .comment => tokensFrom holes q q.point (cs.drop found.2)
    | .token k =>
      let text := String.ofList lexeme
      ⟨k, text, p.to q, before⟩ ::
        tokensFrom (holesAfter holes k text) q q.point (cs.drop found.2)
termination_by cs => cs.length
decreasing_by all_goals simp only [List.length_drop, List.length_cons]; omega

/-- A byte order mark at the front counts in columns and bytes and is no token. -/
def tokens (source : String) : List Token :=
  match source.toList with
  | '\ufeff' :: cs => tokensFrom [] (Place.step ⟨0, 0, 0⟩ '\ufeff') ⟨0, 0⟩ cs
  | cs => tokensFrom [] ⟨0, 0, 0⟩ ⟨0, 0⟩ cs

end JavaSurvey.Java
