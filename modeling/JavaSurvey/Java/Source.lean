import JavaSurvey.Java.Declarations
import JavaSurvey.Java.Lexer
import JavaSurvey.Facts.Index

/-!
Java sources as syntax trees. A source that the grammar refuses gives a faulty root over one node
that marks the fault. Where it lies is found by mending the source near the token at which it stops:
something may be missing before that token, or it may be too many, or what stands before it may be
unfinished; the cheapest way that mends the whole source wins.
-/

set_option autoImplicit false

namespace JavaSurvey.Java

open Grammar

def statement : JavaRule :=
  any [ref .block, word ";", loops, jumps, tries, otherStatements, declaration,
    ref .localVariables, expressionStatement .statement]

def program : JavaRule :=
  .node "program" (all [.many (any [ref .statement, ref (.method .top)]), .terminal .finish])

def grammar : Symbol → JavaRule
  | .program => program
  | .statement => statement
  | .block => block
  | .expression o => expression o
  | .operand o => operand o
  | .primary o => primary o
  | .type => anyType primitiveWords
  | .typeArguments => typeArguments
  | .typeParameters => typeParameters
  | .atMark => atMark
  | .elementValue => elementValue
  | .modifiers => modifiers
  | .arguments => arguments
  | .arrayInitializer => arrayInitializer
  | .formalParameters => formalParameters parameterWords
  | .lambdaParameters => formalParameters bracketWords
  | .switchBlock => switchBlock
  | .recordPattern => recordPattern
  | .typeDeclaration => typeDeclaration
  | .method l => method l
  | .localVariables => variableList "local_variable_declaration" (Opening.takenType .statement)
  | .classBody => classBody

/-- Between two tokens the reader goes fewer rules deep than this. -/
def depthPerToken : Nat := 1000

def read (ts : List Token) : Reply :=
  run grammar (depthPerToken * (ts.length + 1)) (ref .program) ⟨ts, [], -1⟩

def isSound (ts : List Token) : Bool :=
  match read ts with
  | .read _ => true
  | .refused _ => false

def goesPast (t : Token) (ts : List Token) : Bool :=
  match read ts with
  | .read _ => true
  | .refused far => t.extent.firstByte < far

inductive Mend where
  /-- Something is missing before it. -/
  | insert (kind : TokenKind) (text : String)
  /-- Some tokens from it on are too many. -/
  | skip (tokens : List Token)
  /-- The tokens before it begin something that is never finished. -/
  | abandon (tokens : List Token)

/-- Tokens that may be missing: those that can end something. -/
def closers : List (TokenKind × String) :=
  [(.symbol, ";"), (.symbol, ")"), (.symbol, "]"), (.symbol, "\x7d"), (.symbol, ">"),
   (.symbol, ":"), (.word, "name")]

/-- A name is never missing before an opening bracket. -/
def mayPrecede (k : TokenKind) (t : Token) : Bool :=
  k != .word || !(["(", "\x7b"].contains t.text)

/-- How many brackets are open after the tokens; `none` if one is closed that is not opened among
them. -/
def openBrackets : Nat → List Token → Option Nat
  | depth, [] => some depth
  | depth, t :: ts =>
    if ["(", "[", "\x7b"].contains t.text then openBrackets (depth + 1) ts
    else if [")", "]", "\x7d"].contains t.text then
      match depth with
      | 0 => none
      | d + 1 => openBrackets d ts
    else openBrackets depth ts

/-- The most tokens that are skipped or abandoned at once. -/
def reach : Nat := 16

def mendsAt (front : List Token) (t : Token) (back : List Token) : List Mend :=
  let counts := (List.range reach).map (· + 1)
  (closers.filter fun c => mayPrecede c.1 t).map (fun c => .insert c.1 c.2) ++
    (counts.filter (· ≤ back.length)).map (fun n => .skip ((t :: back).take n)) ++
    (((counts.filter (· ≤ front.length)).map fun n => front.drop (front.length - n)).filter
      fun ts => (openBrackets 0 ts).isSome).map .abandon

def Mend.apply (front : List Token) (t : Token) (back : List Token) : Mend → List Token
  | .insert kind text =>
    let spot : Extent := ⟨t.extent.firstByte, t.extent.firstByte, t.before, t.before⟩
    front ++ ⟨kind, text, spot, t.before⟩ :: t :: back
  | .skip ts => front ++ (t :: back).drop ts.length
  | .abandon ts => front.take (front.length - ts.length) ++ t :: back

/-- The cost of leaving tokens out: for each of them, for its length, and for the lines between. -/
def outlay (ts : List Token) : Int :=
  match ts, ts.getLast? with
  | a :: _, some z =>
    500 + 100 * ts.length + (z.extent.endByte - a.extent.firstByte) +
      30 * (z.extent.stop.row - a.extent.start.row)
  | _, _ => 0

def Mend.cost : Mend → Int
  | .insert .. => 610
  | .skip ts | .abandon ts => outlay ts

def Mend.mark (t : Token) : Mend → Node
  | .insert _ text =>
    .mk { kind := text, extent := ⟨t.extent.firstByte, t.extent.firstByte, t.before, t.before⟩,
          missing := true } []
  | .skip _ => .mk { kind := "ERROR", extent := t.extent } []
  | .abandon ts => .mk { kind := "ERROR", extent := ((ts.head?.map (·.extent)).getD t.extent) } []

def cheapest : List Mend → Option Mend
  | [] => none
  | m :: ms =>
    match cheapest ms with
    | none => some m
    | some best => if m.cost ≤ best.cost then some m else some best

/-- The best way to mend a source that stops at `t`: one that leaves no other fault, or else one
that lets it go on. -/
def bestMend (front : List Token) (t : Token) (back : List Token) : Option Mend :=
  let all := mendsAt front t back
  match cheapest (all.filter fun m => isSound (m.apply front t back)) with
  | some m => some m
  | none => all.find? fun m =>
    match m with
    | .skip _ => false
    | m => goesPast t (m.apply front t back)

/-- The node that marks the fault of a source refused at byte `far`. At the end of the source
something is missing; otherwise it is worth a search only if the token at which the source stops is
the first of its line. -/
def faultNode (ts : List Token) (far : Int) : Node :=
  let front := ts.takeWhile (·.extent.firstByte < far)
  match ts.dropWhile (·.extent.firstByte < far) with
  | [] => .mk { kind := "ERROR", extent := default } []
  | t :: back =>
    if t.kind = .finish then (Mend.insert .symbol ";").mark t
    else if t.before.row = t.extent.start.row then (Mend.skip [t]).mark t
    else ((bestMend front t back).getD (.skip [t])).mark t

def tree (source : String) : Node :=
  let ts := tokens source
  let faulty (n : Node) : Node :=
    .mk { kind := "program", extent := n.extent, faulty := true } [n]
  match read ts with
  | .read ⟨_, root :: _, _⟩ => root
  | .read ⟨_, [], far⟩ => faulty (faultNode ts far)
  | .refused far => faulty (faultNode ts far)

def parser : SourceParser := fun source path => Sheet.ofTree source path (tree source)

end JavaSurvey.Java
