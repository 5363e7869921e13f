import JavaSurvey.Grammar.Token

/-!
Grammars as data, and the reader that builds a syntax tree from a list of tokens by one.

A rule works on the tokens that are left and on the nodes built so far at its level, last first.
Choice is ordered and a repetition takes all it can. The reader keeps the furthest token at which
some rule wanted another one: for a source that is refused, this is where it stops making sense.
-/

set_option autoImplicit false

namespace JavaSurvey.Grammar

inductive Terminal where
  /-- A word or symbol, written so. -/
  | word (text : String)
  /-- Words and symbols written together without a gap. -/
  | joined (texts : List String)
  /-- Any word but those taken; it becomes a leaf of the given kind. -/
  | name (taken : List String) (kind : String)
  | literal (kind : TokenKind) (node : String)
  | finish

/-- `σ` names the rules of a grammar. -/
inductive Rule (σ : Type) where
  | empty
  | terminal (t : Terminal)
  /-- As `terminal`, with a leaf that counts as named. -/
  | leaf (kind : String) (t : Terminal)
  | rule (s : σ)
  | seq (a b : Rule σ)
  | either (a b : Rule σ)
  | many (a : Rule σ)
  /-- What `a` builds becomes the children of one node. -/
  | node (kind : String) (a : Rule σ)
  /-- As `node`, with the last node built so far, put in place `f`, as the first child. -/
  | wrap (kind : String) (f : Option String) (a : Rule σ)
  /-- What `a` builds stands in place `f`. -/
  | field (f : String) (a : Rule σ)
  /-- The last node built is of one of these kinds. -/
  | onTop (kinds : List String)
  | ahead (a : Rule σ)
  | butNot (a : Rule σ)

structure State where
  rest : List Token
  built : List Node
  /-- First byte of the furthest token that was refused. -/
  far : Int

inductive Reply where
  | read (s : State)
  | refused (far : Int)

namespace State

/-- First byte of the next token. -/
def here (s : State) : Int :=
  match s.rest with
  | t :: _ => t.extent.firstByte
  | [] => s.far

def refuse (s : State) : Reply := .refused (max s.far s.here)

def push (s : State) (n : Node) (rest : List Token) : Reply :=
  .read { s with rest, built := n :: s.built }

end State

def leafOf (t : Token) (kind : String) (named : Bool) : Node :=
  .mk { kind, extent := t.extent, named } []

/-- The tokens at the head of `ts` that spell `texts` without a gap. -/
def spell : List String → List Token → Option (List Token × List Token)
  | [], ts => some ([], ts)
  | _ :: _, [] => none
  | w :: ws, t :: ts =>
    if t.text = w ∧ (t.kind = .word ∨ t.kind = .symbol) then
      match ws, ts with
      | [], _ => some ([t], ts)
      | _ :: _, u :: _ =>
        if t.touches u then (spell ws ts).map fun (us, rest) => (t :: us, rest) else none
      | _ :: _, [] => none
    else none

def spanning (first last : Extent) : Extent :=
  ⟨first.firstByte, last.endByte, first.start, last.stop⟩

def branch (kind : String) (children : List Node) : Node :=
  match children, children.getLast? with
  | n :: _, some l => .mk { kind, extent := spanning n.extent l.extent } children
  | _, _ => .mk { kind, extent := ⟨0, 0, ⟨0, 0⟩, ⟨0, 0⟩⟩ } children

def placed (f : Option String) : Node → Node
  | .mk l cs => .mk { l with field := f } cs

/-- `mark` names the leaf if it counts as named; otherwise the leaf is called by its text. -/
def takeToken (t : Terminal) (mark : Option String) (s : State) : Reply :=
  match t, s.rest with
  | .word w, u :: rest =>
    if u.text = w ∧ (u.kind = .word ∨ u.kind = .symbol) then
      s.push (leafOf u (mark.getD w) mark.isSome) rest
    else s.refuse
  | .joined ws, _ =>
    match spell ws s.rest with
    | some (u :: us, rest) =>
      let e := spanning u.extent (((u :: us).getLast?.map (·.extent)).getD u.extent)
      s.push (.mk { kind := String.join ws, extent := e, named := false } []) rest
    | _ => s.refuse
  | .name taken kind, u :: rest =>
    if u.kind = .word ∧ u.text ∉ taken then s.push (leafOf u kind true) rest else s.refuse
  | .literal k kind, u :: rest =>
    if u.kind = k then s.push (leafOf u kind true) rest else s.refuse
  | .finish, u :: rest => if u.kind = .finish then .read { s with rest } else s.refuse
  | _, [] => s.refuse

/-- `run g n a s` reads by rule `a` of grammar `g`, at most `n` rules deep. -/
def run {σ : Type} (g : σ → Rule σ) : Nat → Rule σ → State → Reply
  | 0, _, s => .refused s.far
  | _ + 1, .empty, s => .read s
  | _ + 1, .terminal t, s => takeToken t none s
  | _ + 1, .leaf kind t, s => takeToken t (some kind) s
  | n + 1, .rule r, s => run g n (g r) s
  | n + 1, .seq a b, s =>
    match run g n a s with
    | .read s' => run g n b s'
    | .refused far => .refused far
  | n + 1, .either a b, s =>
    match run g n a s with
    | .read s' => .read s'
    | .refused far => run g n b { s with far }
  | n + 1, .many a, s =>
    match run g n a s with
    | .read s' => if s'.here = s.here then .read s' else run g n (.many a) s'
    | .refused far => .read { s with far }
  | n + 1, .node kind a, s =>
    match run g n a { s with built := [] } with
    | .read s' => .read { s' with built := branch kind s'.built.reverse :: s.built }
    | .refused far => .refused far
  | n + 1, .wrap kind f a, s =>
    match s.built with
    | [] => s.refuse
    | seed :: others =>
      match run g n a { s with built := [placed f seed] } with
      | .read s' => .read { s' with built := branch kind s'.built.reverse :: others }
      | .refused far => .refused far
  | n + 1, .field f a, s =>
    match run g n a { s with built := [] } with
    | .read s' => .read { s' with built := s'.built.map (placed (some f)) ++ s.built }
    | .refused far => .refused far
  | _ + 1, .onTop kinds, s =>
    match s.built with
    | n :: _ => if n.kind ∈ kinds then .read s else s.refuse
    | [] => s.refuse
  | n + 1, .ahead a, s =>
    match run g n a s with
    | .read s' => .read { s with far := s'.far }
    | .refused far => .refused far
  | n + 1, .butNot a, s =>
    match run g n a s with
    | .read _ => s.refuse
    | .refused _ => .read s

end JavaSurvey.Grammar
