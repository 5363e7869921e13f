import JavaSurvey.Text.Digit
import JavaSurvey.Text.Quoted

/-!
The arguments of the command. A long option may be cut short as long as one option is meant, and may
have its value after an equals sign. Two dashes end the options. A word that starts with a dash is
still a value if it is a negative number or has a blank in it. The first free value is the path.
-/

set_option autoImplicit false

namespace JavaSurvey.CommandLine

inductive Flag where
  | help | minMethods | json | noGraph | logLevel
  deriving DecidableEq, Repr, Inhabited

namespace Flag

def spellings : List (String × Flag) :=
  [("-h", help), ("--help", help), ("--min-methods", minMethods), ("--json", json),
   ("--no-graph", noGraph), ("--log-level", logLevel)]

def ofSpelling? (s : String) : Option Flag := spellings.lookup s

def takesValue : Flag → Bool
  | help | noGraph => false
  | minMethods | json | logLevel => true

def label (f : Flag) : String := "/".intercalate ((spellings.filter (·.2 == f)).map Prod.fst)

end Flag

structure Options where
  path : Option String := none
  minMethods : Option String := none
  jsonOut : Option String := none
  showGraph : Bool := true
  logLevel : Option String := none
  deriving DecidableEq, Repr, Inhabited

inductive UsageError where
  | ambiguous (word : String) (candidates : List String)
  | ignoredValue (flag : Flag) (value : String)
  | missingValue (flag : Flag)
  | unrecognized (words : List String)
  deriving DecidableEq, Repr, Inhabited

def UsageError.message : UsageError → String
  | .ambiguous word candidates =>
    s!"ambiguous option: {word} could match " ++ ", ".intercalate candidates
  | .ignoredValue flag value =>
    s!"argument {flag.label}: ignored explicit argument {Quoted.quote value}"
  | .missingValue flag => s!"argument {flag.label}: expected one argument"
  | .unrecognized words => "unrecognized arguments: " ++ " ".intercalate words

/-- A value written into the word of its option: after an equals sign, or right after the letter of
a short option. -/
structure Attached where
  afterEquals : Bool
  value : String
  deriving DecidableEq, Repr, Inhabited

inductive Word where
  | plain (text : String)
  /-- The two dashes that end the options. -/
  | dashes
  | flag (flag : Flag) (short : Bool) (attached : Option Attached)
  | unknown (text : String)
  deriving DecidableEq, Repr, Inhabited

def isShort (spelling : String) : Bool := spelling.length = 2

/-- Splits at the first equals sign. -/
def splitEquals (cs : List Char) : List Char × Option (List Char) :=
  match cs.dropWhile (· != '=') with
  | [] => (cs, none)
  | _ :: value => (cs.takeWhile (· != '='), some value)

/-- `-3`, `-3.5` or `-.5`, with digits of any script, and perhaps a newline at the end. -/
def isNegativeNumber : List Char → Bool
  | '-' :: cs =>
    let cs := if cs.getLast? = some '\n' then cs.dropLast else cs
    match cs.dropWhile Digit.isDigit with
    | [] => !cs.isEmpty
    | '.' :: fraction => !fraction.isEmpty && fraction.all Digit.isDigit
    | _ => false
  | _ => false

/-- The options that a word which is not itself a spelling may mean. -/
def readings (word : String) : List (String × Word) :=
  match word.toList with
  | '-' :: '-' :: _ =>
    let (start, value) := splitEquals word.toList
    let attached := value.map fun v => ⟨true, String.ofList v⟩
    Flag.spellings.filterMap fun (s, f) =>
      if start.isPrefixOf s.toList then some (s, .flag f (isShort s) attached) else none
  | '-' :: letter :: value =>
    Flag.spellings.filterMap fun (s, f) =>
      if s.toList = ['-', letter] then some (s, .flag f true (some ⟨false, String.ofList value⟩))
      else if word.toList.isPrefixOf s.toList then some (s, .flag f (isShort s) none)
      else none
  | _ => []

def classify (word : String) : Except UsageError Word :=
  if word.toList.head? ≠ some '-' then .ok (.plain word)
  else match Flag.ofSpelling? word, splitEquals word.toList with
    | some f, _ => .ok (.flag f (isShort word) none)
    | none, (start, value) =>
      if word = "-" then .ok (.plain word)
      else match Flag.ofSpelling? (String.ofList start), value with
        | some f, some v =>
          .ok (.flag f (start.length = 2) (some ⟨true, String.ofList v⟩))
        | _, _ =>
          match readings word with
          | [(_, w)] => .ok w
          | [] =>
            if isNegativeNumber word.toList || word.toList.contains ' ' then .ok (.plain word)
            else .ok (.unknown word)
          | several => .error (.ambiguous word (several.map Prod.fst))

def classifyAll : List String → Except UsageError (List Word)
  | [] => .ok []
  | "--" :: rest => .ok (.dashes :: rest.map .plain)
  | word :: rest => do
    let w ← classify word
    return w :: (← classifyAll rest)

inductive Request where
  | help
  | run (options : Options)
  deriving DecidableEq, Repr, Inhabited

structure Reading where
  options : Options := {}
  /-- The path has been read, even if as nothing. -/
  pathRead : Bool := false
  extras : List String := []
  deriving Inhabited

/-- The value that is left over when letters of short options are read off one word. `none` if they
are all options, or one of them is no option at all. -/
def leftover (afterEquals : Bool) : List Char → Option String
  | [] => some ""
  | c :: cs =>
    if afterEquals || c == '-' then some (String.ofList (c :: cs))
    else if c == 'h' then
      match cs with
      | [] => none
      | '=' :: rest => leftover true rest
      | d :: rest => leftover false (d :: rest)
    else none

def Options.set (o : Options) (f : Flag) (value : String) : Options :=
  match f with
  | .minMethods => { o with minMethods := some value }
  | .json => { o with jsonOut := some value }
  | .logLevel => { o with logLevel := some value }
  | .help | .noGraph => o

/-- Reads the words from left to right. Help is given at once, whatever follows. -/
def readWords (r : Reading) : List Word → Except UsageError Request
  | [] => if r.extras = [] then .ok (.run r.options) else .error (.unrecognized r.extras)
  | .unknown text :: rest => readWords { r with extras := r.extras ++ [text] } rest
  | .flag f short attached :: rest =>
    match attached with
    | some a =>
      if f.takesValue then readWords { r with options := r.options.set f a.value } rest
      else if short then
        match leftover a.afterEquals a.value.toList with
        | some value => .error (.ignoredValue f value)
        | none => .ok .help
      else .error (.ignoredValue f a.value)
    | none =>
      if f.takesValue then
        match rest with
        | .plain value :: rest => readWords { r with options := r.options.set f value } rest
        | _ => .error (.missingValue f)
      else if f = .help then .ok .help
      else readWords { r with options := { r.options with showGraph := false } } rest
  | .plain text :: rest =>
    if r.pathRead then readWords { r with extras := r.extras ++ [text] } rest
    else
      let r := { r with pathRead := true, options := { r.options with path := some text } }
      match rest with
      | .dashes :: rest => readWords r rest
      | rest => readWords r rest
  | .dashes :: rest =>
    if r.pathRead then readWords { r with extras := r.extras ++ ["--"] } rest
    else
      match rest with
      | .plain text :: rest =>
        readWords { r with pathRead := true, options := { r.options with path := some text } } rest
      | rest => readWords { r with pathRead := true } rest

def parse (args : List String) : Except UsageError Request := do
  readWords {} (← classifyAll args)

end JavaSurvey.CommandLine
