import JavaSurvey.Text.Quoted
import JavaSurvey.Text.Utf8

/-!
File systems in memory: files, folders and symbolic links under one top folder, and a current folder.
A path is followed part by part, from the top if it begins with a slash; at most forty links are
followed on the way.
-/

set_option autoImplicit false

namespace JavaSurvey

inductive Trouble where
  | noEntry | denied | notFolder | isFolder | tooManyLinks
  deriving DecidableEq, Repr, Inhabited

namespace Trouble

def number : Trouble → Nat
  | noEntry => 2
  | denied => 13
  | notFolder => 20
  | isFolder => 21
  | tooManyLinks => 40

def text : Trouble → String
  | noEntry => "No such file or directory"
  | denied => "Permission denied"
  | notFolder => "Not a directory"
  | isFolder => "Is a directory"
  | tooManyLinks => "Too many levels of symbolic links"

def message (t : Trouble) (path : String) : String :=
  s!"[Errno {t.number}] {t.text}: {Quoted.quote path}"

end Trouble

inductive Entry where
  | file (bytes : List UInt8)
  | folder (entries : List (String × Entry))
  | link (target : String)
  deriving Inhabited

namespace Entry

def child? (e : Entry) (name : String) : Option Entry :=
  match e with
  | folder entries => entries.lookup name
  | _ => none

/-- The entry below `e` at the end of the names. Links are not followed. -/
def at? (e : Entry) : List String → Option Entry
  | [] => some e
  | name :: rest => (e.child? name).bind fun c => c.at? rest

def setNamed (name : String) (new : Entry) : List (String × Entry) → List (String × Entry)
  | [] => [(name, new)]
  | e :: rest => if e.1 = name then (name, new) :: rest else e :: setNamed name new rest

def set (new : Entry) : List String → Entry → Entry
  | [], _ => new
  | [name], folder entries => folder (setNamed name new entries)
  | name :: rest, folder entries =>
    folder (entries.map fun e => if e.1 = name then (e.1, set new rest e.2) else e)
  | _ :: _, e => e

def erase : List String → Entry → Entry
  | [name], folder entries => folder (entries.filter (·.1 != name))
  | name :: rest, folder entries =>
    folder (entries.map fun e => if e.1 = name then (e.1, erase rest e.2) else e)
  | _, e => e

mutual

def size : Entry → Nat
  | file _ | link _ => 0
  | folder entries => sizeAll entries

def sizeAll : List (String × Entry) → Nat
  | [] => 0
  | (_, e) :: rest => 1 + size e + sizeAll rest

end

end Entry

/-- Where a path leads: to something that exists, or to a free name in a folder. -/
inductive Spot where
  | taken (place : List String) (entry : Entry)
  | free (place : List String)
  deriving Inhabited

structure Volume where
  /-- What the top folder holds. -/
  entries : List (String × Entry) := []
  /-- The names on the way from the top to the current folder. -/
  here : List String := []
  deriving Inhabited

namespace Volume

def top (v : Volume) : Entry := .folder v.entries

/-- The volume with another top folder. What is no folder is not taken for one. -/
def withTop (v : Volume) : Entry → Volume
  | .folder entries => { v with entries }
  | .file _ | .link _ => v

def put (v : Volume) (new : Entry) (place : List String) : Volume :=
  v.withTop (Entry.set new place v.top)

def maxLinks : Nat := 40

def parts (path : String) : List String := (path.toList.splitOn '/').map String.ofList

/-- Where a path begins that is met at `here`. -/
def origin (here : List String) (path : String) : List String :=
  if path.toList.head? = some '/' then [] else here

/-- Follows the parts from the folder at `here`; `links` more links may be followed. Above the top
folder is the top folder. To make a file, a name with a slash after it will not do. -/
def walk (v : Volume) (making : Bool) (links : Nat) (here : List String) :
    List String → Except Trouble Spot
  | [] =>
    match v.top.at? here with
    | some e => .ok (.taken here e)
    | none => .error .noEntry
  | part :: rest =>
    if part = "" ∨ part = "." then walk v making links here rest
    else if part = ".." then walk v making links here.dropLast rest
    else if making ∧ rest ≠ [] ∧ rest.all (· = "") then .error .isFolder
    else
      let place := here ++ [part]
      match v.top.at? place with
      | none => if rest = [] then .ok (.free place) else .error .noEntry
      | some (.file bytes) =>
        if rest = [] then .ok (.taken place (.file bytes)) else .error .notFolder
      | some (.folder _) => walk v making links place rest
      | some (.link target) =>
        match links with
        | 0 => .error .tooManyLinks
        | links + 1 => walk v making links (origin here target) (parts target ++ rest)
termination_by rest => (links, rest.length)

/-- The empty path leads nowhere, and so does a path from a current folder that is gone. -/
def spot (v : Volume) (making : Bool) (path : String) : Except Trouble Spot :=
  match path.toList, v.top.at? (origin v.here path) with
  | _ :: _, some (.folder _) => v.walk making maxLinks (origin v.here path) (parts path)
  | _, _ => .error .noEntry

def lookup (v : Volume) (path : String) : Except Trouble Entry :=
  match v.spot false path with
  | .ok (.taken _ e) => .ok e
  | .ok (.free _) => .error .noEntry
  | .error t => .error t

def isFolder (v : Volume) (path : String) : Bool :=
  match v.lookup path with
  | .ok (.folder _) => true
  | _ => false

def read (v : Volume) (path : String) : Except Trouble (List UInt8) :=
  match v.lookup path with
  | .ok (.file bytes) => .ok bytes
  | .ok _ => .error .isFolder
  | .error t => .error t

def write (v : Volume) (path : String) (bytes : List UInt8) : Except Trouble Volume :=
  match v.spot true path with
  | .ok (.taken place (.file _)) | .ok (.free place) => .ok (v.put (.file bytes) place)
  | .ok (.taken _ _) => .error .isFolder
  | .error t => .error t

def makeFolders (v : Volume) (start way : List String) : List String → Volume
  | [] => v
  | part :: rest =>
    let v := match v.walk false maxLinks start (way ++ [part]) with
      | .ok (.free p) => v.put (.folder []) p
      | _ => v
    makeFolders v start (way ++ [part]) rest

def place (v : Volume) (path : String) (e : Entry) : Volume :=
  let start := origin v.here path
  let names := (parts path).filter (· ≠ "")
  let v := v.makeFolders start [] names.dropLast
  match v.walk false maxLinks start names, e with
  | .ok (.taken p _), .file _ => v.put e p
  | .ok (.free p), _ => v.put e p
  | _, _ => v

def remove (v : Volume) (path : String) : Volume :=
  let names := (parts path).filter (· ≠ "")
  match names.getLast?, v.walk false maxLinks (origin v.here path) (names.dropLast ++ ["."]) with
  | some name, .ok (.taken p _) => v.withTop (Entry.erase (p ++ [name]) v.top)
  | _, _ => v

end Volume

end JavaSurvey
