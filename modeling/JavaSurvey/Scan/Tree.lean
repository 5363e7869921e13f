import JavaSurvey.Text.Sorted

/-!
Directory trees as a walk meets them, with links already followed, and the order of the walk: the
sources of a directory by name, then its subdirectories by name, each of them completely before the
next.
-/

set_option autoImplicit false

namespace JavaSurvey

inductive Item where
  | file (bytes : List UInt8)
  /-- A file that cannot be opened. -/
  | unreadable (reason : String)
  /-- Named entries, in whatever order they were listed. -/
  | folder (entries : List (String × Item))
  /-- A directory that cannot be listed. -/
  | unlistable (reason : String)
  deriving Inhabited

/-- What a file holds, or why it cannot be opened. -/
abbrev Content := Except String (List UInt8)

inductive Visit where
  | source (path : String) (content : Content)
  | unlisted (path reason : String)
  deriving Inhabited

def joinPath (dir name : String) : String :=
  if dir.toList = [] ∨ dir.toList.getLast? = some '/' then dir ++ name else dir ++ "/" ++ name

def hasSuffix (suffix name : String) : Bool := suffix.toList.isSuffixOf name.toList

namespace Item

def content? : Item → Option Content
  | file bytes => some (.ok bytes)
  | unreadable reason => some (.error reason)
  | folder _ | unlistable _ => none

def sources (suffix : String) (entries : List (String × Item)) : List (String × Content) :=
  entries.filterMap fun e =>
    if hasSuffix suffix e.1 then e.2.content?.map fun c => (e.1, c) else none

mutual

/-- The walk of a directory `dir`. -/
def visits (suffix dir : String) : Item → List Visit
  | file _ | unreadable _ => []
  | unlistable reason => [.unlisted dir reason]
  | folder entries =>
    (sortNamed (sources suffix entries)).map (fun s => .source (joinPath dir s.1) s.2) ++
      (sortNamed (branches suffix dir entries)).flatMap Prod.snd

def branches (suffix dir : String) : List (String × Item) → List (String × List Visit)
  | [] => []
  | (name, item) :: rest =>
    (name, visits suffix (joinPath dir name) item) :: branches suffix dir rest

end

end Item

end JavaSurvey
