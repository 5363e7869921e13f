import JavaSurvey.Files.Volume
import JavaSurvey.Scan.Run

/-!
Directory trees read off a volume. Links are followed, so that a link to a folder shows what that
folder holds; a link that leads back up ends where too many links have been followed.
-/

set_option autoImplicit false

namespace JavaSurvey

structure Denials where
  /-- Folders that cannot be listed. -/
  listing : List String := []
  /-- Folders that cannot be entered at all. -/
  access : List String := []
  deriving Inhabited

namespace Volume

/-- What a walk finds at a path, down to a depth. -/
def itemAt (v : Volume) (denied : Denials) : Nat → String → Item
  | 0, _ => .folder []
  | depth + 1, path =>
    match v.lookup path with
    | .ok (.folder entries) =>
      if path ∈ denied.listing then .unlistable Trouble.denied.text
      else .folder (entries.map fun e => (e.1, itemAt v denied depth (joinPath path e.1)))
    | .ok (.file bytes) => .file bytes
    | .ok (.link _) => .unreadable (Trouble.tooManyLinks.message path)
    | .error t => .unreadable (t.message path)

/-- No path that can be followed is longer: between two links it stays inside the volume. -/
def maxDepth (v : Volume) : Nat := (maxLinks + 1) * (v.top.size + 1) + 1

def root (v : Volume) (denied : Denials) (path : String) : Root :=
  if v.isFolder path then
    if path ∈ denied.access then .unreadable else .tree (v.itemAt denied v.maxDepth path)
  else .missing

end Volume

end JavaSurvey
