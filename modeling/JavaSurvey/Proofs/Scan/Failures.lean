import JavaSurvey.Proofs.Scan.Walk
import Mathlib.Data.List.Perm.Basic

/-!
Failures leave nothing behind but their diagnostics. Taking out of a tree every source that gives no
sheet, and every directory that cannot be listed, takes the failing visits out of its walk and leaves
the others as they are; so a scan brings back the same survey from both trees, and the diagnostics
count what was taken out.
-/

set_option autoImplicit false

namespace JavaSurvey

namespace Item

def isFile (item : Item) : Bool := item.content?.isSome

def isUnlistable : Item → Bool
  | unlistable _ => true
  | file _ | unreadable _ | folder _ => false

section Pruned

variable (parser : SourceParser) (e : Codec) (suffix : String)

/-- Whether an entry of `dir` cannot be taken in: a source that cannot be opened, decoded or parsed,
or a directory that cannot be listed. -/
def fails (dir name : String) : Item → Bool
  | folder _ => false
  | unlistable _ => true
  | unreadable _ => hasSuffix suffix name
  | file bytes =>
    hasSuffix suffix name && (Scan.read parser e (joinPath dir name) (.ok bytes)).toOption.isNone

mutual

/-- The tree at `dir` without the entries below it that fail. -/
def pruned (dir : String) : Item → Item
  | file bytes => file bytes
  | unreadable reason => unreadable reason
  | unlistable reason => unlistable reason
  | folder entries => folder (prunedEntries dir entries)

def prunedEntries (dir : String) : List (String × Item) → List (String × Item)
  | [] => []
  | (name, item) :: rest =>
    if fails parser e suffix dir name item then prunedEntries dir rest
    else (name, pruned (joinPath dir name) item) :: prunedEntries dir rest

end

variable {parser e suffix}

theorem prunedEntries_eq (dir : String) (entries : List (String × Item)) :
    prunedEntries parser e suffix dir entries =
      (entries.filter fun x => !fails parser e suffix dir x.1 x.2).map fun x =>
        (x.1, pruned parser e suffix (joinPath dir x.1) x.2) := by
  induction entries with
  | nil => rfl
  | cons x entries ih =>
    rw [prunedEntries, ih]
    by_cases hx : fails parser e suffix dir x.1 x.2 <;> simp [hx]

theorem sources_prunedEntries (dir : String) (entries : List (String × Item)) :
    sources suffix (prunedEntries parser e suffix dir entries) =
      (sources suffix entries).filter fun s =>
        (Scan.read parser e (joinPath dir s.1) s.2).toOption.isSome := by
  rw [prunedEntries_eq, sources, sources, List.filterMap_map, List.filterMap_filter,
    List.filter_filterMap]
  refine List.filterMap_congr fun x _ => ?_
  obtain ⟨name, item⟩ := x
  by_cases hs : hasSuffix suffix name
  · cases item with
    | file bytes =>
      cases hr : (Scan.read parser e (joinPath dir name) (.ok bytes)).toOption <;>
        simp [fails, pruned, content?, Option.filter_some, hs, hr]
    | unreadable reason =>
      simp [fails, content?, Option.filter_some, hs, Scan.read, Except.toOption]
    | folder | unlistable => simp [fails, pruned, content?]
  · simp [hs]

theorem flatMap_filter_eq {α β : Type} {p : α → Bool} {f g : α → List β} {xs : List α}
    (kept : ∀ x ∈ xs, p x → f x = g x) (left : ∀ x ∈ xs, ¬ p x → g x = []) :
    (xs.filter p).flatMap f = xs.flatMap g := by
  induction xs with
  | nil => rfl
  | cons x xs ih =>
    rw [List.forall_mem_cons] at kept left
    rw [List.flatMap_cons, ← ih kept.2 left.2]
    by_cases hx : p x
    · rw [List.filter_cons_of_pos hx, List.flatMap_cons, kept.1 hx]
    · rw [List.filter_cons_of_neg hx, left.1 hx, List.nil_append]

theorem isUnlistable_of_not_fails {dir name : String} {item : Item}
    (h : ¬ fails parser e suffix dir name item) : ¬ item.isUnlistable := by
  cases item with
  | file | unreadable | folder => simp [isUnlistable]
  | unlistable reason => exact absurd rfl h

theorem filter_visits_of_fails {dir name : String} {item : Item}
    (h : fails parser e suffix dir name item) (path : String) :
    (visits suffix path item).filter (fun v => (v.sheet? parser e).isSome) = [] := by
  cases item with
  | file | unreadable | unlistable => rfl
  | folder entries => cases h

theorem visits_pruned {dir : String} {item : Item} (h : ¬ item.isUnlistable) :
    visits suffix dir (pruned parser e suffix dir item) =
      (visits suffix dir item).filter fun v => (v.sheet? parser e).isSome := by
  induction item using Item.induct generalizing dir with
  | file | unreadable => rfl
  | unlistable reason => exact absurd rfl h
  | folder entries ih =>
    rw [pruned, visits_folder, visits_folder, List.filter_append]
    congr 1
    · rw [sources_prunedEntries, ← filter_sortNamed, List.filter_map]
      rfl
    · -- a failing entry has no visit that gives a sheet, so it may go before the sort
      have hsort := map_sortNamed
        (f := fun x => (x.1, pruned parser e suffix (joinPath dir x.1) x.2)) (fun _ => rfl)
        (entries.filter fun x => !fails parser e suffix dir x.1 x.2)
      rw [prunedEntries_eq, ← hsort, ← filter_sortNamed, List.flatMap_map, List.filter_flatMap]
      refine flatMap_filter_eq (fun x hx hkept => ?_) fun x hx hleft => ?_
      · exact ih x (mem_sortNamed.mp hx) (isUnlistable_of_not_fails (by simpa using hkept))
      · exact filter_visits_of_fails (by simpa using hleft) _

end Pruned

section Count

variable (p : String → Item → Bool)

mutual

def countBelow : Item → Nat
  | file _ | unreadable _ | unlistable _ => 0
  | folder entries => countEntries entries

def countEntries : List (String × Item) → Nat
  | [] => 0
  | (name, item) :: rest => (if p name item then 1 else 0) + countBelow item + countEntries rest

end

variable {p}

theorem countP_flatMap_entries {q : Visit → Bool} {f : String × Item → List Visit}
    {entries : List (String × Item)}
    (h : ∀ x ∈ entries, (f x).countP q = (if p x.1 x.2 then 1 else 0) + countBelow p x.2) :
    (entries.flatMap f).countP q = countEntries p entries := by
  induction entries with
  | nil => rfl
  | cons x entries ih =>
    rw [List.forall_mem_cons] at h
    rw [List.flatMap_cons, List.countP_append, h.1, ih h.2, countEntries]

end Count

/-- The visit that an entry of `dir` is worth by itself. -/
def ownVisit (suffix dir : String) (x : String × Item) : Option Visit :=
  if hasSuffix suffix x.1 then x.2.content?.map (.source (joinPath dir x.1)) else none

theorem visits_folder_perm (suffix dir : String) (entries : List (String × Item)) :
    (visits suffix dir (.folder entries)).Perm
      (entries.flatMap fun x =>
        (ownVisit suffix dir x).toList ++ visits suffix (joinPath dir x.1) x.2) := by
  have hsources : (sources suffix entries).map (fun s => Visit.source (joinPath dir s.1) s.2) =
      entries.flatMap fun x => (ownVisit suffix dir x).toList := by
    rw [sources, List.map_filterMap, ← List.filterMap_eq_flatMap_toList]
    refine List.filterMap_congr fun x _ => ?_
    by_cases hs : hasSuffix suffix x.1 <;> simp [ownVisit, hs, Function.comp_def]
  rw [visits_folder]
  refine .trans ?_ (List.flatMap_append_perm entries _ _)
  rw [← hsources]
  exact ((sortNamed_perm _).map _).append ((sortNamed_perm entries).flatMap_right _)

theorem countP_isSource_visits (suffix dir : String) (item : Item) :
    (visits suffix dir item).countP Visit.isSource =
      countBelow (fun name i => hasSuffix suffix name && i.isFile) item := by
  induction item using Item.induct generalizing dir with
  | file | unreadable | unlistable => rfl
  | folder entries ih =>
    rw [(visits_folder_perm suffix dir entries).countP_eq, countBelow]
    refine countP_flatMap_entries fun x hx => ?_
    rw [List.countP_append, ih x hx]
    congr 1
    by_cases hs : hasSuffix suffix x.1 <;> cases hc : x.2.content? <;>
      simp [ownVisit, isFile, Visit.isSource, hs, hc]

theorem countP_unlisted_visits (suffix dir : String) (item : Item) :
    (visits suffix dir item).countP (!Visit.isSource ·) =
      (if item.isUnlistable then 1 else 0) + countBelow (fun _ i => i.isUnlistable) item := by
  induction item using Item.induct generalizing dir with
  | file | unreadable | unlistable => rfl
  | folder entries ih =>
    rw [(visits_folder_perm suffix dir entries).countP_eq, countBelow]
    refine (countP_flatMap_entries fun x hx => ?_).trans (Nat.zero_add _).symm
    rw [List.countP_append, ih x hx]
    have hown : (ownVisit suffix dir x).toList.countP (!Visit.isSource ·) = 0 := by
      by_cases hs : hasSuffix suffix x.1 <;> cases hc : x.2.content? <;>
        simp [ownVisit, Visit.isSource, hs, hc]
    rw [hown, Nat.zero_add]

end Item

namespace Scan

/-- A scan brings back from a tree with failures what it brings back from the tree without them, but
for the diagnostics: one for each source that fails, one for each directory that cannot be
listed. -/
theorem directory_of_pruned {codecs : Codecs} {settings : Settings} {e : Codec}
    (he : codecs settings.encoding = .ok e) (parser : SourceParser) (root : String)
    (entries : List (String × Item)) :
    let suffix := settings.sourceSuffix
    let tree : Item := .folder entries
    ∃ r r', (directory codecs parser settings never root (.tree tree)).outcome = .ok r ∧
      (directory codecs parser settings never root
        (.tree (tree.pruned parser e suffix root))).outcome = .ok r' ∧
      r'.survey = r.survey ∧ r'.filesScanned = r.filesScanned ∧ r'.diagnostics = [] ∧
      r.filesScanned + r.diagnostics.countP (·.kind = .fileParse) =
        tree.countBelow (fun name i => hasSuffix suffix name && i.isFile) ∧
      r.diagnostics.countP (·.kind = .directoryList) = tree.countBelow fun _ i => i.isUnlistable := by
  intro suffix tree
  have hvisits : (tree.pruned parser e suffix root).visits suffix root =
      (tree.visits suffix root).filter fun v => (v.sheet? parser e).isSome :=
    Item.visits_pruned (by simp [tree, Item.isUnlistable])
  have hsheets : ((tree.pruned parser e suffix root).visits suffix root).filterMap
      (Visit.sheet? parser e) = (tree.visits suffix root).filterMap (Visit.sheet? parser e) := by
    rw [hvisits, List.filterMap_filter]
    refine List.filterMap_congr fun v _ => ?_
    cases v.sheet? parser e <;> rfl
  have hfaults : ((tree.pruned parser e suffix root).visits suffix root).filterMap
      (Visit.fault? parser e) = [] := by
    rw [hvisits, List.filterMap_eq_nil_iff]
    exact fun v hv => Visit.fault?_eq_none (List.mem_filter.mp hv).2
  refine ⟨_, _, directory_never he parser root _, directory_never he parser root _, ?_⟩
  simp only [ScanResult.gather]
  refine ⟨by rw [hsheets], by rw [hsheets], by rw [hfaults]; rfl, ?_, ?_⟩
  · have hcount := Visit.count_source parser e (tree.visits suffix root)
    rw [Item.countP_isSource_visits] at hcount
    simpa using hcount
  · have hcount := Visit.count_unlisted parser e (tree.visits suffix root)
    rw [Item.countP_unlisted_visits] at hcount
    simpa [tree, Item.isUnlistable] using hcount

/-- Three sources, one of which cannot be opened and one of which, below, does not parse, beside a
directory that cannot be listed. The encoding has one character for each byte. -/
theorem directory_of_pruned_mixed :
    let entries : List (String × Item) := [("Worn.java", .unreadable "gone"),
      ("Whole.java", .file [0x80]), ("shut", .unlistable "denied"),
      ("deep", .folder [("Void.java", .file [])])]
    let parser : SourceParser := fun _ path =>
      if path = "src/deep/Void.java" then .error ⟨path, "empty"⟩
      else .ok { types := [{ name := path }] }
    let plain : Codec := fun bs => .ok (String.ofList (bs.map fun b => Char.ofNat b.toNat))
    let codecs : Codecs := fun name => if name = "plain" then .ok plain else .error .unknown
    let settings : Settings := { encoding := "plain" }
    codecs settings.encoding = .ok plain ∧
      (Item.folder entries).pruned parser plain ".java" "src" =
        .folder [("Whole.java", .file [0x80]), ("deep", .folder [])] ∧
      ∃ r r', (directory codecs parser settings never "src" (.tree (.folder entries))).outcome =
          .ok r ∧
        (directory codecs parser settings never "src"
          (.tree (.folder [("Whole.java", .file [0x80]), ("deep", .folder [])]))).outcome = .ok r' ∧
        r'.survey = r.survey ∧ r'.diagnostics = [] ∧
        r.filesScanned + r.diagnostics.countP (·.kind = .fileParse) = 3 ∧
        r.diagnostics.countP (·.kind = .directoryList) = 1 := by
  intro entries parser plain codecs settings
  have he : codecs settings.encoding = .ok plain := rfl
  have hwhole : Item.fails parser plain ".java" "src" "Whole.java" (.file [0x80]) = false := by
    decide
  have hvoid :
      Item.fails parser plain ".java" (joinPath "src" "deep") "Void.java" (.file []) = true := by
    decide
  have hworn : Item.fails parser plain ".java" "src" "Worn.java" (.unreadable "gone") = true := by
    decide
  have hpruned : (Item.folder entries).pruned parser plain ".java" "src" =
      .folder [("Whole.java", .file [0x80]), ("deep", .folder [])] := by
    simp only [entries, Item.pruned, Item.prunedEntries, hwhole, hvoid, hworn]
    rfl
  obtain ⟨r, r', hr, hr', hsurvey, -, hnone, hsources, hunlisted⟩ :=
    directory_of_pruned he parser "src" entries
  have hthree : (Item.folder entries).countBelow
      (fun name i => hasSuffix ".java" name && i.isFile) = 3 := by decide
  rw [hpruned] at hr'
  exact ⟨he, hpruned, r, r', hr, hr', hsurvey, hnone, hsources.trans hthree, hunlisted⟩

end Scan

end JavaSurvey
