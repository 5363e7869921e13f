import JavaSurvey.Proofs.Scan.Outcome
import JavaSurvey.Proofs.Sorting

/-!
The order of a walk. The entries of a directory come in whatever order they are listed; a walk sorts
them, so that two listings of one tree give the same walk. Every source of the tree is met once, at a
place that its route alone decides: the files of a directory by name, then what is below its
subdirectories, one after the other by name.
-/

set_option autoImplicit false

namespace JavaSurvey

namespace Item

@[elab_as_elim]
theorem induct {P : Item → Prop} (file : ∀ bytes, P (.file bytes))
    (unreadable : ∀ reason, P (.unreadable reason))
    (unlistable : ∀ reason, P (.unlistable reason))
    (folder : ∀ entries : List (String × Item), (∀ e ∈ entries, P e.2) → P (.folder entries))
    (item : Item) : P item :=
  @Item.rec P (fun entries => ∀ e ∈ entries, P e.2) (fun e => P e.2) file unreadable folder
    unlistable (by simp) (fun _ _ head tail => List.forall_mem_cons.mpr ⟨head, tail⟩)
    (fun _ _ h => h) item

theorem branches_eq_map (suffix dir : String) (entries : List (String × Item)) :
    branches suffix dir entries =
      entries.map fun e => (e.1, visits suffix (joinPath dir e.1) e.2) := by
  induction entries with
  | nil => rfl
  | cons e entries ih => rw [branches, ih, List.map_cons]

theorem names_branches (suffix dir : String) (entries : List (String × Item)) :
    (branches suffix dir entries).map Prod.fst = entries.map Prod.fst := by
  rw [branches_eq_map, List.map_map]
  rfl

theorem visits_folder (suffix dir : String) (entries : List (String × Item)) :
    visits suffix dir (.folder entries) =
      (sortNamed (sources suffix entries)).map (fun s => .source (joinPath dir s.1) s.2) ++
        (sortNamed entries).flatMap fun e => visits suffix (joinPath dir e.1) e.2 := by
  have hsort := map_sortNamed (f := fun e => (e.1, visits suffix (joinPath dir e.1) e.2))
    (fun _ => rfl) entries
  rw [visits, branches_eq_map, ← hsort, List.flatMap_map]

theorem mem_sources {suffix : String} {entries : List (String × Item)} {s : String × Content} :
    s ∈ sources suffix entries ↔
      ∃ item, (s.1, item) ∈ entries ∧ hasSuffix suffix s.1 ∧ item.content? = some s.2 := by
  obtain ⟨name, content⟩ := s
  simp only [sources, List.mem_filterMap]
  constructor
  · rintro ⟨⟨m, item⟩, hmem, hs⟩
    split at hs
    · obtain ⟨c, hc, he⟩ := Option.map_eq_some_iff.mp hs
      cases he
      exact ⟨item, hmem, ‹_›, hc⟩
    · simp at hs
  · rintro ⟨item, hmem, hsuffix, hc⟩
    exact ⟨(name, item), hmem, by simp [hsuffix, hc]⟩

theorem names_sources_sublist (suffix : String) (entries : List (String × Item)) :
    ((sources suffix entries).map Prod.fst).Sublist (entries.map Prod.fst) := by
  induction entries with
  | nil => simp [sources]
  | cons e entries ih =>
    rw [sources, List.filterMap_cons, ← sources]
    split
    · exact ih.trans (List.sublist_cons_self _ _)
    · rename_i s hs
      have hname : s.1 = e.1 := by
        split at hs
        · obtain ⟨c, -, rfl⟩ := Option.map_eq_some_iff.mp hs
          rfl
        · simp at hs
      rw [List.map_cons, List.map_cons, hname]
      exact ih.cons_cons e.1

/-- No two entries of one directory have the same name, at any depth. -/
inductive NamesDistinct : Item → Prop
  | file (bytes : List UInt8) : NamesDistinct (.file bytes)
  | unreadable (reason : String) : NamesDistinct (.unreadable reason)
  | unlistable (reason : String) : NamesDistinct (.unlistable reason)
  | folder {entries : List (String × Item)} (distinct : (entries.map Prod.fst).Nodup)
      (below : ∀ e ∈ entries, NamesDistinct e.2) : NamesDistinct (.folder entries)

/-- One tree under two listings: in every directory the same names, and under each name one tree. -/
inductive Relisted : Item → Item → Prop
  | file (bytes : List UInt8) : Relisted (.file bytes) (.file bytes)
  | unreadable (reason : String) : Relisted (.unreadable reason) (.unreadable reason)
  | unlistable (reason : String) : Relisted (.unlistable reason) (.unlistable reason)
  | folder {es fs : List (String × Item)} (names : (es.map Prod.fst).Perm (fs.map Prod.fst))
      (below : ∀ name a b, (name, a) ∈ es → (name, b) ∈ fs → Relisted a b) :
      Relisted (.folder es) (.folder fs)

theorem Relisted.content?_eq {a b : Item} (h : Relisted a b) : a.content? = b.content? := by
  cases h <;> rfl

/-- What is drawn from named entries is the same for both listings of a directory, if it is the same
for the two entries of each name. -/
theorem mem_iff_of_names {α : Type} {es fs : List (String × Item)} {f : String → Item → Option α}
    (names : (es.map Prod.fst).Perm (fs.map Prod.fst))
    (h : ∀ name a b, (name, a) ∈ es → (name, b) ∈ fs → f name a = f name b) (name : String)
    (x : α) :
    (∃ a, (name, a) ∈ es ∧ f name a = some x) ↔ ∃ b, (name, b) ∈ fs ∧ f name b = some x := by
  have hother : ∀ {xs ys : List (String × Item)}, (xs.map Prod.fst).Perm (ys.map Prod.fst) →
      ∀ {a : Item}, (name, a) ∈ xs → ∃ b, (name, b) ∈ ys := by
    intro xs ys hp a ha
    have hn : name ∈ ys.map Prod.fst := hp.mem_iff.mp (List.mem_map_of_mem (f := Prod.fst) ha)
    obtain ⟨⟨m, b⟩, hb, rfl⟩ := List.mem_map.mp hn
    exact ⟨b, hb⟩
  constructor
  · rintro ⟨a, ha, hx⟩
    obtain ⟨b, hb⟩ := hother names ha
    exact ⟨b, hb, by rw [← h name a b ha hb, hx]⟩
  · rintro ⟨b, hb, hx⟩
    obtain ⟨a, ha⟩ := hother names.symm hb
    exact ⟨a, ha, by rw [h name a b ha hb, hx]⟩

theorem Relisted.visits_eq {a b : Item} (h : Relisted a b) (hd : a.NamesDistinct)
    (suffix dir : String) : a.visits suffix dir = b.visits suffix dir := by
  induction h generalizing dir with
  | file | unreadable | unlistable => rfl
  | @folder es fs names below ih =>
    cases hd with
    | folder distinct hbelow =>
      -- both sorts, of the sources and of the subdirectories, undo the listing
      have distinct' : (fs.map Prod.fst).Nodup := names.nodup_iff.mp distinct
      have hsources : sortNamed (sources suffix es) = sortNamed (sources suffix fs) := by
        refine sortNamed_congr (distinct.sublist (names_sources_sublist suffix es))
          (distinct'.sublist (names_sources_sublist suffix fs)) fun s => ?_
        have hiff := mem_iff_of_names (f := fun _ i => i.content?) names
          (fun name a b ha hb => (below name a b ha hb).content?_eq) s.1 s.2
        simp only [mem_sources]
        grind
      have hbranches : sortNamed (branches suffix dir es) = sortNamed (branches suffix dir fs) := by
        refine sortNamed_congr (by rwa [names_branches]) (by rwa [names_branches]) fun s => ?_
        have hiff := mem_iff_of_names (f := fun m i => some (visits suffix (joinPath dir m) i))
          names (fun name a b ha hb => by rw [ih name a b ha hb (hbelow _ ha)]) s.1 s.2
        simp only [branches_eq_map, List.mem_map, Prod.exists, Prod.ext_iff]
        grind
      rw [visits, visits, hsources, hbranches]

mutual

def tour (suffix : String) : Item → List (List String × Content)
  | file _ | unreadable _ | unlistable _ => []
  | folder entries =>
    (sortNamed (sources suffix entries)).map (fun s => ([s.1], s.2)) ++
      (sortNamed (tours suffix entries)).flatMap fun t => t.2.map fun s => (t.1 :: s.1, s.2)

def tours (suffix : String) : List (String × Item) → List (String × List (List String × Content))
  | [] => []
  | (name, item) :: rest => (name, tour suffix item) :: tours suffix rest

end

theorem tours_eq_map (suffix : String) (entries : List (String × Item)) :
    tours suffix entries = entries.map fun e => (e.1, tour suffix e.2) := by
  induction entries with
  | nil => rfl
  | cons e entries ih => rw [tours, ih, List.map_cons]

theorem tour_folder (suffix : String) (entries : List (String × Item)) :
    tour suffix (.folder entries) =
      (sortNamed (sources suffix entries)).map (fun s => ([s.1], s.2)) ++
        (sortNamed entries).flatMap fun e => (tour suffix e.2).map fun s => (e.1 :: s.1, s.2) := by
  have hsort := map_sortNamed (f := fun e => (e.1, tour suffix e.2)) (fun _ => rfl) entries
  rw [tour, tours_eq_map, ← hsort, List.flatMap_map]

theorem source?_visits (suffix dir : String) (item : Item) :
    (visits suffix dir item).filterMap Visit.source? =
      (tour suffix item).map fun s => (s.1.foldl joinPath dir, s.2) := by
  induction item using Item.induct generalizing dir with
  | file | unreadable | unlistable => rfl
  | folder entries ih =>
    rw [visits_folder, tour_folder, List.filterMap_append, List.map_append]
    congr 1
    · rw [List.filterMap_map, List.map_map, ← List.filterMap_eq_map]
      rfl
    · rw [List.filterMap_flatMap, List.map_flatMap]
      refine List.flatMap_congr fun e he => ?_
      rw [ih e (mem_sortNamed.mp he), List.map_map]
      rfl

inductive Holds (suffix : String) : Item → List String → Content → Prop
  | here {entries : List (String × Item)} {name : String} {item : Item} {content : Content}
      (entry : (name, item) ∈ entries) (named : hasSuffix suffix name)
      (holds : item.content? = some content) : Holds suffix (.folder entries) [name] content
  | deeper {entries : List (String × Item)} {name : String} {item : Item} {route : List String}
      {content : Content} (entry : (name, item) ∈ entries) (holds : Holds suffix item route content) :
      Holds suffix (.folder entries) (name :: route) content

theorem mem_tour_iff {suffix : String} {item : Item} {route : List String} {content : Content} :
    (route, content) ∈ item.tour suffix ↔ item.Holds suffix route content := by
  induction item using Item.induct generalizing route with
  | file | unreadable | unlistable =>
    simp only [tour, List.not_mem_nil, false_iff]
    rintro ⟨⟩
  | folder entries ih =>
    simp only [tour_folder, List.mem_append, List.mem_map, List.mem_flatMap, mem_sortNamed,
      mem_sources, Prod.mk.injEq]
    constructor
    · rintro (⟨s, ⟨item, hmem, hsuffix, hc⟩, rfl, rfl⟩ | ⟨e, hmem, s, hs, rfl, rfl⟩)
      · exact .here hmem hsuffix hc
      · exact .deeper hmem ((ih e hmem).mp hs)
    · intro h
      cases h with
      | @here _ name item _ entry named holds =>
        exact .inl ⟨(name, content), ⟨item, entry, named, holds⟩, rfl, rfl⟩
      | @deeper _ name item route _ entry holds =>
        exact .inr ⟨(name, item), entry, (route, content), (ih _ entry).mpr holds, rfl, rfl⟩

theorem Holds.ne_nil {suffix : String} {item : Item} {route : List String} {content : Content}
    (h : item.Holds suffix route content) : route ≠ [] := by cases h <;> simp

end Item

/-- The order of the walk between two routes. Where they part, a file comes before what lies in a
subdirectory, and otherwise the lesser name comes first. -/
inductive RouteBefore : List String → List String → Prop
  | files {a b : String} (less : a < b) : RouteBefore [a] [b]
  | fileFirst {a b : String} {route : List String} (deeper : route ≠ []) :
      RouteBefore [a] (b :: route)
  | folders {a b : String} {route route' : List String} (less : a < b) (deeper : route ≠ [])
      (deeper' : route' ≠ []) : RouteBefore (a :: route) (b :: route')
  | inside {a : String} {route route' : List String} (before : RouteBefore route route') :
      RouteBefore (a :: route) (a :: route')

theorem RouteBefore.irrefl (route : List String) : ¬ RouteBefore route route := by
  induction route with
  | nil => rintro ⟨⟩
  | cons a route ih =>
    intro h
    cases h with
    | files less => exact String.lt_irrefl a less
    | fileFirst deeper => exact deeper rfl
    | folders less => exact String.lt_irrefl a less
    | inside before => exact ih before

namespace Item

theorem pairwise_tour {item : Item} (hd : item.NamesDistinct) (suffix : String) :
    (item.tour suffix).Pairwise fun s t => RouteBefore s.1 t.1 := by
  have hne : ∀ {i : Item} {s : List String × Content}, s ∈ i.tour suffix → s.1 ≠ [] :=
    fun hs => (mem_tour_iff.mp hs).ne_nil
  induction hd with
  | file | unreadable | unlistable => exact .nil
  | @folder entries distinct below ih =>
    rw [tour_folder, List.pairwise_append]
    refine ⟨?_, ?_, ?_⟩
    · rw [List.pairwise_map]
      exact (pairwise_lt_sortNamed (distinct.sublist (names_sources_sublist suffix entries))).imp
        .files
    · rw [List.pairwise_flatMap]
      refine ⟨fun e he => ?_, ?_⟩
      · rw [List.pairwise_map]
        exact (ih e (mem_sortNamed.mp he)).imp .inside
      · refine (pairwise_lt_sortNamed distinct).imp fun hlt s hs t ht => ?_
        obtain ⟨s', hs', rfl⟩ := List.mem_map.mp hs
        obtain ⟨t', ht', rfl⟩ := List.mem_map.mp ht
        exact .folders hlt (hne hs') (hne ht')
    · intro s hs t ht
      obtain ⟨s', -, rfl⟩ := List.mem_map.mp hs
      obtain ⟨e, -, ht⟩ := List.mem_flatMap.mp ht
      obtain ⟨t', ht', rfl⟩ := List.mem_map.mp ht
      exact .fileFirst (hne ht')

theorem nodup_tour {item : Item} (hd : item.NamesDistinct) (suffix : String) :
    ((item.tour suffix).map Prod.fst).Nodup := by
  rw [List.nodup_iff_pairwise_ne, List.pairwise_map]
  refine (pairwise_tour hd suffix).imp fun {s t} h he => ?_
  rw [he] at h
  exact RouteBefore.irrefl _ h

end Item

namespace Scan

theorem sheets_of_tour (parser : SourceParser) (e : Codec) (suffix root : String) (item : Item) :
    (item.visits suffix root).filterMap (Visit.sheet? parser e) =
      (item.tour suffix).filterMap fun s =>
        (read parser e (s.1.foldl joinPath root) s.2).toOption := by
  rw [Visit.filterMap_sheet?, Item.source?_visits, List.filterMap_map]
  rfl

/-- A scan does not depend on the order in which directories are listed. It meets each source of the
tree once, in the order of the routes, and merges the sheets in that order. -/
theorem directory_of_relisted {a b : Item} (hd : a.NamesDistinct) (h : a.Relisted b)
    (codecs : Codecs) (parser : SourceParser) (settings : Settings) (root : String) :
    (∀ stop, directory codecs parser settings stop root (.tree a) =
      directory codecs parser settings stop root (.tree b)) ∧
    ∃ tour : List (List String × Content),
      (∀ route content,
        (route, content) ∈ tour ↔ a.Holds settings.sourceSuffix route content) ∧
      (tour.map Prod.fst).Nodup ∧ (tour.Pairwise fun s t => RouteBefore s.1 t.1) ∧
      (a.visits settings.sourceSuffix root).filterMap Visit.source? =
        tour.map (fun s => (s.1.foldl joinPath root, s.2)) ∧
      ∀ e, codecs settings.encoding = .ok e →
        ∃ r, (directory codecs parser settings never root (.tree a)).outcome = .ok r ∧
          r.survey = (tour.filterMap fun s =>
            (read parser e (s.1.foldl joinPath root) s.2).toOption).foldl Survey.merge {} := by
  refine ⟨fun stop => ?_, a.tour settings.sourceSuffix, fun _ _ => Item.mem_tour_iff,
    Item.nodup_tour hd _, Item.pairwise_tour hd _, Item.source?_visits _ _ _, fun e he => ?_⟩
  · simp only [directory, h.visits_eq hd]
  · refine ⟨_, directory_never he parser root a, ?_⟩
    rw [ScanResult.gather, sheets_of_tour]

theorem directory_of_relisted_reversed :
    let a : Item := .folder [("b.java", .file [1]), ("a.java", .file [2]),
      ("c", .folder [("e.java", .unreadable "gone"), ("d", .unlistable "denied")])]
    let b : Item := .folder [("c", .folder [("d", .unlistable "denied"),
      ("e.java", .unreadable "gone")]), ("a.java", .file [2]), ("b.java", .file [1])]
    let parser : SourceParser := fun _ path => .ok { types := [{ name := path }] }
    a.NamesDistinct ∧ a.Relisted b ∧ ∀ codecs stop,
      directory codecs parser {} stop "src" (.tree a) =
        directory codecs parser {} stop "src" (.tree b) := by
  intro a b parser
  have hd : a.NamesDistinct := by
    refine .folder (by decide) ?_
    simp only [List.forall_mem_cons, List.not_mem_nil, false_implies, implies_true, and_true]
    refine ⟨.file _, .file _, .folder (by decide) ?_⟩
    simp only [List.forall_mem_cons, List.not_mem_nil, false_implies, implies_true, and_true]
    exact ⟨.unreadable _, .unlistable _⟩
  have hr : a.Relisted b := by
    refine .folder (by decide) fun name x y hx hy => ?_
    simp only [List.mem_cons, Prod.mk.injEq, List.not_mem_nil, or_false] at hx hy
    obtain ⟨rfl, rfl⟩ | ⟨rfl, rfl⟩ | ⟨rfl, rfl⟩ := hx <;> simp at hy <;> subst hy
    · exact .file _
    · exact .file _
    · refine .folder (by decide) fun name x y hx hy => ?_
      simp only [List.mem_cons, Prod.mk.injEq, List.not_mem_nil, or_false] at hx hy
      obtain ⟨rfl, rfl⟩ | ⟨rfl, rfl⟩ := hx <;> simp at hy <;> subst hy
      · exact .unreadable _
      · exact .unlistable _
  exact ⟨hd, hr, fun codecs => (directory_of_relisted hd hr codecs parser {} "src").1⟩

end Scan

end JavaSurvey
