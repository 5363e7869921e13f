import JavaSurvey.Files.Volume

/-!
A file that has been written is read back under the path it was written to. The path may go through
links and back up; writing puts a file where no folder and no link stands, so that the path still
leads there.
-/

set_option autoImplicit false

namespace JavaSurvey

namespace Entry

/-! ### Entries at the end of names -/

theorem lookup_cons_eq (m n : String) (e : Entry) (es : List (String × Entry)) :
    List.lookup n ((m, e) :: es) = if n = m then some e else es.lookup n := by
  by_cases h : n = m
  · subst h
    simp
  · have hbeq : (n == m) = false := beq_false_of_ne h
    simp [List.lookup_cons, hbeq, h]

theorem lookup_setNamed (name : String) (new : Entry) (es : List (String × Entry)) (n : String) :
    (setNamed name new es).lookup n = if n = name then some new else es.lookup n := by
  induction es with
  | nil => rw [setNamed, lookup_cons_eq]
  | cons e es ih =>
    obtain ⟨m, e⟩ := e
    by_cases hm : m = name
    · subst hm
      rw [setNamed, if_pos rfl, lookup_cons_eq, lookup_cons_eq]
      by_cases hn : n = m
      · rw [if_pos hn, if_pos hn]
      · simp only [if_neg hn]
    · rw [setNamed, if_neg hm, lookup_cons_eq, lookup_cons_eq, ih]
      by_cases hn : n = m
      · have hne : n ≠ name := hn ▸ hm
        simp only [if_pos hn, if_neg hne]
      · simp only [if_neg hn]

theorem lookup_map_named (name : String) (f : Entry → Entry) (es : List (String × Entry))
    (n : String) :
    (es.map fun e => if e.1 = name then (e.1, f e.2) else e).lookup n =
      if n = name then (es.lookup name).map f else es.lookup n := by
  induction es with
  | nil => simp
  | cons e es ih =>
    obtain ⟨m, e⟩ := e
    rw [List.map_cons]
    by_cases hm : m = name
    · subst hm
      rw [if_pos rfl, lookup_cons_eq, lookup_cons_eq, lookup_cons_eq, ih]
      by_cases hn : n = m
      · simp [hn]
      · simp [hn]
    · have hne : name ≠ m := fun h => hm h.symm
      rw [if_neg hm, lookup_cons_eq, lookup_cons_eq, lookup_cons_eq, ih, if_neg hne]
      by_cases hn : n = m
      · have hnn : n ≠ name := hn ▸ hm
        simp only [if_pos hn, if_neg hnn]
      · simp only [if_neg hn]

theorem child?_set (new : Entry) (name : String) (rest : List String)
    (es : List (String × Entry)) (n : String) :
    (set new (name :: rest) (.folder es)).child? n =
      if n = name then (if rest = [] then some new else (es.lookup name).map (set new rest))
      else es.lookup n := by
  cases rest with
  | nil => simp [set, child?, lookup_setNamed]
  | cons m rest => simp [set, child?, lookup_map_named]

theorem at?_append (e : Entry) (p q : List String) :
    e.at? (p ++ q) = (e.at? p).bind fun c => c.at? q := by
  induction p generalizing e with
  | nil => rfl
  | cons name p ih =>
    rw [List.cons_append, at?, at?, Option.bind_assoc]
    congr 1
    funext c
    exact ih c

theorem exists_folder_of_at? {e x : Entry} {p : List String} {name : String}
    (h : e.at? (p ++ [name]) = some x) : ∃ es, e.at? p = some (.folder es) := by
  rw [at?_append] at h
  obtain ⟨c, hc, hx⟩ := Option.bind_eq_some_iff.mp h
  cases c with
  | folder es => exact ⟨es, hc⟩
  | file bytes => simp [at?, child?] at hx
  | link target => simp [at?, child?] at hx

theorem at?_set_self {new e : Entry} {p : List String} {es : List (String × Entry)}
    (h : e.at? p = some (.folder es)) (name : String) :
    (set new (p ++ [name]) e).at? (p ++ [name]) = some new := by
  induction p generalizing e with
  | nil =>
    cases h
    rw [List.nil_append, at?, child?_set, if_pos rfl, if_pos rfl]
    rfl
  | cons m p ih =>
    obtain ⟨c, hc, hp⟩ := Option.bind_eq_some_iff.mp h
    cases e with
    | folder entries =>
      have hlookup : entries.lookup m = some c := hc
      have hne : p ++ [name] ≠ [] := by simp
      rw [List.cons_append, at?, child?_set, if_pos rfl, if_neg hne, hlookup]
      exact ih hp
    | file bytes => cases hc
    | link target => cases hc

/-- Where a file can be put: at the names there is a file or nothing. -/
def Vacant (e : Entry) (place : List String) : Prop :=
  ∀ x, e.at? place = some x → ∃ bytes, x = .file bytes

inductive Alike : Entry → Entry → Prop
  | folder (es es' : List (String × Entry)) : Alike (.folder es) (.folder es')
  | refl (e : Entry) : Alike e e

theorem Vacant.at?_set {e : Entry} {place : List String} (h : e.Vacant place) (new : Entry)
    {q : List String} {x : Entry} (hq : e.at? q = some x) (hx : ∀ bytes, x ≠ .file bytes) :
    ∃ x', (set new place e).at? q = some x' ∧ x.Alike x' := by
  induction place generalizing e q with
  | nil =>
    obtain ⟨bytes, rfl⟩ := h e rfl
    cases q with
    | nil =>
      cases hq
      exact absurd rfl (hx bytes)
    | cons n q => cases hq
  | cons name rest ih =>
    cases e with
    | file bytes =>
      have hset : set new (name :: rest) (.file bytes) = .file bytes := by cases rest <;> rfl
      rw [hset]
      exact ⟨x, hq, .refl x⟩
    | link target =>
      have hset : set new (name :: rest) (.link target) = .link target := by cases rest <;> rfl
      rw [hset]
      exact ⟨x, hq, .refl x⟩
    | folder es =>
      cases q with
      | nil =>
        cases hq
        cases rest with
        | nil => exact ⟨_, rfl, .folder _ _⟩
        | cons m rest => exact ⟨_, rfl, .folder _ _⟩
      | cons n q =>
        obtain ⟨c, hc, hcq⟩ := Option.bind_eq_some_iff.mp hq
        have hlookup : es.lookup n = some c := hc
        rw [at?, child?_set]
        by_cases hn : n = name
        · subst hn
          have hvacant : c.Vacant rest := by
            intro y hy
            refine h y ?_
            rw [at?, hc]
            exact hy
          rw [if_pos rfl]
          by_cases hrest : rest = []
          · subst hrest
            obtain ⟨bytes, rfl⟩ := hvacant c rfl
            cases q with
            | nil =>
              cases hcq
              exact absurd rfl (hx bytes)
            | cons m q => cases hcq
          · rw [if_neg hrest, hlookup]
            exact ih hvacant hcq
        · rw [if_neg hn, hlookup]
          exact ⟨x, hcq, .refl x⟩

end Entry

inductive Spot.Fits : Spot → List String → Prop
  | file (place : List String) (bytes : List UInt8) : Fits (.taken place (.file bytes)) place
  | free (place : List String) : Fits (.free place) place

namespace Volume

/-! ### Walks -/

def HasFolder (v : Volume) (here : List String) : Prop := ∃ es, v.top.at? here = some (.folder es)

theorem hasFolder_top (v : Volume) : v.HasFolder [] := ⟨v.entries, rfl⟩

theorem HasFolder.dropLast {v : Volume} {here : List String} (h : v.HasFolder here) :
    v.HasFolder here.dropLast := by
  by_cases hne : here = []
  · subst hne
    exact v.hasFolder_top
  · obtain ⟨es, hes⟩ := h
    rw [← List.dropLast_concat_getLast hne] at hes
    exact Entry.exists_folder_of_at? hes

theorem HasFolder.origin {v : Volume} {here : List String} (h : v.HasFolder here) (path : String) :
    v.HasFolder (origin here path) := by
  unfold Volume.origin
  split
  · exact v.hasFolder_top
  · exact h

structure Open (v : Volume) (place : List String) : Prop where
  vacant : v.top.Vacant place
  parent : ∃ here name, place = here ++ [name] ∧ v.HasFolder here

@[simp] theorem here_put (v : Volume) (new : Entry) (place : List String) :
    (v.put new place).here = v.here := by
  unfold put withTop
  split <;> rfl

theorem top_put {v : Volume} {place : List String} (h : place ≠ []) (new : Entry) :
    (v.put new place).top = Entry.set new place v.top := by
  obtain ⟨name, rest, rfl⟩ := List.exists_cons_of_ne_nil h
  cases rest <;> rfl

theorem Open.ne_nil {v : Volume} {place : List String} (h : v.Open place) : place ≠ [] := by
  obtain ⟨here, name, rfl, -⟩ := h.parent
  simp

theorem Open.at?_put {v : Volume} {place : List String} (h : v.Open place) (new : Entry) :
    (v.put new place).top.at? place = some new := by
  rw [top_put h.ne_nil]
  obtain ⟨here, name, rfl, es, hes⟩ := h.parent
  exact Entry.at?_set_self hes name

theorem Open.hasFolder_put {v : Volume} {place here : List String} (h : v.Open place)
    (hhere : v.HasFolder here) (new : Entry) : (v.put new place).HasFolder here := by
  obtain ⟨es, hes⟩ := hhere
  obtain ⟨x, hx, halike⟩ := h.vacant.at?_set new hes nofun
  rw [← top_put h.ne_nil] at hx
  cases halike with
  | folder _ es' => exact ⟨es', hx⟩
  | refl => exact ⟨es, hx⟩

theorem Open.link_put {v : Volume} {place here : List String} (h : v.Open place) {target : String}
    (hlink : v.top.at? here = some (.link target)) (new : Entry) :
    (v.put new place).top.at? here = some (.link target) := by
  obtain ⟨x, hx, halike⟩ := h.vacant.at?_set new hlink nofun
  rw [← top_put h.ne_nil] at hx
  cases halike with
  | refl => exact hx

def IsName (part : String) : Prop := part ≠ "" ∧ part ≠ "." ∧ part ≠ ".."

theorem isName_of {part : String} (hdot : ¬ (part = "" ∨ part = ".")) (hup : part ≠ "..") :
    IsName part :=
  ⟨fun h => hdot (.inl h), fun h => hdot (.inr h), hup⟩

/-- From the folder at `here` the parts lead to the names at the end, over folders and links that are
there. Nothing is said of what is at the end. -/
inductive Leads (v : Volume) : Nat → List String → List String → List String → Prop
  | stay {links : Nat} {here rest place : List String} {part : String}
      (dot : part = "" ∨ part = ".") (next : Leads v links here rest place) :
      Leads v links here (part :: rest) place
  | up {links : Nat} {here rest place : List String}
      (next : Leads v links here.dropLast rest place) : Leads v links here (".." :: rest) place
  | last {links : Nat} {here : List String} {part : String} (name : IsName part) :
      Leads v links here [part] (here ++ [part])
  | enter {links : Nat} {here rest place : List String} {part : String} (name : IsName part)
      (folder : v.HasFolder (here ++ [part])) (next : Leads v links (here ++ [part]) rest place) :
      Leads v links here (part :: rest) place
  | jump {links : Nat} {here rest place : List String} {part target : String}
      (name : IsName part) (link : v.top.at? (here ++ [part]) = some (.link target))
      (next : Leads v links (origin here target) (parts target ++ rest) place) :
      Leads v (links + 1) here (part :: rest) place

theorem leads_of_walk {v : Volume} {links : Nat} {here ps place : List String} {s : Spot}
    (hhere : v.HasFolder here) (h : v.walk true links here ps = .ok s) (hs : s.Fits place) :
    v.Leads links here ps place ∧ v.Open place := by
  fun_induction walk v true links here ps with
  | case1 links here e he =>
    -- the walk is over at a folder
    obtain ⟨es, hes⟩ := hhere
    cases h
    cases hs with
    | file _ bytes => rw [hes] at he; cases he
  | case2 links here he => cases h
  | case3 links here part rest hdot ih =>
    obtain ⟨hleads, hopen⟩ := ih hhere h
    exact ⟨.stay hdot hleads, hopen⟩
  | case4 links here rest _ ih =>
    obtain ⟨hleads, hopen⟩ := ih hhere.dropLast h
    exact ⟨.up hleads, hopen⟩
  | case5 => cases h
  | case6 links here part hdot hup place' hnone hmaking =>
    cases h
    change (Spot.free (here ++ [part])).Fits place at hs
    cases hs
    have hvacant : v.top.Vacant (here ++ [part]) := by
      intro x hx
      rw [hnone] at hx
      cases hx
    exact ⟨.last (isName_of hdot hup), hvacant, here, part, rfl, hhere⟩
  | case7 => cases h
  | case8 links here part hdot hup place' bytes hfile hmaking =>
    cases h
    change (Spot.taken (here ++ [part]) (.file bytes)).Fits place at hs
    cases hs
    have hvacant : v.top.Vacant (here ++ [part]) := by
      intro x hx
      rw [hfile] at hx
      cases hx
      exact ⟨bytes, rfl⟩
    exact ⟨.last (isName_of hdot hup), hvacant, here, part, rfl, hhere⟩
  | case9 => cases h
  | case10 links here part rest hdot hup hmaking place' es hfolder ih =>
    obtain ⟨hleads, hopen⟩ := ih ⟨es, hfolder⟩ h
    exact ⟨.enter (isName_of hdot hup) ⟨es, hfolder⟩ hleads, hopen⟩
  | case11 => cases h
  | case12 here part rest hdot hup hmaking place' target hlink links ih =>
    obtain ⟨hleads, hopen⟩ := ih (hhere.origin target) h
    exact ⟨.jump (isName_of hdot hup) hlink hleads, hopen⟩

/-- A file at the end of the way leaves the folders and links on it as they are. -/
theorem Leads.put {v : Volume} {links : Nat} {here ps place : List String}
    (h : v.Leads links here ps place) (hopen : v.Open place) (new : Entry) :
    (v.put new place).Leads links here ps place := by
  induction h with
  | stay dot next ih => exact .stay dot (ih hopen)
  | up next ih => exact .up (ih hopen)
  | last name => exact .last name
  | enter name folder next ih => exact .enter name (hopen.hasFolder_put folder new) (ih hopen)
  | jump name link next ih => exact .jump name (hopen.link_put link new) (ih hopen)

theorem Leads.walk {v : Volume} {links : Nat} {here ps place : List String}
    (h : v.Leads links here ps place) {bytes : List UInt8}
    (hfile : v.top.at? place = some (.file bytes)) :
    v.walk false links here ps = .ok (.taken place (.file bytes)) := by
  induction h with
  | stay dot next ih => rw [Volume.walk, if_pos dot, ih hfile]
  | up next ih => rw [Volume.walk, if_neg (by decide), if_pos rfl, ih hfile]
  | last name =>
    have hdot := not_or.mpr ⟨name.1, name.2.1⟩
    rw [Volume.walk, if_neg hdot, if_neg name.2.2, if_neg (by simp)]
    simp only [hfile, ↓reduceIte]
  | enter name folder next ih =>
    have hdot := not_or.mpr ⟨name.1, name.2.1⟩
    obtain ⟨es, hes⟩ := folder
    rw [Volume.walk, if_neg hdot, if_neg name.2.2, if_neg (by simp)]
    simp only [hes, ih hfile]
  | jump name link next ih =>
    have hdot := not_or.mpr ⟨name.1, name.2.1⟩
    rw [Volume.walk, if_neg hdot, if_neg name.2.2, if_neg (by simp)]
    simp only [link, ih hfile]

/-! ### Files -/

theorem spot_eq_walk {v : Volume} {path : String} (hne : path.toList ≠ [])
    (h : v.HasFolder (origin v.here path)) (making : Bool) :
    v.spot making path = v.walk making maxLinks (origin v.here path) (parts path) := by
  obtain ⟨c, cs, hcs⟩ := List.exists_cons_of_ne_nil hne
  obtain ⟨es, hes⟩ := h
  simp only [spot, hcs, hes]

theorem walk_of_spot {v : Volume} {making : Bool} {path : String} {s : Spot}
    (h : v.spot making path = .ok s) :
    path.toList ≠ [] ∧ v.HasFolder (origin v.here path) ∧
      v.walk making maxLinks (origin v.here path) (parts path) = .ok s := by
  unfold spot at h
  split at h
  · rename_i c cs es hcs hes
    exact ⟨by simp [hcs], ⟨es, hes⟩, h⟩
  · cases h

theorem read_of_write {v v' : Volume} {path : String} {bytes : List UInt8}
    (h : v.write path bytes = .ok v') : v'.read path = .ok bytes := by
  have hfits : ∃ s place, v.spot true path = .ok s ∧ s.Fits place ∧
      v' = v.put (.file bytes) place := by
    unfold write at h
    split at h
    · rename_i place old hspot
      exact ⟨_, place, hspot, .file place old, (Except.ok.inj h).symm⟩
    · rename_i place hspot
      exact ⟨_, place, hspot, .free place, (Except.ok.inj h).symm⟩
    · cases h
    · cases h
  obtain ⟨s, place, hspot, hs, rfl⟩ := hfits
  obtain ⟨hne, hstart, hwalk⟩ := walk_of_spot hspot
  obtain ⟨hleads, hopen⟩ := leads_of_walk hstart hwalk hs
  have hstart' := hopen.hasFolder_put hstart (.file bytes)
  have hback := (hleads.put hopen (.file bytes)).walk (hopen.at?_put (.file bytes))
  rw [← here_put v (.file bytes) place] at hstart' hback
  simp only [read, lookup, spot_eq_walk hne hstart', hback]

end Volume

end JavaSurvey
