import JavaSurvey.Proofs.Totals

/-!
Classes as objects. An object may be listed at several positions, and a method that is added to it shows
at all of them; two objects may have the same contents and are still two. A `Store` has this by
construction: it keeps the contents of every object once and lists numbers only. Inventories, which
keep a copy at every position, are in step with it through every history, so the classes of both
rankings can be told by their objects.
-/

set_option autoImplicit false

namespace JavaSurvey

/-- The contents of the objects, by number, and the numbers in the order of listing. An object is
listed when it is made. -/
structure Store where
  objects : List ClassInfo
  listing : List Nat
  mem_listing : ∀ k, k ∈ listing ↔ k < objects.length

namespace Store

def empty : Store := ⟨[], [], by simp⟩

def make (st : Store) (info : ClassInfo) : Store where
  objects := st.objects ++ [info]
  listing := st.listing ++ [st.objects.length]
  mem_listing k := by
    simp only [List.mem_append, st.mem_listing, List.mem_singleton, List.length_append,
      List.length_singleton]
    omega

def relist (st : Store) (k : Nat) (h : k < st.objects.length) : Store where
  objects := st.objects
  listing := st.listing ++ [k]
  mem_listing j := by
    simp only [List.mem_append, st.mem_listing, List.mem_singleton]
    omega

def again (st : Store) (k : Nat) : Store :=
  if h : k < st.objects.length then st.relist k h else st

def grow (st : Store) (k : Nat) (m : Method) : Store where
  objects := st.objects.modify k fun c => { c with methods := c.methods ++ [m] }
  listing := st.listing
  mem_listing := by simpa using st.mem_listing

def entries (st : Store) : List Listed :=
  st.listing.pmap (fun k h => ⟨k, st.objects.get ⟨k, h⟩⟩) fun k => (st.mem_listing k).mp

theorem map_tag_entries (st : Store) : st.entries.map Listed.tag = st.listing := by
  simp [entries, List.map_pmap]

theorem mem_entries {st : Store} {c : Listed} :
    c ∈ st.entries ↔ st.objects[c.tag]? = some c.info := by
  obtain ⟨k, info⟩ := c
  simp only [entries, List.mem_pmap, st.mem_listing, List.getElem?_eq_some_iff, List.get_eq_getElem,
    Listed.mk.injEq]
  grind

theorem eq_of_tag_eq {st : Store} {c d : Listed} (hc : c ∈ st.entries) (hd : d ∈ st.entries)
    (h : c.tag = d.tag) : c = d := by
  rw [mem_entries] at hc hd
  rw [h, hd, Option.some.injEq] at hc
  obtain ⟨k, info⟩ := c
  obtain ⟨k', info'⟩ := d
  simp_all

theorem entries_make (st : Store) (info : ClassInfo) :
    (st.make info).entries = st.entries ++ [⟨st.objects.length, info⟩] := by
  simp only [entries, make, List.pmap_append, List.pmap_cons, List.pmap_nil, List.get_eq_getElem,
    List.getElem_concat_length]
  congr 1
  refine List.pmap_congr_left _ fun k hk h h' => ?_
  rw [List.getElem_append_left h']

theorem entries_relist {st : Store} {k : Nat} (h : k < st.objects.length) :
    (st.relist k h).entries = st.entries ++ [⟨k, st.objects.get ⟨k, h⟩⟩] := by
  simp only [entries, relist, List.pmap_append, List.pmap_cons, List.pmap_nil]

theorem entries_grow (st : Store) (k : Nat) (m : Method) :
    (st.grow k m).entries = st.entries.map fun c =>
      if c.tag = k then { c with info := { c.info with methods := c.info.methods ++ [m] } }
      else c := by
  simp only [entries, grow, List.map_pmap, List.get_eq_getElem]
  refine List.pmap_congr_left _ fun j hj h h' => ?_
  rw [List.getElem_modify]
  by_cases hk : k = j
  · simp [hk]
  · simp [hk, Ne.symm hk]

structure Backs (st : Store) (inv : Inventory) : Prop where
  classes : inv.classes = st.entries
  made : inv.made = st.objects.length

namespace Backs

variable {st : Store} {inv : Inventory}

theorem make (h : st.Backs inv) (info : ClassInfo) (lines : Int) :
    (st.make info).Backs (inv.addClass info lines) where
  classes := by
    rw [entries_make, ← h.classes, ← h.made]
    rfl
  made := by simp [Inventory.addClass, Store.make, h.made]

theorem again (h : st.Backs inv) (k : Nat) (lines : Int) :
    (st.again k).Backs (inv.addAgain k lines) := by
  cases hfind : inv.classes.find? (·.tag == k) with
  | none =>
    -- an object that was made is listed, so that it would have been found
    have hk : ¬ k < st.objects.length := fun hk => by
      have hmem : ⟨k, st.objects.get ⟨k, hk⟩⟩ ∈ st.entries := mem_entries.mpr (by simp)
      rw [← h.classes] at hmem
      have hother := List.find?_eq_none.mp hfind _ hmem
      simp at hother
    rw [Inventory.addAgain, hfind, Store.again, dif_neg hk]
    exact h
  | some c =>
    have htag : c.tag = k := by simpa using List.find?_some hfind
    have hmem : c ∈ st.entries := h.classes ▸ List.mem_of_find?_eq_some hfind
    obtain ⟨hk, -⟩ := List.getElem?_eq_some_iff.mp (mem_entries.mp hmem)
    rw [htag] at hk
    have hentry : c = ⟨k, st.objects.get ⟨k, hk⟩⟩ :=
      eq_of_tag_eq hmem (mem_entries.mpr (by simp)) htag
    rw [Inventory.addAgain, hfind, Store.again, dif_pos hk]
    refine ⟨?_, h.made⟩
    rw [entries_relist, ← h.classes, ← hentry]
    rfl

theorem grow (h : st.Backs inv) (k : Nat) (m : Method) :
    (st.grow k m).Backs (inv.appendMethod k m) where
  classes := by
    rw [entries_grow, ← h.classes]
    rfl
  made := by simpa [Store.grow, Inventory.appendMethod] using h.made

theorem package (h : st.Backs inv) (name : Option String) : st.Backs (inv.addPackage name) where
  classes := by rw [Inventory.classes_addPackage, h.classes]
  made := by
    rw [← h.made]
    cases name with
    | none => rfl
    | some p =>
      rw [Inventory.addPackage]
      split <;> rfl

theorem mergeTypes {s : Survey} (h : st.Backs s.inventory) (package : Option String)
    (ts : List TypeFacts) :
    ((ts.map fun t => (⟨t.name, t.methods, t.fieldCount, package⟩ : ClassInfo)).foldl Store.make
      st).Backs (ts.foldl (Survey.mergeType package) s).inventory := by
  induction ts generalizing st s with
  | nil => exact h
  | cons t ts ih => exact ih (s := s.mergeType package t) (h.make _ t.lineCount)

theorem merge {s : Survey} (h : st.Backs s.inventory) (sheet : Sheet) :
    (sheet.classes.foldl Store.make st).Backs (s.merge sheet).inventory :=
  mergeTypes (h.package sheet.package) sheet.package sheet.types

end Backs

end Store

namespace Survey

/-- What can happen to a survey; an object that was never made takes no part in it. -/
inductive Event where
  | act (act : Act)
  | grow (object : Nat) (m : Method)
  deriving DecidableEq, Repr

def after (s : Survey) : Event → Survey
  | .act (.make info lines) => { s with inventory := s.inventory.addClass info lines }
  | .act (.again k lines) => { s with inventory := s.inventory.addAgain k lines }
  | .act (.package name) => { s with inventory := s.inventory.addPackage name }
  | .act (.sheet sheet) => s.merge sheet
  | .grow k m => { s with inventory := s.inventory.appendMethod k m }

end Survey

open Survey (Event)

def Store.after (st : Store) : Event → Store
  | .act (.make info _) => st.make info
  | .act (.again k _) => st.again k
  | .act (.package _) => st
  | .act (.sheet sheet) => sheet.classes.foldl Store.make st
  | .grow k m => st.grow k m

theorem Store.Backs.after {st : Store} {s : Survey} (h : st.Backs s.inventory) (e : Event) :
    (st.after e).Backs (s.after e).inventory := by
  cases e with
  | act act =>
    cases act with
    | make info lines => exact h.make info lines
    | again k lines => exact h.again k lines
    | package name => exact h.package name
    | sheet sheet => exact h.merge sheet
  | grow k m => exact h.grow k m

theorem Store.Backs.history {st : Store} {s : Survey} (h : st.Backs s.inventory)
    (events : List Event) :
    (events.foldl Store.after st).Backs (events.foldl Survey.after s).inventory := by
  induction events generalizing st s with
  | nil => exact h
  | cons e events ih => exact ih (h.after e)

namespace Store.Backs

variable {st : Store} {inv : Inventory}

theorem mem_entries_of_byMethods (h : st.Backs inv) {c : Listed} (hc : c ∈ inv.topClassesByMethods) :
    c ∈ st.entries := h.classes ▸ mem_of_mem_topDecile hc

theorem mem_entries_of_byAttributes (h : st.Backs inv) {c : Listed}
    (hc : c ∈ inv.topClassesByAttributes) : c ∈ st.entries := h.classes ▸ mem_of_mem_topDecile hc

theorem inBoth_eq (h : st.Backs inv) :
    inv.topClassesInBoth = inv.topClassesByMethods.filter (· ∈ inv.topClassesByAttributes) := by
  refine List.filter_congr fun c hc => ?_
  rw [decide_eq_decide, List.mem_map]
  constructor
  · rintro ⟨d, hd, htag⟩
    rwa [eq_of_tag_eq (h.mem_entries_of_byMethods hc) (h.mem_entries_of_byAttributes hd) htag.symm]
  · exact fun hd => ⟨c, hd, rfl⟩

theorem nodup_tags (h : st.Backs inv) (hn : st.listing.Nodup) :
    (inv.classes.map Listed.tag).Nodup := by rwa [h.classes, map_tag_entries]

end Store.Backs

theorem Inventory.map_tag_inBoth (inv : Inventory) :
    inv.topClassesInBoth.map Listed.tag = (inv.topClassesByMethods.map Listed.tag).filter
      (· ∈ inv.topClassesByAttributes.map Listed.tag) := by
  rw [List.filter_map]
  rfl

/-- After any history an entry shows the object of its number as it is now, and the entries of both
rankings are the entries of the first, in their order and each as often, whose objects are in the
second. Objects are told by number, whatever their contents. If none is listed twice, none is in both
rankings twice, and it does not matter which ranking is gone through. -/
theorem Survey.inBoth_by_objects (events : List Survey.Event) :
    let inv := (events.foldl Survey.after {}).inventory
    let store := events.foldl Store.after Store.empty
    let byMethods := inv.topClassesByMethods
    let byAttributes := inv.topClassesByAttributes
    let both := inv.topClassesInBoth
    inv.classes = store.entries ∧
    (∀ c ∈ byMethods ++ byAttributes ++ both, store.objects[c.tag]? = some c.info) ∧
    both.Sublist byMethods ∧
    both.map Listed.tag =
      (byMethods.map Listed.tag).filter (· ∈ byAttributes.map Listed.tag) ∧
    both = byMethods.filter (· ∈ byAttributes) ∧
    (store.listing.Nodup → (both.map Listed.tag).Nodup ∧ (both.map Listed.tag).Perm
      ((byAttributes.map Listed.tag).filter (· ∈ byMethods.map Listed.tag))) := by
  intro inv store byMethods byAttributes both
  have hempty : Store.empty.Backs ({} : Survey).inventory := ⟨rfl, rfl⟩
  have h : store.Backs inv := hempty.history events
  have hsub : both.Sublist byMethods := List.filter_sublist
  refine ⟨h.classes, fun c hc => ?_, hsub, inv.map_tag_inBoth, h.inBoth_eq, fun hn => ?_⟩
  · rw [← Store.mem_entries]
    rcases List.mem_append.mp hc with hc | hc
    · exact (List.mem_append.mp hc).elim h.mem_entries_of_byMethods h.mem_entries_of_byAttributes
    · exact h.mem_entries_of_byMethods (hsub.subset hc)
  · have hmethods : (byMethods.map Listed.tag).Nodup := nodup_map_topDecile (h.nodup_tags hn)
    have hattributes : (byAttributes.map Listed.tag).Nodup := nodup_map_topDecile (h.nodup_tags hn)
    have hboth : (both.map Listed.tag).Nodup := hmethods.sublist (hsub.map _)
    refine ⟨hboth, (List.perm_ext_iff_of_nodup hboth (hattributes.filter _)).mpr fun k => ?_⟩
    rw [inv.map_tag_inBoth]
    simp only [List.mem_filter, decide_eq_true_eq]
    exact and_comm

/-- Two classes are made alike, one with more attributes and seventeen with nothing; then the first two
grow. -/
def Survey.twinsGrown : List Survey.Event :=
  let f : Method := { name := "f" }
  let make : ClassInfo → Survey.Event := fun info => .act (.make info 1)
  let twin := make { name := "A", methods := [f], attributeCount := 1 }
  [twin, twin, make { name := "B", attributeCount := 2 }] ++ List.replicate 17 (make { name := "C" }) ++
    [.grow 1 f, .grow 0 f]

theorem Survey.inBoth_by_objects_of_twins :
    let inv := (Survey.twinsGrown.foldl Survey.after {}).inventory
    let store := Survey.twinsGrown.foldl Store.after Store.empty
    store.objects[0]? = store.objects[1]? ∧ store.listing.Nodup ∧
      inv.topClassesByMethods.map Listed.tag = [0, 1] ∧
      inv.topClassesByAttributes.map Listed.tag = [2, 0] ∧
      inv.topClassesInBoth.map Listed.tag = [0] ∧ (inv.topClassesInBoth.map Listed.tag).Nodup := by
  intro inv store
  have hn : store.listing.Nodup := by decide
  have hmethods : inv.topClassesByMethods.map Listed.tag = [0, 1] := by
    rw [Inventory.topClassesByMethods, topDecile, rankBy_eq_insertionSort]
    decide
  have hattributes : inv.topClassesByAttributes.map Listed.tag = [2, 0] := by
    rw [Inventory.topClassesByAttributes, topDecile, rankBy_eq_insertionSort]
    decide
  obtain ⟨-, -, -, hboth, -, hnodup⟩ := inBoth_by_objects twinsGrown
  refine ⟨rfl, hn, hmethods, hattributes, ?_, (hnodup hn).1⟩
  rw [hboth, hmethods, hattributes]
  rfl

/-- An object that is listed at twenty positions takes both places of both rankings. -/
example :
    let events : List Survey.Event :=
      .act (.make { name := "A" } 1) :: List.replicate 19 (.act (.again 0 1))
    (events.foldl Survey.after {}).inventory.topClassesInBoth.map Listed.tag = [0, 0] := by
  simp only [Inventory.topClassesInBoth, Inventory.topClassesByMethods,
    Inventory.topClassesByAttributes, topDecile, rankBy_eq_insertionSort]
  decide

end JavaSurvey
