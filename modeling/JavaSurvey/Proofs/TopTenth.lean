import JavaSurvey.Proofs.Ranking
import Mathlib.Data.List.FinRange
import Mathlib.Data.List.Perm.Subperm

/-!
The top tenth by position. Entries of a list may be equal, so that which of them a ranking takes can
only be told by where they stand. Positions have an order of their own, in which no two are equal:
the larger key first, then the earlier position. A ranking is a cut through this order, and the query
for a least number of methods is another; one of the two cuts contains the other.
-/

set_option autoImplicit false

namespace JavaSurvey

section Places

variable {α : Type} {key : α → Int} {xs ys : List α}

/-- Position `i` comes before `j`: its key is larger, or the keys are equal and it stands earlier. -/
def Outranks (key : α → Int) (xs : List α) (i j : Fin xs.length) : Prop :=
  key (xs.get j) < key (xs.get i) ∨ key (xs.get j) = key (xs.get i) ∧ i < j

theorem Outranks.key_le {i j : Fin xs.length} (h : Outranks key xs i j) :
    key (xs.get j) ≤ key (xs.get i) := by
  rcases h with h | h <;> omega

/-- `ys` is the top tenth of `xs`, taken from the positions `chosen`. -/
structure TopPlaces (key : α → Int) (xs ys : List α) (chosen : List (Fin xs.length)) : Prop where
  entries : ys = chosen.map xs.get
  size : (chosen.length : Int) = topDecileSize xs.length
  length : chosen.length = if xs = [] then 0 else max 1 (xs.length / 10)
  nodup : chosen.Nodup
  ordered : chosen.Pairwise (Outranks key xs)
  ahead : ∀ i ∈ chosen, ∀ j, j ∉ chosen → Outranks key xs i j

def places (key : α → Int) (xs : List α) : List (Fin xs.length) :=
  rankBy (fun i => key (xs.get i)) (List.finRange xs.length)

theorem map_get_places : (places key xs).map xs.get = rankBy key xs := by
  rw [places, map_rankBy, List.map_get_finRange]

theorem places_perm : (places key xs).Perm (List.finRange xs.length) := rankBy_perm _

theorem nodup_places : (places key xs).Nodup :=
  places_perm.nodup_iff.mpr (List.nodup_finRange _)

theorem mem_places (i : Fin xs.length) : i ∈ places key xs :=
  places_perm.mem_iff.mpr (List.mem_finRange i)

theorem pairwise_places : (places key xs).Pairwise (Outranks key xs) :=
  stable_rankBy (List.pairwise_lt_finRange _)

theorem topDecileSize_length (xs : List α) :
    topDecileSize xs.length = ((if xs = [] then 0 else max 1 (xs.length / 10) : Nat) : Int) := by
  cases xs with
  | nil => rfl
  | cons x xs =>
    simp only [topDecileSize, List.length_cons, reduceCtorEq, ↓reduceIte]
    omega

theorem exists_topPlaces (key : α → Int) (xs : List α) :
    ∃ chosen, TopPlaces key xs (topDecile key xs) chosen := by
  let n := (topDecileSize xs.length).toNat
  have hentries : topDecile key xs = ((places key xs).take n).map xs.get := by
    rw [List.map_take, map_get_places, topDecile]
  have hsize : ((((places key xs).take n).length : Nat) : Int) = topDecileSize xs.length := by
    have hlength : ((topDecile key xs).length : Int) = topDecileSize xs.length := length_topDecile xs
    rwa [hentries, List.length_map] at hlength
  have hcut : ((places key xs).take n ++ (places key xs).drop n).Pairwise (Outranks key xs) := by
    rw [List.take_append_drop]
    exact pairwise_places
  refine ⟨(places key xs).take n,
    { entries := hentries
      size := hsize
      length := ?_
      nodup := nodup_places.sublist (List.take_sublist n _)
      ordered := (List.pairwise_append.mp hcut).1
      ahead := fun i hi j hj => (List.pairwise_append.mp hcut).2.2 i hi j ?_ }⟩
  · rw [topDecileSize_length] at hsize
    exact Int.ofNat_inj.mp hsize
  · have hmem : j ∈ places key xs := mem_places j
    rw [← List.take_append_drop n (places key xs)] at hmem
    exact (List.mem_append.mp hmem).resolve_left hj

/-- Of two equal keys at the cut the earlier one is taken. -/
example : topDecile Prod.fst [(1, "a"), (2, "b"), (2, "c")] = [(2, "b")] := by cbv

/-- The positions of the entries with at least `t` for a key, in their order. -/
def placesFrom (key : α → Int) (t : Int) (xs : List α) : List (Fin xs.length) :=
  (List.finRange xs.length).filter fun i => decide (t ≤ key (xs.get i))

theorem mem_placesFrom {t : Int} {i : Fin xs.length} :
    i ∈ placesFrom key t xs ↔ t ≤ key (xs.get i) := by
  simp [placesFrom]

theorem nodup_placesFrom (t : Int) : (placesFrom key t xs).Nodup := (List.nodup_finRange _).filter _

theorem map_get_placesFrom (t : Int) :
    (placesFrom key t xs).map xs.get = xs.filter fun x => decide (t ≤ key x) := by
  have hfilter := List.filter_map (l := List.finRange xs.length) (f := xs.get)
    (p := fun x => decide (t ≤ key x))
  rw [List.map_get_finRange] at hfilter
  exact hfilter.symm

theorem length_lt_of_subset {n : Nat} {is js : List (Fin n)} (hn : is.Nodup) (h : is ⊆ js)
    {j : Fin n} (hj : j ∈ js) (hnot : j ∉ is) : is.length < js.length := by
  have hsub : (j :: is) ⊆ js := List.cons_subset.mpr ⟨hj, h⟩
  exact (List.Nodup.subperm (List.nodup_cons.mpr ⟨hnot, hn⟩) hsub).length_le

namespace TopPlaces

variable {chosen : List (Fin xs.length)}

theorem reach (h : TopPlaces key xs ys chosen) {t : Int}
    (hlen : chosen.length ≤ (placesFrom key t xs).length) {i : Fin xs.length} (hi : i ∈ chosen) :
    t ≤ key (xs.get i) := by
  refine Int.not_lt.mp fun hlow => ?_
  -- else a position that reaches `t` is ahead of `i`, so that it is chosen too, beside `i`
  have hsub : placesFrom key t xs ⊆ chosen := by
    intro j hj
    have hkey := mem_placesFrom.mp hj
    refine Decidable.byContradiction fun hnot => ?_
    have hle := (h.ahead i hi j hnot).key_le
    omega
  have hlt := length_lt_of_subset (nodup_placesFrom t) hsub hi (by rw [mem_placesFrom]; omega)
  omega

theorem chosen_of_reach (h : TopPlaces key xs ys chosen) {t : Int}
    (hlen : (placesFrom key t xs).length ≤ chosen.length) {j : Fin xs.length}
    (hj : t ≤ key (xs.get j)) : j ∈ chosen := by
  refine Decidable.byContradiction fun hnot => ?_
  -- else every chosen position is ahead of `j`, so that it reaches `t` too, beside `j`
  have hsub : chosen ⊆ placesFrom key t xs := by
    intro i hi
    have hle := (h.ahead i hi j hnot).key_le
    rw [mem_placesFrom]
    omega
  have hlt := length_lt_of_subset h.nodup hsub (mem_placesFrom.mpr hj) hnot
  omega

end TopPlaces

end Places

namespace Inventory

theorem rankings_from_top_places (inv : Inventory) :
    (∃ chosen, TopPlaces (fun c : Listed => (c.info.methodCount : Int)) inv.classes
      inv.topClassesByMethods chosen) ∧
    (∃ chosen, TopPlaces (fun c : Listed => c.info.attributeCount) inv.classes
      inv.topClassesByAttributes chosen) ∧
    ∃ chosen, TopPlaces (fun m : RankedMethod => m.method.lineCount) inv.methods
      inv.topMethodsByLength chosen :=
  ⟨exists_topPlaces _ _, exists_topPlaces _ _, exists_topPlaces _ _⟩

theorem map_get_withAtLeast (inv : Inventory) (t : Nat) :
    (placesFrom (fun c : Listed => (c.info.methodCount : Int)) t inv.classes).map inv.classes.get =
      inv.withAtLeast t := by
  rw [map_get_placesFrom, withAtLeast]
  refine List.filter_congr fun c _ => ?_
  rw [decide_eq_decide]
  omega

theorem withAtLeast_sublist (inv : Inventory) {a b : Nat} (h : a ≤ b) :
    (inv.withAtLeast b).Sublist (inv.withAtLeast a) := by
  refine List.monotone_filter_right _ fun c hc => ?_
  simp only [decide_eq_true_eq] at hc ⊢
  omega

/-- The classes with at least `t` methods beside the ranking by methods, which was taken from the
positions `chosen`. -/
structure BesideRanking (inv : Inventory) (chosen : List (Fin inv.classes.length)) (t : Nat) :
    Prop where
  found : inv.withAtLeast t = ((List.finRange inv.classes.length).filter fun i =>
    decide (t ≤ (inv.classes.get i).info.methodCount)).map inv.classes.get
  enough : inv.topClassesByMethods.length ≤ (inv.withAtLeast t).length →
    ∀ c ∈ inv.topClassesByMethods, t ≤ c.info.methodCount
  few : (inv.withAtLeast t).length ≤ inv.topClassesByMethods.length →
    ∀ i, t ≤ (inv.classes.get i).info.methodCount → i ∈ chosen

theorem besideRanking {inv : Inventory} {chosen : List (Fin inv.classes.length)}
    (h : TopPlaces (fun c : Listed => (c.info.methodCount : Int)) inv.classes
      inv.topClassesByMethods chosen) (t : Nat) : inv.BesideRanking chosen t := by
  have hfound := map_get_withAtLeast inv t
  have htop : inv.topClassesByMethods.length = chosen.length := by rw [h.entries, List.length_map]
  have hlength : (inv.withAtLeast t).length =
      (placesFrom (fun c : Listed => (c.info.methodCount : Int)) t inv.classes).length := by
    rw [← hfound, List.length_map]
  refine { found := ?_, enough := fun hle c hc => ?_, few := fun hle i hi => ?_ }
  · rw [← hfound, placesFrom]
    simp only [Int.ofNat_le]
  · rw [htop, hlength] at hle
    rw [h.entries] at hc
    obtain ⟨i, hi, rfl⟩ := List.mem_map.mp hc
    exact Int.ofNat_le.mp (h.reach hle hi)
  · rw [htop, hlength] at hle
    exact h.chosen_of_reach hle (Int.ofNat_le.mpr hi)

/-- A larger threshold finds some of what a smaller one finds, and 0 finds all. If a query finds as many
classes as the ranking has, those of the ranking reach the threshold; if it finds no more, it finds
nothing that is not ranked. -/
theorem minMethods_beside_ranking (inv : Inventory) :
    (∀ n : Nat, inv.classesWithMinMethods (.whole n) = .ok (inv.withAtLeast n)) ∧
    (∀ a b, a ≤ b → (inv.withAtLeast b).Sublist (inv.withAtLeast a)) ∧
    inv.withAtLeast 0 = inv.classes ∧
    ∃ chosen, TopPlaces (fun c : Listed => (c.info.methodCount : Int)) inv.classes
      inv.topClassesByMethods chosen ∧ ∀ t, inv.BesideRanking chosen t := by
  obtain ⟨chosen, hchosen⟩ :=
    exists_topPlaces (fun c : Listed => (c.info.methodCount : Int)) inv.classes
  refine ⟨fun n => ?_, fun a b hab => withAtLeast_sublist inv hab, ?_, chosen, hchosen,
    besideRanking hchosen⟩
  · rw [classesWithMinMethods, Threshold.parse_whole]
    rfl
  · exact List.filter_eq_self.mpr fun c _ => by simp

theorem minMethods_beside_ranking_of_three :
    let f : Method := { name := "f" }
    let inv : Inventory := { classes := [⟨0, { name := "A", methods := [f] }⟩,
      ⟨1, { name := "B", methods := [f, f] }⟩, ⟨2, { name := "C", methods := [f] }⟩] }
    (inv.withAtLeast 2).Sublist (inv.withAtLeast 1) ∧
      inv.topClassesByMethods.length = 1 ∧ (inv.withAtLeast 1).length = 3 ∧
      (inv.withAtLeast 2).length = 1 ∧
      (∀ c ∈ inv.topClassesByMethods, 2 ≤ c.info.methodCount) ∧
      ∃ chosen : List (Fin 3), inv.topClassesByMethods = chosen.map inv.classes.get ∧ 1 ∈ chosen := by
  intro f inv
  obtain ⟨-, hsub, -, chosen, hchosen, hbeside⟩ := minMethods_beside_ranking inv
  have htop : inv.topClassesByMethods.length = 1 := by
    rw [hchosen.entries, List.length_map, hchosen.length]
    simp [inv]
  have htwo : (inv.withAtLeast 2).length = 1 := rfl
  refine ⟨hsub 1 2 (by decide), htop, rfl, htwo, (hbeside 2).enough (by omega), chosen,
    hchosen.entries, (hbeside 2).few (by omega) 1 (by decide)⟩

end Inventory

end JavaSurvey
