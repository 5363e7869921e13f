import JavaSurvey.Proofs.Tree.Preorder
import Mathlib.Order.Defs.PartialOrder

set_option autoImplicit false

namespace JavaSurvey

namespace Point

/-- Points are ordered by row, and in a row by column. -/
instance : Preorder Point where
  le p q := p.row < q.row ∨ p.row = q.row ∧ p.col ≤ q.col
  le_refl p := .inr ⟨rfl, Int.le_refl _⟩
  le_trans p q r hpq hqr := by omega

instance (p q : Point) : Decidable (p ≤ q) := inferInstanceAs (Decidable (_ ∨ _ ∧ _))

theorem le_iff {p q : Point} : p ≤ q ↔ p.row < q.row ∨ p.row = q.row ∧ p.col ≤ q.col := Iff.rfl

theorem row_le {p q : Point} (h : p ≤ q) : p.row ≤ q.row := by
  rw [le_iff] at h
  omega

end Point

namespace Extent

def Encloses (outer inner : Extent) : Prop :=
  outer.start ≤ inner.start ∧ inner.start ≤ inner.stop ∧ inner.stop ≤ outer.stop

instance (outer inner : Extent) : Decidable (outer.Encloses inner) :=
  inferInstanceAs (Decidable (_ ∧ _))

theorem Encloses.trans {a b c : Extent} (hab : a.Encloses b) (hbc : b.Encloses c) : a.Encloses c :=
  ⟨hab.1.trans hbc.1, hbc.2.1, hbc.2.2.trans hab.2.2⟩

theorem Encloses.start_le_stop {a b : Extent} (h : a.Encloses b) : b.start ≤ a.stop :=
  h.2.1.trans h.2.2

end Extent

namespace Node

@[elab_as_elim]
theorem induct {P : Node → Prop} (mk : ∀ l cs, (∀ c ∈ cs, P c) → P (mk l cs)) (n : Node) : P n :=
  @Node.rec P (fun cs => ∀ c ∈ cs, P c) mk (by simp)
    (fun _ _ head tail => List.forall_mem_cons.mpr ⟨head, tail⟩) n

theorem preorder_mk (l : Label) (cs : List Node) :
    (mk l cs).preorder = mk l cs :: cs.flatMap preorder := by
  have hall : preorderAll cs = cs.flatMap preorder := by
    induction cs with
    | nil => rfl
    | cons c cs ih => rw [preorderAll, ih, List.flatMap_cons]
  rw [preorder, hall]

/-- The extents of the children lie inside that of the node, in order and without overlap. -/
def Nests (n : Node) : Prop :=
  (∀ c ∈ n.children, n.extent.Encloses c.extent) ∧
    n.children.Pairwise fun a b => a.extent.stop ≤ b.extent.start

instance (n : Node) : Decidable n.Nests := inferInstanceAs (Decidable (_ ∧ _))

def WellNested (root : Node) : Prop := ∀ n ∈ root.preorder, n.Nests

instance (root : Node) : Decidable root.WellNested :=
  inferInstanceAs (Decidable (∀ n ∈ root.preorder, n.Nests))

theorem wellNested_mk {l : Label} {cs : List Node} :
    (mk l cs).WellNested ↔ (mk l cs).Nests ∧ ∀ c ∈ cs, c.WellNested := by
  simp only [WellNested, preorder_mk, List.forall_mem_cons, List.mem_flatMap]
  grind

theorem mem_preorder_of_at? {n m : Node} {p : Place} (h : n.at? p = some m) : m ∈ n.preorder := by
  rw [← map_node_occurrences]
  exact List.mem_map.mpr ⟨⟨p, m⟩, mem_occurrences.mpr h, rfl⟩

theorem WellNested.encloses {root : Node} (h : root.WellNested) {n : Node} (hn : n ∈ root.preorder) :
    n = root ∨ root.extent.Encloses n.extent := by
  induction root using induct with
  | mk l cs ih =>
    obtain ⟨⟨hinside, -⟩, hbelow⟩ := wellNested_mk.mp h
    rw [preorder_mk, List.mem_cons, List.mem_flatMap] at hn
    rcases hn with rfl | ⟨c, hc, hn⟩
    · exact .inl rfl
    · rcases ih c hc (hbelow c hc) hn with rfl | hin
      · exact .inr (hinside n hc)
      · exact .inr ((hinside c hc).trans hin)

theorem WellNested.start_le {root : Node} (h : root.WellNested) {n : Node} (hn : n ∈ root.preorder) :
    root.start ≤ n.start := by
  rcases h.encloses hn with rfl | hin
  · exact le_rfl
  · exact hin.1

theorem WellNested.at? {root n : Node} {p : Place} (h : root.WellNested) (hn : root.at? p = some n) :
    n.WellNested := by
  intro m hm
  have hpiece := preorder_infix hn
  exact h m (hpiece.subset hm)

/-- In a well-nested tree pre-order is source order. -/
theorem WellNested.pairwise_start {root : Node} (h : root.WellNested) :
    root.preorder.Pairwise fun a b => a.start ≤ b.start := by
  induction root using induct with
  | mk l cs ih =>
    obtain ⟨⟨hinside, happart⟩, hbelow⟩ := wellNested_mk.mp h
    have hfirst : ∀ n ∈ cs.flatMap preorder, (mk l cs).start ≤ n.start := fun n hn =>
      h.start_le (by rw [preorder_mk]; exact List.mem_cons_of_mem _ hn)
    rw [preorder_mk, List.pairwise_cons, List.pairwise_flatMap]
    refine ⟨hfirst, fun c hc => ih c hc (hbelow c hc), ?_⟩
    -- below an earlier child all starts come before its end, below a later one after its start
    refine happart.imp_of_mem fun {c d} hc hd hcd a ha b hb => ?_
    have hstop : a.start ≤ c.extent.stop := by
      rcases (hbelow c hc).encloses ha with rfl | hin
      · exact (hinside a hc).2.1
      · exact hin.start_le_stop
    exact (hstop.trans hcd).trans ((hbelow d hd).start_le hb)

end Node

end JavaSurvey
