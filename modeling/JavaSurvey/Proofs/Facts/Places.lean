import JavaSurvey.Facts.Index
import JavaSurvey.Proofs.Tree.Preorder

/-!
Where the facts of a sheet come from. Types are found by one walk over the tree and calls by a walk
over each method again, so that nested types and methods are gone through more than once. Told by
their places, the nodes still give each type once, each method in one type at most, and each call once
in every method around it.
-/

set_option autoImplicit false

namespace JavaSurvey.Index

open Occurrence (Before)

def typesIn (root : Node) : List Occurrence := root.occurrences.filter (isTypeDeclaration ·.node)

def bodyOf? (t : Occurrence) : Option Occurrence :=
  t.children.find? (·.node.label.field = some "body")

/-- A method that stands directly in the body of a type. -/
def Declares (t m : Occurrence) : Prop :=
  isMethodDeclaration m.node ∧ m.node.label.named ∧ ∃ b, bodyOf? t = some b ∧ m ∈ b.children

def methodsOf (t : Occurrence) : List Occurrence :=
  match bodyOf? t with
  | some b => b.children.filter fun m => isMethodDeclaration m.node && m.node.label.named
  | none => []

def methodsIn (root : Node) : List Occurrence := (typesIn root).flatMap methodsOf

def callsIn (root : Node) (m : Occurrence) : List Occurrence :=
  root.occurrences.filter fun c => m.place <+: c.place ∧ isInvocation c.node

def methodAt (source : Array UInt8) (root : Node) (m : Occurrence) : Method :=
  { method source m.node with calls := (callsIn root m).map fun c => call source c.node }

def typeAt (source : Array UInt8) (root : Node) (t : Occurrence) : TypeFacts :=
  { typeFacts source t.node with methods := (methodsOf t).map (methodAt source root) }

theorem mem_methodsOf {t m : Occurrence} : m ∈ methodsOf t ↔ Declares t m := by
  rw [methodsOf, Declares]
  cases bodyOf? t with
  | none => simp
  | some b =>
    simp only [List.mem_filter, Bool.and_eq_true, Option.some.injEq, exists_eq_left']
    grind

theorem pairwise_methodsOf (t : Occurrence) : (methodsOf t).Pairwise Before := by
  rw [methodsOf]
  cases bodyOf? t with
  | none => exact .nil
  | some b => exact b.pairwise_children.filter _

theorem Declares.place {t m : Occurrence} (h : Declares t m) : ∃ i j, m.place = t.place ++ [i, j] := by
  obtain ⟨-, -, b, hb, hm⟩ := h
  obtain ⟨i, -, hi⟩ := Occurrence.mem_children.mp (List.mem_of_find?_eq_some hb)
  obtain ⟨j, -, hj⟩ := Occurrence.mem_children.mp hm
  exact ⟨i, j, by rw [hj, hi, List.append_assoc]; rfl⟩

theorem Declares.mem_occurrences {root : Node} {t m : Occurrence} (h : Declares t m)
    (ht : t ∈ root.occurrences) : m ∈ root.occurrences := by
  obtain ⟨-, -, b, hb, hm⟩ := h
  have hbody : b ∈ root.occurrences :=
    Occurrence.mem_occurrences_of_mem_children ht (List.mem_of_find?_eq_some hb)
  exact Occurrence.mem_occurrences_of_mem_children hbody hm

theorem lists_typesIn (root : Node) : root.Lists (fun t => isTypeDeclaration t.node) (typesIn root) :=
  Node.lists_filter root fun _ => Iff.rfl

theorem mem_occurrences_of_typesIn {root : Node} {t : Occurrence} (h : t ∈ typesIn root) :
    t ∈ root.occurrences := (List.mem_filter.mp h).1

theorem lists_methodsOf {root : Node} {t : Occurrence} (ht : t ∈ typesIn root) :
    root.Lists (Declares t) (methodsOf t) where
  inOrder := pairwise_methodsOf t
  mem_iff := fun m => by
    rw [mem_methodsOf]
    exact ⟨fun h => ⟨h.mem_occurrences (mem_occurrences_of_typesIn ht), h⟩, fun h => h.2⟩

theorem lists_callsIn (root : Node) (m : Occurrence) :
    root.Lists (fun c => m.place <+: c.place ∧ isInvocation c.node) (callsIn root m) :=
  Node.lists_filter root fun _ => decide_eq_true_iff

theorem mem_occurrences_of_methodsIn {root : Node} {m : Occurrence} (h : m ∈ methodsIn root) :
    m ∈ root.occurrences := by
  obtain ⟨t, ht, hm⟩ := List.mem_flatMap.mp h
  exact (mem_methodsOf.mp hm).mem_occurrences (mem_occurrences_of_typesIn ht)

theorem nodup_methodsIn (root : Node) : (methodsIn root).Nodup := by
  rw [methodsIn, List.nodup_flatMap]
  refine ⟨fun t _ => Occurrence.nodup_of_inOrder (pairwise_methodsOf t), ?_⟩
  refine (lists_typesIn root).inOrder.imp fun {t u} h m ht hu => ?_
  obtain ⟨i, j, hp⟩ := (mem_methodsOf.mp ht).place
  obtain ⟨k, l, hq⟩ := (mem_methodsOf.mp hu).place
  rw [hp] at hq
  exact h.place_ne (List.append_inj_left' hq rfl)

theorem calls_eq {root : Node} {m : Occurrence} (h : m ∈ root.occurrences) (source : Array UInt8) :
    calls source m.node = (callsIn root m).map fun c => call source c.node := by
  rw [callsIn, Node.filter_occurrences (Node.mem_occurrences.mp h) isInvocation, List.map_map, calls,
    Node.nodes_eq_preorder, ← Node.map_node_occurrences, List.filter_map, List.map_map]
  rfl

theorem method_eq {root : Node} {m : Occurrence} (h : m ∈ root.occurrences) (source : Array UInt8) :
    method source m.node = methodAt source root m := by
  rw [methodAt, ← calls_eq h]
  rfl

theorem child?_body (t : Occurrence) : t.node.child? "body" = (bodyOf? t).map Occurrence.node := by
  rw [Node.child?, ← t.map_node_children, List.find?_map, bodyOf?]
  rfl

theorem filter_members (t : Occurrence) :
    (members t.node).filter isMethodDeclaration = (methodsOf t).map Occurrence.node := by
  rw [members, child?_body, methodsOf]
  cases bodyOf? t with
  | none => rfl
  | some b =>
    simp only [Option.map_some, Node.namedChildren, ← b.map_node_children, List.filter_map,
      List.filter_filter]
    rfl

theorem typeFacts_eq {root : Node} {t : Occurrence} (h : t ∈ typesIn root) (source : Array UInt8) :
    typeFacts source t.node = typeAt source root t := by
  have hmethods : ((members t.node).filter isMethodDeclaration).map (method source) =
      (methodsOf t).map (methodAt source root) := by
    rw [filter_members, List.map_map]
    refine List.map_congr_left fun m hm => method_eq ?_ source
    exact (mem_methodsOf.mp hm).mem_occurrences (mem_occurrences_of_typesIn h)
  rw [typeAt, ← hmethods]
  rfl

theorem types_sheet (source : Array UInt8) (root : Node) :
    (sheet source root).types = (typesIn root).map (typeAt source root) := by
  rw [sheet, Node.nodes_eq_preorder, ← Node.map_node_occurrences, List.filter_map, List.map_map]
  exact List.map_congr_left fun t ht => typeFacts_eq ht source

theorem calls_infix {root : Node} {m inner : Occurrence} (hm : m ∈ root.occurrences)
    (hi : inner ∈ root.occurrences) (h : m.place <+: inner.place) (source : Array UInt8) :
    calls source inner.node <:+: calls source m.node := by
  obtain ⟨q, hq⟩ := h
  rw [Node.mem_occurrences] at hm hi
  rw [← hq, Node.at?_append, hm, Option.bind_some] at hi
  rw [calls, calls, Node.nodes_eq_preorder, Node.nodes_eq_preorder]
  exact ((Node.preorder_infix hi).filter _).map _

/-- How the facts of a sheet lie in a tree. -/
structure Faithful (source : Array UInt8) (root : Node) (sheet : Sheet) : Prop where
  preorder : root.occurrences.map Occurrence.node = root.preorder
  /-- One type for each type declaration, with its methods and with their calls. -/
  types : sheet.types = (typesIn root).map (typeAt source root)
  types_listed : root.Lists (fun t => isTypeDeclaration t.node) (typesIn root)
  methods_listed : ∀ t ∈ typesIn root, root.Lists (Declares t) (methodsOf t)
  /-- No method is in two types. -/
  methods_nodup : (methodsIn root).Nodup
  mem_methods : ∀ m, m ∈ methodsIn root ↔ ∃ t ∈ typesIn root, Declares t m
  calls_listed : ∀ m ∈ methodsIn root,
    root.Lists (fun c => m.place <+: c.place ∧ isInvocation c.node) (callsIn root m)
  calls_nested : ∀ m ∈ methodsIn root, ∀ inner ∈ methodsIn root, m.place <+: inner.place →
    (methodAt source root inner).calls <:+: (methodAt source root m).calls

/-- A tree without a fault has a sheet. It lists every type declaration once, every method that stands
directly in the body of one once, and every call once for each of these methods around it, all in
pre-order; the calls of a method inside another are one piece of the calls of that. -/
theorem ofTree_faithful (source path : String) (root : Node) (h : root.label.faulty = false) :
    ∃ sheet, Sheet.ofTree source path root = .ok sheet ∧
      Faithful (Utf8.encode source).toArray root sheet := by
  refine ⟨Index.sheet (Utf8.encode source).toArray root, by simp [Sheet.ofTree, h], ?_⟩
  refine
    { preorder := root.map_node_occurrences
      types := types_sheet _ root
      types_listed := lists_typesIn root
      methods_listed := fun t ht => lists_methodsOf ht
      methods_nodup := nodup_methodsIn root
      mem_methods := fun m => by simp only [methodsIn, List.mem_flatMap, mem_methodsOf]
      calls_listed := fun m _ => lists_callsIn root m
      calls_nested := fun m hm inner hi hp => ?_ }
  have hm' : m ∈ root.occurrences := mem_occurrences_of_methodsIn hm
  have hi' : inner ∈ root.occurrences := mem_occurrences_of_methodsIn hi
  rw [methodAt, methodAt, ← calls_eq hm', ← calls_eq hi']
  exact calls_infix hm' hi' hp _

theorem ofTree_faithful_nested :
    let node := fun (kind : String) (field : Option String) (cs : List Node) =>
      Node.mk { kind := kind, extent := default, field := field } cs
    let call := node "method_invocation" none []
    let method := fun cs => node "method_declaration" none cs
    let type := fun ms => node "class_declaration" none
      [node "class_body" (some "body") ms, node "class_body" (some "body") [method [call]]]
    let root := node "program" none [type [method [call, type [method [call, call]], call]]]
    root.label.faulty = false ∧ (typesIn root).map Occurrence.place = [[0], [0, 0, 0, 1]] ∧
      (methodsIn root).map Occurrence.place = [[0, 0, 0], [0, 0, 0, 1, 0, 0]] ∧
      ((methodsIn root).map fun m => (callsIn root m).map Occurrence.place) =
        [[[0, 0, 0, 0], [0, 0, 0, 1, 0, 0, 0], [0, 0, 0, 1, 0, 0, 1], [0, 0, 0, 1, 1, 0, 0],
          [0, 0, 0, 2]], [[0, 0, 0, 1, 0, 0, 0], [0, 0, 0, 1, 0, 0, 1]]] ∧
      ∃ sheet, Sheet.ofTree "" "" root = .ok sheet ∧ Faithful (Utf8.encode "").toArray root sheet := by
  intro node call method type root
  have h : root.label.faulty = false := rfl
  exact ⟨h, by decide, by decide, by decide, ofTree_faithful "" "" root h⟩

end JavaSurvey.Index
