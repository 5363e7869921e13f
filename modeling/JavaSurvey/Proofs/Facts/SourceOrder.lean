import JavaSurvey.Proofs.Facts.Places
import JavaSurvey.Proofs.Tree.Nesting

/-!
Sheets of well-nested trees in the order of the source. The walk knows nothing of positions, but in a
well-nested tree it goes from each start to one that is no earlier. So the first fault that it meets
has the smallest line of all, and the calls of a method are listed by where they start; of calls that
start together, as in a chain, the one around the others comes first.
-/

set_option autoImplicit false

namespace JavaSurvey

/-! ### Faults -/

namespace Node

def FirstFault (root n : Node) : Prop :=
  n.isFault ∧ ∃ before after, root.preorder = before ++ n :: after ∧ ∀ m ∈ before, m.isFault = false

theorem firstFault?_eq_some_iff {root n : Node} : root.firstFault? = some n ↔ root.FirstFault n := by
  rw [firstFault?, nodes_eq_preorder, List.find?_eq_some_iff_append]
  simp [FirstFault]

theorem firstFault?_eq_none_iff {root : Node} :
    root.firstFault? = none ↔ ∀ n ∈ root.preorder, n.isFault = false := by
  rw [firstFault?, nodes_eq_preorder, List.find?_eq_none]
  simp

theorem FirstFault.mem {root n : Node} (h : root.FirstFault n) : n ∈ root.preorder := by
  obtain ⟨-, before, after, hsplit, -⟩ := h
  simp [hsplit]

theorem FirstFault.start_le {root n m : Node} (h : root.FirstFault n) (hroot : root.WellNested)
    (hm : m ∈ root.preorder) (hfault : m.isFault) : n.start ≤ m.start := by
  obtain ⟨-, before, after, hsplit, hbefore⟩ := h
  have hstarts := hroot.pairwise_start
  rw [hsplit, List.pairwise_append, List.pairwise_cons] at hstarts
  rw [hsplit, List.mem_append, List.mem_cons] at hm
  rcases hm with hm | rfl | hm
  · rw [hbefore m hm] at hfault
    cases hfault
  · exact le_rfl
  · exact hstarts.2.1.1 m hm

end Node

namespace Index

theorem faultLine_cases (root : Node) :
    (∃ n, root.FirstFault n ∧ faultLine root = 1 + n.start.row) ∨
      (∀ n ∈ root.preorder, n.isFault = false) ∧ faultLine root = 1 := by
  rw [faultLine]
  cases h : root.firstFault? with
  | none => exact .inr ⟨Node.firstFault?_eq_none_iff.mp h, rfl⟩
  | some n => exact .inl ⟨n, Node.firstFault?_eq_some_iff.mp h, Int.add_comm _ _⟩

end Index

/-- A tree has no sheet exactly if its root is faulty. Then the line in the message is that of the first
fault in pre-order, or 1 if there is none; in a well-nested tree with a fault no fault has a smaller
line. -/
theorem Sheet.ofTree_at_first_fault (source path : String) (root : Node) :
    ((∃ fault, Sheet.ofTree source path root = .error fault) ↔ root.label.faulty = true) ∧
    (root.label.faulty = true → ∃ line : Int,
      Sheet.ofTree source path root =
        .error ⟨pathOrMemory path, "syntax error near line " ++ toString line⟩ ∧
      ((∃ n, root.FirstFault n ∧ line = 1 + n.start.row) ∨
        (∀ n ∈ root.preorder, n.isFault = false) ∧ line = 1) ∧
      (root.WellNested → (∃ n ∈ root.preorder, n.isFault) →
        (∃ n ∈ root.preorder, n.isFault ∧ line = 1 + n.start.row) ∧
          ∀ n ∈ root.preorder, n.isFault → line ≤ 1 + n.start.row)) := by
  refine ⟨?_, fun h => ⟨Index.faultLine root, ?_, Index.faultLine_cases root, ?_⟩⟩
  · cases h : root.label.faulty <;> simp [Sheet.ofTree, h]
  · rw [Sheet.ofTree, if_pos h]
    rfl
  · rintro hroot ⟨m, hm, hfault⟩
    rcases Index.faultLine_cases root with ⟨n, hn, hline⟩ | ⟨hnone, -⟩
    · refine ⟨⟨n, hn.mem, hn.1, hline⟩, fun m hm hfault => ?_⟩
      have hrow := Point.row_le (hn.start_le hroot hm hfault)
      omega
    · rw [hnone m hm] at hfault
      cases hfault

theorem Sheet.ofTree_at_first_fault_missing :
    let span := fun row col row' col' : Int =>
      ({ firstByte := 0, endByte := 0, start := ⟨row, col⟩, stop := ⟨row', col'⟩ } : Extent)
    let node := fun (kind : String) (extent : Extent) (cs : List Node) =>
      Node.mk { kind := kind, extent := extent } cs
    let semicolon := Node.mk { kind := ";", extent := span 2 4 2 4, named := false, missing := true } []
    let root := Node.mk { kind := "program", extent := span 0 0 5 0, faulty := true }
      [node "class_declaration" (span 0 0 3 1)
        [node "class_body" (span 0 8 3 1) [semicolon, node "ERROR" (span 2 4 3 0) []]],
      node "ERROR" (span 4 0 4 3) []]
    root.WellNested ∧ root.label.faulty = true ∧
      (root.preorder.filter Node.isFault).map Node.start = [⟨2, 4⟩, ⟨2, 4⟩, ⟨4, 0⟩] ∧
      Sheet.ofTree "" "A.java" root = .error ⟨"A.java", "syntax error near line 3"⟩ := by
  intro span node semicolon root
  have hroot : root.WellNested := by decide
  have hfault : semicolon ∈ root.preorder ∧ semicolon.isFault :=
    ⟨Node.mem_preorder_of_at? (p := [0, 0, 0]) rfl, rfl⟩
  have hrows : ∀ n ∈ root.preorder, n.isFault → 2 ≤ n.start.row := by decide
  obtain ⟨line, herror, -, hleast⟩ := (ofTree_at_first_fault "" "A.java" root).2 rfl
  obtain ⟨⟨n, hn, hisFault, hline⟩, hle⟩ := hleast hroot ⟨semicolon, hfault⟩
  have hthree : line = 3 := by
    have hrow := hrows n hn hisFault
    have hle' : line ≤ 1 + 2 := hle semicolon hfault.1 hfault.2
    omega
  refine ⟨hroot, rfl, by decide, ?_⟩
  rw [herror, hthree]
  rfl

/-! ### Calls -/

namespace Occurrence

def Above (a b : Occurrence) : Prop := a.place <+: b.place ∧ a.place ≠ b.place

theorem lt_of_above {os : List Occurrence} (h : os.Pairwise Before) {i j : Nat} (hi : i < os.length)
    (hj : j < os.length) (habove : os[i].Above os[j]) : i < j := by
  rw [List.pairwise_iff_getElem] at h
  rcases Nat.lt_trichotomy i j with hlt | rfl | hlt
  · exact hlt
  · exact absurd rfl habove.2
  · exact absurd habove.1 (h j i hj hi hlt).not_above

end Occurrence

def Call.point (c : Call) : Point := ⟨c.line, c.col⟩

namespace Index

theorem point_call (source : Array UInt8) (n : Node) : (call source n).point = n.start := rfl

/-- The calls of the method at `m`, as they lie in the tree: one for each invocation below the method,
by where they start, inside the method, and with each call ahead of those in it. -/
structure InSourceOrder (source : Array UInt8) (root : Node) (m : Occurrence) : Prop where
  sites : (method source m.node).calls = (callsIn root m).map fun c => call source c.node
  listed : root.Lists (fun c => m.place <+: c.place ∧ isInvocation c.node) (callsIn root m)
  ascending : ((method source m.node).calls.map Call.point).Pairwise (· ≤ ·)
  inside : ∀ c ∈ (method source m.node).calls,
    m.node.start ≤ c.point ∧ c.point ≤ m.node.extent.stop
  outer_first : ∀ (i j : Nat) (hi : i < (callsIn root m).length) (hj : j < (callsIn root m).length),
    (callsIn root m)[i].Above (callsIn root m)[j] → i < j

theorem not_isInvocation {n : Node} (h : isMethodDeclaration n) : ¬ isInvocation n := by
  simp_all [isMethodDeclaration, isInvocation]

theorem isMethodDeclaration_of_methodsIn {root : Node} {m : Occurrence} (h : m ∈ methodsIn root) :
    isMethodDeclaration m.node := by
  obtain ⟨t, -, hm⟩ := List.mem_flatMap.mp h
  exact (mem_methodsOf.mp hm).1

theorem encloses_callsIn {root : Node} (hroot : root.WellNested) {m c : Occurrence}
    (hm : m ∈ methodsIn root) (hc : c ∈ callsIn root m) : m.node.extent.Encloses c.node.extent := by
  obtain ⟨hoccurs, ⟨q, hq⟩, hcall⟩ := (lists_callsIn root m).mem_iff c |>.mp hc
  have hat : root.at? m.place = some m.node :=
    Node.mem_occurrences.mp (mem_occurrences_of_methodsIn hm)
  have hbelow : m.node.at? q = some c.node := by
    rw [Node.mem_occurrences, ← hq, Node.at?_append, hat] at hoccurs
    exact hoccurs
  refine ((hroot.at? hat).encloses (Node.mem_preorder_of_at? hbelow)).resolve_left fun he => ?_
  rw [he] at hcall
  exact not_isInvocation (isMethodDeclaration_of_methodsIn hm) hcall

theorem pairwise_start_callsIn {root : Node} (hroot : root.WellNested) (m : Occurrence) :
    (callsIn root m).Pairwise fun a b => a.node.start ≤ b.node.start := by
  have hstarts := hroot.pairwise_start
  rw [← Node.map_node_occurrences, List.pairwise_map] at hstarts
  exact hstarts.filter _

theorem inSourceOrder {root : Node} (hroot : root.WellNested) {m : Occurrence}
    (hm : m ∈ methodsIn root) (source : Array UInt8) : InSourceOrder source root m := by
  have hsites : (method source m.node).calls = (callsIn root m).map fun c => call source c.node :=
    calls_eq (mem_occurrences_of_methodsIn hm) source
  refine
    { sites := hsites
      listed := lists_callsIn root m
      ascending := ?_
      inside := ?_
      outer_first := fun i j hi hj => Occurrence.lt_of_above (lists_callsIn root m).inOrder hi hj }
  · rw [hsites, List.map_map, List.pairwise_map]
    exact pairwise_start_callsIn hroot m
  · rw [hsites, List.forall_mem_map]
    intro c hc
    rw [point_call]
    have hin := encloses_callsIn hroot hm hc
    exact ⟨hin.1, hin.start_le_stop⟩

theorem map_methods_sheet (source : Array UInt8) (root : Node) :
    (sheet source root).types.map TypeFacts.methods =
      (typesIn root).map fun t => (methodsOf t).map fun m => method source m.node := by
  rw [types_sheet, List.map_map]
  refine List.map_congr_left fun t ht => List.map_congr_left fun m hm => (method_eq ?_ source).symm
  exact (mem_methodsOf.mp hm).mem_occurrences (mem_occurrences_of_typesIn ht)

theorem ofTree_calls_in_source_order (source path : String) (root : Node) (hroot : root.WellNested)
    (h : root.label.faulty = false) :
    let bytes := (Utf8.encode source).toArray
    ∃ sheet, Sheet.ofTree source path root = .ok sheet ∧
      (sheet.types.map TypeFacts.methods =
        (typesIn root).map fun t => (methodsOf t).map fun m => method bytes m.node) ∧
      ∀ t ∈ typesIn root, ∀ m ∈ methodsOf t, InSourceOrder bytes root m := by
  intro bytes
  refine ⟨Index.sheet bytes root, by simp [Sheet.ofTree, h, bytes], map_methods_sheet bytes root, ?_⟩
  intro t ht m hm
  exact inSourceOrder hroot (List.mem_flatMap.mpr ⟨t, ht, hm⟩) bytes

/-- The calls of `a.f(g()).h()`: the last call of the chain starts where the first does, and is listed
ahead of it. -/
theorem ofTree_calls_in_source_order_chained :
    let span := fun row col row' col' : Int =>
      ({ firstByte := 0, endByte := 0, start := ⟨row, col⟩, stop := ⟨row', col'⟩ } : Extent)
    let node := fun (kind : String) (field : Option String) (extent : Extent) (cs : List Node) =>
      Node.mk { kind := kind, extent := extent, field := field } cs
    let chain := node "method_invocation" none (span 2 4 2 16)
      [node "method_invocation" (some "object") (span 2 4 2 12)
        [node "argument_list" (some "arguments") (span 2 7 2 12)
          [node "method_invocation" none (span 2 8 2 11) []]]]
    let root := node "program" none (span 0 0 4 1) [node "class_declaration" none (span 0 0 4 1)
      [node "class_body" (some "body") (span 0 8 4 1)
        [node "method_declaration" none (span 1 2 3 3) [chain]]]]
    root.WellNested ∧ root.label.faulty = false ∧
      ((methodsIn root).map fun m => (callsIn root m).map fun c => (c.place, c.node.start)) =
        [[([0, 0, 0, 0], ⟨2, 4⟩), ([0, 0, 0, 0, 0], ⟨2, 4⟩), ([0, 0, 0, 0, 0, 0, 0], ⟨2, 8⟩)]] ∧
      ∃ sheet, Sheet.ofTree "" "" root = .ok sheet ∧
        ∀ t ∈ typesIn root, ∀ m ∈ methodsOf t, InSourceOrder (Utf8.encode "").toArray root m := by
  intro span node chain root
  have hroot : root.WellNested := by decide
  obtain ⟨sheet, hsheet, -, horder⟩ := ofTree_calls_in_source_order "" "" root hroot rfl
  exact ⟨hroot, rfl, by decide, sheet, hsheet, horder⟩

end Index

end JavaSurvey
