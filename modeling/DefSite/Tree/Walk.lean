import DefSite.Tree.Node

/-!
# Walks and searches

A node of a tree is addressed by the child positions that lead to it.  `Node.preorder` lists a tree
with its addresses, each node before the nodes below it.  `Node.findLast` walks a tree in that order
and gives the address of the last node that satisfies a test; a test that fails ends the search,
whatever was found before.

## Main statements

* `Node.mem_preorder_iff`: the list holds each node of the tree with its address, and nothing else.
* `Node.findLast_eq_foldlM`: the search meets the nodes in the order of the list.
-/

namespace DefSite

/-- The child positions that lead from a tree to one of its nodes. -/
abbrev Address := List Nat

namespace Node

/-- All nodes of a tree with their addresses, each before those below it. -/
def preorder (n : Node) : List (Address × Node) :=
  ([], n) :: n.children.attach.zipIdx.flatMap fun (c, i) =>
    (preorder c.1).map fun (a, m) => (i :: a, m)
termination_by sizeOf n
decreasing_by exact sizeOf_lt_of_mem_children c.2

/-- Walks the tree at the address `here` and gives the address of the last node that satisfies
`test`; `best` if there is none. -/
def searchFrom {ε : Type} (test : Node → Except ε Bool) (n : Node) (here : Address)
    (best : Option Address) : Except ε (Option Address) := do
  let best := if ← test n then some here else best
  n.children.attach.zipIdx.foldlM (fun best (c, i) => searchFrom test c.1 (here ++ [i]) best) best
termination_by sizeOf n
decreasing_by exact sizeOf_lt_of_mem_children c.2

/-- The address of the last node, in the order of the walk, that satisfies `test`. -/
def findLast {ε : Type} (test : Node → Except ε Bool) (n : Node) : Except ε (Option Address) :=
  searchFrom test n [] none

/-- The nodes from a tree down to the one at an address. -/
def trail (n : Node) : Address → List Node
  | [] => [n]
  | i :: a => n :: ((n.children[i]?).map (trail · a)).getD []

/-- The node at an address. -/
def at? (n : Node) : Address → Option Node
  | [] => some n
  | i :: a => n.children[i]?.bind (at? · a)

/-! ## The list and the addresses -/

theorem zipIdx_attach (l : List Node) :
    l.attach.zipIdx.map (fun p => (p.1.1, p.2)) = l.zipIdx := by
  conv => rhs; rw [← List.attach_map_subtype_val l, List.zipIdx_map]
  rfl

theorem preorder_eq (n : Node) :
    n.preorder = ([], n) :: n.children.zipIdx.flatMap fun (c, i) =>
      c.preorder.map fun (a, m) => (i :: a, m) := by
  rw [preorder, ← zipIdx_attach, List.flatMap_map]

/-- The walk meets a node at each address of the tree, and no other. -/
theorem mem_preorder_iff {n m : Node} {a : Address} :
    (a, m) ∈ n.preorder ↔ n.at? a = some m := by
  induction a generalizing n with
  | nil =>
    rw [preorder_eq]
    simp [at?, eq_comm]
  | cons i a ih =>
    rw [preorder_eq]
    simp only [List.mem_cons, Prod.mk.injEq, reduceCtorEq, false_and, false_or, List.mem_flatMap,
      List.mem_map, Prod.exists, at?, Option.bind_eq_some_iff, List.mem_zipIdx_iff_getElem?]
    constructor
    · rintro ⟨c, j, hc, b, k, hk, ⟨rfl, rfl⟩, rfl⟩
      exact ⟨c, hc, ih.mp hk⟩
    · rintro ⟨c, hc, hm⟩
      exact ⟨c, i, hc, a, m, ih.mpr hm, rfl, rfl⟩

/-- A trail ends with the node at its address. -/
theorem getLast?_trail {n m : Node} {a : Address} (h : n.at? a = some m) :
    (n.trail a).getLast? = some m := by
  induction a generalizing n with
  | nil => simpa [trail, at?] using h
  | cons i a ih =>
    obtain ⟨c, hc, hm⟩ := Option.bind_eq_some_iff.mp h
    have := ih hm
    simp [trail, hc, List.getLast?_cons, this]

/-! ## The search and the list -/

variable {ε : Type} {test : Node → Except ε Bool}

theorem searchFrom_eq (n : Node) (here : Address) (best : Option Address) :
    searchFrom test n here best = (do
      let best := if ← test n then some here else best
      n.children.zipIdx.foldlM (fun best (c, i) => searchFrom test c (here ++ [i]) best) best) := by
  rw [searchFrom, ← zipIdx_attach]
  simp only [List.foldlM_map]

/-- Keeps the address of a node below `here` if the node satisfies `test`. -/
def keepLast (test : Node → Except ε Bool) (here : Address) (best : Option Address)
    (p : Address × Node) : Except ε (Option Address) :=
  return if ← test p.2 then some (here ++ p.1) else best

theorem keepLast_append (here : Address) (i : Nat) :
    keepLast test (here ++ [i]) = fun best p => keepLast test here best (i :: p.1, p.2) := by
  funext best p
  simp [keepLast]

theorem foldlM_searchFrom {here : Address} {l : List (Node × Nat)}
    (hl : ∀ p ∈ l, ∀ here best,
      searchFrom test p.1 here best = p.1.preorder.foldlM (keepLast test here) best)
    (best : Option Address) :
    l.foldlM (fun best (c, i) => searchFrom test c (here ++ [i]) best) best =
      (l.flatMap fun (c, i) => c.preorder.map fun (a, m) => (i :: a, m)).foldlM
        (keepLast test here) best := by
  induction l generalizing best with
  | nil => rfl
  | cons p l ih =>
    simp only [List.foldlM_cons, List.flatMap_cons, List.foldlM_append, List.foldlM_map]
    rw [hl p List.mem_cons_self, keepLast_append]
    congr 1
    funext best
    exact ih (fun q hq => hl q (List.mem_cons_of_mem _ hq)) best

theorem searchFrom_eq_foldlM (n : Node) (here : Address) (best : Option Address) :
    searchFrom test n here best = n.preorder.foldlM (keepLast test here) best := by
  rw [searchFrom_eq, preorder_eq, List.foldlM_cons]
  -- the children are smaller, so the statement holds of them
  have below : ∀ p ∈ n.children.zipIdx, ∀ here best,
      searchFrom test p.1 here best = p.1.preorder.foldlM (keepLast test here) best := by
    intro p hp here best
    have := sizeOf_lt_of_mem_children (List.fst_mem_of_mem_zipIdx hp)
    exact searchFrom_eq_foldlM p.1 here best
  simp only [keepLast, List.append_nil, bind_assoc, pure_bind]
  congr 1
  funext b
  exact foldlM_searchFrom below _
termination_by sizeOf n

/-- The search runs along the list of nodes and keeps the last address whose node passes. -/
theorem findLast_eq_foldlM (n : Node) :
    n.findLast test = n.preorder.foldlM (keepLast test []) none :=
  searchFrom_eq_foldlM n [] none

end Node

/-- Whether a trail of nodes passes through a closure: an anonymous function anywhere on it, or a
function definition above its last node. -/
def isClosure (trail : List Node) : Bool :=
  trail.any (·.kind == .lambda) || trail.dropLast.any (·.kind.isFunctionDef)

end DefSite
