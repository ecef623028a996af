import Mathlib
import DefSite.Proofs.Search
import DefSite.Tree.Read

/-!
# The path to the last node

Addresses are ordered like words: an address comes before those that go on from it, and of two that
part ways the one with the smaller position comes first.  A walk meets the nodes of a tree in this
order (`pairwise_preorder`), so a search gives the greatest of the addresses at which its test
holds, and the trail to it is a path of children from the root down (`findLast_isGreatest`).
-/

namespace DefSite

/-- Addresses in the order of words. -/
def Address.Before : Address → Address → Prop :=
  List.Lex (· < ·)

namespace Node

/-! ## Paths of children -/

/-- `ns` are the nodes passed on the way down from a node along the positions of an address, each a
child of the one before it. -/
inductive Descends : Node → Address → List Node → Prop
  | here {n : Node} : Descends n [] [n]
  | down {n c : Node} {i : Nat} {a : Address} {ns : List Node} (hc : n.children[i]? = some c)
      (h : Descends c a ns) : Descends n (i :: a) (n :: ns)

variable {root n : Node} {a : Address}

theorem descends_trail (h : root.at? a = some n) : root.Descends a (root.trail a) := by
  induction a generalizing root with
  | nil =>
    rw [trail]
    exact .here
  | cons i a ih =>
    obtain ⟨c, hc, hn⟩ := Option.bind_eq_some_iff.mp h
    have htrail : root.trail (i :: a) = root :: c.trail a := by simp [trail, hc]
    rw [htrail]
    exact .down hc (ih hn)

theorem head?_trail (a : Address) : (root.trail a).head? = some root := by
  cases a <;> simp [trail]

/-! ## The order of a walk -/

/-- A walk meets nodes in the order of their addresses. -/
theorem pairwise_preorder (n : Node) : n.preorder.Pairwise fun p q => p.1.Before q.1 := by
  rw [preorder_eq, List.pairwise_cons]
  constructor
  · intro p hp
    obtain ⟨⟨c, i⟩, -, hp⟩ := List.mem_flatMap.mp hp
    obtain ⟨q, -, rfl⟩ := List.mem_map.mp hp
    exact .nil
  · rw [List.pairwise_flatMap]
    constructor
    · -- below one child: the child is smaller, so its walk is in order
      intro p hp
      have := sizeOf_lt_of_mem_children (List.fst_mem_of_mem_zipIdx hp)
      rw [List.pairwise_map]
      exact (pairwise_preorder p.1).imp fun hbefore => .cons hbefore
    · -- below two children: the position of the child decides
      have hpositions : n.children.zipIdx.Pairwise fun p q => p.2 < q.2 := by
        rw [← List.pairwise_map (f := Prod.snd) (R := (· < ·)), List.zipIdx_map_snd]
        exact List.pairwise_lt_range'
      refine hpositions.imp fun {p q} hpq x hx y hy => ?_
      obtain ⟨x, -, rfl⟩ := List.mem_map.mp hx
      obtain ⟨y, -, rfl⟩ := List.mem_map.mp hy
      exact .rel hpq
termination_by sizeOf n

/-- Nodes that a walk meets after the one at an address have greater addresses, those that it meets
before have smaller ones. -/
theorem before_of_preorder_eq {before after : List (Address × Node)}
    (h : root.preorder = before ++ (a, n) :: after) :
    (∀ p ∈ before, p.1.Before a) ∧ ∀ p ∈ after, a.Before p.1 := by
  have hpairs := h ▸ pairwise_preorder root
  obtain ⟨-, hafter, hbefore⟩ := List.pairwise_append.mp hpairs
  exact ⟨fun p hp => hbefore p hp (a, n) List.mem_cons_self, (List.pairwise_cons.mp hafter).1⟩

/-! ## The last node -/

/-- The address is the greatest of the addresses of all nodes that have the property. -/
structure IsGreatestAt (P : Node → Prop) (root : Node) (a : Address) : Prop where
  holds : ∃ n, root.at? a = some n ∧ P n
  greatest : ∀ b m, root.at? b = some m → P m → b = a ∨ b.Before a

/-- The last node with a property has the greatest address. -/
theorem IsLast.isGreatestAt {P : Node → Prop} (h : IsLast P root a n) : root.IsGreatestAt P a := by
  refine ⟨⟨n, h.at?, h.1⟩, fun b m hm hPm => ?_⟩
  obtain ⟨-, before, after, hl, hafter⟩ := h
  have hmem : (b, m) ∈ before ++ (a, n) :: after := hl ▸ mem_preorder_iff.mpr hm
  rcases List.mem_append.mp hmem with hmem | hmem
  · exact .inr ((before_of_preorder_eq hl).1 _ hmem)
  · rcases List.mem_cons.mp hmem with heq | hmem
    · cases heq
      exact .inl rfl
    · exact absurd hPm (hafter _ hmem)

/-- **The path to the last node.**  As long as the test fails on no node of the tree, a search ends.
The path that it gives is empty if and only if no node of the tree passes.  Otherwise it starts at
the root and goes from child to child, to a node that passes, along the greatest of all addresses of
nodes that pass: below a node that passes, a node further down is preferred, and of two subtrees the
later one is, however deep the nodes that pass stand in them. -/
theorem findLast_isGreatest {ε : Type} (root : Node) (test : Node → Except ε Bool)
    (h : ∀ a n, root.at? a = some n → ∃ b, test n = .ok b) :
    ∃ o, root.findLast test = .ok o ∧
      (o.elim [] root.trail = [] ↔ ∀ a n, root.at? a = some n → test n = .ok false) ∧
      ∀ a, o = some a →
        root.Descends a (root.trail a) ∧ (root.trail a).head? = some root ∧
        (∃ n, (root.trail a).getLast? = some n ∧ test n = .ok true) ∧
        root.IsGreatestAt (test · = .ok true) a := by
  obtain ⟨o, ho⟩ := exists_findLast_iff.mpr fun p hp => h p.1 p.2 (mem_preorder_iff.mp hp)
  refine ⟨o, ho, ?_, ?_⟩
  · cases o with
    | none =>
      refine ⟨fun _ a n hn => ?_, fun _ => rfl⟩
      exact findLast_eq_none_iff.mp ho (a, n) (mem_preorder_iff.mpr hn)
    | some a =>
      obtain ⟨-, n, hlast⟩ := findLast_eq_some_iff.mp ho
      refine ⟨fun hnil => absurd hnil (trail_ne_nil a), fun hnone => ?_⟩
      cases (hnone a n hlast.at?).symm.trans hlast.1
  · rintro a rfl
    obtain ⟨-, n, hlast⟩ := findLast_eq_some_iff.mp ho
    exact ⟨descends_trail hlast.at?, head?_trail a, ⟨n, getLast?_trail hlast.at?, hlast.1⟩,
      hlast.isGreatestAt⟩

section nested

/-- Whether a node is a function definition of that name. -/
def isNamed (name : String) (n : Node) : Except Fault Bool :=
  if n.kind.isFunctionDef then return (← n.readWord .name) == name else return false

/-- A function `f` with another one inside, and after both a function `g`. -/
def nestedDefs : Node :=
  let inner : Node := .mk .functionDef none none [(.name, .word "f")]
  let outer : Node := .mk .functionDef none none [(.name, .word "f"), (.body, .slots [some inner])]
  let other : Node := .mk .functionDef none none [(.name, .word "g")]
  .mk .module none none [(.body, .slots [some outer, none, some other])]

/-- Of the two functions `f`, the inner one is found. -/
theorem findLast_isGreatest_nested :
    (∀ a n, nestedDefs.at? a = some n → ∃ b, isNamed "f" n = .ok b) ∧
      nestedDefs.findLast (isNamed "f") = .ok (some [0, 0]) ∧
      nestedDefs.Descends [0, 0] (nestedDefs.trail [0, 0]) ∧
      nestedDefs.IsGreatestAt (isNamed "f" · = .ok true) [0, 0] := by
  have htests : (nestedDefs.preorder.all fun p => (isNamed "f" p.2).isOk) = true := by cbv
  have hfound : nestedDefs.findLast (isNamed "f") = .ok (some [0, 0]) := by cbv
  have h : ∀ a n, nestedDefs.at? a = some n → ∃ b, isNamed "f" n = .ok b := by
    intro a n hn
    have htest := List.all_eq_true.mp htests (a, n) (mem_preorder_iff.mpr hn)
    cases hb : isNamed "f" n with
    | ok b => exact ⟨b, rfl⟩
    | error e => simp [hb, Except.isOk, Except.toBool] at htest
  obtain ⟨o, ho, -, hpath⟩ := findLast_isGreatest nestedDefs (isNamed "f") h
  cases hfound.symm.trans ho
  obtain ⟨hdescends, -, -, hgreatest⟩ := hpath [0, 0] rfl
  exact ⟨h, hfound, hdescends, hgreatest⟩

end nested

end Node

end DefSite
