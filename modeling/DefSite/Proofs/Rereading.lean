import Mathlib
import DefSite.Proofs.Freshness
import DefSite.Render.Source
import DefSite.Source.Parse
import DefSite.Tree.Walk

/-!
# Rendered definitions read again

A definition is rendered so that its source can be read on its own.  The tree that is read is the
definition's, positions apart, but for `with` blocks over a single tuple: the parentheses of the
tuple are taken for those that may enclose all the items (`with_tuple_reread`).
-/

namespace DefSite

namespace Node

mutual

/-- A node without its positions and those of the nodes below it. -/
def unplaced : Node → Node
  | .mk k _ _ fs => .mk k none none (unplacedFields fs)

def unplacedFields : List (Field × Value) → List (Field × Value)
  | [] => []
  | (f, .node n) :: rest => (f, .node n.unplaced) :: unplacedFields rest
  | (f, .slots ns) :: rest => (f, .slots (unplacedSlots ns)) :: unplacedFields rest
  | other :: rest => other :: unplacedFields rest

def unplacedSlots : List (Option Node) → List (Option Node)
  | [] => []
  | none :: rest => none :: unplacedSlots rest
  | some n :: rest => some n.unplaced :: unplacedSlots rest

end

end Node

set_option maxRecDepth 8000 in
/-- A `with` block over the pair `(a, b)` is rendered as one over `a` and `b`. -/
theorem with_tuple_reread :
    ∃ (root d d' : Node) (source : String),
      Source.parse Holdings.onePath "def f():\n with ((a,b)):0".toList = .ok root ∧
      root.at? [0] = some d ∧ d.source = .ok source ∧
      Source.parse Holdings.onePath source.toList = .ok (.mk .module none none
        [(.body, .slots [some d']), (.typeIgnores, .slots [])]) ∧
      d'.unplaced ≠ d.unplaced := by
  refine ⟨_, _, _, "def f():\n    with (a, b):\n        0", by cbv, by cbv, by cbv, by cbv, ?_⟩
  cbv
  simp

end DefSite
