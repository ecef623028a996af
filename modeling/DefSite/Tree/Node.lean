import DefSite.Tree.Kind
import DefSite.Number.Binary64
import DefSite.Text.CodePoint

/-!
# Syntax nodes

A node carries its class, its positions and whatever fields it has: trees may be damaged, so any
field or position can be absent.  `Node.children` lists the nodes directly below a node in the
order of a walk: field by field in the order of its class, absent fields skipped and empty slots of
lists dropped.  Every child is smaller than its parent (`sizeOf_lt_of_mem_children`), which is what
the recursions over trees rest on.
-/

namespace DefSite

/-- The value of a constant: all values that constants of parsed source have.  Tuples and sets of
constants, which an optimiser makes of displays, are not among them. -/
inductive Literal where
  | nothing
  | ellipsis
  | bool (b : Bool)
  | int (i : Int)
  | float (x : Binary64)
  | complex (re im : Binary64)
  | text (s : List Text.CodePoint)
  | bytes (b : List UInt8)
  deriving DecidableEq, Repr, Inhabited

mutual

/-- A syntax node. -/
inductive Node where
  | mk (kind : Kind) (line : Option Int) (lastLine : Option Int) (fields : List (Field × Value))

/-- What a field holds. -/
inductive Value where
  | node (n : Node)
  | slots (ns : List (Option Node))
  | word (s : String)
  | words (ss : List String)
  | literal (l : Literal)
  | number (i : Int)

end

namespace Value

/-- The nodes held in a field, empty slots dropped. -/
def nodes : Value → List Node
  | node n => [n]
  | slots ns => ns.filterMap id
  | _ => []

theorem sizeOf_lt_of_mem_nodes {c : Node} {v : Value} (h : c ∈ v.nodes) : sizeOf c < sizeOf v := by
  cases v with
  | node n =>
    obtain rfl : c = n := by simpa [nodes] using h
    simp
  | slots ns =>
    have hc : some c ∈ ns := by simpa [nodes] using h
    have := List.sizeOf_lt_of_mem hc
    simp at this ⊢
    omega
  | _ => simp [nodes] at h

end Value

namespace Node

def kind : Node → Kind
  | mk k _ _ _ => k

def line? : Node → Option Int
  | mk _ l _ _ => l

def lastLine? : Node → Option Int
  | mk _ _ e _ => e

def fields : Node → List (Field × Value)
  | mk _ _ _ fs => fs

instance : Inhabited Node := ⟨mk .pass none none []⟩

def get? (n : Node) (f : Field) : Option Value :=
  n.fields.lookup f

theorem sizeOf_lt_of_get? {n : Node} {f : Field} {v : Value} (h : n.get? f = some v) :
    sizeOf v < sizeOf n := by
  obtain ⟨k, l, e, fs⟩ := n
  have hm : (f, v) ∈ fs := by
    simp only [get?, fields] at h
    induction fs with
    | nil => simp at h
    | cons p rest ih =>
      obtain ⟨g, w⟩ := p
      rw [List.lookup_cons] at h
      split at h
      · next hg =>
        obtain rfl : f = g := by simpa using hg
        obtain rfl : w = v := by simpa using h
        exact List.mem_cons_self
      · exact List.mem_cons_of_mem _ (ih h)
  have := List.sizeOf_lt_of_mem hm
  simp at this ⊢
  omega

/-- The nodes directly below a node, in the order of a walk. -/
def children (n : Node) : List Node :=
  n.kind.fields.flatMap fun f => ((n.get? f).map Value.nodes).getD []

theorem sizeOf_lt_of_mem_children {c n : Node} (h : c ∈ n.children) : sizeOf c < sizeOf n := by
  simp only [children, List.mem_flatMap] at h
  obtain ⟨f, -, hc⟩ := h
  cases hv : n.get? f with
  | none => simp [hv] at hc
  | some v =>
    have h₁ : sizeOf c < sizeOf v := Value.sizeOf_lt_of_mem_nodes (by simpa [hv] using hc)
    have h₂ := sizeOf_lt_of_get? hv
    omega

/-- The word in a field, if it holds one. -/
def word? (n : Node) (f : Field) : Option String :=
  match n.get? f with
  | some (.word s) => some s
  | _ => none

/-- The words in a field, if it holds a list of them. -/
def words? (n : Node) (f : Field) : Option (List String) :=
  match n.get? f with
  | some (.words ss) => some ss
  | some (.slots []) => some []
  | _ => none

/-- The number in a field, if it holds one. -/
def number? (n : Node) (f : Field) : Option Int :=
  match n.get? f with
  | some (.number i) => some i
  | _ => none

/-- The constant in a field, if it holds one. -/
def literal? (n : Node) (f : Field) : Option Literal :=
  match n.get? f with
  | some (.literal l) => some l
  | _ => none

/-- The node in a field, if it holds one. -/
def child? (n : Node) (f : Field) : Option Node :=
  match n.get? f with
  | some (.node c) => some c
  | _ => none

/-- The slots of a field, if it holds a list. -/
def slots? (n : Node) (f : Field) : Option (List (Option Node)) :=
  match n.get? f with
  | some (.slots ns) => some ns
  | _ => none

/-- A part of a node: one of the nodes that its fields hold. -/
abbrev Part (n : Node) := { c : Node // sizeOf c < sizeOf n }

theorem sizeOf_lt_of_child? {n c : Node} {f : Field} (h : n.child? f = some c) :
    sizeOf c < sizeOf n := by
  unfold child? at h
  split at h
  · next c' hv =>
    obtain rfl : c' = c := by simpa using h
    have h₁ : sizeOf c' < sizeOf (Value.node c') :=
      Value.sizeOf_lt_of_mem_nodes (by simp [Value.nodes])
    have h₂ := sizeOf_lt_of_get? hv
    omega
  · simp at h

theorem sizeOf_lt_of_slots? {n c : Node} {f : Field} {ns : List (Option Node)}
    (h : n.slots? f = some ns) (hc : some c ∈ ns) : sizeOf c < sizeOf n := by
  unfold slots? at h
  split at h
  · next ns' hv =>
    obtain rfl : ns' = ns := by simpa using h
    have h₁ : sizeOf c < sizeOf (Value.slots ns') :=
      Value.sizeOf_lt_of_mem_nodes (by simpa [Value.nodes] using hc)
    have h₂ := sizeOf_lt_of_get? hv
    omega
  · simp at h

/-- A node of a class with the given fields, kept in the order of the class. -/
def ofFields (kind : Kind) (line lastLine : Option Int) (given : List (Field × Value)) : Node :=
  mk kind line lastLine (kind.fields.filterMap fun f => (given.lookup f).map fun v => (f, v))

end Node

end DefSite
