import DefSite.Fault
import DefSite.Tree.Node

/-!
# Reading the fields of a node

Each reader gives what a node holds in a field, and the fault that names the node's class and the
field where it holds nothing.  The `optional` readers give "nothing" for an absent field that may be
left out on nodes of the class.  Nodes come with the proof that they are smaller than the node they
were read from.
-/

namespace DefSite.Node

/-- The line a node starts on. -/
def readLine (n : Node) : Except Fault Int :=
  match n.line? with
  | some l => .ok l
  | none => .error (.missingLine n.kind)

def readWord (n : Node) (f : Field) : Except Fault String :=
  match n.word? f with
  | some s => .ok s
  | none => .error (.missingField n.kind f)

def readWords (n : Node) (f : Field) : Except Fault (List String) :=
  match n.words? f with
  | some ss => .ok ss
  | none => .error (.missingField n.kind f)

def readNumber (n : Node) (f : Field) : Except Fault Int :=
  match n.number? f with
  | some i => .ok i
  | none => .error (.missingField n.kind f)

def readLiteral (n : Node) (f : Field) : Except Fault Literal :=
  match n.literal? f with
  | some l => .ok l
  | none => .error (.missingField n.kind f)

def readChild (n : Node) (f : Field) : Except Fault n.Part :=
  match h : n.child? f with
  | some c => .ok ⟨c, sizeOf_lt_of_child? h⟩
  | none => .error (.missingField n.kind f)

/-- The slots of a field, each holding a node or nothing. -/
def readSlots (n : Node) (f : Field) : Except Fault (List (Option n.Part)) :=
  match h : n.slots? f with
  | some ns => .ok (ns.attach.map fun s =>
      match hs : s.1 with
      | some c => some ⟨c, sizeOf_lt_of_slots? h (hs ▸ s.2)⟩
      | none => none)
  | none => .error (.missingField n.kind f)

/-- The nodes of a field. -/
def readList (n : Node) (f : Field) : Except Fault (List n.Part) :=
  return (← n.readSlots f).filterMap id

/-- The nodes directly below a node, in the order of a walk. -/
def parts (n : Node) : List n.Part :=
  n.children.attach.map fun c => ⟨c.1, sizeOf_lt_of_mem_children c.2⟩

/-- The word in a field that may be left out. -/
def optionalWord (n : Node) (f : Field) : Except Fault (Option String) :=
  match n.word? f with
  | some s => .ok (some s)
  | none => if n.kind.defaulted f then .ok none else .error (.missingField n.kind f)

def optionalNumber (n : Node) (f : Field) : Except Fault (Option Int) :=
  match n.number? f with
  | some i => .ok (some i)
  | none => if n.kind.defaulted f then .ok none else .error (.missingField n.kind f)

def optionalChild (n : Node) (f : Field) : Except Fault (Option n.Part) :=
  match h : n.child? f with
  | some c => .ok (some ⟨c, sizeOf_lt_of_child? h⟩)
  | none => if n.kind.defaulted f then .ok none else .error (.missingField n.kind f)

end DefSite.Node
