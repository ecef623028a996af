import DefSite.Live.Builtin

/-!
# Class hierarchies

`Heap.ancestry` lists a class and its ancestors in the order in which attributes are looked up, the
monotone merge of its bases' orders; each class descends from the class of all objects.  Classes are
those of the heap and the built-in ones.  `Heap.heldBy?` is what a class holds itself under a name:
what its body defines, what every class is given when it is made, or what is built in.
-/

namespace DefSite.Live

variable {ρ : Type} [DecidableEq ρ]

/-- Takes the first head that stands in no tail, over and over; `none` if there is no such head
while lists are left. -/
def merge : Nat → List (List ρ) → Option (List ρ)
  | 0, lists => if lists.all List.isEmpty then some [] else none
  | fuel + 1, lists =>
    let lists := lists.filter fun l => !l.isEmpty
    if lists.isEmpty then some []
    else do
      let head ← (lists.filterMap List.head?).find? fun r => lists.all fun l => !l.tail.contains r
      let rest ← merge fuel (lists.map fun l => if l.head? = some head then l.tail else l)
      return head :: rest

/-- A class: one of the heap, or one that is built in. -/
inductive Ancestor (n : Nat) where
  | listed (r : Fin n)
  | builtin (name : String)
  deriving DecidableEq, Repr, Inhabited

/-- An attribute as it is stored: an object of the heap, or something that has no reference. -/
inductive Attribute (ρ : Type) where
  | stored (r : ρ)
  /-- A method or another descriptor that `owner` has from the start. -/
  | slot (owner name : String)
  /-- A descriptor of `owner` that is asked before an object's own attributes. -/
  | data (owner name : String)
  | static (owner name : String)
  /-- A text or, as `none`, the object that stands for nothing. -/
  | value (text : Option String)
  deriving DecidableEq, Repr, Inhabited

/-- What a built-in class holds itself under a name. -/
def BuiltinClass.attribute? (c : BuiltinClass) (name : String) : Option (Attribute ρ) :=
  if c.slots.contains name then some (.slot c.name name)
  else if c.data.contains name then some (.data c.name name)
  else if c.statics.contains name then some (.static c.name name)
  else (c.values.lookup name).map .value

namespace Heap

variable {n : Nat}

def class? (h : Heap n) (r : Fin n) : Option (ClassObject (Fin n)) :=
  match h r with
  | .classObject c => some c
  | _ => none

/-- The class that a reference to a class denotes. -/
def named (h : Heap n) (r : Fin n) : Ancestor n :=
  match h r with
  | .builtin name => .builtin name
  | _ => .listed r

/-! ## The order of lookup -/

/-- The classes right above a class: its bases and, as far as these do not say so, the class of
classes if its instances are classes, or else the class of all objects. -/
def parents (h : Heap n) (c : ClassObject (Fin n)) : List (Ancestor n) :=
  let bases := c.bases.map h.named
  if c.isMetaclass && !bases.contains (.builtin "type") then bases ++ [.builtin "type"]
  else if bases.isEmpty then [.builtin "object"]
  else bases

/-- A class and its ancestors, if they have a consistent order; `depth` bounds the height of the
hierarchy. -/
def linearize (h : Heap n) : Nat → Ancestor n → Option (List (Ancestor n))
  | _, .builtin name => some ((builtinAncestry name).map .builtin)
  | 0, .listed _ => none
  | depth + 1, .listed r =>
    match h.class? r with
    | none => some [.listed r]
    | some c => do
      let above ← (h.parents c).mapM (h.linearize depth)
      let lists := above ++ [h.parents c]
      return .listed r :: (← merge lists.flatten.length lists)

/-- A class and its ancestors in the order of lookup; a class without a consistent order has no
ancestor but the class of all objects. -/
def ancestry (h : Heap n) (a : Ancestor n) : List (Ancestor n) :=
  (h.linearize (n + 1) a).getD [a, .builtin "object"]

/-- The more derived of two metaclasses. -/
def moreDerived (h : Heap n) (a b : Ancestor n) : Ancestor n :=
  if (h.ancestry b).contains a then b else a

/-- The metaclass of a class: the most derived of the one it asks for and those of its bases. -/
def metaclassAt (h : Heap n) : Nat → Ancestor n → Ancestor n
  | depth + 1, .listed r =>
    match h.class? r with
    | none => .builtin "type"
    | some c => ((h.parents c).map (h.metaclassAt depth)).foldl h.moreDerived
      ((c.metaclass.map h.named).getD (.builtin "type"))
  | _, _ => .builtin "type"

def metaclass (h : Heap n) (a : Ancestor n) : Ancestor n :=
  h.metaclassAt (n + 1) a

/-! ## What classes hold -/

/-- The first built-in class above that has a layout of its own. -/
def layout (h : Heap n) (a : Ancestor n) : Option String :=
  (h.ancestry a).findSome? fun
    | .builtin name => (builtinClass? name).bind fun b => if b.solid then some name else none
    | .listed _ => none

/-- The built-in class that instances of a class extend, if that is right above the class and not
above another class of the heap. -/
def extended? (h : Heap n) (r : Fin n) (c : ClassObject (Fin n)) : Option String :=
  match (h.parents c).find? fun p => h.layout p = h.layout (.listed r) with
  | some (.builtin name) => some name
  | _ => none

/-- The built-in classes of which, for how they are laid out, a derived class gives its instances no
room for weak references. -/
def unreferenced : List String :=
  ["bytes", "frozenset", "int", "set", "tuple", "type", "ExceptionGroup"]

/-- What every class is given when it is made, unless its body defines it: the module it is from, a
place for its documentation, and descriptors for what it adds to its instances.  A class that
defines when instances are equal has no hashes if it does not define them too. -/
def given? (h : Heap n) (r : Fin n) (c : ClassObject (Fin n)) (name : String) :
    Option (Attribute (Fin n)) :=
  if name = "__module__" then some (.value c.module)
  else if name = "__doc__" then some (.value none)
  else if name = "__hash__" ∧ (c.attrs.lookup "__eq__").isSome then some (.value none)
  else (h.extended? r c).bind fun base =>
    if name = "__dict__" ∧ ((builtinAncestry base).all fun b =>
        ((builtinClass? b).map fun b => !b.data.contains name).getD true) then
      some (.data c.qualname name)
    else if name = "__weakref__" ∧ base ∉ unreferenced then some (.data c.qualname name)
    else none

/-- What the body of a class defines under a name. -/
def ownAttr? (h : Heap n) (name : String) (r : Fin n) : Option (Fin n) :=
  (h.class? r).bind fun c => c.attrs.lookup name

/-- What a class holds itself under a name. -/
def heldBy? (h : Heap n) (name : String) : Ancestor n → Option (Attribute (Fin n))
  | .listed r => ((h.ownAttr? name r).map .stored).or
      ((h.class? r).bind fun c => h.given? r c name)
  | .builtin b => (builtinClass? b).bind fun b => b.attribute? name

/-- What a class or the first of its ancestors whose body defines the name defines under it. -/
def definedAttr? (h : Heap n) (a : Ancestor n) (name : String) : Option (Fin n) :=
  (h.ancestry a).findSome? fun
    | .listed r => h.ownAttr? name r
    | .builtin _ => none

/-- Whether a class or one of its ancestors holds something under a name. -/
def holds (h : Heap n) (a : Ancestor n) (name : String) : Bool :=
  (h.ancestry a).any fun b => (h.heldBy? name b).isSome

end Heap

end DefSite.Live
