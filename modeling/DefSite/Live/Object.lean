/-!
# Live objects

Live objects form a finite graph: a `Heap n` gives the object behind each of `n` references, and
objects refer to one another by reference, cycles included.  Which object a reference denotes is its
identity.
-/

namespace DefSite.Live

/-- The file a code object was compiled from, and its first line there. -/
structure Location where
  file : String
  line : Int
  deriving DecidableEq, Repr, Inhabited

inductive Plain where
  | nothing
  | int (i : Int)
  | bool (b : Bool)
  | text (s : String)
  | list (items : List Plain)
  deriving Repr, Inhabited

/-- An object of no particular class, by what can be observed of it. -/
structure Custom (ρ : Type) where
  shown : String
  typeName : String
  callable : Bool
  name : Option String
  qualname : Option String
  module : Option String
  code : Option Location
  wrapped : Option ρ
  deriving Repr, Inhabited

/-- A class object: its names, its bases, what its body defines, as it is stored once the class is
made, and the metaclass it asks for.  What each class holds beside that is not listed, and no class
restricts the attributes of its instances. -/
structure ClassObject (ρ : Type) where
  name : String
  qualname : String
  module : Option String
  bases : List ρ
  attrs : List (String × ρ)
  metaclass : Option ρ
  /-- Whether its instances are classes. -/
  isMetaclass : Bool
  deriving Repr, Inhabited

/-- A live object over references `ρ`. -/
inductive Object (ρ : Type) where
  | function (name qualname : String) (module : Option String) (code : Location)
      (wrapped : Option ρ)
  /-- A computed attribute with the function that gets it, if it has one. -/
  | property (getter : Option ρ)
  /-- A computed attribute that is kept once computed. -/
  | cachedProperty (func : ρ)
  | classMethod (func : ρ)
  | staticMethod (func : ρ)
  /-- A function bound to a receiver. -/
  | boundMethod (func : ρ)
  /-- A function with some arguments supplied. -/
  | partialCall (func : ρ)
  | builtin (name : String)
  | plain (value : Plain)
  | custom (c : Custom ρ)
  | module (name : String) (attrs : List (String × ρ))
  | classObject (c : ClassObject ρ)
  /-- An instance of a class with attributes of its own, which holds nothing beside them. -/
  | ofClass (cls : ρ) (attrs : List (String × ρ))
  /-- A code object. -/
  | code (name : String) (place : Location)
  deriving Repr, Inhabited

/-- A finite graph of live objects. -/
abbrev Heap (n : Nat) := Fin n → Object (Fin n)

namespace Heap

variable {n : Nat}

/-- Goes from object to object by `next`, at most as many steps as there are objects: a path
that visits no object twice is followed to its end. -/
def follow (h : Heap n) (next : Object (Fin n) → Option (Fin n)) (r : Fin n) : Fin n :=
  go n r
where
  go : Nat → Fin n → Fin n
    | 0, r => r
    | fuel + 1, r => match next (h r) with
      | none => r
      | some r' => go fuel r'

end Heap

end DefSite.Live
