import DefSite.Live.Describe

/-!
# Static lookup

`Heap.lookup` finds an attribute of an object as it is stored, without binding it.  On a class the
classes of its own order come first, and then those of its metaclass.  On another object what the
object stores comes before what its class holds, unless the class holds a descriptor that is asked
first.  What a class holds is only known as far as its metaclass does not hide it: where a
metaclass, or an ancestor of one, defines an attribute `__dict__`, its classes are passed over.
-/

namespace DefSite.Live.Heap

variable {n : Nat}

/-- Whether what instances of a class store is hidden. -/
def hides (h : Heap n) (a : Ancestor n) : Bool :=
  (h.definedAttr? a "__dict__").isSome

/-- Whether it is known what a class holds. -/
def readable (h : Heap n) (a : Ancestor n) : Bool :=
  !h.hides (h.metaclass a)

/-- What the first class holds of those of which this is known. -/
def firstHeld? (h : Heap n) (classes : List (Ancestor n)) (name : String) :
    Option (Attribute (Fin n)) :=
  (classes.filter h.readable).findSome? (h.heldBy? name)

/-- Whether an attribute of a class is asked before what an object stores. -/
def asksFirst (h : Heap n) : Attribute (Fin n) → Bool
  | .stored r =>
    let has name := (h.firstHeld? (h.ancestry (h.typeOf r)) name).isSome
    has "__get__" && (has "__set__" || has "__delete__")
  | .data .. => true
  | .slot .. | .static .. | .value _ => false

/-- Whether an object names a module as its own, even if it names none. -/
def namesModule (h : Heap n) (r : Fin n) : Bool :=
  match h (h.bearer r) with
  | .function .. | .custom _ | .classObject _ => true
  | _ => (h.module? r).isSome

/-- What an object stores itself that is no class. -/
def stored? (h : Heap n) (r : Fin n) (name : String) : Option (Attribute (Fin n)) :=
  match h r with
  | .function _ _ _ _ wrapped => if name = "__wrapped__" then wrapped.map .stored else none
  | .cachedProperty f =>
    if name = "func" then some (.stored f)
    else if name ∈ ["attrname", "__doc__", "lock"] then some (.value none)
    else none
  | .classMethod f | .staticMethod f =>
    if name = "__name__" then (h.name? f).map (.value ∘ some)
    else if name = "__qualname__" then (h.qualname? f).map (.value ∘ some)
    else if name = "__module__" ∧ h.namesModule f then some (.value (h.module? f))
    else none
  | .custom c =>
    if name = "__name__" then c.name.map (.value ∘ some)
    else if name = "__qualname__" then c.qualname.map (.value ∘ some)
    else if name = "__module__" then some (.value c.module)
    else if name = "__code__" then c.code.map fun _ => .value none
    else if name = "__wrapped__" then c.wrapped.map .stored
    else if name = "__call__" ∧ c.callable then some (.value none)
    else none
  | .module own attrs =>
    ((attrs.lookup name).map .stored).or <|
      if name = "__name__" then some (.value (some own))
      else if name ∈ ["__doc__", "__package__", "__loader__", "__spec__"] then some (.value none)
      else none
  | .ofClass _ attrs => (attrs.lookup name).map .stored
  | .property _ | .boundMethod _ | .partialCall _ | .builtin _ | .plain _ | .classObject _
  | .code .. => none

def lookup (h : Heap n) (r : Fin n) (name : String) : Option (Attribute (Fin n)) :=
  if h.isClass r then
    (h.firstHeld? (h.ancestry (h.named r)) name).or
      (h.firstHeld? (h.ancestry (h.metaclass (h.named r))) name)
  else
    let own := if h.hides (h.typeOf r) then none else h.stored? r name
    let above := h.firstHeld? (h.ancestry (h.typeOf r)) name
    if above.any h.asksFirst then above else own.or above

end DefSite.Live.Heap
