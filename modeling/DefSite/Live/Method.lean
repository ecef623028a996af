import DefSite.Live.Static

/-!
# Live methods

A live method is known by its name, where its code starts, and its text.
`Heap.unwrap` strips an object of what stands around its function: a property or cached property,
then a class or static method, then a bound method, each at most once, and then, if it can be
called, all wrappers.  A class ends the wrappers that lead to it.  Wrappers that lead back to an
object already passed, or that are more than 999, are a fault, and so is a wrapper of which it
cannot be computed what it wraps.
-/

namespace DefSite

/-- A live method to be found in source. -/
structure LiveMethod where
  name : String
  location : Option Live.Location
  /-- The text by which diagnostics name the method. -/
  text : String
  deriving DecidableEq, Repr, Inhabited

def LiveMethod.shown (m : LiveMethod) : String :=
  s!"RuntimeMethod({m.text})"

namespace Live

/-- How many wrappers may stand around a function. -/
def wrapperLimit : Nat := 999

namespace Heap

variable {n : Nat}

/-- The function that computes an attribute, if the object is a computed attribute. -/
def getter (h : Heap n) (r : Fin n) : Fin n :=
  match h r with
  | .property (some f) => f
  | .cachedProperty f => f
  | _ => r

def underlying (h : Heap n) (r : Fin n) : Fin n :=
  match h r with
  | .classMethod f | .staticMethod f => f
  | _ => r

def unbound (h : Heap n) (r : Fin n) : Fin n :=
  match h r with
  | .boundMethod f => f
  | _ => r

/-- An object without its descriptors and its binding, each removed at most once. -/
def peel (h : Heap n) (r : Fin n) : Fin n :=
  h.unbound (h.underlying (h.getter r))

/-- Follows wrappers, at most `budget` of them, past objects not `seen` before; `start` is what
faults name. -/
def unwrapFrom (h : Heap n) (start : Fin n) : Nat → List (Fin n) → Fin n → Except Fault (Fin n)
  | budget, seen, r =>
    match h.wrapping r with
    | .missing => .ok r
    | .failing e => .error e
    | .object r' =>
      if seen.contains r' then .error (.wrapperLoop (h.shown start))
      else match budget with
        | 0 => .error (.wrapperLoop (h.shown start))
        | budget + 1 => h.unwrapFrom start budget (r' :: seen) r'

/-- An object stripped of everything around its function. -/
def unwrap (h : Heap n) (r : Fin n) : Except Fault (Fin n) :=
  let c := h.peel r
  if h.callable c then h.unwrapFrom c wrapperLimit [c] c else .ok c

/-- An object, already unwrapped, as a live method. -/
def asMethod (h : Heap n) (r : Fin n) : LiveMethod :=
  let name := (h.name? r).getD (h.shown r)
  ⟨name, h.code? r, dotted (h.module? r) ((h.qualname? r).getD name)⟩

def method (h : Heap n) (r : Fin n) : Except Fault LiveMethod :=
  return h.asMethod (← h.unwrap r)

/-- The live method that an attribute is.  What is built in has no code and no module, and a value
no name but its text. -/
def attributeMethod (h : Heap n) : Attribute (Fin n) → Except Fault LiveMethod
  | .stored r => h.method r
  | .slot owner name | .data owner name | .static owner name =>
    .ok ⟨name, none, s!"{owner}.{name}"⟩
  | .value text =>
    let shown := (text.map Text.quotedString).getD "None"
    .ok ⟨shown, none, shown⟩

end Heap

end Live

end DefSite
