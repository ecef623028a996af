import DefSite.Fault
import DefSite.Live.Hierarchy
import DefSite.Text.Quoted

/-!
# What can be observed of a live object

Names, module, code, what it wraps, whether it can be called, its type's name and its text.  A bound
method shows every attribute of its function; class methods and static methods show its names and
module but not its code.  On an instance its own attributes are seen and those of its class, bound
to it; on a class those of its ancestry and of its metaclass.  The code of a heap's classes is not
run: what they compute is missing, and instances are shown in the way of all objects.
-/

namespace DefSite.Live

namespace Plain

mutual

def shown : Plain → String
  | nothing => "None"
  | int i => toString i
  | bool b => if b then "True" else "False"
  | text s => Text.quotedString s
  | list items => "[" ++ ", ".intercalate (shownItems items) ++ "]"

def shownItems : List Plain → List String
  | [] => []
  | v :: vs => shown v :: shownItems vs

end

def typeName : Plain → String
  | nothing => "NoneType"
  | int _ => "int"
  | bool _ => "bool"
  | text _ => "str"
  | list _ => "list"

end Plain

namespace Heap

variable {n : Nat}

/-- The function of a bound method. -/
def boundFunction? : Object (Fin n) → Option (Fin n)
  | .boundMethod f => some f
  | _ => none

/-- The function of a class method. -/
def classFunction? : Object (Fin n) → Option (Fin n)
  | .classMethod f => some f
  | _ => none

/-- The function whose names an object shows. -/
def namesake? : Object (Fin n) → Option (Fin n)
  | .boundMethod f | .classMethod f | .staticMethod f => some f
  | _ => none

/-- The class of an object. -/
def typeOf (h : Heap n) (r : Fin n) : Ancestor n :=
  match h r with
  | .function .. => .builtin "function"
  | .property _ => .builtin "property"
  | .cachedProperty _ => .builtin "cached_property"
  | .classMethod _ => .builtin "classmethod"
  | .staticMethod _ => .builtin "staticmethod"
  | .boundMethod _ => .builtin "method"
  | .partialCall _ => .builtin "partial"
  | .builtin name =>
    if isBuiltinClass name then .builtin "type" else .builtin "builtin_function_or_method"
  | .plain v => .builtin v.typeName
  | .custom _ => .builtin "object"
  | .module .. => .builtin "module"
  | .classObject _ => h.metaclass (.listed r)
  | .ofClass cls _ => h.named cls
  | .code .. => .builtin "code"

def typeName (h : Heap n) (r : Fin n) : String :=
  match h r with
  | .custom c => c.typeName
  | _ => match h.typeOf r with
    | .builtin name => name
    | .listed c => ((h.class? c).map (·.name)).getD "object"

def isClass (h : Heap n) (r : Fin n) : Bool :=
  match h r with
  | .classObject _ => true
  | .builtin name => isBuiltinClass name
  | _ => false

def callable (h : Heap n) (r : Fin n) : Bool :=
  match h r with
  | .function .. | .staticMethod _ | .boundMethod _ | .partialCall _ | .builtin _
  | .classObject _ => true
  | .custom c => c.callable
  | .ofClass cls _ => h.holds (h.named cls) "__call__"
  | .property _ | .cachedProperty _ | .classMethod _ | .plain _ | .module .. | .code .. => false

/-! ## Attributes -/

/-- What reading an attribute of an object gives. -/
inductive Reading (ρ : Type) where
  | missing
  | object (r : ρ)
  | failing (fault : Fault)
  deriving DecidableEq, Repr, Inhabited

/-- The object read, if there is one. -/
def Reading.object? {ρ : Type} : Reading ρ → Option ρ
  | .object r => some r
  | _ => none

/-- The object, if there is one. -/
def Reading.ofOption {ρ : Type} : Option ρ → Reading ρ
  | some r => .object r
  | none => .missing

/-- What an attribute that a class stores is seen as on an instance of the class.  A function is
bound, and a bound function shows what the function does.  What a getter computes is missing, and
it is a fault if the getter cannot be called. -/
def seen (h : Heap n) (r : Fin n) : Reading (Fin n) :=
  let r := h.follow classFunction? r
  match h r with
  | .staticMethod f => .object f
  | .property none => .missing
  | .property (some f) | .cachedProperty f =>
    if h.callable f then .missing else .failing (.notCallable (h.typeName f))
  | .ofClass cls _ => if h.holds (h.named cls) "__get__" then .missing else .object r
  | _ => .object r

/-- What an attribute that a class stores is seen as on the class: there computed attributes stand
for themselves. -/
def seenOnClass (h : Heap n) (r : Fin n) : Reading (Fin n) :=
  match h r with
  | .property _ | .cachedProperty _ => .object r
  | _ => h.seen r

/-- Whether the object, stored in a class, is asked before an instance's own attributes. -/
def overrides (h : Heap n) (r : Fin n) : Bool :=
  h.holds (h.typeOf r) "__get__" &&
    (h.holds (h.typeOf r) "__set__" || h.holds (h.typeOf r) "__delete__")

/-- What is read where `own` is what the object has itself and `above` what its class stores. -/
def readingBelow (h : Heap n) (above : Option (Fin n)) (own : Reading (Fin n)) :
    Reading (Fin n) :=
  match above with
  | none => own
  | some a => if h.overrides a || own = .missing then h.seen a else own

/-- What reading an attribute gives that is stored in the object, in its class, or in an ancestor of
either. -/
def read (h : Heap n) (r : Fin n) (name : String) : Reading (Fin n) :=
  match h r with
  | .ofClass cls attrs =>
    h.readingBelow (h.definedAttr? (h.named cls) name) (.ofOption (attrs.lookup name))
  | .classObject _ =>
    h.readingBelow (h.definedAttr? (h.metaclass (.listed r)) name)
      ((h.definedAttr? (.listed r) name).elim .missing h.seenOnClass)
  | .module _ attrs => .ofOption (attrs.lookup name)
  | _ => .missing

/-- The text that an attribute is, if it is one. -/
def textAttribute? (h : Heap n) (r : Fin n) (name : String) : Option String :=
  match (h.read r name).object?.map h with
  | some (.plain (.text s)) => some s
  | _ => none

/-! ## Names, code and wrappers -/

/-- The object whose names are seen on an object. -/
def bearer (h : Heap n) (r : Fin n) : Fin n :=
  h.follow namesake? r

def name? (h : Heap n) (r : Fin n) : Option String :=
  match h (h.bearer r) with
  | .function name .. => some name
  | .builtin name => some name
  | .custom c => c.name
  | .module name _ => some name
  | .classObject c => some c.name
  | _ => h.textAttribute? (h.bearer r) "__name__"

def qualname? (h : Heap n) (r : Fin n) : Option String :=
  match h (h.bearer r) with
  | .function _ qualname .. => some qualname
  | .builtin name => some name
  | .custom c => c.qualname
  | .classObject c => some c.qualname
  | _ => h.textAttribute? (h.bearer r) "__qualname__"

/-- The module that a class names as its own. -/
def classModule? (h : Heap n) (r : Fin n) : Option String :=
  match h.ownAttr? "__module__" r with
  | some a => match h a with
    | .plain (.text s) => some s
    | _ => none
  | none => (h.class? r).bind (·.module)

/-- The module an object names as its own; an instance names its class's. -/
def module? (h : Heap n) (r : Fin n) : Option String :=
  match h (h.bearer r) with
  | .function _ _ module .. => module
  | .builtin _ => some "builtins"
  | .cachedProperty _ | .partialCall _ => some "functools"
  | .custom c => c.module
  | .classObject _ => h.classModule? (h.bearer r)
  | .ofClass cls _ =>
    (h.textAttribute? (h.bearer r) "__module__").or (h.classModule? cls)
  | _ => h.textAttribute? (h.bearer r) "__module__"

/-- Where the code of an object starts. -/
def code? (h : Heap n) (r : Fin n) : Option Location :=
  match h (h.follow boundFunction? r) with
  | .function _ _ _ code _ => some code
  | .custom c => c.code
  | _ => match (h.read (h.follow boundFunction? r) "__code__").object?.map h with
    | some (.code _ place) => some place
    | _ => none

/-- What following wrappers from an object leads to.  Classes are not followed, whatever they hold
as what they wrap. -/
def wrapping (h : Heap n) (r : Fin n) : Reading (Fin n) :=
  if h.isClass r then .missing
  else match h (h.follow boundFunction? r) with
    | .function _ _ _ _ wrapped => .ofOption wrapped
    | .custom c => .ofOption c.wrapped
    | .classMethod f | .staticMethod f => .object f
    | _ => h.read (h.follow boundFunction? r) "__wrapped__"

/-- The object that an object wraps. -/
def wrapped? (h : Heap n) (r : Fin n) : Option (Fin n) :=
  (h.wrapping r).object?

/-! ## Texts -/

/-- A class's name below the module that it names, unless that is the module of what is built in. -/
def classPath (h : Heap n) (r : Fin n) (c : ClassObject (Fin n)) : String :=
  match h.classModule? r with
  | some m => if m = "builtins" then c.name else s!"{m}.{c.qualname}"
  | none => c.name

/-- The text of an instance: errors are shown as if made anew, and all else in the way of all
objects. -/
def instanceText (h : Heap n) (r : Fin n) : String :=
  match h.named r, h.class? r with
  | .listed _, some c =>
    if (h.ancestry (.listed r)).contains (.builtin "BaseException") then s!"{c.name}()"
    else s!"<{h.classPath r c} object at 0x0>"
  | .builtin name, _ =>
    if (builtinAncestry name).contains "BaseException" then s!"{name}()"
    else s!"<{name} object at 0x0>"
  | .listed _, none => "<object object at 0x0>"

/-- The text of an object; `depth` bounds how deep texts nest.  Supplying arguments in several steps
shows as supplying them at once. -/
def shownAt (h : Heap n) : Nat → Fin n → String
  | 0, _ => "..."
  | depth + 1, r =>
    match h r with
    | .function _ qualname .. => s!"<function {qualname} at 0x0>"
    | .property _ => "<property object at 0x0>"
    | .cachedProperty _ => "<functools.cached_property object at 0x0>"
    | .classMethod f => s!"<classmethod({h.shownAt depth f})>"
    | .staticMethod f => s!"<staticmethod({h.shownAt depth f})>"
    | .boundMethod f =>
      let name := ((h.qualname? f <|> h.name? f).getD "?")
      s!"<bound method {name} of 0>"
    | .partialCall f =>
      match h f with
      | .partialCall _ => h.shownAt depth f
      | _ => s!"functools.partial({h.shownAt depth f})"
    | .builtin name =>
      if isBuiltinClass name then s!"<class '{name}'>"
      else s!"<built-in function {name}>"
    | .plain v => v.shown
    | .custom c => c.shown
    | .module name _ => s!"<module '{name}'>"
    | .classObject c => s!"<class '{h.classPath r c}'>"
    | .ofClass cls _ => h.instanceText cls
    | .code name place =>
      s!"<code object {name} at 0x0, file \"{place.file}\", line {place.line}>"

def shown (h : Heap n) (r : Fin n) : String :=
  h.shownAt (n + 1) r

end Heap

/-- `base` below `module`, if there is a module. -/
def dotted (module : Option String) (base : String) : String :=
  match module with
  | some m => if m.isEmpty then base else s!"{m}.{base}"
  | none => base

end DefSite.Live
