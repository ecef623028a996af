import DefSite.Match.Subject
import DefSite.Tree.Walk

/-!
# Variants

A variant is a kind of method together with the rule that recognises its definitions: the name and
the first line have to agree, and the names of the decorators have to be acceptable.  An anonymous
function is recognised by its line under the name `<lambda>`.
-/

namespace DefSite

namespace Node

/-- The bare name of a decorator, a call standing for what it calls: a name, or the last part of a
dotted one; nothing for other expressions. -/
def bareName (d : Node) : Except Fault (Option String) := do
  let named ← if d.kind = .call then pure (← d.readChild .func).1 else pure d
  match named.kind with
  | .name => return some (← named.readWord .id)
  | .access => return some (← named.readWord .attr)
  | _ => return none

/-- The bare names of a definition's decorators. -/
def decoratedBy (n : Node) : Except Fault (List String) := do
  return (← (← n.readList .decorators).mapM fun d => d.1.bareName).filterMap id

/-- The line on which a definition starts, decorators included. -/
def startLine (n : Node) : Except Fault Int := do
  let line ← n.readLine
  let lines ← (← n.readList .decorators).mapM fun d => d.1.readLine
  return lines.foldl min line

end Node

/-- A kind of method: its name, the kind of its subjects, and which decorators it accepts. -/
structure Variant where
  name : String
  subjectKind : SubjectKind
  /-- Whether a definition with decorators of these names is of this kind. -/
  accepts : List String → Bool
  deriving Inhabited

namespace Variant

/-- No decorator that makes a class method or a static method. -/
def acceptsUndecorated (names : List String) : Bool :=
  !names.contains "classmethod" && !names.contains "staticmethod"

def function : Variant :=
  ⟨"function", .function, acceptsUndecorated⟩

def instanceMethod : Variant :=
  ⟨"instance", .instanceMethod, acceptsUndecorated⟩

def classMethod : Variant :=
  ⟨"classmethod", .classMethod, fun names => names.contains "classmethod"⟩

def staticMethod : Variant :=
  ⟨"staticmethod", .staticMethod, fun names => names.contains "staticmethod"⟩

/-- The variants that are known from the start. -/
def builtins : List Variant :=
  [function, instanceMethod, classMethod, staticMethod]

/-- A variant under a name of its own that wants a certain decorator, or, if none is given, accepts
what functions do. -/
def custom (name : String) (kind : SubjectKind) : Option String → Variant
  | none => ⟨name, kind, acceptsUndecorated⟩
  | some wanted => ⟨name, kind, fun names => names.contains wanted⟩

/-- Whether a node defines the method of that name whose code starts on that line. -/
def recognises (v : Variant) (name : String) (line : Int) (n : Node) : Except Fault Bool := do
  match n.kind with
  | .lambda => if name = anonymousName then return (← n.readLine) == line else return false
  | .functionDef | .asyncFunctionDef =>
    if (← n.readWord .name) ≠ name then return false
    if (← n.startLine) ≠ line then return false
    return v.accepts (← n.decoratedBy)
  | _ => return false

end Variant

end DefSite
