import DefSite.File.PathName
import DefSite.Live.Describe
import DefSite.Match.Sink
import DefSite.Render.Source
import DefSite.Tree.Walk

/-!
# Subjects

A subject is a definition that was found for a live method: the node, the tree it stands in and its
address there, the scope and file it was looked up for, and what kind of method it is.  Subjects are
equal when their keys are: the kind, the context and the place of the node, but not the sink that
they report to.
-/

namespace DefSite

/-- A scope: a class, module or other object, by identity, with its dotted name. -/
structure Scope where
  id : Nat
  name : String
  deriving DecidableEq, Repr, Inhabited

/-- The scope that a live object is.  Modules go by their name, all else by module and qualified
name, or by its text where it has no qualified name. -/
def Live.Heap.scope {n : Nat} (h : Live.Heap n) (r : Fin n) : Scope :=
  match h r with
  | .module name _ => ⟨r, name⟩
  | _ =>
    let own := match h.qualname? r with
      | some q => if q.isEmpty then h.shown r else q
      | none => h.shown r
    ⟨r, Live.dotted (h.module? r) own⟩

/-- Where a definition was looked up. -/
structure Context where
  scope : Scope
  path : PathName
  deriving DecidableEq, Repr, Inhabited

namespace Context

/-- The dotted parts of the scope's name, outermost first. -/
def parts (c : Context) : List String :=
  (c.scope.name.toList.splitOn '.').map String.ofList

def lastPart (c : Context) : String :=
  c.parts.getLast?.getD ""

end Context

/-- What kind of definition a subject is. -/
inductive SubjectKind where
  | method | function | instanceMethod | classMethod | staticMethod
  deriving DecidableEq, Repr, Inhabited

namespace SubjectKind

def label : SubjectKind → String
  | method => "method"
  | function => "function"
  | instanceMethod => "instance"
  | classMethod => "classmethod"
  | staticMethod => "staticmethod"

/-- The name of the class of subjects of a kind. -/
def className : SubjectKind → String
  | method => "Subject"
  | function => "FunctionSubject"
  | instanceMethod => "InstanceMethodSubject"
  | classMethod => "ClassMethodSubject"
  | staticMethod => "StaticMethodSubject"

end SubjectKind

/-- The identity of a node: a tree and an address in it. -/
structure NodeId where
  tree : Nat
  address : Address
  deriving DecidableEq, Repr, Inhabited

/-- The name that anonymous functions go by. -/
def anonymousName : String := "<lambda>"

/-- A definition selected for a live method. -/
structure Subject where
  kind : SubjectKind
  context : Context
  node : Node
  origin : NodeId
  /-- Where problems with the subject are reported. -/
  sink : SinkId
  deriving Inhabited

namespace Subject

/-- What decides whether two subjects are equal. -/
def key (s : Subject) : SubjectKind × Context × NodeId :=
  (s.kind, s.context, s.origin)

instance : BEq Subject := ⟨fun a b => a.key == b.key⟩

/-- The name of the definition; an anonymous function has a name of its own, and nodes that may go
without a name have none. -/
def name? (s : Subject) : Option String :=
  match s.node.word? .name with
  | some name => some name
  | none => if s.node.kind.defaulted .name then none else some anonymousName

/-- The line of the definition, its decorators not counted. -/
def line (s : Subject) : Except Fault Int :=
  s.node.readLine

/-- The decorators of the definition; a node without any counts as having none. -/
def decorators (s : Subject) : List Node :=
  ((s.node.get? .decorators).map Value.nodes).getD []

/-- The first line of the definition and the line after its last one, decorators included.  A
definition without a last line, or whose last line is zero, ends on its own line. -/
def lineRange (s : Subject) : Except Fault (Int × Int) := do
  let line ← s.line
  let start := (← s.decorators.mapM Node.readLine).foldl min line
  let last := match s.node.lastLine? with
    | some e => if e = 0 then line else e
    | none => line
  return (start, last + 1)

def source (s : Subject) : Except Fault String :=
  s.node.source

/-- The dotted expression that names the subject. -/
def expression (s : Subject) : String :=
  s.context.scope.name ++ "." ++ s.name?.getD "None"

/-- The expression with file and line. -/
def identification (s : Subject) : Except Fault String := do
  let line ← s.line
  return s!"{s.expression}:{s.context.path}:{line}"

end Subject

/-- The records whose fields can be named in a change. -/
inductive Record where
  | context | subject | setup | settings
  deriving DecidableEq, Repr, Inhabited

/-- The outcome of changing a field of a record in place: only settings can be changed. -/
def Record.change (r : Record) (c : Change) (field : String) : Except Fault Unit :=
  match r with
  | settings => .ok ()
  | context | subject | setup => .error (.frozen c field)

end DefSite
