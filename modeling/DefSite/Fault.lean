import DefSite.File.PathName
import DefSite.Text.Quoted
import DefSite.Text.Utf8
import DefSite.Tree.Kind

/-!
# What can go wrong

`Fault` lists the causes of failure, and `Fault.message` words them.  No operation fails with
anything else.
-/

namespace DefSite

inductive LocationPart where
  | path | line
  deriving DecidableEq, Repr, Inhabited

/-- A change that immutable records refuse. -/
inductive Change where
  | assign | delete
  deriving DecidableEq, Repr, Inhabited

/-- What is wrong with a source text. -/
inductive SourceFlaw where
  /-- The text is not of the grammar. -/
  | grammar
  /-- A block is missing, or a line is indented where it may not be or to no open level. -/
  | indentation
  /-- Which of two lines is indented deeper depends on the width of a tab. -/
  | tabs
  deriving DecidableEq, Repr, Inhabited

/-- The causes of failure. -/
inductive Fault where
  | missingField (kind : Kind) (field : Field)
  /-- A node lacks the line that was read. -/
  | missingLine (kind : Kind)
  /-- Part of an absent source location was read. -/
  | noLocation (wanted : LocationPart)
  /-- An operator of a class that cannot stand in its place. -/
  | misplacedOperator (kind : Kind)
  /-- A `raise` names a cause but nothing to raise. -/
  | causeAlone
  /-- A node that cannot be a part of a formatted string. -/
  | unexpectedPart (kind : Kind)
  /-- An expression in a formatted string would need a backslash. -/
  | backslash
  /-- A number that is no code point. -/
  | noCodePoint (number : Int)
  /-- Of two lists that go together the second is longer, or it is shorter. -/
  | unpaired (longer : Bool)
  /-- Static lookup found no attribute of that name. -/
  | noAttribute (name : String)
  /-- The scope is neither a module nor a class. -/
  | notAScope (typeName : String)
  /-- The catalogue holds nothing under that key. -/
  | unknownVariant (key : String)
  /-- Wrappers lead back to an object, or are too many; `start` describes the first one. -/
  | wrapperLoop (start : String)
  /-- What computes an attribute cannot be called. -/
  | notCallable (typeName : String)
  /-- A change to a field of an immutable record. -/
  | frozen (change : Change) (field : String)
  | noSuchFile (path : PathName)
  | isDirectory (path : PathName)
  | notDirectory (path : PathName)
  /-- A file that cannot be read for the reason given. -/
  | unreadable (reason : String)
  /-- Bytes that are not UTF-8. -/
  | encoding (cause : Text.Utf8.Fault)
  /-- A source text holds a null character; what is wrong with it is not said to be in its file. -/
  | nullCharacter
  /-- A source text that cannot be parsed. -/
  | source (flaw : SourceFlaw) (path : PathName)
  /-- A settings document that cannot be read. -/
  | document
  /-- A setting of that type stands where a table is wanted. -/
  | notATable (typeName : String)
  /-- A setting that is no list of strings; `shown` is its text. -/
  | notStrings (key : String) (shown : String)
  deriving DecidableEq, Repr, Inhabited

namespace Fault

/-- The two lowest hexadecimal digits of a byte. -/
def byteText (b : UInt8) : String :=
  String.ofList (Text.hexDigits 2 b.toNat)

def encodingMessage (f : Text.Utf8.Fault) : String :=
  let where_ :=
    if f.length = 1 then s!"byte 0x{byteText f.byte} in position {f.start}"
    else s!"bytes in position {f.start}-{f.start + f.length - 1}"
  s!"'utf-8' codec can't decode {where_}: {f.reason.message}"

/-- The wording of a fault of the file system. -/
def fileMessage (number : Nat) (what : String) (path : PathName) : String :=
  s!"[Errno {number}] {what}: {Text.quotedString path.toString}"

/-- Whether 32 bits hold a number. -/
def isMachineInt (i : Int) : Bool :=
  -0x80000000 ≤ i && i < 0x80000000

/-- The wording of a fault; faults in the text of a file have none. -/
def message : Fault → String
  | missingField k f => s!"'{k.label}' object has no attribute '{f.label}'"
  | missingLine k => s!"'{k.label}' object has no attribute 'lineno'"
  | noLocation .path => "'NoneType' object has no attribute 'path'"
  | noLocation .line => "'NoneType' object has no attribute 'line'"
  | misplacedOperator k => k.label
  | causeAlone => "Node can't use cause without an exception."
  | unexpectedPart k => s!"Unexpected node inside JoinedStr, <ast.{k.label} object at 0x0>"
  | backslash => "Unable to avoid backslash in f-string expression part"
  | noCodePoint i =>
    if isMachineInt i then "chr() arg not in range(0x110000)"
    else "Python int too large to convert to C int"
  | unpaired longer =>
    let relation := if longer then "longer" else "shorter"
    s!"zip() argument 2 is {relation} than argument 1"
  | noAttribute name => name
  | notAScope typeName => s!"Expected a module or class scope, got {typeName}"
  | unknownVariant key => s!"Unknown variant: '{key}'"
  | wrapperLoop start => s!"wrapper loop when unwrapping {start}"
  | notCallable typeName => s!"'{typeName}' object is not callable"
  | frozen .assign field => s!"cannot assign to field '{field}'"
  | frozen .delete field => s!"cannot delete field '{field}'"
  | noSuchFile path => fileMessage 2 "No such file or directory" path
  | isDirectory path => fileMessage 21 "Is a directory" path
  | notDirectory path => fileMessage 20 "Not a directory" path
  | unreadable reason => reason
  | encoding cause => encodingMessage cause
  | nullCharacter | source _ _ | document => ""
  | notATable typeName => s!"'{typeName}' object has no attribute 'get'"
  | notStrings key shown => s!"{key} must be a list of strings, got {shown}"

end Fault

end DefSite
