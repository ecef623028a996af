import DefSite.Render.Layout
import DefSite.Render.Literal
import DefSite.Tree.Read

/-!
# How each class of node is rendered

A rule renders one node, given how its parts are rendered; it does not recurse itself.  Fields are
read in a fixed order, so of several missing fields the first one read is reported.  Statements
start on lines of their own; expressions, patterns, parameters and the like are written in place.
Classes that are alike share a rule with parameters.
-/

namespace DefSite.Render

open Layout

/-- Renders a part of a node in a manner and a place. -/
abbrev Parts (n : Node) := n.Part → Manner → Place → Except Fault Layout

namespace Parts

variable {n : Node}

def plain (sub : Parts n) (m : Manner) (c : n.Part) : Except Fault Layout :=
  sub c m (.level .test)

/-- A part in a place that demands `l`. -/
def atLevel (sub : Parts n) (m : Manner) (l : Level) (c : n.Part) : Except Fault Layout :=
  sub c m (.level l)

def commaList (sub : Parts n) (m : Manner) (cs : List n.Part) : Except Fault Layout :=
  return joined ", " (← cs.mapM (sub.plain m))

def sequence (sub : Parts n) (m : Manner) (cs : List n.Part) : Except Fault Layout :=
  return (← cs.mapM (sub.plain m)).flatten

/-- A part that may be absent, with what stands before it. -/
def optional (sub : Parts n) (m : Manner) (before : Layout) : Option n.Part → Except Fault Layout
  | none => return []
  | some c => return before ++ (← sub.plain m c)

def body (sub : Parts n) (m : Manner) (f : Field) : Except Fault Layout := do
  sub.sequence m.deeper (← n.readList f)

/-- The statements of a field under a line of their own, if there are any. -/
def block (sub : Parts n) (m : Manner) (heading : String) (f : Field) : Except Fault Layout := do
  match ← n.readList f with
  | [] => return []
  | cs => return line m heading ++ word ":" ++ (← sub.sequence m.deeper cs)

end Parts

/-! ## Texts of operators -/

/-- The sign of a binary operator and how tightly it binds. -/
def binarySign? : Kind → Option (String × Level)
  | .add => some ("+", .arith)
  | .sub => some ("-", .arith)
  | .mult => some ("*", .term)
  | .matMult => some ("@", .term)
  | .div => some ("/", .term)
  | .mod => some ("%", .term)
  | .floorDiv => some ("//", .term)
  | .lShift => some ("<<", .shift)
  | .rShift => some (">>", .shift)
  | .bitOr => some ("|", .expr)
  | .bitXor => some ("^", .bxor)
  | .bitAnd => some ("&", .band)
  | .pow => some ("**", .power)
  | _ => none

def unarySign? : Kind → Option (String × Level)
  | .not => some ("not ", .not)
  | .uAdd => some ("+", .factor)
  | .uSub => some ("-", .factor)
  | .invert => some ("~", .factor)
  | _ => none

def connective? : Kind → Option (String × Level)
  | .and => some ("and", .and)
  | .or => some ("or", .or)
  | _ => none

def comparison? : Kind → Option String
  | .eq => some "==" | .notEq => some "!=" | .lt => some "<" | .ltE => some "<="
  | .gt => some ">" | .gtE => some ">=" | .is => some "is" | .isNot => some "is not"
  | .inside => some "in" | .notInside => some "not in"
  | _ => none

/-- What a table says about an operator. -/
def operator {α : Type} (table : Kind → Option α) (op : Node) : Except Fault α :=
  match table op.kind with
  | some a => .ok a
  | none => .error (.misplacedOperator op.kind)

/-! ## Texts of constants -/

/-- A floating-point number; infinities are written as a number that is too large. -/
def floatText : Binary64 → String
  | .infinite negative => if negative then "-1e309" else "1e309"
  | .notANumber => "(1e309-1e309)"
  | x => x.text

/-- A part of a complex number, without a zero after the point. -/
def partText (x : Binary64) : String :=
  let s := (floatText x).toList
  String.ofList (if ['.', '0'].isSuffixOf s then s.take (s.length - 2) else s)

/-- A complex number; a real part of zero is left out unless its sign shows. -/
def complexText (re im : Binary64) : String :=
  if re.isPlainZero then partText im ++ "j"
  else "(" ++ partText re ++ (if im.isNegative then "" else "+") ++ partText im ++ "j)"

def literalText (avoiding : Bool) : Literal → String
  | .nothing => "None"
  | .ellipsis => "Ellipsis"
  | .bool b => if b then "True" else "False"
  | .int i => toString i
  | .float x => floatText x
  | .complex re im => complexText re im
  | .text s => if avoiding then literal Quotes.all s else Text.quoted s
  | .bytes b => Text.quotedBytes b

/-! ## Parts shared by several classes -/

section Shared

variable {n : Node}

/-- The comment that states the type of a statement; the line is read first. -/
def typeComment (n : Node) (m : Manner) : Except Fault Layout := do
  let line ← n.readLine
  return [.typeComment (← n.optionalWord .typeComment) (m.ignored? line)]

/-- The decorators of a definition, each on its own line. -/
def decorators (sub : Parts n) (m : Manner) : Except Fault Layout := do
  let lines ← (← n.readList .decorators).mapM fun d =>
    return line m "@" ++ (← sub.plain m d)
  return lines.flatten

/-- The text of a statement that documents the body it opens, and whether it is marked `u`. -/
def documentation? (s : Node) : Except Fault (Option (List Text.CodePoint × Bool)) := do
  if s.kind ≠ .exprStmt then return none
  let v ← s.readChild .value
  if v.1.kind ≠ .constant then return none
  match ← v.1.readLiteral .value with
  | .text t => return some (t, v.1.word? .kind = some "u")
  | _ => return none

/-- A body that may open with documentation. -/
def documentedBody (sub : Parts n) (m : Manner) : Except Fault Layout := do
  match ← n.readList .body with
  | [] => return []
  | first :: rest =>
    match ← documentation? first.1 with
    | some (t, marked) =>
      let text := if marked then "u" ++ docstring t else docstring t
      return line m text ++ (← sub.sequence m rest)
    | none => sub.sequence m (first :: rest)

def functionRule (sub : Parts n) (m : Manner) (opening : String) : Except Fault Layout := do
  let decorated ← decorators sub m
  let name ← n.readWord .name
  let params ← sub.plain m (← n.readChild .args)
  let returns ← sub.optional m (word " -> ") (← n.optionalChild .returns)
  let comment ← typeComment n m
  let body ← documentedBody sub m.deeper
  return .freshLine :: decorated ++ line m (opening ++ " ") ++ word name
    ++ between "(" ")" params ++ returns ++ word ":" ++ comment ++ body

/-- The nodes below a node one by one; each of them starts anew. -/
def genericRule (sub : Parts n) (m : Manner) : Except Fault Layout := do
  let texts ← n.parts.mapM fun c => return .restart :: (← sub.plain m c)
  return texts.flatten

end Shared

/-! ## Modules and statements -/

section Statements

variable (n : Node) (sub : Parts n) (m : Manner)

/-- A line whose type is ignored, and what is said of it. -/
def ignoredType (i : Node) : Except Fault (Int × String) := do
  return (← i.readLine, "ignore" ++ (← i.readWord .tag))

/-- A module; its list of ignored types is in force until it ends. -/
def moduleRule : Except Fault Layout := do
  let ignores ← (← n.readList .typeIgnores).mapM fun i => ignoredType i.1
  return .ignores true :: (← documentedBody sub (m.withIgnores ignores)) ++ [.ignores false]

def functionTypeRule : Except Fault Layout := do
  let args ← sub.commaList m (← n.readList .argtypes)
  return between "(" ")" args ++ word " -> " ++ (← sub.plain m (← n.readChild .returns))

/-- A class definition; parentheses stand only around bases or keywords. -/
def classRule : Except Fault Layout := do
  let decorated ← decorators sub m
  let name ← n.readWord .name
  let bases ← n.readList .bases
  let keywords ← if bases.isEmpty then n.readList .keywords else pure []
  let baseTexts ← bases.mapM (sub.plain m)
  let keywords ← if bases.isEmpty then pure keywords else n.readList .keywords
  let keywordTexts ← keywords.mapM (sub.plain m)
  let body ← documentedBody sub m.deeper
  return .freshLine :: decorated ++ line m "class " ++ word name
    ++ (if bases.isEmpty && keywords.isEmpty then []
        else between "(" ")" (joined ", " (baseTexts ++ keywordTexts)))
    ++ word ":" ++ body

def exprStmtRule : Except Fault Layout := do
  return line m "" ++ (← sub.atLevel m .yield (← n.readChild .value))

def assignRule : Except Fault Layout := do
  let targets ← (← n.readList .targets).mapM fun t =>
    return (← sub.atLevel m .tuple t) ++ word " = "
  let value ← sub.plain m (← n.readChild .value)
  return line m "" ++ targets.flatten ++ value ++ (← typeComment n m)

def augAssignRule : Except Fault Layout := do
  let target ← sub.plain m (← n.readChild .target)
  let (sign, _) ← operator binarySign? (← n.readChild .op).1
  let value ← sub.plain m (← n.readChild .value)
  return line m "" ++ target ++ word (" " ++ sign ++ "= ") ++ value

/-- An annotated assignment; a bare name stands in parentheses unless it is marked simple. -/
def annAssignRule : Except Fault Layout := do
  let simple ← n.readNumber .simple
  let target ← n.readChild .target
  let targetText ← sub.plain m target
  let annotation ← sub.plain m (← n.readChild .annot)
  let value ← sub.optional m (word " = ") (← n.optionalChild .value)
  return line m "" ++ parensIf (simple == 0 && target.1.kind == .name) targetText
    ++ word ": " ++ annotation ++ value

def returnRule : Except Fault Layout := do
  return line m "return" ++ (← sub.optional m (word " ") (← n.optionalChild .value))

def deleteRule : Except Fault Layout := do
  return line m "del " ++ (← sub.commaList m (← n.readList .targets))

def assertRule : Except Fault Layout := do
  let test ← sub.plain m (← n.readChild .test)
  return line m "assert " ++ test ++ (← sub.optional m (word ", ") (← n.optionalChild .msg))

/-- A `raise`; a cause needs something to be raised. -/
def raiseRule : Except Fault Layout := do
  match ← n.optionalChild .exc with
  | none =>
    match ← n.optionalChild .cause with
    | none => return line m "raise"
    | some _ => throw .causeAlone
  | some exc =>
    let text ← sub.plain m exc
    let cause ← sub.optional m (word " from ") (← n.optionalChild .cause)
    return line m "raise " ++ text ++ cause

def importRule : Except Fault Layout := do
  return line m "import " ++ (← sub.commaList m (← n.readList .names))

/-- An import from a module, or from as many packages up as there are dots. -/
def importFromRule : Except Fault Layout := do
  let level := (← n.optionalNumber .level).getD 0
  let source ← n.optionalWord .module
  let names ← sub.commaList m (← n.readList .names)
  return line m ("from " ++ String.ofList (List.replicate level.toNat '.'))
    ++ word (source.getD "") ++ word " import " ++ names

/-- A statement about names. -/
def namesRule (opening : String) : Except Fault Layout := do
  return line m opening ++ joined ", " ((← n.readWords .names).map word)

/-- A `try`; its handlers are plain or those of exception groups, and so are handlers elsewhere in
it that have no `try` of their own. -/
def tryRule (starred : Bool) : Except Fault Layout := do
  let body ← sub.body (m.inTry starred) .body
  let handlers ← sub.sequence (m.inTry starred) (← n.readList .handlers)
  let orelse ← sub.block (m.inTry starred) "else" .orelse
  return line m "try" ++ word ":" ++ body ++ handlers ++ orelse
    ++ (← sub.block (m.inTry starred) "finally" .finalbody)

def handlerRule : Except Fault Layout := do
  let type ← sub.optional m (word " ") (← n.optionalChild .type)
  let name := match ← n.optionalWord .name with
    | some x => if x.isEmpty then [] else word " as " ++ word x
    | none => []
  return line m (if m.starred then "except*" else "except") ++ type ++ name ++ word ":"
    ++ (← sub.body m .body)

def forRule (opening : String) : Except Fault Layout := do
  let target ← sub.atLevel m .tuple (← n.readChild .target)
  let iter ← sub.plain m (← n.readChild .iter)
  let comment ← typeComment n m
  let body ← sub.body m .body
  return line m opening ++ target ++ word " in " ++ iter ++ word ":" ++ comment ++ body
    ++ (← sub.block m "else" .orelse)

/-- A condition; an `else` that holds only another condition continues it. -/
def ifRule (place : Place) : Except Fault Layout := do
  let test ← sub.plain m (← n.readChild .test)
  let body ← sub.body m .body
  let head := line m (if place = .elif then "elif " else "if ") ++ test ++ word ":" ++ body
  match ← n.readList .orelse with
  | [] => return head
  | [only] =>
    if only.1.kind = .ifBranch then return head ++ (← sub only m .elif)
    else return head ++ line m "else" ++ word ":" ++ (← sub.plain m.deeper only)
  | many => return head ++ line m "else" ++ word ":" ++ (← sub.sequence m.deeper many)

def whileRule : Except Fault Layout := do
  let test ← sub.plain m (← n.readChild .test)
  let body ← sub.body m .body
  return line m "while " ++ test ++ word ":" ++ body ++ (← sub.block m "else" .orelse)

def withRule (opening : String) : Except Fault Layout := do
  let items ← sub.commaList m (← n.readList .items)
  let comment ← typeComment n m
  return line m opening ++ items ++ word ":" ++ comment ++ (← sub.body m .body)

def matchRule : Except Fault Layout := do
  let subject ← sub.plain m (← n.readChild .subject)
  return line m "match " ++ subject ++ word ":" ++ (← sub.body m .cases)

def matchCaseRule : Except Fault Layout := do
  let pattern ← sub.plain m (← n.readChild .pattern)
  let guarded ← sub.optional m (word " if ") (← n.optionalChild .guard)
  return line m "case " ++ pattern ++ guarded ++ word ":" ++ (← sub.body m .body)

end Statements

/-! ## Expressions -/

section Expressions

variable (n : Node) (sub : Parts n) (m : Manner) (place : Place)

/-- A named expression; it stands in parentheses in every place but one that demands nothing. -/
def namedExprRule : Except Fault Layout := do
  let target ← n.readChild .target
  let value ← n.readChild .value
  let targetText ← sub.atLevel m .atom target
  return enclosed place .named (targetText ++ word " := " ++ (← sub.atLevel m .atom value))

/-- A chain of one connective; each value is demanded one level more than the one before. -/
def boolOpRule : Except Fault Layout := do
  let (text, own) ← operator connective? (← n.readChild .op).1
  let values ← n.readList .values
  let texts ← go own values
  return enclosed place own (joined (" " ++ text ++ " ") texts)
where
  go : Level → List n.Part → Except Fault (List Layout)
    | _, [] => return []
    | l, v :: vs => do
      let text ← sub.atLevel m l.next v
      return text :: (← go l.next vs)

/-- A binary operator; powers group to the right, all others to the left. -/
def binOpRule : Except Fault Layout := do
  let (sign, own) ← operator binarySign? (← n.readChild .op).1
  let (forLeft, forRight) := if own = .power then (own.next, own) else (own, own.next)
  let left ← sub.atLevel m forLeft (← n.readChild .left)
  let right ← sub.atLevel m forRight (← n.readChild .right)
  return enclosed place own (left ++ word (" " ++ sign ++ " ") ++ right)

def unaryOpRule : Except Fault Layout := do
  let (sign, own) ← operator unarySign? (← n.readChild .op).1
  let operand ← sub.atLevel m own (← n.readChild .operand)
  return enclosed place own (word sign ++ operand)

def compareRule : Except Fault Layout := do
  let left ← n.readChild .left
  let comparators ← n.readList .comparators
  let leftText ← sub.atLevel m .expr left
  let ops ← n.readList .ops
  let tails ← (ops.zip comparators).mapM fun (op, c) => do
    let sign ← operator comparison? op.1
    return word (" " ++ sign ++ " ") ++ (← sub.atLevel m .expr c)
  return enclosed place .cmp (leftText ++ tails.flatten)

def lambdaRule : Except Fault Layout := do
  let params ← sub.plain m (← n.readChild .args)
  let body ← sub.plain m (← n.readChild .body)
  let written := copied params
  return enclosed place .test
    (word "lambda" ++ (if writes written then word " " else []) ++ written ++ word ": " ++ body)

def ifExpRule : Except Fault Layout := do
  let body ← n.readChild .body
  let test ← n.readChild .test
  let bodyText ← sub.atLevel m .or body
  let testText ← sub.atLevel m .or test
  let orelse ← sub.plain m (← n.readChild .orelse)
  return enclosed place .test (bodyText ++ word " if " ++ testText ++ word " else " ++ orelse)

/-- A dictionary; a value without a key stands after two stars. -/
def dictRule : Except Fault Layout := do
  let keys ← n.readSlots .keys
  let values ← n.readList .values
  let items ← (keys.zip values).mapM fun (k, v) => do
    match k with
    | none => return word "**" ++ (← sub.atLevel m .expr v)
    | some k =>
      let key ← sub.plain m k
      return key ++ word ": " ++ (← sub.plain m v)
  return between "\x7b" "\x7d" (joined ", " items)

/-- A set; one without elements is written as that of the elements of an empty tuple. -/
def setRule : Except Fault Layout := do
  let items ← n.readList .elts
  let inside ← sub.commaList m items
  return between "\x7b" "\x7d" (if items.isEmpty then word "*()" else inside)

/-- Elements that generators make, between the given texts. -/
def generatedRule (left right : String) : Except Fault Layout := do
  let elt ← sub.plain m (← n.readChild .elt)
  let generators ← sub.sequence m (← n.readList .generators)
  return between left right (elt ++ generators)

def dictCompRule : Except Fault Layout := do
  let key ← sub.plain m (← n.readChild .key)
  let value ← sub.plain m (← n.readChild .value)
  let generators ← sub.sequence m (← n.readList .generators)
  return between "\x7b" "\x7d" (key ++ word ": " ++ value ++ generators)

def comprehensionRule : Except Fault Layout := do
  let isAsync ← n.readNumber .isAsync
  let target ← sub.atLevel m .tuple (← n.readChild .target)
  let iter ← n.readChild .iter
  let ifs ← n.readList .ifs
  let iterText ← sub.atLevel m .or iter
  let conditions ← ifs.mapM fun c => return word " if " ++ (← sub.atLevel m .or c)
  return word (if isAsync = 0 then " for " else " async for ") ++ target ++ word " in " ++ iterText
    ++ conditions.flatten

def awaitRule : Except Fault Layout := do
  let value ← sub.atLevel m .atom (← n.readChild .value)
  return enclosed place .await (word "await " ++ value)

def yieldRule : Except Fault Layout := do
  match ← n.optionalChild .value with
  | none => return enclosed place .yield (word "yield")
  | some v => return enclosed place .yield (word "yield " ++ (← sub.atLevel m .atom v))

def yieldFromRule : Except Fault Layout := do
  let value ← sub.atLevel m .atom (← n.readChild .value)
  return enclosed place .yield (word "yield from " ++ value)

def callRule : Except Fault Layout := do
  let func ← sub.atLevel m .atom (← n.readChild .func)
  let args ← (← n.readList .args).mapM (sub.plain m)
  let keywords ← (← n.readList .keywords).mapM (sub.plain m)
  return func ++ between "(" ")" (joined ", " (args ++ keywords))

/-- A named argument, or a mapping of them after two stars. -/
def keywordRule : Except Fault Layout := do
  let opening := match ← n.optionalWord .arg with
    | none => word "**"
    | some name => word name ++ word "="
  return opening ++ (← sub.plain m (← n.readChild .value))

def starredRule : Except Fault Layout := do
  return word "*" ++ (← sub.atLevel m .expr (← n.readChild .value))

def constantRule : Except Fault Layout := do
  match ← n.readLiteral .value with
  | .ellipsis => return word "..."
  | value =>
    match ← n.optionalWord .kind with
    | some "u" => return word "u" ++ word (literalText m.avoiding value)
    | _ => return word (literalText m.avoiding value)

/-- Whether a node is a constant whose text could run into a dot. -/
def isWholeNumber (n : Node) : Except Fault Bool := do
  if n.kind ≠ .constant then return false
  match ← n.readLiteral .value with
  | .int _ | .bool _ => return true
  | _ => return false

/-- An attribute of a value; a space keeps a number apart from the dot. -/
def accessRule : Except Fault Layout := do
  let value ← n.readChild .value
  let text ← sub.atLevel m .atom value
  let gap := if ← isWholeNumber value.1 then " ." else "."
  return text ++ word gap ++ word (← n.readWord .attr)

def subscriptRule : Except Fault Layout := do
  let value ← sub.atLevel m .atom (← n.readChild .value)
  let slice ← sub (← n.readChild .slice) m .index
  return value ++ between "[" "]" slice

def sliceRule : Except Fault Layout := do
  let lower ← sub.optional m [] (← n.optionalChild .lower)
  let upper ← sub.optional m [] (← n.optionalChild .upper)
  let step ← sub.optional m (word ":") (← n.optionalChild .step)
  return lower ++ word ":" ++ upper ++ step

/-- A tuple; a comma follows a single item. -/
def tupleRule : Except Fault Layout := do
  let items ← n.readList .elts
  let texts ← items.mapM (sub.plain m)
  let inside := match texts with
    | [only] => only ++ word ","
    | many => joined ", " many
  let parens := items.isEmpty || (place ≠ .index && Level.tuple.rank < place.demand.rank)
  return parensIf parens inside

/-- A list of the nodes of a field. -/
def listRule (f : Field) : Except Fault Layout := do
  return between "[" "]" (← sub.commaList m (← n.readList f))

end Expressions

/-! ## Formatted strings -/

section Formatted

variable (n : Node) (sub : Parts n) (m : Manner)

/-- A text with its braces doubled. -/
def doubledBraces (s : List Text.CodePoint) : List Text.CodePoint :=
  s.flatMap fun c => if c.val = 0x7b || c.val = 0x7d then [c, c] else [c]

/-- What a conversion is written as; -1 is none. -/
def conversionText (i : Int) : Except Fault Layout :=
  if i = -1 then .ok []
  else if h : 0 ≤ i ∧ i < 0x110000 then
    .ok [.text "!", .raw [⟨i.toNat, by omega⟩]]
  else .error (.noCodePoint i)

/-- An expression that was written on its own, if it needs no backslash. -/
def embeddedText (l : Layout) : Except Fault String :=
  if l.toString.contains '\\' then .error .backslash else .ok l.toString

def formatText : Except Fault Layout := do
  match ← n.optionalChild .formatSpec with
  | none => return []
  | some f => return word ":" ++ (← sub f m .part)

/-- An expression in braces, with its conversion and its format.  A space keeps a brace that opens
the expression apart from that before it. -/
def formattedValueRule : Except Fault Layout := do
  let expr ← embeddedText (← sub.atLevel .embedded .or (← n.readChild .value))
  let conversion ← conversionText (← n.readNumber .conversion)
  let format ← formatText n sub m
  let gap := if expr.startsWith "\x7b" then " " else ""
  return between "\x7b" "\x7d" (word gap ++ word expr ++ conversion ++ format)

/-- A formatted string.  Where backslashes are avoided it is written as the one text that its parts
make. -/
def joinedStrRule : Except Fault Layout := do
  let parts ← (← n.readList .values).mapM fun v => do
    return (⟨(← sub v m .part).codePoints, v.1.kind == .constant⟩ : FormattedPart)
  return word "f" ++ word (if m.avoiding then literal Quotes.all (parts.flatMap (·.text))
    else formatted parts)

/-- A node that is a part of a formatted string, or its format. -/
def partRule : Except Fault Layout :=
  match n.kind with
  | .joinedStr => do return (← (← n.readList .values).mapM fun v => sub v m .part).flatten
  | .formattedValue => formattedValueRule n sub m
  | .constant => do
    match ← n.readLiteral .value with
    | .text s => return [.raw (doubledBraces s)]
    | _ => throw (.unexpectedPart .constant)
  | k => throw (.unexpectedPart k)

end Formatted

/-! ## Patterns -/

section Patterns

variable (n : Node) (sub : Parts n) (m : Manner) (place : Place)

def matchValueRule : Except Fault Layout := do
  sub.plain m (← n.readChild .value)

def matchSingletonRule : Except Fault Layout := do
  return word (literalText m.avoiding (← n.readLiteral .value))

/-- The rest of a sequence; without a name an underscore stands for it. -/
def matchStarRule : Except Fault Layout := do
  return word "*" ++ word ((← n.optionalWord .name).getD "_")

/-- Patterns after what each is for.  The lists must be of one length, which shows only after what
they have in common. -/
def pairedRule {α : Type} (before : α → Except Fault Layout) (as : List α) (ps : List n.Part) :
    Except Fault (List Layout) := do
  let texts ← (as.zip ps).mapM fun (a, p) => return (← before a) ++ (← sub.plain m p)
  if as.length = ps.length then return texts
  else throw (.unpaired (decide (as.length < ps.length)))

/-- A pattern for mappings; what its keys leave may be bound to a name after two stars. -/
def matchMappingRule : Except Fault Layout := do
  let keys ← n.readList .keys
  let patterns ← n.readList .patterns
  let texts ← pairedRule n sub m (fun k => return (← sub.plain m k) ++ word ": ") keys patterns
  let rest := match ← n.optionalWord .rest with
    | some name => [word "**" ++ word name]
    | none => []
  return between "\x7b" "\x7d" (joined ", " (texts ++ rest))

/-- A pattern for instances: patterns by position, then patterns of named attributes. -/
def matchClassRule : Except Fault Layout := do
  let cls ← sub.atLevel m .atom (← n.readChild .cls)
  let positional ← (← n.readList .patterns).mapM (sub.plain m)
  let names ← n.readWords .kwdAttrs
  let named ← if names.isEmpty then pure [] else do
    pairedRule n sub m (fun a => return word a ++ word "=") names (← n.readList .kwdPatterns)
  return cls ++ between "(" ")" (joined ", " (positional ++ named))

/-- A pattern that binds a name, or anything at all. -/
def matchAsRule : Except Fault Layout := do
  let name ← n.optionalWord .name
  let pattern ← n.optionalChild .pattern
  match name, pattern with
  | none, _ => return word "_"
  | some name, none => return word name
  | some name, some p =>
    return enclosed place .test ((← sub.atLevel m .expr p) ++ word " as " ++ word name)

def matchOrRule : Except Fault Layout := do
  let patterns ← (← n.readList .patterns).mapM (sub.atLevel m Level.expr.next)
  return enclosed place .expr (joined " | " patterns)

end Patterns

/-! ## Parameters and the like -/

section Parameters

variable (n : Node) (sub : Parts n) (m : Manner)

def parameter (c : n.Part) (default : Option n.Part) : Except Fault Layout := do
  let text ← sub.plain m c
  return text ++ (← sub.optional m (word "=") default)

/-- The parameters of a function: those given by position, the first of them set off by a slash
if they cannot be named; a starred one or a bare star before those that must be named; and one for
the remaining names. -/
def argumentsRule : Except Fault Layout := do
  let posonly ← n.readList .posonlyargs
  let positional := posonly ++ (← n.readList .args)
  let given ← n.readList .defaults
  let defaults := List.replicate (positional.length - given.length) none ++ given.map some
  let first ← (positional.zip defaults).zipIdx.mapM fun ((c, d), i) => do
    let text ← parameter n sub m c d
    return if i + 1 = posonly.length then text ++ word ", /" else text
  let star ← match ← n.optionalChild .vararg with
    | some v => pure [word "*" ++ (← sub.plain m v)]
    | none => pure (if (← n.readList .kwonlyargs).isEmpty then [] else [word "*"])
  let kwonly ← n.readList .kwonlyargs
  let named ← if kwonly.isEmpty then pure [] else do
    (kwonly.zip (← n.readSlots .kwDefaults)).mapM fun (c, d) => parameter n sub m c d
  let rest ← match ← n.optionalChild .kwarg with
    | some k => pure [word "**" ++ (← sub.plain m k)]
    | none => pure []
  return joined ", " (first ++ star ++ named ++ rest)

def argRule : Except Fault Layout := do
  let name ← n.readWord .arg
  return word name ++ (← sub.optional m (word ": ") (← n.optionalChild .annot))

def withItemRule : Except Fault Layout := do
  let context ← sub.plain m (← n.readChild .contextExpr)
  return context ++ (← sub.optional m (word " as ") (← n.optionalChild .optionalVars))

def importedNameRule : Except Fault Layout := do
  let name ← n.readWord .name
  match ← n.optionalWord .asname with
  | some other =>
    return word name ++ (if other.isEmpty then [] else word " as " ++ word other)
  | none => return word name

end Parameters

end DefSite.Render
