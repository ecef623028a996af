import DefSite.Source.Pattern

/-!
# Reading statements

A statement is one of several on a line, or a compound one that opens blocks.  A block is either the
rest of the line or, on the lines below, everything indented deeper.  The words that open a `match`
and its cases are names anywhere else.
-/

namespace DefSite.Source

open Reading

def augmenting? : Lexeme → Option Kind
  | .sign "+=" => some .add
  | .sign "-=" => some .sub
  | .sign "*=" => some .mult
  | .sign "/=" => some .div
  | .sign "//=" => some .floorDiv
  | .sign "%=" => some .mod
  | .sign "**=" => some .pow
  | .sign "@=" => some .matMult
  | .sign "&=" => some .bitAnd
  | .sign "|=" => some .bitOr
  | .sign "^=" => some .bitXor
  | .sign "<<=" => some .lShift
  | .sign ">>=" => some .rShift
  | _ => none

/-- A field that is given only if there is something in it. -/
def given (f : Field) (n : Option Node) : List (Field × Value) :=
  (n.map fun n => (f, Value.node n)).toList

/-! ## Simple statements -/

section Simple

variable (fuel : Nat)

/-- The targets after the first side of an assignment, and its last side. -/
def sides : Nat → Node → Reading (List Node × Node)
  | 0, _ => refuse
  | count + 1, last => do
    if ← skipSign "=" then
      let t ← target last
      let yields ← atWord "yield"
      let value ← rightSide fuel
      if yields && (← atSign "=") then unexpected
      let (more, last) ← sides count value
      return (t :: more, last)
    else return ([], last)

/-- An assignment that gives the type of its target; `bare` targets are names without parentheses.
-/
def annotated (line : Int) (bare : Bool) (left : Node) : Reading Node := do
  let t ← singleTarget left
  sign ":"
  let hint ← expression fuel
  let value ← if ← skipSign "=" then some <$> rightSide fuel else pure none
  node .annAssign line ([(.target, .node t), (.annot, .node hint)] ++ given .value value
    ++ [(.simple, .number (if bare then 1 else 0))])

/-- An assignment of any kind, or an expression by itself. -/
def assignment : Reading Node := do
  let line ← here
  let first ← peek
  let left ← items fuel
  match ← peek with
  | .sign ":" => annotated fuel line (left.kind == .name && first != .sign "(") left
  | .sign "=" =>
    let (targets, value) ← sides fuel fuel left
    node .assign line [(.targets, listOf targets), (.value, .node value)]
  | l =>
    match augmenting? l with
    | some k =>
      let t ← singleTarget left
      let _ ← take
      let value ← rightSide fuel
      node .augAssign line [(.target, .node t), (.op, .node (bare k)), (.value, .node value)]
    | none => node .exprStmt line [(.value, .node left)]

def raising : Reading Node := do
  let line ← here
  word "raise"
  if startsExpression (← peek) then
    let exc ← expression fuel
    let cause ← if ← skipWord "from" then some <$> expression fuel else pure none
    node .raise line ((.exc, .node exc) :: given .cause cause)
  else node .raise line []

def returning : Reading Node := do
  let line ← here
  word "return"
  let value ← if startsStarred (← peek) then some <$> items fuel else pure none
  node .ret line (given .value value)

def asserting : Reading Node := do
  let line ← here
  word "assert"
  let test ← expression fuel
  let msg ← if ← skipSign "," then some <$> expression fuel else pure none
  node .assertion line ((.test, .node test) :: given .msg msg)

/-- The places that a deletion names; a comma may follow the last one. -/
def deletions : Nat → Reading (List Node)
  | 0 => refuse
  | count + 1 => do
    let t ← place .del (← primary fuel)
    if ← skipSign "," then
      if startsExpression (← peek) then return t :: (← deletions count) else return [t]
    else return [t]

def deleting : Reading Node := do
  let line ← here
  word "del"
  let targets ← deletions fuel fuel
  node .delete line [(.targets, listOf targets)]

/-- A statement about names. -/
def aboutNames (k : Kind) : Reading Node := do
  let line ← here
  let _ ← take
  let names ← more fuel
  node k line [(.names, .words names)]
where
  more : Nat → Reading (List String)
    | 0 => refuse
    | count + 1 => do
      let x ← name
      if ← skipSign "," then return x :: (← more count) else return [x]

/-! ### Imports -/

/-- The name of a module: names with dots between them, at most `count`. -/
def moduleName : Nat → Reading String
  | 0 => refuse
  | count + 1 => do
    let x ← name
    if ← skipSign "." then return x ++ "." ++ (← moduleName count) else return x

/-- A name that is imported, perhaps under another one. -/
def importedName (own : Reading String) : Reading Node := do
  let line ← here
  let x ← own
  let other ← if ← skipWord "as" then some <$> name else pure none
  node .importedName line
    ((.name, .word x) :: (other.map fun y => (Field.asname, Value.word y)).toList)

/-- Names that are imported; where they are `enclosed`, a comma may follow the last one. -/
def importedNames (own : Reading String) (enclosed : Bool) : Nat → Reading (List Node)
  | 0 => refuse
  | count + 1 => do
    let n ← importedName own
    if ← skipSign "," then
      if enclosed && (← atSign ")") then return [n]
      else return n :: (← importedNames own enclosed count)
    else return [n]

def importing : Reading Node := do
  let line ← here
  word "import"
  let names ← importedNames (moduleName fuel) false fuel
  node .importNames line [(.names, listOf names)]

/-- The dots before the name of a module. -/
def dots : Nat → Reading Nat
  | 0 => refuse
  | count + 1 => do
    if ← skipSign "." then return 1 + (← dots count)
    else if ← skipSign "..." then return 3 + (← dots count)
    else return 0

/-- Names that are imported from a module, or all of them. -/
def importingFrom : Reading Node := do
  let line ← here
  word "from"
  let level ← dots fuel
  let source ← if 0 < level && (← atWord "import") then pure none
    else some <$> moduleName fuel
  word "import"
  let names ← if ← atSign "*" then
      let start ← here
      let _ ← take
      pure [← node .importedName start [(.name, .word "*")]]
    else if ← skipSign "(" then
      let names ← importedNames name true fuel
      sign ")"
      pure names
    else importedNames name false fuel
  node .importFrom line ((source.map fun x => (Field.module, Value.word x)).toList
    ++ [(.names, listOf names), (.level, .number level)])

/-- A statement that does not open a block. -/
def simple : Reading Node := do
  let line ← here
  match ← peek with
  | .reserved "pass" => single line .pass
  | .reserved "break" => single line .breakLoop
  | .reserved "continue" => single line .continueLoop
  | .reserved "return" => returning fuel
  | .reserved "raise" => raising fuel
  | .reserved "assert" => asserting fuel
  | .reserved "del" => deleting fuel
  | .reserved "global" => aboutNames fuel .globalNames
  | .reserved "nonlocal" => aboutNames fuel .nonlocalNames
  | .reserved "import" => importing fuel
  | .reserved "from" => importingFrom fuel
  | .reserved "yield" =>
    let value ← yielded fuel
    node .exprStmt line [(.value, .node value)]
  | _ => assignment fuel
where
  single (line : Int) (k : Kind) : Reading Node := do
    let _ ← take
    node k line []

/-- The statements of a line and its end; a semicolon may follow the last one. -/
def simples : Nat → Reading (List Node)
  | 0 => refuse
  | count + 1 => do
    let s ← simple fuel
    if ← skipSign ";" then
      if ← skip .lineEnd then return [s] else return s :: (← simples count)
    else
      expect .lineEnd
      return [s]

end Simple

/-! ## Compound statements -/

def withItem (fuel : Nat) : Reading Node := do
  let context ← expression fuel
  let bound ← if ← skipWord "as" then some <$> starTarget fuel else pure none
  return .mk .withItem none none ((.contextExpr, .node context) :: given .optionalVars bound)

/-- Items with commas between them; where they are `enclosed`, a comma may follow the last one. -/
def withItems (fuel : Nat) (enclosed : Bool) : Nat → Reading (List Node)
  | 0 => refuse
  | count + 1 => do
    let i ← withItem fuel
    if ← skipSign "," then
      if enclosed && (← atSign ")") then return [i]
      else return i :: (← withItems fuel enclosed count)
    else return [i]

/-- The items of a `with` and the colon after them.  A parenthesis that encloses them all is no part
of an item. -/
def withHead (fuel : Nat) : Reading (List Node) :=
  orElse
    (do
      sign "("
      let is ← withItems fuel true fuel
      sign ")"
      sign ":"
      return is)
    (do
      let is ← withItems fuel false fuel
      sign ":"
      return is)

def classArguments (fuel : Nat) : Reading Arguments := do
  if ← skipSign "(" then
    let g ← arguments fuel Arguments.none
    sign ")"
    return g
  else return Arguments.none

def decorators (fuel : Nat) : Nat → Reading (List Node)
  | 0 => refuse
  | count + 1 => do
    if ← skipSign "@" then
      let d ← named fuel
      expect .lineEnd
      return d :: (← decorators fuel count)
    else return []

/-- What a `match` compares its cases with, and whether the colon and the end of the line follow; if
not, the line ends without the colon. -/
def matchHead (fuel : Nat) : Reading (Node × Bool) := do
  let _ ← take
  let line ← here
  let starred ← atSign "*"
  let first ← item fuel true
  let subject ← if ← atSign "," then
      let rest ← moreItems fuel true
      node .tuple line [(.elts, listOf (first :: rest)), loading]
    else if starred then refuse
    else pure first
  let opens ← skipSign ":"
  expect .lineEnd
  return (subject, opens)

mutual

/-- A statement, or the statements of a line. -/
def statement : Nat → Reading (List Node)
  | 0 => refuse
  | fuel + 1 => do
    match ← peek with
    | .reserved w =>
      match w with
      | "if" => return [← condition fuel]
      | "while" => return [← whileLoop fuel]
      | "for" => return [← forLoop fuel .forLoop (← here)]
      | "with" => return [← withBlock fuel .withBlock (← here)]
      | "try" => return [← tryBlock fuel]
      | "def" | "class" => return [← definition fuel []]
      | "async" => return [← asynchronous fuel]
      | _ => simples fuel fuel
    | .sign "@" =>
      let ds ← decorators fuel fuel
      return [← definition fuel ds]
    | .name "match" =>
      let start ← get
      let line ← here
      match ← orElse (some <$> matchHead fuel) (pure none) with
      | some (subject, true) => return [← matchBlock fuel line subject]
      | some (_, false) =>
        set { start with lacksColon := true }
        simples fuel fuel
      | none => simples fuel fuel
    | _ => simples fuel fuel

/-- A definition, a loop or a block that is asynchronous. -/
def asynchronous : Nat → Reading Node
  | 0 => refuse
  | fuel + 1 => do
    let line ← here
    match (← get).rest with
    | _ :: ⟨.reserved "for", _, _⟩ :: _ =>
      let _ ← take
      forLoop fuel .asyncFor line
    | _ :: ⟨.reserved "with", _, _⟩ :: _ =>
      let _ ← take
      withBlock fuel .asyncWith line
    | _ => definition fuel []

/-- The cases of a `match` after its first line. -/
def matchBlock : Nat → Int → Node → Reading Node
  | 0, _, _ => refuse
  | fuel + 1, line, subject => do
    if !(← skip .indent) then missingBlock
    let cases ← matchCases fuel
    expect .dedent
    node .matchBlock line [(.subject, .node subject), (.cases, listOf cases)]

def matchCases : Nat → Reading (List Node)
  | 0 => refuse
  | fuel + 1 => do
    if (← peek) ≠ .name "case" then unexpected
    let _ ← take
    let p ← casePattern fuel
    let guard ← if ← skipWord "if" then some <$> named fuel else pure none
    sign ":"
    let body ← block fuel
    let c : Node := .mk .matchCase none none
      ((.pattern, .node p) :: given .guard guard ++ [(.body, listOf body)])
    if (← peek) = .dedent then return [c] else return c :: (← matchCases fuel)

def statements : Nat → Reading (List Node)
  | 0 => refuse
  | fuel + 1 => do
    let first ← statement fuel
    match ← peek with
    | .dedent | .finish => return first
    | _ => return first ++ (← statements fuel)

def block : Nat → Reading (List Node)
  | 0 => refuse
  | fuel + 1 => do
    if ← skip .lineEnd then
      if !(← skip .indent) then missingBlock
      let body ← statements fuel
      expect .dedent
      return body
    else simples fuel fuel

/-- A condition that starts with `if` or `elif`, and what follows it. -/
def condition : Nat → Reading Node
  | 0 => refuse
  | fuel + 1 => do
    let line ← here
    let _ ← take
    let test ← named fuel
    sign ":"
    let body ← block fuel
    let orelse ← if ← atWord "elif" then List.singleton <$> condition fuel else otherwise fuel
    node .ifBranch line [(.test, .node test), (.body, listOf body), (.orelse, listOf orelse)]

def otherwise : Nat → Reading (List Node)
  | 0 => refuse
  | fuel + 1 => do
    if ← skipWord "else" then
      sign ":"
      block fuel
    else return []

def whileLoop : Nat → Reading Node
  | 0 => refuse
  | fuel + 1 => do
    let line ← here
    word "while"
    let test ← named fuel
    sign ":"
    let body ← block fuel
    let orelse ← otherwise fuel
    node .whileLoop line [(.test, .node test), (.body, listOf body), (.orelse, listOf orelse)]

/-- A loop over items, of one of two classes; it may start before its first word. -/
def forLoop : Nat → Kind → Int → Reading Node
  | 0, _, _ => refuse
  | fuel + 1, k, line => do
    word "for"
    let t ← targets fuel
    word "in"
    let iter ← items fuel
    sign ":"
    let body ← block fuel
    let orelse ← otherwise fuel
    node k line [(.target, .node t), (.iter, .node iter), (.body, listOf body),
      (.orelse, listOf orelse)]

def withBlock : Nat → Kind → Int → Reading Node
  | 0, _, _ => refuse
  | fuel + 1, k, line => do
    word "with"
    let is ← withHead fuel
    let body ← block fuel
    node k line [(.items, listOf is), (.body, listOf body)]

/-- A block whose failures are handled; handlers or a last block have to follow it.  All handlers
are plain ones, or all are those of exception groups. -/
def tryBlock : Nat → Reading Node
  | 0 => refuse
  | fuel + 1 => do
    let line ← here
    word "try"
    sign ":"
    let body ← block fuel
    let groups ← match (← get).rest with
      | ⟨.reserved "except", _, _⟩ :: ⟨.sign "*", _, _⟩ :: _ => pure true
      | _ => pure false
    let hs ← handlers fuel groups
    let orelse ← if hs.isEmpty then pure [] else otherwise fuel
    let final ← if ← skipWord "finally" then
        sign ":"
        block fuel
      else if hs.isEmpty then refuse
      else pure []
    node (if groups then .tryStar else .tryBlock) line [(.body, listOf body),
      (.handlers, listOf hs), (.orelse, listOf orelse), (.finalbody, listOf final)]

def handlers : Nat → Bool → Reading (List Node)
  | 0, _ => refuse
  | fuel + 1, groups => do
    if ← atWord "except" then
      let h ← handler fuel groups
      return h :: (← handlers fuel groups)
    else return []

/-- One handler: what it catches, which only a plain one may leave out, and under which name. -/
def handler : Nat → Bool → Reading Node
  | 0, _ => refuse
  | fuel + 1, groups => do
    let line ← here
    word "except"
    if groups then sign "*"
    let (type, caught) ← if !groups && (← atSign ":") then pure (none, none) else do
      let type ← expression fuel
      let caught ← if ← skipWord "as" then some <$> name else pure none
      pure (some type, caught)
    sign ":"
    let body ← block fuel
    node .exceptHandler line (given .type type
      ++ (caught.map fun s => (Field.name, Value.word s)).toList ++ [(.body, listOf body)])

/-- A definition of a function or class after its decorators. -/
def definition : Nat → List Node → Reading Node
  | 0, _ => refuse
  | fuel + 1, ds => do
    let line ← here
    if ← skipWord "class" then
      let n ← name
      let g ← classArguments fuel
      sign ":"
      let body ← block fuel
      node .classDef line [(.name, .word n), (.bases, listOf g.args),
        (.keywords, listOf g.keywords), (.body, listOf body), (.decorators, listOf ds)]
    else
      let isAsync ← skipWord "async"
      word "def"
      let n ← name
      sign "("
      let params ← parameters fuel true (.sign ")")
      sign ")"
      let returns ← if ← skipSign "->" then some <$> expression fuel else pure none
      sign ":"
      let body ← block fuel
      node (if isAsync then .asyncFunctionDef else .functionDef) line
        ([(.name, .word n), (.args, .node params.toNode), (.body, listOf body),
          (.decorators, listOf ds)] ++ given .returns returns)

end

def wholeText (fuel : Nat) : Reading Node := do
  let body ← if (← peek) = .finish then pure [] else statements fuel
  expect .finish
  return .mk .module none none [(.body, listOf body), (.typeIgnores, listOf [])]

end DefSite.Source
