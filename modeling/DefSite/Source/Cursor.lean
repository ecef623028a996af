import DefSite.Source.Token

/-!
# Cursors over tokens

A reading is a computation over a cursor: the tokens still to come and the last line on which a
token was taken.  A fault of the lexer stops a reading when, and only when, it looks at the place of
the token that could not be read, and then no other reading is tried.
-/

namespace DefSite.Source

/-- A place in the tokens of a text. -/
structure Cursor where
  rest : List Token
  /-- Why the tokens end, if they end without `finish`. -/
  fault : Option LexFault
  /-- The last line of the last token taken, layout not counted. -/
  lastLine : Nat
  /-- Whether a line was read that a colon would have made the first one of a `match`.  A text that
  is refused after it is refused for that colon and not for how its lines are indented. -/
  lacksColon : Bool := false
  deriving Repr, Inhabited

/-- The first place in tokens that start on a line. -/
def Cursor.first (ts : Tokens) (line : Nat) : Cursor :=
  { rest := ts.list, fault := ts.fault, lastLine := line }

/-- Why a reading stopped. -/
structure Refusal where
  flaw : SourceFlaw
  /-- Whether another reading may be tried from the same place. -/
  retry : Bool
  deriving DecidableEq, Repr, Inhabited

/-- A reading of tokens. -/
abbrev Reading := StateT Cursor (Except Refusal)

namespace Reading

def next : Reading Token := do
  let c ← get
  match c.rest with
  | t :: _ => return t
  | [] => throw ⟨(c.fault.map (·.flaw)).getD .grammar, false⟩

/-- What the next token is. -/
def peek : Reading Lexeme :=
  return (← next).lexeme

/-- The line on which the next token starts. -/
def here : Reading Int :=
  return (← next).line

/-- The last line of what has been taken. -/
def taken : Reading Int :=
  return (← get).lastLine

/-- Whether a token only lays out lines. -/
def isLayout : Lexeme → Bool
  | .lineEnd | .indent | .dedent | .finish => true
  | _ => false

/-- Takes the next token. -/
def take : Reading Token := do
  let t ← next
  modify fun c => { c with
    rest := c.rest.tail
    lastLine := if isLayout t.lexeme then c.lastLine else t.lastLine }
  return t

/-- A text that is not of the grammar here. -/
def refuse {α : Type} : Reading α :=
  throw ⟨.grammar, true⟩

/-- Lines are indented as they may not be. -/
def misplaced {α : Type} : Reading α := do
  if (← get).lacksColon then refuse else throw ⟨.indentation, true⟩

/-- The next token cannot stand here.  A block that starts or ends where none may is a fault of
indentation. -/
def unexpected {α : Type} : Reading α := do
  match ← peek with
  | .indent | .dedent => misplaced
  | _ => refuse

/-- A block that is missing is a fault of indentation, unless characters further on are at fault. -/
def missingBlock {α : Type} : Reading α := do
  match (← get).fault with
  | some ⟨_, true⟩ => refuse
  | _ => misplaced

/-- Takes the token if it is next; whether it was. -/
def skip (l : Lexeme) : Reading Bool := do
  if (← peek) = l then
    let _ ← take
    return true
  else return false

/-- Takes the token that has to come next. -/
def expect (l : Lexeme) : Reading Unit := do
  if !(← skip l) then unexpected

/-- Whether a sign comes next; takes it if so. -/
def skipSign (s : String) : Reading Bool :=
  skip (.sign s)

def skipWord (s : String) : Reading Bool :=
  skip (.reserved s)

def sign (s : String) : Reading Unit :=
  expect (.sign s)

def word (s : String) : Reading Unit :=
  expect (.reserved s)

/-- Whether a sign comes next. -/
def atSign (s : String) : Reading Bool :=
  return (← peek) = .sign s

def atWord (s : String) : Reading Bool :=
  return (← peek) = .reserved s

def name : Reading String := do
  match ← peek with
  | .name s =>
    let _ ← take
    return s
  | _ => unexpected

/-- Tries one reading and, if it is refused, another from the same place. -/
def orElse {α : Type} (first second : Reading α) : Reading α := fun c =>
  match first c with
  | .error ⟨_, true⟩ => second c
  | other => other

/-- A node of the grammar that starts on `line` and ends with what was taken last. -/
def node (kind : Kind) (line : Int) (fields : List (Field × Value)) : Reading Node :=
  return .mk kind (some line) (some (← taken)) fields

end Reading

end DefSite.Source
