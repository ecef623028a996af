import DefSite.Source.Escape
import DefSite.Source.Numeral
import DefSite.Text.Identifier
import DefSite.Text.NormalForm
import DefSite.Text.Printable

/-!
# From characters to tokens

`Tokens.ofText` reads the tokens of a text in which every line ends with `'\n'`.  At the start of a
logical line its indentation is compared with those of the open blocks, once with tabs of eight
columns and once with tabs of one: a line whose place hangs on the width of a tab is a fault.  Blank
lines and comments count for nothing, and inside brackets neither do line ends and indentation.
-/

namespace DefSite.Source

/-- A fault in the characters themselves. -/
def badText : LexFault := ⟨.grammar, true⟩

/-- A text that ends too early, or a backslash with something after it. -/
def badLine : LexFault := ⟨.grammar, false⟩

/-- A line whose place hangs on the width of a tab. -/
def badTabs : LexFault := ⟨.tabs, false⟩

/-- A line that fits no open block, or one block too many. -/
def badIndent : LexFault := ⟨.indentation, false⟩

/-- How far a line is indented, with wide and with narrow tabs. -/
structure Margin where
  wide : Nat
  narrow : Nat
  deriving DecidableEq, Repr, Inhabited

/-- Where the lexer stands. -/
structure LexState where
  /-- The number of the current line. -/
  line : Nat
  /-- Whether a line starts here. -/
  fresh : Bool
  /-- The margins of the open blocks, innermost first. -/
  blocks : List Margin
  /-- The open brackets, innermost first. -/
  brackets : List Char
  deriving Repr, Inhabited

/-- The outcome of one step: tokens and where it goes on, or the end. -/
inductive Step where
  | more (tokens : List Token) (state : LexState) (rest : List Char)
  | stop (tokens : List Token) (fault : Option LexFault)

/-! ## Indentation -/

/-- Reads the indentation of a line that may be split by backslashes; `first` is the wide margin at
the first of them, if it is not zero.  Gives the margin, the number of lines passed and the rest. -/
def margin (m : Margin) (first : Nat) (passed : Nat) :
    List Char → Except LexFault (Margin × Nat × List Char)
  | ' ' :: cs => margin ⟨m.wide + 1, m.narrow + 1⟩ first passed cs
  | '\t' :: cs => margin ⟨(m.wide / 8 + 1) * 8, m.narrow + 1⟩ first passed cs
  | '\x0c' :: cs => margin ⟨0, 0⟩ first passed cs
  | '\\' :: '\n' :: cs =>
    if cs.isEmpty then .error badLine
    else margin m (if first = 0 then m.wide else first) (passed + 1) cs
  | '\\' :: _ => .error badLine
  | cs => .ok (if first = 0 then m else ⟨first, first⟩, passed, cs)

def blockLimit : Nat := 100

/-- Closes the blocks that a line with this margin ends. -/
def closeBlocks (m : Margin) : List Margin → Nat × List Margin
  | b :: bs =>
    if m.wide < b.wide then
      let (n, rest) := closeBlocks m bs
      (n + 1, rest)
    else (0, b :: bs)
  | [] => (0, [])

/-- The layout that starts a line with this margin: the blocks it opens or closes. -/
def layout (line : Nat) (m : Margin) (blocks : List Margin) :
    Except LexFault (List Token × List Margin) :=
  let here := blocks.headD ⟨0, 0⟩
  if m.wide = here.wide then
    if m.narrow = here.narrow then .ok ([], blocks) else .error badTabs
  else if here.wide < m.wide then
    if blockLimit ≤ blocks.length + 1 then .error badIndent
    else if m.narrow ≤ here.narrow then .error badTabs
    else .ok ([⟨.indent, line, line⟩], m :: blocks)
  else
    let (n, rest) := closeBlocks m blocks
    let now := rest.headD ⟨0, 0⟩
    if m.wide ≠ now.wide then .error badIndent
    else if m.narrow ≠ now.narrow then .error badTabs
    else .ok (List.replicate n ⟨.dedent, line, line⟩, rest)

/-! ## Literals -/

/-- What stands up to the closing quote of a literal on one line, and the rest. -/
def lineLiteral (quote : Char) : List Char → Option (List Char × List Char)
  | [] => none
  | ['\\'] => none
  | '\\' :: c :: cs => (lineLiteral quote cs).map fun (s, rest) => ('\\' :: c :: s, rest)
  | c :: cs =>
    if c = quote then some ([], cs)
    else if c = '\n' then none
    else (lineLiteral quote cs).map fun (s, rest) => (c :: s, rest)

/-- What stands up to three closing quotes in a row, and the rest. -/
def blockLiteral (quote : Char) : List Char → Option (List Char × List Char)
  | [] => none
  | ['\\'] => none
  | '\\' :: c :: cs => (blockLiteral quote cs).map fun (s, rest) => ('\\' :: c :: s, rest)
  | c :: cs =>
    if c = quote ∧ cs.take 2 = [quote, quote] then some ([], cs.drop 2)
    else (blockLiteral quote cs).map fun (s, rest) => (c :: s, rest)

def quotedLiteral (quote : Char) (cs : List Char) : Option (List Char × List Char) :=
  if cs.take 2 = [quote, quote] then blockLiteral quote (cs.drop 2) else lineLiteral quote cs

/-- The letters before a literal's quote, the quote and what follows it, if a literal starts here.
-/
def literalStart? (cs : List Char) : Option (List Char × Char × List Char) :=
  let letters := cs.takeWhile fun c => ['b', 'f', 'r', 'u'].contains c.toLower
  let known := ["", "b", "f", "r", "u", "br", "rb", "fr", "rf"]
  match cs.drop letters.length with
  | q :: rest =>
    if (q = '\'' ∨ q = '"') ∧ known.contains (String.ofList (letters.map Char.toLower)) then
      some (letters, q, rest)
    else none
  | [] => none

/-! ## Steps -/

def bracketLimit : Nat := 200

def closing : Char → Char
  | '(' => ')'
  | '[' => ']'
  | _ => '\x7d'

/-- A sign of one character, with what it does to the open brackets. -/
def shortSign (s : LexState) (c : Char) (cs : List Char) : Step :=
  let token : Token := ⟨.sign (String.singleton c), s.line, s.line⟩
  if c = '(' ∨ c = '[' ∨ c = '\x7b' then
    if bracketLimit ≤ s.brackets.length then .stop [] (some badText)
    else .more [token] { s with brackets := c :: s.brackets } cs
  else if c = ')' ∨ c = ']' ∨ c = '\x7d' then
    match s.brackets with
    | b :: bs =>
      if closing b = c then .more [token] { s with brackets := bs } cs
      else .stop [] (some badText)
    | [] => .stop [] (some badText)
  else if Text.isPrintable c.toNat then .more [token] s cs
  else .stop [] (some badText)

def literalStep (s : LexState) (letters : List Char) (quote : Char) (cs : List Char) : Step :=
  match quotedLiteral quote cs with
  | none => .stop [] (some badText)
  | some (inside, rest) =>
    let has (c : Char) : Bool := letters.any (·.toLower == c)
    let last := s.line + inside.count '\n'
    let lexeme : Lexeme :=
      if has 'f' then .formatted (has 'r') inside
      else .text (letters.head? == some 'u') (literalValue (has 'r') (has 'b') inside)
    .more [⟨lexeme, s.line, last⟩] { s with line := last } rest

/-- A name or reserved word.  Names that differ only in spelling are the same name; a reserved word
is one only in its plain spelling. -/
def wordStep (s : LexState) (cs : List Char) : Step :=
  let word := cs.takeWhile isWordChar
  if word.all (·.toNat < 0x80) || Text.isIdentifier word then
    let text := String.ofList word
    let lexeme : Lexeme :=
      if text ∈ reservedWords then .reserved text
      else .name (String.ofList (Text.normalForm word))
    .more [⟨lexeme, s.line, s.line⟩] s (cs.drop word.length)
  else .stop [] (some badText)

def numberStep (s : LexState) (cs : List Char) : Step :=
  match number cs with
  | some (value, rest) => .more [⟨.number value, s.line, s.line⟩] s rest
  | none => .stop [] (some badText)

/-- One token, or the end of a line, in the middle of a line. -/
def tokenStep (s : LexState) (cs : List Char) : Step :=
  match cs.dropWhile fun c => c == ' ' || c == '\t' || c == '\x0c' with
  | [] => .stop [] (some badLine)
  | '\\' :: '\n' :: rest =>
    if rest.isEmpty then .stop [] (some badLine) else .more [] { s with line := s.line + 1 } rest
  | '\\' :: _ => .stop [] (some badLine)
  | c :: rest =>
    if c = '\n' then
      let next := { s with line := s.line + 1, fresh := true }
      .more (if s.brackets.isEmpty then [⟨.lineEnd, s.line, s.line⟩] else []) next rest
    else if c = '#' then .more [] s (rest.dropWhile (· != '\n'))
    else match literalStart? (c :: rest) with
      | some (letters, quote, inside) => literalStep s letters quote inside
      | none =>
        if c.isDigit ∨ c = '.' ∧ (rest.head?.map Char.isDigit).getD false then
          numberStep s (c :: rest)
        else if isWordChar c then wordStep s (c :: rest)
        else match longSign? (c :: rest) with
          | some (sign, rest) => .more [⟨.sign (String.ofList sign), s.line, s.line⟩] s rest
          | none => shortSign s c rest

def finishStep (s : LexState) : Step :=
  if s.brackets.isEmpty then
    let closed := s.blocks.map fun _ => (⟨.dedent, s.line, s.line⟩ : Token)
    .stop (closed ++ [⟨.finish, s.line, s.line⟩]) none
  else .stop [] (some badLine)

/-- One step: at the start of a line its layout and its first token, unless it is blank. -/
def LexState.step (s : LexState) (cs : List Char) : Step :=
  if !s.fresh then tokenStep s cs
  else match margin ⟨0, 0⟩ 0 0 cs with
    | .error f => .stop [] (some f)
    | .ok (m, passed, rest) =>
      let s := { s with line := s.line + passed, fresh := false }
      match rest with
      | [] => finishStep s
      | c :: tail =>
        if c = '\n' then .more [] { s with line := s.line + 1, fresh := true } tail
        else if c = '#' then
          let after := tail.dropWhile (· != '\n')
          .more [] { s with line := s.line + 1, fresh := true } after.tail
        else if !s.brackets.isEmpty then tokenStep s rest
        else match layout s.line m s.blocks with
          | .error f => .stop [] (some f)
          | .ok (tokens, blocks) =>
            match tokenStep { s with blocks } rest with
            | .more more s rest => .more (tokens ++ more) s rest
            | .stop more f => .stop (tokens ++ more) f

/-- The tokens from a state on; each step uses up characters. -/
def tokensFrom (s : LexState) (cs : List Char) (done : List Token) : Tokens :=
  match s.step cs with
  | .stop tokens f => ⟨done.reverse ++ tokens, f⟩
  | .more tokens s rest =>
    if rest.length < cs.length then tokensFrom s rest (tokens.reverse ++ done)
    else ⟨done.reverse, some badLine⟩
termination_by cs.length

def Tokens.ofText (cs : List Char) : Tokens :=
  tokensFrom ⟨1, true, [], []⟩ cs []

end DefSite.Source
