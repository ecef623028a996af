import DefSite.Source.Expression

/-!
# Reading patterns

What a case of a `match` is compared with: literals, names, dotted names, classes, sequences and
mappings, alternatives of these, and any of them under a name.  A name by itself captures what it is
compared with, and an underscore is compared with anything.
-/

namespace DefSite.Source

open Reading

/-! ## Literals and names -/

/-- A number that may be signed, with the number itself. -/
def signedNumber : Reading (Node × Literal) := do
  let line ← here
  let negative ← skipSign "-"
  match ← peek with
  | .number (some l) =>
    let n ← plainConstant l
    if negative then
      return (← node .unaryOp line [(.op, .node (bare .uSub)), (.operand, .node n)], l)
    else return (n, l)
  | .number none => throw ⟨.grammar, false⟩
  | _ => unexpected

/-- A number that may be signed, or a complex number in two parts. -/
def numberLiteral : Reading Node := do
  let line ← here
  let (left, l) ← signedNumber
  match leftOperator? (← peek) with
  | some (k, 4) =>
    let _ ← take
    match l, ← peek with
    | .complex .., _ => throw ⟨.grammar, false⟩
    | _, .number (some (.complex re im)) =>
      let right ← plainConstant (.complex re im)
      node .binOp line [(.left, .node left), (.op, .node (bare k)), (.right, .node right)]
    | _, .number _ => throw ⟨.grammar, false⟩
    | _, _ => unexpected
  | _ => return left

/-- A constant that stands for itself, apart from numbers and texts. -/
def constantWord? : Lexeme → Option Literal
  | .reserved "None" => some .nothing
  | .reserved "True" => some (.bool true)
  | .reserved "False" => some (.bool false)
  | _ => none

def startsNumber (l : Lexeme) : Bool :=
  l matches .number _ | .sign "-"

/-- A name that something is captured under. -/
def captureName : Reading String := do
  let x ← name
  if x = "_" then refuse
  if [.sign ".", .sign "(", .sign "="].contains (← peek) then unexpected
  return x

/-- The attributes after a name, at most `count`. -/
def attributes : Nat → Int → Node → Reading Node
  | 0, _, _ => refuse
  | count + 1, line, value => do
    if ← skipSign "." then
      let attr ← name
      attributes count line
        (← node .access line [(.value, .node value), (.attr, .word attr), loading])
    else return value

/-- A name with attributes. -/
def dottedName (count : Nat) : Reading Node := do
  let line ← here
  let x ← name
  attributes count line (← node .name line [(.id, .word x), loading])

/-! ## The levels -/

/-- Patterns of a class as they are collected: by position, then by name. -/
structure ClassPatterns where
  patterns : List Node
  names : List String
  named : List Node

/-- Entries of a mapping as they are collected, with the name for what remains. -/
structure MappingPatterns where
  keys : List Node
  patterns : List Node
  rest : Option String

mutual

/-- A pattern: alternatives, perhaps under a name. -/
def pattern : Nat → Reading Node
  | 0 => refuse
  | fuel + 1 => do
    let line ← here
    let first ← closedPattern fuel
    let p ← match ← alternatives fuel with
      | [] => pure first
      | rest => node .matchOr line [(.patterns, listOf (first :: rest))]
    if ← skipWord "as" then
      let x ← captureName
      node .matchAs line [(.pattern, .node p), (.name, .word x)]
    else return p

def alternatives : Nat → Reading (List Node)
  | 0 => refuse
  | fuel + 1 => do
    if ← skipSign "|" then
      let p ← closedPattern fuel
      return p :: (← alternatives fuel)
    else return []

def closedPattern : Nat → Reading Node
  | 0 => refuse
  | fuel + 1 => do
    let line ← here
    match ← peek with
    | .name "_" =>
      let _ ← take
      node .matchAs line []
    | .name x =>
      let value ← dottedName fuel
      if ← atSign "(" then classPattern fuel line value
      else if ← atSign "=" then unexpected
      else if value.kind = .name then node .matchAs line [(.name, .word x)]
      else node .matchValue line [(.value, .node value)]
    | .text .. | .formatted .. =>
      let value ← literal fuel
      node .matchValue line [(.value, .node value)]
    | .sign "(" => parenthesisedPattern fuel
    | .sign "[" =>
      let _ ← take
      let ps ← patternsUntil fuel "]"
      sign "]"
      node .matchSequence line [(.patterns, listOf ps)]
    | .sign "\x7b" =>
      let _ ← take
      let m ← entryPatterns fuel ⟨[], [], none⟩
      sign "\x7d"
      node .matchMapping line ([(.keys, listOf m.keys), (.patterns, listOf m.patterns)]
        ++ (m.rest.map fun x => (Field.rest, Value.word x)).toList)
    | l =>
      match constantWord? l with
      | some c =>
        let _ ← take
        node .matchSingleton line [(.value, .literal c)]
      | none =>
        if startsNumber l then
          let value ← numberLiteral
          node .matchValue line [(.value, .node value)]
        else unexpected

/-- A pattern in parentheses, or a sequence of patterns; one by itself is a sequence only with a
comma after it. -/
def parenthesisedPattern : Nat → Reading Node
  | 0 => refuse
  | fuel + 1 => do
    let line ← here
    sign "("
    if ← skipSign ")" then node .matchSequence line [(.patterns, listOf [])]
    else
      let starred ← atSign "*"
      let first ← starPattern fuel
      if ← skipSign "," then
        let rest ← patternsUntil fuel ")"
        sign ")"
        node .matchSequence line [(.patterns, listOf (first :: rest))]
      else if starred then unexpected
      else
        sign ")"
        return first

/-- Patterns up to the sign that ends them; a comma may follow the last one. -/
def patternsUntil : Nat → String → Reading (List Node)
  | 0, _ => refuse
  | fuel + 1, stop => do
    if ← atSign stop then return []
    let p ← starPattern fuel
    if ← skipSign "," then return p :: (← patternsUntil fuel stop) else return [p]

/-- A pattern, or a star with a name for the items that remain. -/
def starPattern : Nat → Reading Node
  | 0 => refuse
  | fuel + 1 => do
    let line ← here
    if ← skipSign "*" then
      match ← peek with
      | .name "_" =>
        let _ ← take
        node .matchStar line []
      | _ =>
        let x ← captureName
        node .matchStar line [(.name, .word x)]
    else pattern fuel

/-- The entries of a mapping up to the closing brace; the name for what remains comes last. -/
def entryPatterns : Nat → MappingPatterns → Reading MappingPatterns
  | 0, _ => refuse
  | fuel + 1, m => do
    if ← atSign "\x7d" then return m
    if ← skipSign "**" then
      let x ← captureName
      let _ ← skipSign ","
      return { m with rest := some x }
    let key ← keyPattern fuel
    sign ":"
    let p ← pattern fuel
    let m := { m with keys := m.keys ++ [key], patterns := m.patterns ++ [p] }
    if ← skipSign "," then entryPatterns fuel m else return m

/-- The key of an entry: a literal or a dotted name. -/
def keyPattern : Nat → Reading Node
  | 0 => refuse
  | fuel + 1 => do
    match ← peek with
    | .name _ =>
      let key ← dottedName fuel
      if key.kind = .name then unexpected
      return key
    | .text .. | .formatted .. => literal fuel
    | l =>
      match constantWord? l with
      | some c => plainConstant c
      | none => if startsNumber l then numberLiteral else unexpected

/-- A class and the patterns of its attributes in parentheses. -/
def classPattern : Nat → Int → Node → Reading Node
  | 0, _, _ => refuse
  | fuel + 1, line, cls => do
    sign "("
    let c ← attributePatterns fuel ⟨[], [], []⟩
    sign ")"
    node .matchClass line [(.cls, .node cls), (.patterns, listOf c.patterns),
      (.kwdAttrs, .words c.names), (.kwdPatterns, listOf c.named)]

/-- The patterns of attributes up to the closing parenthesis; those by name come last. -/
def attributePatterns : Nat → ClassPatterns → Reading ClassPatterns
  | 0, _ => refuse
  | fuel + 1, c => do
    if ← atSign ")" then return c
    -- after a pattern by position an underscore is one too, so no name
    let wildcard := (← peek) = .name "_" && !c.patterns.isEmpty && c.names.isEmpty
    let c ← if !wildcard && (← isNameBefore "=") then do
        let x ← name
        sign "="
        let p ← pattern fuel
        pure { c with names := c.names ++ [x], named := c.named ++ [p] }
      else if c.names.isEmpty then do
        let p ← pattern fuel
        pure { c with patterns := c.patterns ++ [p] }
      else unexpected
    if ← skipSign "," then attributePatterns fuel c else return c

end

/-- The patterns of a case: one, or several as a sequence. -/
def casePattern (fuel : Nat) : Reading Node := do
  let line ← here
  let starred ← atSign "*"
  let first ← starPattern fuel
  if ← skipSign "," then
    let rest ← openPatterns fuel
    node .matchSequence line [(.patterns, listOf (first :: rest))]
  else if starred then unexpected
  else return first
where
  /-- Patterns up to the condition or the colon that follows them. -/
  openPatterns : Nat → Reading (List Node)
    | 0 => refuse
    | count + 1 => do
      if (← atSign ":") || (← atWord "if") then return []
      let p ← starPattern fuel
      if ← skipSign "," then return p :: (← openPatterns count) else return [p]

end DefSite.Source
