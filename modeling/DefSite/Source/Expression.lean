import DefSite.Source.Cursor
import DefSite.Source.Formatted

/-!
# Reading expressions

Expressions are read from the loosest to the tightest binding level, each level being a reading that
calls the next one; binary operators share one that knows how tightly each of them binds.  Values in
formatted strings are texts of their own, which are split into tokens and read in turn.  `fuel`
bounds the depth of the calls; `Source.parse` gives more than any text needs.
-/

namespace DefSite.Source

open Reading

/-! ## Nodes without positions -/

/-- A node that has a class only. -/
def bare (k : Kind) : Node :=
  .mk k none none []

def listOf (ns : List Node) : Value :=
  .slots (ns.map some)

def loading : Field × Value :=
  (.ctx, .node (bare .load))

/-! ## Targets of assignments and deletions -/

mutual

/-- A node marked as a place that is written to or, if the mark says so, deleted; if it can be one.
Nothing starred is deleted. -/
def asTarget? (mark : Kind) : Node → Option Node
  | .mk .name l e fs => some (.mk .name l e (marked mark fs))
  | .mk .access l e fs => some (.mk .access l e (marked mark fs))
  | .mk .subscript l e fs => some (.mk .subscript l e (marked mark fs))
  | .mk .starred l e fs => do
    if mark = .del then none
    return .mk .starred l e (marked mark (← asTargetFields? mark fs))
  | .mk .tuple l e fs => do return .mk .tuple l e (marked mark (← asTargetFields? mark fs))
  | .mk .list l e fs => do return .mk .list l e (marked mark (← asTargetFields? mark fs))
  | _ => none

/-- Fields whose nodes, the mark of the place apart, are marked. -/
def asTargetFields? (mark : Kind) : List (Field × Value) → Option (List (Field × Value))
  | [] => some []
  | (f, .node n) :: rest => do
    let rest ← asTargetFields? mark rest
    if f = .ctx then return (f, .node n) :: rest
    return (f, .node (← asTarget? mark n)) :: rest
  | (f, .slots ns) :: rest => do
    return (f, .slots (← asTargetSlots? mark ns)) :: (← asTargetFields? mark rest)
  | other :: rest => do return other :: (← asTargetFields? mark rest)

def asTargetSlots? (mark : Kind) : List (Option Node) → Option (List (Option Node))
  | [] => some []
  | none :: rest => do return none :: (← asTargetSlots? mark rest)
  | some n :: rest => do return some (← asTarget? mark n) :: (← asTargetSlots? mark rest)

/-- Fields with a mark of the place. -/
def marked (mark : Kind) : List (Field × Value) → List (Field × Value)
  | [] => []
  | (.ctx, _) :: rest => (.ctx, .node (bare mark)) :: marked mark rest
  | other :: rest => other :: marked mark rest

end

/-- A node as a place with this mark, or a refusal. -/
def place (mark : Kind) (n : Node) : Reading Node :=
  match asTarget? mark n with
  | some t => return t
  | none => refuse

/-- A node as a target, or a refusal. -/
def target (n : Node) : Reading Node :=
  place .store n

/-- A node as a target that is neither starred nor made of several. -/
def singleTarget (n : Node) : Reading Node :=
  match n.kind with
  | .name | .access | .subscript => target n
  | _ => refuse

/-! ## Operators -/

/-- The class of a comparison that starts with this token, and the token that completes it, if it
has two. -/
def comparison? : Lexeme → Option (Kind × Option (Lexeme × Kind))
  | .sign "==" => some (.eq, none)
  | .sign "!=" => some (.notEq, none)
  | .sign "<" => some (.lt, none)
  | .sign "<=" => some (.ltE, none)
  | .sign ">" => some (.gt, none)
  | .sign ">=" => some (.gtE, none)
  | .reserved "in" => some (.inside, none)
  | .reserved "is" => some (.is, some (.reserved "not", .isNot))
  | _ => none

/-- A binary operator that groups to the left, and how tightly it binds. -/
def leftOperator? : Lexeme → Option (Kind × Nat)
  | .sign "|" => some (.bitOr, 0)
  | .sign "^" => some (.bitXor, 1)
  | .sign "&" => some (.bitAnd, 2)
  | .sign "<<" => some (.lShift, 3)
  | .sign ">>" => some (.rShift, 3)
  | .sign "+" => some (.add, 4)
  | .sign "-" => some (.sub, 4)
  | .sign "*" => some (.mult, 5)
  | .sign "/" => some (.div, 5)
  | .sign "//" => some (.floorDiv, 5)
  | .sign "%" => some (.mod, 5)
  | .sign "@" => some (.matMult, 5)
  | _ => none

def signing? : Lexeme → Option Kind
  | .sign "+" => some .uAdd
  | .sign "-" => some .uSub
  | .sign "~" => some .invert
  | _ => none

def startsExpression : Lexeme → Bool
  | .name _ | .number _ | .text .. | .formatted .. => true
  | .sign s => ["(", "[", "\x7b", "-", "+", "~", "..."].contains s
  | .reserved s => ["None", "True", "False", "not", "lambda", "await"].contains s
  | _ => false

/-- Whether a starred or plain expression can start with this token. -/
def startsStarred (l : Lexeme) : Bool :=
  l == .sign "*" || startsExpression l

/-- The comparison that comes next, if one does. -/
def comparisonSign : Reading (Option Kind) := do
  let first ← peek
  if first = .reserved "not" then
    let _ ← take
    word "in"
    return some .notInside
  match comparison? first with
  | none => return none
  | some (k, longer) =>
    let _ ← take
    match longer with
    | none => return some k
    | some (l, other) => return some (if ← skip l then other else k)

/-! ## Literals -/

/-- Literals one after another as one: they are all texts or all bytes. -/
def joinLiterals : List Token → Option Literal
  | [] => none
  | t :: ts =>
    match t.lexeme, ts, joinLiterals ts with
    | .text _ value, [], _ => value
    | .text _ (some (.text s)), _, some (.text t) => some (.text (s ++ t))
    | .text _ (some (.bytes s)), _, some (.bytes t) => some (.bytes (s ++ t))
    | _, _, _ => none

def isLiteral : Lexeme → Bool
  | .text .. | .formatted .. => true
  | _ => false

/-- Literals that follow one another; at most `count`. -/
def literals : Nat → Reading (List Token)
  | 0 => return []
  | count + 1 => do
    if isLiteral (← peek) then
      let t ← take
      return t :: (← literals count)
    else return []

def literalFields (l : Literal) (marked : Bool) : List (Field × Value) :=
  [(.value, .literal l)] ++ if marked then [(.kind, .word "u")] else []

def constant (line : Int) (l : Literal) (marked : Bool) : Reading Node :=
  node .constant line (literalFields l marked)

namespace Extent

/-- A node that stands where a literal does. -/
def node (e : Extent) (k : Kind) (fields : List (Field × Value)) : Node :=
  .mk k (some e.line) (some e.lastLine) fields

def text (e : Extent) (s : List Text.CodePoint) : Node :=
  e.node .constant (literalFields (.text s) e.marked)

end Extent

def plainConstant (l : Literal) : Reading Node := do
  let line ← here
  let _ ← take
  constant line l false

/-! ## Parameters -/

/-- Parameters as they are collected. -/
structure Parameters where
  posonly : List Node
  args : List Node
  defaults : List Node
  vararg : Option Node
  kwonly : List Node
  kwDefaults : List (Option Node)
  kwarg : Option Node

namespace Parameters

def none : Parameters :=
  ⟨[], [], [], .none, [], [], .none⟩

def toNode (p : Parameters) : Node :=
  .mk .arguments .none .none
    ([(.posonlyargs, listOf p.posonly), (.args, listOf p.args)]
      ++ (p.vararg.map fun v => (Field.vararg, Value.node v)).toList
      ++ [(.kwonlyargs, listOf p.kwonly), (.kwDefaults, .slots p.kwDefaults)]
      ++ (p.kwarg.map fun k => (Field.kwarg, Value.node k)).toList
      ++ [(.defaults, listOf p.defaults)])

end Parameters

def withNamed (p : Parameters) (kwonly : List (Node × Option Node)) : Parameters :=
  { p with kwonly := kwonly.map (·.1), kwDefaults := kwonly.map (·.2) }

/-- What follows a parameter: a comma, or the token that ends the parameters. -/
def afterParameter (stop : Lexeme) : Reading Bool := do
  if ← skipSign "," then return true
  else if (← peek) = stop then return false
  else unexpected

/-! ## Arguments -/

/-- Arguments of a call as they are collected. -/
structure Arguments where
  args : List Node
  keywords : List Node
  /-- Whether an argument by name has been read. -/
  named : Bool
  /-- Whether a mapping of arguments has been read. -/
  mapped : Bool

def Arguments.none : Arguments :=
  ⟨[], [], false, false⟩

/-- Whether a name comes next and after it a sign. -/
def isNameBefore (s : String) : Reading Bool := do
  let _ ← next
  match (← get).rest with
  | [⟨.name _, _, _⟩] =>
    -- the token after the name decides, so a fault there stops the reading
    let _ ← take
    let _ ← next
    return false
  | ⟨.name _, _, _⟩ :: ⟨.sign t, _, _⟩ :: _ => return t = s
  | _ => return false

/-- A dictionary of keys with their values; a mapping has no key. -/
def dictNode (line : Int) (entries : List (Option Node × Node)) : Reading Node :=
  node .dict line [(.keys, .slots (entries.map (·.1))), (.values, listOf (entries.map (·.2)))]

/-- Whether the loops of a comprehension come next. -/
def atLoop : Reading Bool := do
  return (← atWord "for") || (← atWord "async")

/-! ## The levels -/

mutual

/-- An expression that may be given a name. -/
def named : Nat → Reading Node
  | 0 => refuse
  | fuel + 1 => do
    let line ← here
    if ← isNameBefore ":=" then
      let x ← name
      let t ← node .name line [(.id, .word x), (.ctx, .node (bare .store))]
      sign ":="
      let value ← expression fuel
      node .namedExpr line [(.target, .node t), (.value, .node value)]
    else expression fuel

/-- An expression: an anonymous function, or a value, perhaps chosen by a condition. -/
def expression : Nat → Reading Node
  | 0 => refuse
  | fuel + 1 => do
    let line ← here
    if ← atWord "lambda" then lambda fuel
    else
      let body ← disjunction fuel
      if ← skipWord "if" then
        let test ← disjunction fuel
        word "else"
        let orelse ← expression fuel
        node .ifExp line [(.test, .node test), (.body, .node body), (.orelse, .node orelse)]
      else return body

def lambda : Nat → Reading Node
  | 0 => refuse
  | fuel + 1 => do
    let line ← here
    word "lambda"
    let params ← parameters fuel false (.sign ":")
    sign ":"
    let body ← expression fuel
    node .lambda line [(.args, .node params.toNode), (.body, .node body)]

def disjunction : Nat → Reading Node
  | 0 => refuse
  | fuel + 1 => do
    let line ← here
    let first ← conjunction fuel
    match ← more fuel "or" with
    | [] => return first
    | rest =>
      node .boolOp line [(.op, .node (bare .or)), (.values, listOf (first :: rest))]

def conjunction : Nat → Reading Node
  | 0 => refuse
  | fuel + 1 => do
    let line ← here
    let first ← inversion fuel
    match ← more fuel "and" with
    | [] => return first
    | rest =>
      node .boolOp line [(.op, .node (bare .and)), (.values, listOf (first :: rest))]

/-- The values after the first one that are joined by a connective. -/
def more : Nat → String → Reading (List Node)
  | 0, _ => refuse
  | fuel + 1, connective => do
    if ← skipWord connective then
      let value ← if connective = "or" then conjunction fuel else inversion fuel
      return value :: (← more fuel connective)
    else return []

def inversion : Nat → Reading Node
  | 0 => refuse
  | fuel + 1 => do
    let line ← here
    if ← skipWord "not" then
      let operand ← inversion fuel
      node .unaryOp line [(.op, .node (bare .not)), (.operand, .node operand)]
    else comparison fuel

def comparison : Nat → Reading Node
  | 0 => refuse
  | fuel + 1 => do
    let line ← here
    let left ← binary fuel 0
    match ← comparisons fuel with
    | [] => return left
    | pairs =>
      node .compare line [(.left, .node left), (.ops, listOf (pairs.map fun p => bare p.1)),
        (.comparators, listOf (pairs.map (·.2)))]

def comparisons : Nat → Reading (List (Kind × Node))
  | 0 => refuse
  | fuel + 1 => do
    let operator ← comparisonSign
    match operator with
    | none => return []
    | some k =>
      let value ← binary fuel 0
      return (k, value) :: (← comparisons fuel)

/-- Operands and operators that bind at least as tightly as `level`. -/
def binary : Nat → Nat → Reading Node
  | 0, _ => refuse
  | fuel + 1, level => do
    let line ← here
    let first ← factor fuel
    binaryTail fuel level line first

def binaryTail : Nat → Nat → Int → Node → Reading Node
  | 0, _, _, _ => refuse
  | fuel + 1, level, line, left => do
    match leftOperator? (← peek) with
    | none => return left
    | some (k, own) =>
      if own < level then return left
      let _ ← take
      let right ← binary fuel (own + 1)
      binaryTail fuel level line
        (← node .binOp line [(.left, .node left), (.op, .node (bare k)), (.right, .node right)])

def factor : Nat → Reading Node
  | 0 => refuse
  | fuel + 1 => do
    let line ← here
    match signing? (← peek) with
    | some k =>
      let _ ← take
      let operand ← factor fuel
      node .unaryOp line [(.op, .node (bare k)), (.operand, .node operand)]
    | none =>
      let base ← awaited fuel
      if ← skipSign "**" then
        let exponent ← factor fuel
        node .binOp line
          [(.left, .node base), (.op, .node (bare .pow)), (.right, .node exponent)]
      else return base

def awaited : Nat → Reading Node
  | 0 => refuse
  | fuel + 1 => do
    let line ← here
    if ← skipWord "await" then
      let value ← primary fuel
      node .await line [(.value, .node value)]
    else primary fuel

/-- An atom with the attributes, calls and indices after it. -/
def primary : Nat → Reading Node
  | 0 => refuse
  | fuel + 1 => do
    let line ← here
    let first ← atom fuel
    trailers fuel line first

def trailers : Nat → Int → Node → Reading Node
  | 0, _, _ => refuse
  | fuel + 1, line, value => do
    if ← skipSign "." then
      let attr ← name
      trailers fuel line
        (← node .access line [(.value, .node value), (.attr, .word attr), loading])
    else if ← atSign "(" then
      let given ← callArguments fuel
      trailers fuel line (← node .call line
        [(.func, .node value), (.args, listOf given.args), (.keywords, listOf given.keywords)])
    else if ← skipSign "[" then
      let index ← slices fuel
      sign "]"
      trailers fuel line
        (← node .subscript line [(.value, .node value), (.slice, .node index), loading])
    else return value

/-- The arguments of a call in their parentheses.  A generator that is the only one needs none of
its own. -/
def callArguments : Nat → Reading Arguments
  | 0 => refuse
  | fuel + 1 => do
    let line ← here
    sign "("
    if ← skipSign ")" then return Arguments.none
    let first ← argument fuel Arguments.none
    match first.args, ← atLoop with
    | [elt], true =>
      let loops ← comprehensions fuel
      sign ")"
      if elt.kind = .starred then refuse
      let g ← node .generator line [(.elt, .node elt), (.generators, listOf loops)]
      return { first with args := [g] }
    | _, _ =>
      let given ← if ← skipSign "," then arguments fuel first else pure first
      sign ")"
      return given

/-- The arguments of a call up to the closing parenthesis: values by position and starred ones, then
from the first one by name on only named and starred ones, and after a mapping no starred ones. -/
def arguments : Nat → Arguments → Reading Arguments
  | 0, _ => refuse
  | fuel + 1, given => do
    if ← atSign ")" then return given
    let given ← argument fuel given
    if ← skipSign "," then arguments fuel given else return given

def argument : Nat → Arguments → Reading Arguments
  | 0, _ => refuse
  | fuel + 1, given => do
    let line ← here
    if ← atSign "*" then
      if given.mapped then unexpected
      let _ ← take
      let value ← expression fuel
      let n ← node .starred line [(.value, .node value), loading]
      return { given with args := given.args ++ [n] }
    else if ← skipSign "**" then
      let value ← expression fuel
      let n ← node .keyword line [(.value, .node value)]
      return { given with keywords := given.keywords ++ [n], named := true, mapped := true }
    else if ← isNameBefore "=" then
      let arg ← name
      sign "="
      let value ← expression fuel
      let n ← node .keyword line [(.arg, .word arg), (.value, .node value)]
      return { given with keywords := given.keywords ++ [n], named := true }
    else
      if given.named then refuse
      return { given with args := given.args ++ [← named fuel] }

/-- The index in square brackets: one, or several as a tuple. -/
def slices : Nat → Reading Node
  | 0 => refuse
  | fuel + 1 => do
    let line ← here
    let starred ← atSign "*"
    let first ← slice fuel
    if (← atSign ",") || starred then
      let rest ← moreSlices fuel
      node .tuple line [(.elts, listOf (first :: rest)), loading]
    else return first

def moreSlices : Nat → Reading (List Node)
  | 0 => refuse
  | fuel + 1 => do
    if ← skipSign "," then
      if ← atSign "]" then return []
      let s ← slice fuel
      return s :: (← moreSlices fuel)
    else return []

/-- One index: a value, a starred value or a range.  A value that is given a name bounds no range.
-/
def slice : Nat → Reading Node
  | 0 => refuse
  | fuel + 1 => do
    let line ← here
    if ← skipSign "*" then
      let value ← expression fuel
      node .starred line [(.value, .node value), loading]
    else if ← isNameBefore ":=" then named fuel
    else
      let lower ← boundary fuel
      match lower, ← skipSign ":" with
      | some value, false => return value
      | none, false => unexpected
      | lower, true =>
        let upper ← boundary fuel
        let step ← if ← skipSign ":" then boundary fuel else pure none
        let part (f : Field) (n : Option Node) : List (Field × Value) :=
          (n.map fun n => (f, Value.node n)).toList
        node .slice line (part .lower lower ++ part .upper upper ++ part .step step)

def boundary : Nat → Reading (Option Node)
  | 0 => refuse
  | fuel + 1 => do
    if startsExpression (← peek) then return some (← expression fuel) else return none

/-- An atom: a name, a constant, or something in brackets. -/
def atom : Nat → Reading Node
  | 0 => refuse
  | fuel + 1 => do
    match ← peek with
    | .name s =>
      let line ← here
      let _ ← take
      node .name line [(.id, .word s), loading]
    | .number (some value) => plainConstant value
    | .number none => throw ⟨.grammar, false⟩
    | .text .. | .formatted .. => literal fuel
    | .reserved "None" => plainConstant .nothing
    | .reserved "True" => plainConstant (.bool true)
    | .reserved "False" => plainConstant (.bool false)
    | .sign "..." => plainConstant .ellipsis
    | .sign "(" => parenthesised fuel
    | .sign "[" => bracketed fuel
    | .sign "\x7b" => braced fuel
    | _ => unexpected

/-- Literals that follow one another: a constant or, if one of them is formatted, a formatted
string.  A text is marked if its first piece is. -/
def literal : Nat → Reading Node
  | 0 => refuse
  | fuel + 1 => do
    let ts ← literals (← get).rest.length
    let first := ts.headD default
    let mark := match first.lexeme with
      | .text m _ => m
      | _ => false
    let line : Int := first.line
    if ts.any fun t => t.lexeme matches .formatted .. then
      match literalPieces ts with
      | none => throw ⟨.grammar, false⟩
      | some pieces =>
        let all : Extent := ⟨line, ← taken, mark⟩
        let values ← formatNodes fuel all all (joinTexts pieces)
        node .joinedStr line [(.values, listOf values)]
    else match joinLiterals ts with
      | none => throw ⟨.grammar, false⟩
      | some l => constant line l mark

/-- The nodes of the pieces of formatted strings, which stand where `all` the literals do; a text
that comes last stands where its `own` string does. -/
def formatNodes : Nat → Extent → Extent → List FormatPiece → Reading (List Node)
  | 0, _, _, _ => refuse
  | _ + 1, _, _, [] => return []
  | _ + 1, _, own, [.text s] => return [own.text s]
  | fuel + 1, all, own, .text s :: rest => return all.text s :: (← formatNodes fuel all own rest)
  | fuel + 1, all, own, .value source line mark format within :: rest => do
    let value ← formattedSource fuel line source
    let spec ← match format with
      | none => pure []
      | some pieces =>
        let values ← formatNodes fuel all within (joinTexts pieces)
        pure [(Field.formatSpec, Value.node (within.node .joinedStr [(.values, listOf values)]))]
    let n := all.node .formattedValue
      ([(.value, .node value), (.conversion, .number mark)] ++ spec)
    return n :: (← formatNodes fuel all own rest)

/-- The source of a value in a formatted string, read as if it stood in parentheses. -/
def formattedSource : Nat → Nat → List Char → Reading Node
  | 0, _, _ => refuse
  | fuel + 1, line, source => do
    let ts := tokensFrom ⟨line, true, [], []⟩ ('(' :: source ++ [')', '\n']) []
    match (items fuel).run (.first ts line) with
    | .ok (n, _) => return n
    | .error _ => throw ⟨.grammar, false⟩

def parenthesised : Nat → Reading Node
  | 0 => refuse
  | fuel + 1 => do
    let line ← here
    sign "("
    if ← skipSign ")" then node .tuple line [(.elts, listOf []), loading]
    else if ← atWord "yield" then
      let value ← yielded fuel
      sign ")"
      return value
    else
      let starred ← atSign "*"
      let first ← item fuel true
      if ← atSign "," then
        let rest ← moreItems fuel true
        sign ")"
        node .tuple line [(.elts, listOf (first :: rest)), loading]
      else if starred then refuse
      else if ← atLoop then
        let loops ← comprehensions fuel
        sign ")"
        node .generator line [(.elt, .node first), (.generators, listOf loops)]
      else
        sign ")"
        return first

def bracketed : Nat → Reading Node
  | 0 => refuse
  | fuel + 1 => do
    let line ← here
    sign "["
    if ← skipSign "]" then node .list line [(.elts, listOf []), loading]
    else
      let starred ← atSign "*"
      let first ← item fuel true
      if !starred && (← atLoop) then
        let loops ← comprehensions fuel
        sign "]"
        node .listComp line [(.elt, .node first), (.generators, listOf loops)]
      else
        let rest ← moreItems fuel true
        sign "]"
        node .list line [(.elts, listOf (first :: rest)), loading]

/-- A dictionary or a set; what follows the first value in the braces decides. -/
def braced : Nat → Reading Node
  | 0 => refuse
  | fuel + 1 => do
    let line ← here
    sign "\x7b"
    if (← atSign "\x7d") || (← atSign "**") then dict fuel line []
    else
      let starred ← atSign "*"
      let isKey := !(← isNameBefore ":=")
      let first ← item fuel true
      if isKey && !starred && (← skipSign ":") then
        let value ← expression fuel
        if ← atLoop then
          let loops ← comprehensions fuel
          sign "\x7d"
          node .dictComp line
            [(.key, .node first), (.value, .node value), (.generators, listOf loops)]
        else if ← skipSign "," then dict fuel line [(some first, value)]
        else
          sign "\x7d"
          dictNode line [(some first, value)]
      else if !starred && (← atLoop) then
        let loops ← comprehensions fuel
        sign "\x7d"
        node .setComp line [(.elt, .node first), (.generators, listOf loops)]
      else
        let rest ← moreItems fuel true
        sign "\x7d"
        node .set line [(.elts, listOf (first :: rest))]

/-- The rest of a dictionary after some entries. -/
def dict : Nat → Int → List (Option Node × Node) → Reading Node
  | 0, _, _ => refuse
  | fuel + 1, line, before => do
    let entries ← dictEntries fuel
    sign "\x7d"
    dictNode line (before ++ entries)

/-- The entries of a dictionary up to the closing brace; a comma may follow the last one. -/
def dictEntries : Nat → Reading (List (Option Node × Node))
  | 0 => refuse
  | fuel + 1 => do
    if ← atSign "\x7d" then return []
    let entry ← dictEntry fuel
    if ← skipSign "," then return entry :: (← dictEntries fuel) else return [entry]

/-- One entry of a dictionary: a key with a value, or a mapping after two stars. -/
def dictEntry : Nat → Reading (Option Node × Node)
  | 0 => refuse
  | fuel + 1 => do
    if ← skipSign "**" then return (none, ← binary fuel 0)
    else
      let key ← expression fuel
      sign ":"
      return (some key, ← expression fuel)

/-- A value that may be starred or, where that is allowed, given a name. -/
def item : Nat → Bool → Reading Node
  | 0, _ => refuse
  | fuel + 1, mayName => do
    let line ← here
    if ← skipSign "*" then
      let value ← binary fuel 0
      node .starred line [(.value, .node value), loading]
    else if mayName then named fuel
    else expression fuel

/-- The items after the first one; a comma may follow the last one. -/
def moreItems : Nat → Bool → Reading (List Node)
  | 0, _ => refuse
  | fuel + 1, mayName => do
    if ← skipSign "," then
      if startsStarred (← peek) then
        let i ← item fuel mayName
        return i :: (← moreItems fuel mayName)
      else return []
    else return []

/-- A value, or several as a tuple, without parentheses. -/
def items : Nat → Reading Node
  | 0 => refuse
  | fuel + 1 => do
    let line ← here
    let first ← item fuel false
    if ← atSign "," then
      let rest ← moreItems fuel false
      node .tuple line [(.elts, listOf (first :: rest)), loading]
    else return first

def yielded : Nat → Reading Node
  | 0 => refuse
  | fuel + 1 => do
    let line ← here
    word "yield"
    if ← skipWord "from" then
      let value ← expression fuel
      node .yieldFrom line [(.value, .node value)]
    else if startsStarred (← peek) then
      let value ← items fuel
      node .yield line [(.value, .node value)]
    else node .yield line []

def rightSide : Nat → Reading Node
  | 0 => refuse
  | fuel + 1 => do
    if ← atWord "yield" then yielded fuel else items fuel

def comprehensions : Nat → Reading (List Node)
  | 0 => refuse
  | fuel + 1 => do
    let isAsync ← skipWord "async"
    if isAsync || (← atWord "for") then
      word "for"
      let t ← targets fuel
      word "in"
      let iter ← disjunction fuel
      let ifs ← conditions fuel
      let loop : Node := .mk .comprehension none none
        [(.target, .node t), (.iter, .node iter), (.ifs, listOf ifs),
          (.isAsync, .number (if isAsync then 1 else 0))]
      return loop :: (← comprehensions fuel)
    else return []

def conditions : Nat → Reading (List Node)
  | 0 => refuse
  | fuel + 1 => do
    if ← skipWord "if" then
      let c ← disjunction fuel
      return c :: (← conditions fuel)
    else return []

/-- The targets of a loop: one, or several as a tuple. -/
def targets : Nat → Reading Node
  | 0 => refuse
  | fuel + 1 => do
    let line ← here
    let first ← starTarget fuel
    if ← atSign "," then
      let rest ← moreTargets fuel
      target (← node .tuple line [(.elts, listOf (first :: rest)), loading])
    else return first

def moreTargets : Nat → Reading (List Node)
  | 0 => refuse
  | fuel + 1 => do
    if ← skipSign "," then
      if startsStarred (← peek) then
        let t ← starTarget fuel
        return t :: (← moreTargets fuel)
      else return []
    else return []

def starTarget : Nat → Reading Node
  | 0 => refuse
  | fuel + 1 => do
    let line ← here
    if ← skipSign "*" then
      if ← atSign "*" then unexpected
      let value ← starTarget fuel
      target (← node .starred line [(.value, .node value), loading])
    else target (← primary fuel)

/-- Parameters up to the token that ends them; only some may be `annotated`. -/
def parameters : Nat → Bool → Lexeme → Reading Parameters
  | 0, _, _ => refuse
  | fuel + 1, annotated, stop => do
    let (positional, slash) ← positionals fuel annotated stop none
    let firsts := positional.take slash
    let p : Parameters := { Parameters.none with
      posonly := firsts.map (·.1)
      args := (positional.drop slash).map (·.1)
      defaults := positional.filterMap (·.2) }
    if ← skipSign "*" then starred fuel annotated stop p
    else lastParameter fuel annotated p

/-- Parameters given by position, with their defaults, and how many stand before the slash.  Once
one has a default, all after it have. -/
def positionals : Nat → Bool → Lexeme → Option (List (Node × Option Node)) →
    Reading (List (Node × Option Node) × Nat)
  | 0, _, _, _ => refuse
  | fuel + 1, annotated, stop, before => do
    match ← peek with
    | .name _ =>
      let p ← parameter fuel annotated
      let before := before.getD []
      if p.2.isNone && before.any (·.2.isSome) then refuse
      let all := before ++ [p]
      if ← skipSign "," then positionals fuel annotated stop (some all)
      else if (← peek) = stop then return (all, 0)
      else unexpected
    | .sign "/" =>
      match before with
      | none => unexpected
      | some all =>
        let _ ← take
        let _ ← afterParameter stop
        let (whole, n) ← positionals fuel annotated stop (some all)
        if n ≠ 0 then refuse
        return (whole, all.length)
    | _ => return (before.getD [], 0)

/-- The parameters from the star on. -/
def starred : Nat → Bool → Lexeme → Parameters → Reading Parameters
  | 0, _, _, _ => refuse
  | fuel + 1, annotated, stop, p => do
    match ← peek with
    | .name _ =>
      let v ← starParameter fuel annotated
      let _ ← afterParameter stop
      let kwonly ← namedOnly fuel annotated stop
      lastParameter fuel annotated (withNamed { p with vararg := some v } kwonly)
    | _ =>
      sign ","
      match ← namedOnly fuel annotated stop with
      | [] => unexpected
      | kwonly => lastParameter fuel annotated (withNamed p kwonly)

def namedOnly : Nat → Bool → Lexeme → Reading (List (Node × Option Node))
  | 0, _, _ => refuse
  | fuel + 1, annotated, stop => do
    match ← peek with
    | .name _ =>
      let p ← parameter fuel annotated
      if ← afterParameter stop then return p :: (← namedOnly fuel annotated stop)
      else return [p]
    | _ => return []

/-- The parameter for the remaining names, if there is one; it comes last. -/
def lastParameter : Nat → Bool → Parameters → Reading Parameters
  | 0, _, _ => refuse
  | fuel + 1, annotated, p => do
    if ← skipSign "**" then
      let k ← plainParameter fuel annotated
      let _ ← skipSign ","
      return { p with kwarg := some k }
    else return p

def parameter : Nat → Bool → Reading (Node × Option Node)
  | 0, _ => refuse
  | fuel + 1, annotated => do
    let p ← plainParameter fuel annotated
    if ← skipSign "=" then return (p, some (← expression fuel)) else return (p, none)

def hinted : Nat → Bool → Reading (Option Node)
  | 0, _ => refuse
  | fuel + 1, mayStar => do
    if ← skipSign ":" then
      if mayStar then some <$> item fuel false else some <$> expression fuel
    else return none

def plainParameter : Nat → Bool → Reading Node
  | 0, _ => refuse
  | fuel + 1, annotated => do
    let line ← here
    let n ← name
    let hint ← if annotated then hinted fuel false else pure none
    node .arg line ((.arg, .word n) :: (hint.map fun h => (Field.annot, Value.node h)).toList)

/-- The parameter for the remaining values; its annotation may be starred. -/
def starParameter : Nat → Bool → Reading Node
  | 0, _ => refuse
  | fuel + 1, annotated => do
    let line ← here
    let n ← name
    let hint ← if annotated then hinted fuel true else pure none
    node .arg line ((.arg, .word n) :: (hint.map fun h => (Field.annot, Value.node h)).toList)

end

end DefSite.Source
