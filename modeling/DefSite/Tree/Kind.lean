/-!
# Classes of syntax nodes and their fields

`Kind` names the class of a syntax node and `Field` the named places a node may have.
`Kind.fields` lists the fields of a class in the order in which a walk visits them, and
`Kind.defaulted` tells which of them read as "nothing" when a node does not carry them; reading any
other absent field is a fault.  The line of an ignored type is a field of its class too, but it is
kept where other nodes have theirs.
-/

namespace DefSite

/-- The class of a syntax node. -/
inductive Kind where
  | module | interactive | expression | functionType
  | functionDef | asyncFunctionDef | classDef
  | ret | delete | assign | augAssign | annAssign | exprStmt
  | forLoop | asyncFor | ifBranch | whileLoop | withBlock | asyncWith | withItem
  | matchBlock | matchCase
  | tryBlock | tryStar | exceptHandler | raise | assertion
  | importNames | importFrom | importedName | globalNames | nonlocalNames
  | pass | breakLoop | continueLoop
  | boolOp | namedExpr | binOp | unaryOp | lambda | ifExp | dict | set
  | listComp | setComp | dictComp | generator | comprehension
  | await | yield | yieldFrom | compare | call | keyword
  | formattedValue | joinedStr | constant
  | access | subscript | starred | name | list | tuple | slice
  | arguments | arg
  | matchValue | matchSingleton | matchSequence | matchMapping | matchClass | matchStar | matchAs
  | matchOr
  | typeIgnore
  | load | store | del
  | and | or
  | add | sub | mult | matMult | div | mod | pow | lShift | rShift | bitOr | bitXor | bitAnd
  | floorDiv
  | invert | not | uAdd | uSub
  | eq | notEq | lt | ltE | gt | gtE | is | isNot | inside | notInside
  deriving DecidableEq, Repr, Inhabited

/-- A named place of a syntax node, positions apart. -/
inductive Field where
  | name | args | body | decorators | returns | typeComment | bases | keywords
  | value | targets | target | op | annot | simple | iter | orelse | test | msg
  | items | contextExpr | optionalVars | handlers | finalbody | type | exc | cause
  | names | module | level
  | values | left | right | operand | keys | key | elt | generators | ifs | isAsync
  | ops | comparators | func | arg | ctx | kind | attr | slice | conversion | formatSpec
  | lower | upper | step | id | elts
  | posonlyargs | vararg | kwonlyargs | kwDefaults | kwarg | defaults | asname
  | subject | cases | pattern | guard | patterns | rest | cls | kwdAttrs | kwdPatterns
  | argtypes | typeIgnores | tag
  deriving DecidableEq, Repr, Inhabited

namespace Field

/-- The spelling of a field. -/
def label : Field → String
  | name => "name" | args => "args" | body => "body" | decorators => "decorator_list"
  | returns => "returns" | typeComment => "type_comment" | bases => "bases"
  | keywords => "keywords" | value => "value" | targets => "targets" | target => "target"
  | op => "op" | annot => "annotation" | simple => "simple" | iter => "iter"
  | orelse => "orelse" | test => "test" | msg => "msg" | items => "items"
  | contextExpr => "context_expr" | optionalVars => "optional_vars" | handlers => "handlers"
  | finalbody => "finalbody" | type => "type" | exc => "exc" | cause => "cause"
  | names => "names" | module => "module" | level => "level" | values => "values"
  | left => "left" | right => "right" | operand => "operand" | keys => "keys" | key => "key"
  | elt => "elt" | generators => "generators" | ifs => "ifs" | isAsync => "is_async"
  | ops => "ops" | comparators => "comparators" | func => "func" | arg => "arg" | ctx => "ctx"
  | kind => "kind" | attr => "attr" | slice => "slice" | conversion => "conversion"
  | formatSpec => "format_spec" | lower => "lower" | upper => "upper" | step => "step"
  | id => "id" | elts => "elts" | posonlyargs => "posonlyargs" | vararg => "vararg"
  | kwonlyargs => "kwonlyargs" | kwDefaults => "kw_defaults" | kwarg => "kwarg"
  | defaults => "defaults" | asname => "asname" | subject => "subject" | cases => "cases"
  | pattern => "pattern" | guard => "guard" | patterns => "patterns" | rest => "rest"
  | cls => "cls" | kwdAttrs => "kwd_attrs" | kwdPatterns => "kwd_patterns"
  | argtypes => "argtypes" | typeIgnores => "type_ignores" | tag => "tag"

end Field

namespace Kind

/-- The spelling of a class. -/
def label : Kind → String
  | module => "Module" | interactive => "Interactive" | expression => "Expression"
  | functionType => "FunctionType" | functionDef => "FunctionDef"
  | asyncFunctionDef => "AsyncFunctionDef" | classDef => "ClassDef" | ret => "Return"
  | delete => "Delete" | assign => "Assign" | augAssign => "AugAssign" | annAssign => "AnnAssign"
  | exprStmt => "Expr" | forLoop => "For" | asyncFor => "AsyncFor" | ifBranch => "If"
  | whileLoop => "While" | withBlock => "With" | asyncWith => "AsyncWith" | withItem => "withitem"
  | matchBlock => "Match" | matchCase => "match_case" | tryBlock => "Try" | tryStar => "TryStar"
  | exceptHandler => "ExceptHandler" | raise => "Raise" | assertion => "Assert"
  | importNames => "Import" | importFrom => "ImportFrom" | importedName => "alias"
  | globalNames => "Global" | nonlocalNames => "Nonlocal" | pass => "Pass" | breakLoop => "Break"
  | continueLoop => "Continue" | boolOp => "BoolOp" | namedExpr => "NamedExpr" | binOp => "BinOp"
  | unaryOp => "UnaryOp" | lambda => "Lambda" | ifExp => "IfExp" | dict => "Dict" | set => "Set"
  | listComp => "ListComp" | setComp => "SetComp" | dictComp => "DictComp"
  | generator => "GeneratorExp" | comprehension => "comprehension" | await => "Await"
  | yield => "Yield" | yieldFrom => "YieldFrom" | compare => "Compare" | call => "Call"
  | keyword => "keyword" | formattedValue => "FormattedValue" | joinedStr => "JoinedStr"
  | constant => "Constant" | access => "Attribute" | subscript => "Subscript"
  | starred => "Starred" | name => "Name" | list => "List" | tuple => "Tuple" | slice => "Slice"
  | arguments => "arguments" | arg => "arg" | matchValue => "MatchValue"
  | matchSingleton => "MatchSingleton" | matchSequence => "MatchSequence"
  | matchMapping => "MatchMapping" | matchClass => "MatchClass" | matchStar => "MatchStar"
  | matchAs => "MatchAs" | matchOr => "MatchOr" | typeIgnore => "TypeIgnore" | load => "Load"
  | store => "Store" | del => "Del" | and => "And" | or => "Or" | add => "Add" | sub => "Sub"
  | mult => "Mult" | matMult => "MatMult" | div => "Div" | mod => "Mod" | pow => "Pow"
  | lShift => "LShift" | rShift => "RShift" | bitOr => "BitOr" | bitXor => "BitXor"
  | bitAnd => "BitAnd" | floorDiv => "FloorDiv" | invert => "Invert" | not => "Not"
  | uAdd => "UAdd" | uSub => "USub" | eq => "Eq" | notEq => "NotEq" | lt => "Lt"
  | ltE => "LtE" | gt => "Gt" | gtE => "GtE" | is => "Is" | isNot => "IsNot"
  | inside => "In" | notInside => "NotIn"

def all : List Kind :=
  [.module, .interactive, .expression, .functionType, .functionDef, .asyncFunctionDef, .classDef,
    .ret, .delete, .assign, .augAssign, .annAssign, .exprStmt, .forLoop, .asyncFor, .ifBranch,
    .whileLoop, .withBlock, .asyncWith, .withItem, .matchBlock, .matchCase, .tryBlock, .tryStar,
    .exceptHandler, .raise, .assertion, .importNames, .importFrom, .importedName, .globalNames,
    .nonlocalNames, .pass, .breakLoop, .continueLoop, .boolOp, .namedExpr, .binOp, .unaryOp,
    .lambda, .ifExp, .dict, .set, .listComp, .setComp, .dictComp, .generator, .comprehension,
    .await, .yield, .yieldFrom, .compare, .call, .keyword, .formattedValue, .joinedStr, .constant,
    .access, .subscript, .starred, .name, .list, .tuple, .slice, .arguments, .arg, .matchValue,
    .matchSingleton, .matchSequence, .matchMapping, .matchClass, .matchStar, .matchAs, .matchOr,
    .typeIgnore, .load, .store, .del, .and, .or, .add, .sub, .mult, .matMult, .div, .mod, .pow,
    .lShift, .rShift, .bitOr, .bitXor, .bitAnd, .floorDiv, .invert, .not, .uAdd, .uSub, .eq,
    .notEq, .lt, .ltE, .gt, .gtE, .is, .isNot, .inside, .notInside]

/-- The class of that spelling. -/
def ofLabel? (s : String) : Option Kind :=
  all.find? (·.label == s)

/-- The fields of a class, in the order of a walk. -/
def fields : Kind → List Field
  | module => [.body, .typeIgnores]
  | interactive | expression => [.body]
  | functionType => [.argtypes, .returns]
  | functionDef | asyncFunctionDef =>
    [.name, .args, .body, .decorators, .returns, .typeComment]
  | classDef => [.name, .bases, .keywords, .body, .decorators]
  | ret | exprStmt | await | yield | yieldFrom | matchValue | matchSingleton => [.value]
  | delete => [.targets]
  | assign => [.targets, .value, .typeComment]
  | augAssign => [.target, .op, .value]
  | annAssign => [.target, .annot, .value, .simple]
  | forLoop | asyncFor => [.target, .iter, .body, .orelse, .typeComment]
  | ifBranch | whileLoop | ifExp => [.test, .body, .orelse]
  | withBlock | asyncWith => [.items, .body, .typeComment]
  | withItem => [.contextExpr, .optionalVars]
  | matchBlock => [.subject, .cases]
  | matchCase => [.pattern, .guard, .body]
  | tryBlock | tryStar => [.body, .handlers, .orelse, .finalbody]
  | exceptHandler => [.type, .name, .body]
  | raise => [.exc, .cause]
  | assertion => [.test, .msg]
  | importNames | globalNames | nonlocalNames => [.names]
  | importFrom => [.module, .names, .level]
  | importedName => [.name, .asname]
  | boolOp => [.op, .values]
  | namedExpr => [.target, .value]
  | binOp => [.left, .op, .right]
  | unaryOp => [.op, .operand]
  | lambda => [.args, .body]
  | dict => [.keys, .values]
  | listComp | setComp | generator => [.elt, .generators]
  | dictComp => [.key, .value, .generators]
  | comprehension => [.target, .iter, .ifs, .isAsync]
  | compare => [.left, .ops, .comparators]
  | call => [.func, .args, .keywords]
  | keyword => [.arg, .value]
  | formattedValue => [.value, .conversion, .formatSpec]
  | joinedStr => [.values]
  | constant => [.value, .kind]
  | access => [.value, .attr, .ctx]
  | subscript => [.value, .slice, .ctx]
  | starred => [.value, .ctx]
  | name => [.id, .ctx]
  | list | tuple => [.elts, .ctx]
  | set => [.elts]
  | slice => [.lower, .upper, .step]
  | arguments =>
    [.posonlyargs, .args, .vararg, .kwonlyargs, .kwDefaults, .kwarg, .defaults]
  | arg => [.arg, .annot, .typeComment]
  | matchSequence | matchOr => [.patterns]
  | matchMapping => [.keys, .patterns, .rest]
  | matchClass => [.cls, .patterns, .kwdAttrs, .kwdPatterns]
  | matchStar => [.name]
  | matchAs => [.pattern, .name]
  | typeIgnore => [.tag]
  | pass | breakLoop | continueLoop | load | store | del | and | or | add | sub | mult | matMult
  | div | mod | pow | lShift | rShift | bitOr | bitXor | bitAnd | floorDiv | invert | not | uAdd
  | uSub | eq | notEq | lt | ltE | gt | gtE | is | isNot | inside | notInside => []

/-- Whether an absent field reads as "nothing" on nodes of this class. -/
def defaulted : Kind → Field → Bool
  | functionDef, f | asyncFunctionDef, f => f == .returns || f == .typeComment
  | assign, f | forLoop, f | asyncFor, f | withBlock, f | asyncWith, f => f == .typeComment
  | ret, f | yield, f | annAssign, f => f == .value
  | exceptHandler, f => f == .type || f == .name
  | raise, f => f == .exc || f == .cause
  | assertion, f => f == .msg
  | importFrom, f => f == .module || f == .level
  | keyword, f => f == .arg
  | formattedValue, f => f == .formatSpec
  | slice, f => f == .lower || f == .upper || f == .step
  | constant, f => f == .kind
  | arguments, f => f == .vararg || f == .kwarg
  | arg, f => f == .annot || f == .typeComment
  | withItem, f => f == .optionalVars
  | importedName, f => f == .asname
  | matchCase, f => f == .guard
  | matchMapping, f => f == .rest
  | matchStar, f => f == .name
  | matchAs, f => f == .pattern || f == .name
  | _, _ => false

/-- Function definitions, plain or asynchronous; an anonymous function is not one. -/
def isFunctionDef : Kind → Bool
  | functionDef | asyncFunctionDef => true
  | _ => false

end Kind

end DefSite
