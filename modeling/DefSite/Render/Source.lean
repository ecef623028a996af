import DefSite.Render.Rules

/-!
# Rendering trees to source

`render` applies each node's rule, its parts rendered in turn, and `Node.source` is the text of the
result.  Classes without a rule of their own are rendered as what their fields hold, node by node;
operators and contexts hold nothing.
-/

namespace DefSite

namespace Render

def rule (n : Node) (sub : Parts n) (m : Manner) (place : Place) : Except Fault Layout :=
  if place = .part then partRule n sub m else
  match n.kind with
  | .module => moduleRule n sub m
  | .functionType => functionTypeRule n sub m
  | .functionDef => functionRule sub m "def"
  | .asyncFunctionDef => functionRule sub m "async def"
  | .classDef => classRule n sub m
  | .ret => returnRule n sub m
  | .delete => deleteRule n sub m
  | .assign => assignRule n sub m
  | .augAssign => augAssignRule n sub m
  | .annAssign => annAssignRule n sub m
  | .exprStmt => exprStmtRule n sub m
  | .forLoop => forRule n sub m "for "
  | .asyncFor => forRule n sub m "async for "
  | .ifBranch => ifRule n sub m place
  | .whileLoop => whileRule n sub m
  | .withBlock => withRule n sub m "with "
  | .asyncWith => withRule n sub m "async with "
  | .withItem => withItemRule n sub m
  | .matchBlock => matchRule n sub m
  | .matchCase => matchCaseRule n sub m
  | .tryBlock => tryRule n sub m false
  | .tryStar => tryRule n sub m true
  | .exceptHandler => handlerRule n sub m
  | .raise => raiseRule n sub m
  | .assertion => assertRule n sub m
  | .importNames => importRule n sub m
  | .importFrom => importFromRule n sub m
  | .importedName => importedNameRule n
  | .globalNames => namesRule n m "global "
  | .nonlocalNames => namesRule n m "nonlocal "
  | .pass => .ok (Layout.line m "pass")
  | .breakLoop => .ok (Layout.line m "break")
  | .continueLoop => .ok (Layout.line m "continue")
  | .boolOp => boolOpRule n sub m place
  | .namedExpr => namedExprRule n sub m place
  | .binOp => binOpRule n sub m place
  | .unaryOp => unaryOpRule n sub m place
  | .lambda => lambdaRule n sub m place
  | .ifExp => ifExpRule n sub m place
  | .dict => dictRule n sub m
  | .set => setRule n sub m
  | .listComp => generatedRule n sub m "[" "]"
  | .setComp => generatedRule n sub m "\x7b" "\x7d"
  | .generator => generatedRule n sub m "(" ")"
  | .dictComp => dictCompRule n sub m
  | .comprehension => comprehensionRule n sub m
  | .await => awaitRule n sub m place
  | .yield => yieldRule n sub m place
  | .yieldFrom => yieldFromRule n sub m place
  | .compare => compareRule n sub m place
  | .call => callRule n sub m
  | .keyword => keywordRule n sub m
  | .formattedValue => formattedValueRule n sub m
  | .joinedStr => joinedStrRule n sub m
  | .constant => constantRule n m
  | .access => accessRule n sub m
  | .subscript => subscriptRule n sub m
  | .starred => starredRule n sub m
  | .name => return Layout.word (← n.readWord .id)
  | .list => listRule n sub m .elts
  | .tuple => tupleRule n sub m place
  | .slice => sliceRule n sub m
  | .arguments => argumentsRule n sub m
  | .arg => argRule n sub m
  | .matchValue => matchValueRule n sub m
  | .matchSingleton => matchSingletonRule n m
  | .matchSequence => listRule n sub m .patterns
  | .matchMapping => matchMappingRule n sub m
  | .matchClass => matchClassRule n sub m
  | .matchStar => matchStarRule n
  | .matchAs => matchAsRule n sub m place
  | .matchOr => matchOrRule n sub m place
  | .interactive | .expression | .typeIgnore | .load | .store | .del | .and | .or | .add | .sub
  | .mult | .matMult | .div | .mod | .pow | .lShift | .rShift | .bitOr | .bitXor | .bitAnd
  | .floorDiv | .invert | .not | .uAdd | .uSub | .eq | .notEq | .lt | .ltE | .gt | .gtE | .is
  | .isNot | .inside | .notInside => genericRule sub m

/-- Renders a node in a manner and a place. -/
def render (n : Node) (m : Manner) (place : Place) : Except Fault Layout :=
  rule n (fun c m place => render c.1 m place) m place
termination_by sizeOf n
decreasing_by exact c.2

theorem render_eq (n : Node) (m : Manner) (place : Place) :
    render n m place = rule n (fun c => render c.1) m place := by
  rw [render]

end Render

/-- A node written as source. -/
def Node.source (n : Node) : Except Fault String :=
  return (← Render.render n {} (.level .test)).toString

end DefSite
