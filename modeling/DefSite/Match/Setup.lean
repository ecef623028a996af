import DefSite.Fault
import DefSite.Match.Denylist
import DefSite.Match.Journal
import DefSite.Match.Sink
import DefSite.Tree.Node

/-!
# Setups

A setup bundles what matching needs: a parser, how file names become paths, a denylist and the sink
for diagnostics.  Parsers keep state of their own, of some type `σ`; a `World` holds that
state, all sinks and the journal, and is what a run changes.
-/

namespace DefSite

/-- A tree that was parsed.  Trees with one identifier are the same tree. -/
structure ParsedTree where
  id : Nat
  root : Node
  deriving Inhabited

/-- What a parser answers for a file. -/
structure Parsed (σ : Type) where
  outcome : Except Fault ParsedTree
  /-- Whether the tree was at hand already. -/
  reused : Bool
  /-- The parser's state from now on. -/
  state : σ

/-- What matching needs. -/
structure Setup (σ : Type) where
  parse : PathName → σ → Parsed σ
  pathOf : String → PathName
  denylist : Denylist
  sink : SinkId

/-- What a run changes. -/
structure World (σ : Type) where
  parser : σ
  board : Board
  journal : List Entry

namespace World

variable {σ : Type}

def record (w : World σ) (e : Entry) : World σ :=
  { w with journal := w.journal ++ [e] }

end World

namespace Setup

variable {σ : Type}

/-- Whether a filename cannot point at readable source. -/
def denies (setup : Setup σ) (filename : String) : Bool :=
  setup.denylist.denies filename

/-- Reports a diagnostic to the sink and the journal. -/
def warn (setup : Setup σ) (message : String) (w : World σ) : World σ :=
  { w.record (.warned message) with board := w.board.append setup.sink message }

def parseFile (setup : Setup σ) (path : PathName) (w : World σ) :
    Except Fault ParsedTree × World σ :=
  let answer := setup.parse path w.parser
  let w := { w with parser := answer.state }
  (answer.outcome, if answer.reused then w.record (.reused path) else w)

end Setup

end DefSite
