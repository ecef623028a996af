import DefSite.Proofs.Questions

/-!
# Visits to an inquiry

An inquiry can be asked its questions in any order and any number of times, and between two of them
the world may change in any way.  A run of such visits is told as a list of moments.

A setup can be made to log what its parser is asked and what that answers.  The log changes nothing
else, so the moments of a run can be read off a run with a log (`map_plain_moments`).
-/

namespace DefSite

/-! ## Questions and moments -/

/-- A question that an inquiry can be asked. -/
inductive Access where
  | call | skipped | path | context | tree | matchedTrail | subject
  deriving DecidableEq, Repr

/-- The questions that settle whether the method is skipped. -/
def Access.Settles (a : Access) : Prop :=
  a = .skipped ∨ a = .call

inductive Answer where
  | subjects (ss : List Subject)
  | skipped (b : Bool)
  | path (p : PathName)
  | context (c : Context)
  | tree (t : ParsedTree)
  | trail (p : List Node × Address)
  | subject (s : Option Subject)

/-- The question that an answer answers. -/
def Answer.access : Answer → Access
  | subjects _ => .call
  | skipped _ => .skipped
  | path _ => .path
  | context _ => .context
  | tree _ => .tree
  | trail _ => .matchedTrail
  | subject _ => .subject

/-- A visit to an inquiry: a question, and what becomes of the world before it is asked. -/
structure Visit (σ : Type) where
  meanwhile : World σ → World σ
  access : Access

/-- A question that was asked: what was found out and the world just before, the answer, and what
was found out and the world just after. -/
structure Moment (σ : Type) where
  access : Access
  before : Findings × World σ
  answer : Except Fault Answer
  after : Findings × World σ

/-- A moment in which it was settled whether the method is skipped, if it was not settled before. -/
def Moment.Settles {σ : Type} (m : Moment σ) : Prop :=
  m.access.Settles ∧ ∃ a, m.answer = .ok a

namespace Query

variable {σ : Type} (q : Query) (setup : Setup σ)

def ask : Access → Inquiry σ Answer
  | .call => return .subjects (← q.call setup)
  | .skipped => return .skipped (← q.skipped setup)
  | .path => return .path (← q.path setup)
  | .context => return .context (← q.context setup)
  | .tree => return .tree (← q.tree setup)
  | .matchedTrail => return .trail (← q.matchedTrail setup)
  | .subject => return .subject (← q.subject setup)

/-- The moments of a run of visits. -/
def moments : List (Visit σ) → Findings → World σ → List (Moment σ)
  | [], _, _ => []
  | v :: vs, f, w =>
    let r := (q.ask setup v.access).run f (v.meanwhile w)
    ⟨v.access, (f, v.meanwhile w), r.1, r.2⟩ :: moments vs r.2.1 r.2.2

end Query

/-! ## Logs -/

/-- What a parser was asked for and what it answered, oldest first. -/
abbrev Log := List (PathName × Except Fault ParsedTree)

/-- The trees that a parser gave. -/
def Log.trees (log : Log) : List ParsedTree :=
  log.filterMap fun r => r.2.toOption

theorem Log.trees_append (log log' : Log) :
    Log.trees (log ++ log') = Log.trees log ++ Log.trees log' :=
  List.filterMap_append

section logs

variable {σ : Type}

/-- A setup whose parser keeps a log. -/
def Setup.logged (setup : Setup σ) : Setup (σ × Log) where
  parse path s :=
    let answer := setup.parse path s.1
    ⟨answer.outcome, answer.reused, (answer.state, s.2 ++ [(path, answer.outcome)])⟩
  pathOf := setup.pathOf
  denylist := setup.denylist
  sink := setup.sink

def World.withLog (w : World σ) (log : Log) : World (σ × Log) :=
  ⟨(w.parser, log), w.board, w.journal⟩

def World.plain (w : World (σ × Log)) : World σ :=
  ⟨w.parser.1, w.board, w.journal⟩

/-- A visit before which nothing happens to the log. -/
def Visit.logged (v : Visit σ) : Visit (σ × Log) :=
  ⟨fun w => (v.meanwhile w.plain).withLog w.parser.2, v.access⟩

namespace Moment

def plain (m : Moment (σ × Log)) : Moment σ :=
  ⟨m.access, (m.before.1, m.before.2.plain), m.answer, (m.after.1, m.after.2.plain)⟩

/-- What the parser was asked in a moment and what it answered. -/
def replies (m : Moment (σ × Log)) : Log :=
  m.after.2.parser.2.drop m.before.2.parser.2.length

end Moment

/-! ## Logs change nothing -/

namespace Inquiry

/-- Steps on worlds with a log that do what other steps do without it. -/
def Mirrors {α : Type} (m : Inquiry (σ × Log) α) (n : Inquiry σ α) : Prop :=
  ∀ f w, n.run f w.plain = ((m.run f w).1, (m.run f w).2.1, (m.run f w).2.2.plain)

namespace Mirrors

variable {α β : Type}

theorem pure (a : α) : Mirrors (σ := σ) (Pure.pure a) (Pure.pure a) :=
  fun _ _ => rfl

theorem throw (e : Fault) : Mirrors (σ := σ) (α := α) (MonadExcept.throw e) (MonadExcept.throw e) :=
  fun _ _ => rfl

theorem act {g : World (σ × Log) → α × World (σ × Log)} {h : World σ → α × World σ}
    (hg : ∀ w, h w.plain = ((g w).1, (g w).2.plain)) : Mirrors (act g) (act h) := by
  intro f w
  rw [run_act, run_act, hg]

theorem bind {m : Inquiry (σ × Log) α} {n : Inquiry σ α} {k : α → Inquiry (σ × Log) β}
    {j : α → Inquiry σ β} (hm : Mirrors m n) (hk : ∀ a, Mirrors (k a) (j a)) :
    Mirrors (m >>= k) (n >>= j) := by
  intro f w
  rw [run_bind, run_bind, hm f w]
  rcases m.run f w with ⟨e | a, f, w⟩
  · rfl
  · exact hk a f w

theorem once {kept : Findings → Option α} {put : Option α → Findings → Findings}
    {m : Inquiry (σ × Log) α} {n : Inquiry σ α} (hm : Mirrors m n) :
    Mirrors (once kept put m) (once kept put n) := by
  intro f w
  cases h : kept f with
  | some a => rw [run_once_of_some h, run_once_of_some h]
  | none =>
    rw [run_once_of_none h, run_once_of_none h, hm f w]
    rcases m.run f w with ⟨e | a, f, w⟩ <;> rfl

end Mirrors

end Inquiry

theorem Setup.parseFile_plain (setup : Setup σ) (path : PathName) (w : World (σ × Log)) :
    setup.parseFile path w.plain =
      ((setup.logged.parseFile path w).1, (setup.logged.parseFile path w).2.plain) := by
  unfold parseFile logged World.plain
  dsimp only
  cases (setup.parse path w.parser.1).reused <;> rfl

namespace Query

open Inquiry

variable (q : Query) (setup : Setup σ)

theorem mirrors_path : Mirrors (q.path setup.logged) (q.path setup) := by
  refine Mirrors.once ?_
  cases q.method.location with
  | none => exact .throw _
  | some l => exact .pure _

theorem mirrors_context : Mirrors (q.context setup.logged) (q.context setup) :=
  (q.mirrors_path setup).bind fun _ => .pure _

theorem mirrors_tree : Mirrors (q.tree setup.logged) (q.tree setup) := by
  refine Mirrors.once ((q.mirrors_path setup).bind fun path => ?_)
  refine (Mirrors.act (setup.parseFile_plain path)).bind fun answer => ?_
  cases answer with
  | ok t => exact .pure t
  | error e => exact .throw e

theorem mirrors_address : Mirrors (q.address setup.logged) (q.address setup) := by
  refine Mirrors.once ((q.mirrors_tree setup).bind fun t => ?_)
  cases t.root.findLast q.recognises with
  | ok o => exact .pure o
  | error e => exact .throw e

theorem mirrors_matchedTrail : Mirrors (q.matchedTrail setup.logged) (q.matchedTrail setup) :=
  (q.mirrors_address setup).bind fun _ => (q.mirrors_tree setup).bind fun _ => .pure _

theorem mirrors_skipped : Mirrors (q.skipped setup.logged) (q.skipped setup) := by
  have hwarn : ∀ message, Mirrors (act fun w => ((), setup.logged.warn message w))
      (act fun w => ((), setup.warn message w)) := fun _ => Mirrors.act fun _ => rfl
  refine Mirrors.once ?_
  cases q.method.location with
  | none => exact (hwarn _).bind fun _ => .pure _
  | some l =>
    dsimp only
    have hdenies : setup.logged.denies l.file = setup.denies l.file := rfl
    rw [hdenies]
    cases setup.denies l.file with
    | true => exact (hwarn _).bind fun _ => .pure _
    | false =>
      refine (q.mirrors_matchedTrail setup).bind fun trail => ?_
      cases isClosure trail.1 with
      | true => exact (hwarn _).bind fun _ => .pure _
      | false => exact .pure _

theorem mirrors_subject : Mirrors (q.subject setup.logged) (q.subject setup) := by
  have hrecord : ∀ e : Entry, Mirrors (act fun w : World (σ × Log) => ((), w.record e))
      (act fun w : World σ => ((), w.record e)) := fun _ => Mirrors.act fun _ => rfl
  refine Mirrors.once ((q.mirrors_address setup).bind fun o => ?_)
  refine (q.mirrors_tree setup).bind fun t => ?_
  cases o.bind fun a => (t.root.at? a).map fun n => (a, n) with
  | none => exact (q.mirrors_path setup).bind fun _ => (hrecord _).bind fun _ => .pure _
  | some p =>
    refine (q.mirrors_path setup).bind fun path => ?_
    have hline : Mirrors (subject.liftExcept p.2.readLine : Inquiry (σ × Log) Int)
        (subject.liftExcept p.2.readLine) := by
      cases p.2.readLine with
      | ok line => exact .pure line
      | error e => exact .throw e
    exact hline.bind fun _ => (hrecord _).bind fun _ =>
      (q.mirrors_context setup).bind fun _ => .pure _

theorem mirrors_call : Mirrors (q.call setup.logged) (q.call setup) := by
  refine (q.mirrors_skipped setup).bind fun b => ?_
  cases b with
  | true => exact .pure _
  | false => exact (q.mirrors_subject setup).bind fun _ => .pure _

theorem mirrors_ask (access : Access) :
    Mirrors (q.ask setup.logged access) (q.ask setup access) := by
  cases access with
  | call => exact (q.mirrors_call setup).bind fun _ => .pure _
  | skipped => exact (q.mirrors_skipped setup).bind fun _ => .pure _
  | path => exact (q.mirrors_path setup).bind fun _ => .pure _
  | context => exact (q.mirrors_context setup).bind fun _ => .pure _
  | tree => exact (q.mirrors_tree setup).bind fun _ => .pure _
  | matchedTrail => exact (q.mirrors_matchedTrail setup).bind fun _ => .pure _
  | subject => exact (q.mirrors_subject setup).bind fun _ => .pure _

/-- The moments of a run are those of the run with a log, but for the log. -/
theorem map_plain_moments (visits : List (Visit σ)) (f : Findings) (w : World (σ × Log)) :
    (q.moments setup.logged (visits.map .logged) f w).map .plain =
      q.moments setup visits f w.plain := by
  induction visits generalizing f w with
  | nil => rfl
  | cons v visits ih =>
    have hask := q.mirrors_ask setup v.access f (v.logged.meanwhile w)
    have hplain : (v.logged.meanwhile w).plain = v.meanwhile w.plain := rfl
    rw [hplain] at hask
    simp only [List.map_cons, moments, hask, ← ih]
    rfl

end Query

end logs

end DefSite
