import DefSite.Number.Binary64
import DefSite.Text.Quoted

/-!
# Values of settings documents

A document is a table: names with values, in the order in which they came.  `Toml.shown` is the text
by which a message shows a value.
-/

namespace DefSite.Toml

structure Day where
  year : Nat
  month : Nat
  day : Nat
  deriving DecidableEq, Repr, Inhabited

structure Clock where
  hour : Nat
  minute : Nat
  second : Nat
  micros : Nat
  deriving DecidableEq, Repr, Inhabited

end Toml

/-- A value of a settings document. -/
inductive Toml where
  | text (s : String)
  | int (i : Int)
  | float (x : Binary64)
  | bool (b : Bool)
  | date (d : Toml.Day)
  | time (t : Toml.Clock)
  /-- A moment, with its distance from the reference time in minutes if it has one. -/
  | moment (d : Toml.Day) (t : Toml.Clock) (offset : Option Int)
  | list (items : List Toml)
  | table (entries : List (String × Toml))
  deriving Repr, Inhabited

namespace Toml

def daysIn (year month : Nat) : Nat :=
  if month = 2 then
    if year % 4 = 0 ∧ (year % 100 ≠ 0 ∨ year % 400 = 0) then 29 else 28
  else if month = 4 ∨ month = 6 ∨ month = 9 ∨ month = 11 then 30 else 31

/-- Whether there is such a day; years begin with 1. -/
def Day.exists (d : Day) : Bool :=
  1 ≤ d.year && 1 ≤ d.month && d.month ≤ 12 && 1 ≤ d.day && d.day ≤ daysIn d.year d.month

def commaNumbers (l : List Nat) : String :=
  ", ".intercalate (l.map toString)

def Day.parts (d : Day) : List Nat :=
  [d.year, d.month, d.day]

/-- The parts of a time of day; seconds and microseconds are left out where they are zero. -/
def Clock.parts (t : Clock) : List Nat :=
  if t.micros ≠ 0 then [t.hour, t.minute, t.second, t.micros]
  else if t.second ≠ 0 then [t.hour, t.minute, t.second]
  else [t.hour, t.minute]

/-- The text of a distance from the reference time, given in minutes. -/
def offsetText (offset : Int) : String :=
  if offset = 0 then "datetime.timezone.utc"
  else if 0 < offset then s!"datetime.timezone(datetime.timedelta(seconds={offset * 60}))"
  else
    let seconds := 86400 + offset * 60
    s!"datetime.timezone(datetime.timedelta(days=-1, seconds={seconds}))"

mutual

/-- The text of a value. -/
def shown : Toml → String
  | text s => Text.quotedString s
  | int i => toString i
  | float x => x.text
  | bool b => if b then "True" else "False"
  | date d => s!"datetime.date({commaNumbers d.parts})"
  | time t => s!"datetime.time({commaNumbers t.parts})"
  | moment d t none => s!"datetime.datetime({commaNumbers (d.parts ++ t.parts)})"
  | moment d t (some o) =>
    s!"datetime.datetime({commaNumbers (d.parts ++ t.parts)}, tzinfo={offsetText o})"
  | list items => "[" ++ ", ".intercalate (shownItems items) ++ "]"
  | table entries => "\x7b" ++ ", ".intercalate (shownEntries entries) ++ "\x7d"

def shownItems : List Toml → List String
  | [] => []
  | v :: vs => shown v :: shownItems vs

def shownEntries : List (String × Toml) → List String
  | [] => []
  | (k, v) :: rest => (Text.quotedString k ++ ": " ++ shown v) :: shownEntries rest

end

def typeName : Toml → String
  | text _ => "str"
  | int _ => "int"
  | float _ => "float"
  | bool _ => "bool"
  | date _ => "datetime.date"
  | time _ => "datetime.time"
  | moment .. => "datetime.datetime"
  | list _ => "list"
  | table _ => "dict"

end DefSite.Toml
