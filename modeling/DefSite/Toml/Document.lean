import DefSite.Toml.Scalar

/-!
# Settings documents

`Document.read` reads a whole document: entries under keys, and headings that open tables or add
tables to lists.  What has been written is protected by marks: a value between brackets or braces is
closed, so nothing may be added to it or below it, and a table that was opened by a heading, or by
the dotted key of an entry once the next heading has come, may not be opened again.
-/

namespace DefSite.Toml

abbrev Entries := List (String × Toml)

abbrev Key := List String

namespace Entries

/-- Entries with the value under a name set, in its place if the name is there. -/
def put (name : String) (v : Toml) : Entries → Entries
  | [] => [(name, v)]
  | (k, w) :: rest => if k = name then (k, v) :: rest else (k, w) :: put name v rest

/-- Changes the table that a key leads to, opening tables on the way; if `lists` holds, a list of
tables stands for its last one.  Nothing comes of a key that leads through another value. -/
def modifyAt (lists : Bool) (f : Entries → Option Entries) : Key → Entries → Option Entries
  | [], t => f t
  | k :: ks, t => do
    match t.lookup k with
    | none => return put k (.table (← modifyAt lists f ks [])) t
    | some (.table u) => return put k (.table (← modifyAt lists f ks u)) t
    | some (.list items) =>
      match lists, items.getLast? with
      | true, some (.table u) =>
        return put k (.list (items.dropLast ++ [.table (← modifyAt lists f ks u)])) t
      | _, _ => none
    | some _ => none

/-- Adds a value under a name that is not taken. -/
def add (name : String) (v : Toml) (t : Entries) : Option Entries :=
  if (t.lookup name).isSome then none else some (put name v t)

/-- Adds an empty table to the list under a name. -/
def addToList (name : String) (t : Entries) : Option Entries :=
  match t.lookup name with
  | none => some (put name (.list [.table []]) t)
  | some (.list items) => some (put name (.list (items ++ [.table []])) t)
  | some _ => none

end Entries

/-! ## Marks -/

/-- What a mark says of a key: `opened` that its table may not be opened again, `closed` that
nothing may be added there or below. -/
inductive Mark where
  | opened | closed
  deriving DecidableEq, Repr, Inhabited

abbrev Marks := List (Key × Mark)

namespace Marks

def isOpened (m : Marks) (key : Key) : Bool :=
  m.contains (key, .opened)

/-- Whether a key, or one above it, is closed. -/
def isClosed (m : Marks) (key : Key) : Bool :=
  m.any fun (k, mark) => mark == .closed && k.isPrefixOf key

/-- Marks without those on a key or below it. -/
def clear (m : Marks) (key : Key) : Marks :=
  m.filter fun (k, _) => !key.isPrefixOf k

end Marks

/-! ## Keys, values and comments -/

/-- Whether a character may stand in a key without quotes. -/
def isBare (c : Char) : Bool :=
  c.isAlphanum || c == '-' || c == '_'

/-- One part of a key: bare, or a quoted text of one line. -/
def keyPart : Reader String
  | '"' :: cs => (basicText (cs.length + 1) cs).map fun (s, rest) => (String.ofList s, rest)
  | '\'' :: cs => (literalText cs).map fun (s, rest) => (String.ofList s, rest)
  | cs =>
    let s := cs.takeWhile isBare
    if s.isEmpty then none else some (String.ofList s, cs.dropWhile isBare)

/-- A dotted key and the blanks after it. -/
def key : Nat → Reader Key
  | 0, _ => none
  | fuel + 1, cs => do
    let (part, cs) ← keyPart cs
    match skipBlanks cs with
    | '.' :: cs =>
      let (parts, cs) ← key fuel (skipBlanks cs)
      return (part :: parts, cs)
    | cs => return ([part], cs)

/-- The characters after a comment, if there is one; controls may not stand in it. -/
def skipComment : List Char → Option (List Char)
  | '#' :: cs =>
    let text := cs.takeWhile (· != '\n')
    if text.any isControl then none else some (cs.dropWhile (· != '\n'))
  | cs => some cs

/-- The characters after blanks, line ends and comments. -/
def skipGaps : Nat → List Char → Option (List Char)
  | 0, cs => some cs
  | fuel + 1, cs => do
    match cs.dropWhile fun c => isBlank c || c == '\n' with
    | '#' :: rest => skipGaps fuel (← skipComment ('#' :: rest))
    | rest => some rest

/-- Whether a value is closed once it is written: lists and tables are. -/
def isNested : Toml → Bool
  | .list _ | .table _ => true
  | _ => false

/-- A value that has no parts. -/
def scalar : Reader Toml := fun cs =>
  match cs with
  | '"' :: _ | '\'' :: _ => (quotedText cs).map fun (s, rest) => (.text s, rest)
  | _ =>
    match after? ['t', 'r', 'u', 'e'] cs, after? ['f', 'a', 'l', 's', 'e'] cs with
    | some rest, _ => some (.bool true, rest)
    | _, some rest => some (.bool false, rest)
    | none, none =>
      match dayOrMoment cs with
      | some (some v, rest) => some (v, rest)
      | some (none, _) => none
      | none =>
        ((clock cs).map fun (t, rest) => (.time t, rest)) <|> number cs <|> specialNumber cs

mutual

def value : Nat → Reader Toml
  | 0, _ => none
  | fuel + 1, '[' :: cs => do
    let (items, cs) ← listItems fuel (← skipGaps (cs.length + 1) cs)
    return (.list items, cs)
  | fuel + 1, '{' :: cs =>
    match skipBlanks cs with
    | '}' :: rest => some (.table [], rest)
    | cs => (tableEntries fuel [] [] cs).map fun (t, rest) => (.table t, rest)
  | _ + 1, cs => scalar cs

/-- The items of a list up to its closing bracket; a comma may follow the last one. -/
def listItems : Nat → Reader (List Toml)
  | 0, _ => none
  | _ + 1, ']' :: cs => some ([], cs)
  | fuel + 1, cs => do
    let (v, cs) ← value fuel cs
    match ← skipGaps (cs.length + 1) cs with
    | ']' :: cs => return ([v], cs)
    | ',' :: cs =>
      let (vs, cs) ← listItems fuel (← skipGaps (cs.length + 1) cs)
      return (v :: vs, cs)
    | _ => none

/-- The entries of a table in braces up to the closing one, after those that came before. -/
def tableEntries : Nat → Marks → Entries → Reader Entries
  | 0, _, _, _ => none
  | fuel + 1, marks, t, cs => do
    let (k, cs) ← key (cs.length + 1) cs
    let (v, cs) ← value fuel (skipBlanks (← after? ['='] cs))
    if marks.isClosed k then none
    let t ← t.modifyAt false (Entries.add (k.getLast?.getD "") v) k.dropLast
    let marks := if isNested v then (k, .closed) :: marks else marks
    match skipBlanks cs with
    | '}' :: cs => return (t, cs)
    | ',' :: cs => tableEntries fuel marks t (skipBlanks cs)
    | _ => none

end

/-! ## Documents -/

/-- A document as far as it has been read. -/
structure Document where
  entries : Entries
  marks : Marks
  /-- Keys that will count as opened from the next heading on. -/
  pending : List Key
  /-- The heading that entries stand under. -/
  heading : Key
  deriving Inhabited

namespace Document

def empty : Document :=
  ⟨[], [], [], []⟩

/-- The keys of the tables that an entry's dotted key leads through. -/
def waypoints (heading : Key) : Key → List Key
  | [] | [_] => []
  | k :: ks => (heading ++ [k]) :: waypoints (heading ++ [k]) ks

def addEntry (d : Document) (k : Key) (v : Toml) : Option Document := do
  let ways := waypoints d.heading k
  if ways.any d.marks.isOpened then none
  let parent := d.heading ++ k.dropLast
  if d.marks.isClosed parent then none
  let entries ← d.entries.modifyAt true (Entries.add (k.getLast?.getD "") v) parent
  let marks := if isNested v then (d.heading ++ k, .closed) :: d.marks else d.marks
  return { d with entries, marks, pending := ways ++ d.pending }

/-- The document at the next heading. -/
def settle (d : Document) : Document :=
  { d with marks := d.pending.map (·, .opened) ++ d.marks, pending := [] }

def openTable (d : Document) (k : Key) : Option Document := do
  if d.marks.isOpened k || d.marks.isClosed k then none
  let entries ← d.entries.modifyAt true some k
  return { d with entries, marks := (k, .opened) :: d.marks, heading := k }

/-- Adds a table to the list under a heading. -/
def openListTable (d : Document) (k : Key) : Option Document := do
  if d.marks.isClosed k then none
  let entries ← d.entries.modifyAt true (Entries.addToList (k.getLast?.getD "")) k.dropLast
  return { d with entries, marks := (k, .opened) :: d.marks.clear k, heading := k }

def entry (d : Document) : Reader Document := fun cs => do
  let (k, cs) ← key (cs.length + 1) cs
  let cs := skipBlanks (← after? ['='] cs)
  let (v, cs) ← value (2 * cs.length + 2) cs
  return (← d.addEntry k v, cs)

/-- What stands on a line, an entry, a heading or nothing, and the characters after it. -/
def statement (d : Document) : Reader Document
  | '[' :: '[' :: cs => do
    let (k, cs) ← key (cs.length + 1) (skipBlanks cs)
    return (← d.settle.openListTable k, ← after? [']', ']'] cs)
  | '[' :: cs => do
    let (k, cs) ← key (cs.length + 1) (skipBlanks cs)
    return (← d.settle.openTable k, ← after? [']'] cs)
  | '#' :: cs => some (d, '#' :: cs)
  | '\n' :: cs => some (d, '\n' :: cs)
  | [] => some (d, [])
  | cs => d.entry cs

def lines : Nat → Document → List Char → Option Document
  | 0, _, _ => none
  | fuel + 1, d, cs => do
    let (d, cs) ← d.statement (skipBlanks cs)
    match ← skipComment (skipBlanks cs) with
    | [] => return d
    | '\n' :: cs => lines fuel d cs
    | _ => none

/-- Line ends of two characters as one. -/
def joinLineEnds : List Char → List Char
  | '\r' :: '\n' :: cs => '\n' :: joinLineEnds cs
  | c :: cs => c :: joinLineEnds cs
  | [] => []

/-- The entries of a document. -/
def read (text : List Char) : Option Entries :=
  let cs := joinLineEnds text
  (lines (cs.length + 1) empty cs).map (·.entries)

end Document

end DefSite.Toml
