import DefSite.Source.Lexer

/-!
# Formatted strings

What stands between the quotes of a formatted string is text and values in braces.  The source of a
value goes up to the first sign that cannot be part of it, outside of quotes and brackets: the
closing brace, a colon before its format, an exclamation mark before its conversion or an equals
sign, which asks for the source to be shown too.  A format is made of text and values again, whose
own formats hold text only.
-/

namespace DefSite.Source

open Text

/-- Where a literal stands, several pieces counted as one: its lines, and whether it is marked. -/
structure Extent where
  line : Int
  lastLine : Int
  marked : Bool
  deriving Repr, Inhabited

/-- A piece of a formatted string. -/
inductive FormatPiece where
  | text (s : List CodePoint)
  /-- A value: its source, the line on which its brace opens, its conversion, its format and where
  the string that holds it stands. -/
  | value (source : List Char) (line : Nat) (conversion : Int)
    (format : Option (List FormatPiece)) (own : Extent)
  deriving Inhabited

def isBrace (c : Char) : Bool :=
  c == '\x7b' || c == '\x7d'

/-- Text up to a brace, whether it ended with a brace written twice, and the rest.  Two braces stand
for one, but not in a format, and outside of formats a closing brace closes something. -/
def formatText (raw inFormat : Bool) : List Char → Option (List Char × Bool × List Char)
  | [] => some ([], false, [])
  | '\\' :: c :: cs =>
    if raw || isBrace c then
      (formatText raw inFormat (c :: cs)).map fun (s, doubled, rest) => ('\\' :: s, doubled, rest)
    else
      (formatText raw inFormat cs).map fun (s, doubled, rest) => ('\\' :: c :: s, doubled, rest)
  | c :: cs =>
    if !isBrace c then
      (formatText raw inFormat cs).map fun (s, doubled, rest) => (c :: s, doubled, rest)
    else if inFormat then some ([], false, c :: cs)
    else if cs.head? = some c then some ([c], true, cs.tail)
    else if c = '\x7d' then none
    else some ([], false, c :: cs)

/-- Where the source of a value stands: in a quoted text, which may be quoted three times, or in
brackets, innermost first; some characters may have been looked at before. -/
structure ValueState where
  seen : Nat := 0
  quote : Option (Char × Bool) := none
  brackets : List Char := []

/-- The source of a value and what follows it. -/
def valueSource (s : ValueState) : List Char → Option (List Char × List Char)
  | [] => none
  | c :: cs =>
    let keep (s : ValueState) := (valueSource s cs).map fun (source, rest) => (c :: source, rest)
    let thrice := cs.take 2 == [c, c]
    if 0 < s.seen then keep { s with seen := s.seen - 1 }
    else if c = '\\' then none
    else match s.quote with
      | some (quote, long) =>
        if c ≠ quote ∨ long ∧ !thrice then keep s
        else keep { s with quote := none, seen := if long then 2 else 0 }
      | none =>
        if c = '\'' ∨ c = '"' then
          keep { s with quote := some (c, thrice), seen := if thrice then 2 else 0 }
        else if c = '(' ∨ c = '[' ∨ c = '\x7b' then
          if bracketLimit ≤ s.brackets.length then none
          else keep { s with brackets := c :: s.brackets }
        else if c = '#' then none
        else match s.brackets with
          | [] =>
            if ['!', '=', '<', '>'].contains c ∧ cs.head? = some '=' then keep { s with seen := 1 }
            else if ['!', ':', '=', '\x7d'].contains c then some ([], c :: cs)
            else if c = ')' ∨ c = ']' then none
            else keep s
          | b :: bs =>
            if c = ')' ∨ c = ']' ∨ c = '\x7d' then
              if closing b = c then keep { s with brackets := bs } else none
            else keep s

/-- The conversion at the front, by the number of its letter, or -1. -/
def conversion : List Char → Option (Int × List Char)
  | '!' :: c :: cs =>
    if ['s', 'r', 'a'].contains c ∧ (cs.head? = some ':' ∨ cs.head? = some '\x7d') then
      some (c.toNat, cs)
    else none
  | '!' :: _ => none
  | cs => some (-1, cs)

/-- The number of a conversion to a text that reads back. -/
def readable : Int := 'r'.toNat

/-- The pieces of a formatted string or, `depth` braces deep, of a format up to the brace that
closes its value; what follows them.  At most as many steps as `fuel`. -/
def formatPieces (raw : Bool) (own : Extent) : Nat → Nat → List Char →
    Option (List FormatPiece × List Char)
  | 0, _, _ => none
  | fuel + 1, depth, cs => do
    let (written, doubled, rest) ← formatText raw (depth != 0) cs
    let text ← match literalValue raw false written with
      | some (.text s) => some s
      | _ => none
    if doubled then
      let (more, rest) ← formatPieces raw own fuel depth rest
      return (.text text :: more, rest)
    match rest with
    | '\x7b' :: inside =>
      if 2 ≤ depth then none
      let line := own.lastLine - inside.count '\n'
      let (source, after) ← valueSource {} inside
      if source.all [' ', '\t', '\n', '\x0c'].contains then none
      let (shown, after) := match after with
        | '=' :: after =>
          let blank := after.takeWhile [' ', '\t', '\n', '\x0b', '\x0c', '\r'].contains
          (source ++ '=' :: blank, after.drop blank.length)
        | after => ([], after)
      let (mark, after) ← conversion after
      let (format, after) ← match after with
        | ':' :: after => do
          let (format, after) ← formatPieces raw own fuel (depth + 1) after
          pure (some format, after)
        | after => pure (none, after)
      match after with
      | '\x7d' :: after =>
        let plain := shown.isEmpty || format.isSome || mark != -1
        let value : FormatPiece :=
          .value source line.toNat (if plain then mark else readable) format own
        let (more, rest) ← formatPieces raw own fuel depth after
        return (.text text :: .text (codePoints (String.ofList shown)) :: value :: more, rest)
      | _ => none
    | rest => return ([.text text], rest)

/-- Pieces with texts that follow one another as one text, empty ones left out. -/
def joinTexts : List FormatPiece → List FormatPiece
  | [] => []
  | .text s :: rest =>
    match joinTexts rest with
    | .text t :: more => .text (s ++ t) :: more
    | more => if s.isEmpty then more else .text s :: more
  | value :: rest => value :: joinTexts rest

/-- The pieces of literals that follow one another, texts among them. -/
def literalPieces : List Token → Option (List FormatPiece)
  | [] => some []
  | t :: ts => do
    let pieces ← match t.lexeme with
      | .text _ (some (.text s)) => some [.text s]
      | .formatted raw inside =>
        (formatPieces raw ⟨t.line, t.lastLine, false⟩ (inside.length + 1) 0 inside).map (·.1)
      | _ => none
    return pieces ++ (← literalPieces ts)

end DefSite.Source
