import DefSite.Text.Quoted

/-!
# Strings with few escapes

A string may be written between one quote or three.  Three quotes let line ends and tabs stand as
they are; the backslash and everything else unprintable is escaped.  Quotes that occur in the text
are not used, nor are single ones around a line end; of the others those come first that the text
does not end in, and a quote that ends the text is escaped where it cannot be avoided.  Text that
leaves none is written as quoted text on one line.

Documentation is written in this way between three quotes (`docstring`).  A formatted string has
parts that are constant and parts that hold expressions, and all of them must do with one kind of
quotes (`formatted`).
-/

namespace DefSite.Render

open Text

/-- Quotes to put a text between: one mark, or three. -/
structure Quotes where
  mark : Char
  triple : Bool
  deriving DecidableEq, Repr, Inhabited

namespace Quotes

def text (q : Quotes) : List Char :=
  List.replicate (if q.triple then 3 else 1) q.mark

def around (q : Quotes) (inside : List Char) : List Char :=
  q.text ++ inside ++ q.text

def singles : List Quotes :=
  [⟨'\'', false⟩, ⟨'"', false⟩]

def triples : List Quotes :=
  [⟨'"', true⟩, ⟨'\'', true⟩]

def all : List Quotes :=
  singles ++ triples

end Quotes

/-- How a code point stands in such a string; `spaces` says whether line ends and tabs are escaped
as well. -/
def literalUnit (spaces : Bool) (c : CodePoint) : List Char :=
  if !spaces && (c.val = 0x0a || c.val = 0x09) then [Char.ofNat c.val]
  else if c.val = 0x5c || !isPrintable c.val then escape c.val
  else [Char.ofNat c.val]

def occursIn (part : List Char) : List Char → Bool
  | [] => part.isEmpty
  | c :: rest => part.isPrefixOf (c :: rest) || occursIn part rest

/-- Those of the quotes that a text leaves, the ones that it does not end in first. -/
def freeQuotes (quotes : List Quotes) (s : List Char) : List Quotes :=
  let free := quotes.filter fun q => (q.triple || !s.contains '\n') && !occursIn q.text s
  let (clear, ending) := free.partition fun q => s.getLast? ≠ some q.mark
  clear ++ ending

/-- The text with its last character escaped if it is the quote. -/
def guardLast (quote : Char) (s : List Char) : List Char :=
  if s.getLast? = some quote then s.dropLast ++ ['\\', quote] else s

/-- What stands between the quotes, and the quotes that it may stand between, best first. -/
def literalInside (quotes : List Quotes) (spaces : Bool) (s : List CodePoint) :
    List Char × List Quotes :=
  let escaped := s.flatMap (literalUnit spaces)
  match freeQuotes quotes escaped with
  | q :: rest => (guardLast q.mark escaped, q :: rest)
  | [] =>
    let mark := quoteOf s
    (quotedInside s, [(quotes.find? (·.mark == mark)).getD ⟨mark, false⟩])

/-- A string between one of the quotes. -/
def literal (quotes : List Quotes) (s : List CodePoint) : String :=
  let (inside, free) := literalInside quotes false s
  String.ofList ((free.headD default).around inside)

/-- A documentation string with its quotes. -/
def docstring (s : List CodePoint) : String :=
  literal Quotes.triples s

/-- A part of a formatted string: its text, and whether it is constant. -/
structure FormattedPart where
  text : List CodePoint
  constant : Bool

/-- The parts one after the other, between quotes that all of them leave; the quotes that one part
leaves are those that the next may use. -/
def formattedInside? : List Quotes → List FormattedPart → Option (List Char × List Quotes)
  | quotes, [] => some ([], quotes)
  | quotes, p :: rest =>
    let (inside, free) := literalInside quotes p.constant p.text
    if free.any quotes.contains then
      (formattedInside? free rest).map fun (more, last) => (inside ++ more, last)
    else none

/-- The parts of a formatted string between quotes.  If no quotes suit all of them, everything is
escaped and stands between three single ones. -/
def formatted (parts : List FormattedPart) : String :=
  match formattedInside? Quotes.all parts with
  | some (inside, free) => String.ofList ((free.headD default).around inside)
  | none =>
    let q : Quotes := ⟨'\'', true⟩
    String.ofList (q.around (parts.flatMap fun p =>
      p.text.flatMap fun c => quotedUnit isPrintable '\'' c.val))

end DefSite.Render
