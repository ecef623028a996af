import DefSite.Text.CodePoint
import DefSite.Text.Printable

/-!
# Quoted text

`quoted` writes text between quotes on one line: the quote in use and the backslash are escaped,
so are line ends, tabs and everything unprintable, and the rest stands as it is.  Single quotes are
used unless the text holds one and no double quote.  `quotedBytes` does the same for bytes, of
which only printable ASCII stands as it is.
-/

namespace DefSite.Text

/-- The `width` lowest hexadecimal digits of a number, in lower case. -/
def hexDigits : Nat → Nat → List Char
  | 0, _ => []
  | width + 1, n => hexDigits width (n / 16) ++ [Nat.digitChar (n % 16)]

/-- The escape of a code point: short for line ends and tabs, else by its number in as few of two,
four or eight digits as hold it. -/
def escape (c : Nat) : List Char :=
  if c = 0x5c then ['\\', '\\']
  else if c = 0x0a then ['\\', 'n']
  else if c = 0x0d then ['\\', 'r']
  else if c = 0x09 then ['\\', 't']
  else if c < 0x100 then '\\' :: 'x' :: hexDigits 2 c
  else if c < 0x10000 then '\\' :: 'u' :: hexDigits 4 c
  else '\\' :: 'U' :: hexDigits 8 c

/-- The quote for text in which `single` and `double` tell which quotes occur. -/
def quoteFor (single double : Bool) : Char :=
  if single && !double then '"' else '\''

/-- How one code point stands between quotes. -/
def quotedUnit (plain : Nat → Bool) (quote : Char) (c : Nat) : List Char :=
  if c = quote.toNat then ['\\', quote]
  else if plain c && c ≠ 0x5c then [Char.ofNat c]
  else escape c

/-- The quote that `quoted` uses for a text. -/
def quoteOf (s : List CodePoint) : Char :=
  quoteFor (s.any (·.val == 0x27)) (s.any (·.val == 0x22))

/-- Text between the quotes, escaped. -/
def quotedInside (s : List CodePoint) : List Char :=
  s.flatMap fun c => quotedUnit isPrintable (quoteOf s) c.val

def quoted (s : List CodePoint) : String :=
  String.ofList (quoteOf s :: quotedInside s ++ [quoteOf s])

def quotedString (s : String) : String :=
  quoted (codePoints s)

/-- Bytes in quotes, marked by `b`. -/
def quotedBytes (bs : List UInt8) : String :=
  let quote := quoteFor (bs.contains 0x27) (bs.contains 0x22)
  let inside := bs.flatMap fun b => quotedUnit (fun c => 0x20 ≤ c && c < 0x7f) quote b.toNat
  String.ofList ('b' :: quote :: inside ++ [quote])

end DefSite.Text
