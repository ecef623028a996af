/-!
# Code points

Text that a program writes between quotes may hold any code point, lone surrogates included, so it
is a list of `CodePoint`, not of characters.
-/

namespace DefSite.Text

/-- A code point; unlike a character it may be a surrogate. -/
abbrev CodePoint := Fin 0x110000

def CodePoint.ofChar (c : Char) : CodePoint :=
  ⟨c.toNat, by
    have h := c.valid
    simp only [Char.toNat]
    rcases h with h | h
    · have : c.val.toNat < 0xD800 := h
      omega
    · have : c.val.toNat < 0x110000 := h.2
      omega⟩

def codePoints (s : String) : List CodePoint :=
  s.toList.map CodePoint.ofChar

end DefSite.Text
