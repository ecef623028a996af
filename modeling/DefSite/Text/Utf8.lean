/-!
# UTF-8

`decode` reads bytes as UTF-8 and refuses every ill-formed sequence: overlong forms, surrogates and
numbers beyond the last code point included.  A fault names the stretch of bytes that could not be
read: a byte that starts no sequence, the bytes before the first one that cannot continue, or all
that is left where the data ends inside a sequence.
-/

namespace DefSite.Text.Utf8

/-- Why a stretch of bytes is no character. -/
inductive Reason where
  | invalidStart | unexpectedEnd | invalidContinuation
  deriving DecidableEq, Repr, Inhabited

/-- A stretch of bytes that could not be read. -/
structure Fault where
  /-- The first byte of the stretch. -/
  byte : UInt8
  /-- Where the stretch starts. -/
  start : Nat
  length : Nat
  reason : Reason
  deriving DecidableEq, Repr, Inhabited

/-- A sequence in progress: its first byte, how many bytes have been read, how many are still to
come, the bounds of the next one, and the bits collected. -/
structure Pending where
  byte : UInt8
  taken : Nat
  needed : Nat
  lo : Nat
  hi : Nat
  bits : Nat
  deriving DecidableEq, Repr, Inhabited

/-- The sequence that a first byte beyond ASCII opens, if it opens one. -/
def open? (b : UInt8) : Option Pending :=
  let n := b.toNat
  if n < 0xc2 then none
  else if n ≤ 0xdf then some ⟨b, 1, 1, 0x80, 0xbf, n - 0xc0⟩
  else if n = 0xe0 then some ⟨b, 1, 2, 0xa0, 0xbf, 0⟩
  else if n = 0xed then some ⟨b, 1, 2, 0x80, 0x9f, 0xd⟩
  else if n ≤ 0xef then some ⟨b, 1, 2, 0x80, 0xbf, n - 0xe0⟩
  else if n = 0xf0 then some ⟨b, 1, 3, 0x90, 0xbf, 0⟩
  else if n ≤ 0xf3 then some ⟨b, 1, 3, 0x80, 0xbf, n - 0xf0⟩
  else if n = 0xf4 then some ⟨b, 1, 3, 0x80, 0x8f, 4⟩
  else none

/-- Reads the bytes from position `pos` on, after the characters `done` (last first) and inside
the sequence `pending`, if any. -/
def decodeFrom (pos : Nat) (done : List Char) :
    Option Pending → List UInt8 → Except Fault (List Char)
  | none, [] => .ok done.reverse
  | some p, [] => .error ⟨p.byte, pos - p.taken, p.taken, .unexpectedEnd⟩
  | none, b :: bs =>
    if b < 0x80 then decodeFrom (pos + 1) (Char.ofNat b.toNat :: done) none bs
    else match open? b with
      | none => .error ⟨b, pos, 1, .invalidStart⟩
      | some p => decodeFrom (pos + 1) done (some p) bs
  | some p, b :: bs =>
    if p.lo ≤ b.toNat ∧ b.toNat ≤ p.hi then
      let bits := p.bits * 64 + (b.toNat - 0x80)
      if p.needed = 1 then decodeFrom (pos + 1) (Char.ofNat bits :: done) none bs
      else decodeFrom (pos + 1) done (some ⟨p.byte, p.taken + 1, p.needed - 1, 0x80, 0xbf, bits⟩) bs
    else .error ⟨p.byte, pos - p.taken, p.taken, .invalidContinuation⟩

def decode (bs : List UInt8) : Except Fault (List Char) :=
  decodeFrom 0 [] none bs

def Reason.message : Reason → String
  | invalidStart => "invalid start byte"
  | unexpectedEnd => "unexpected end of data"
  | invalidContinuation => "invalid continuation byte"

end DefSite.Text.Utf8
