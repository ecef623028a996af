/-!
# Sinks for diagnostics

A sink collects messages in the order they come and never loses one.  Several setups may share a
sink, so sinks are named, and a `Board` holds what each of them has collected.
-/

namespace DefSite

/-- The messages that were reported, oldest first. -/
abbrev Sink := List String

/-- The name of a sink. -/
abbrev SinkId := Nat

/-- What each sink holds. -/
abbrev Board := SinkId → Sink

namespace Board

def empty : Board :=
  fun _ => []

def append (b : Board) (id : SinkId) (message : String) : Board :=
  fun i => if i = id then b i ++ [message] else b i

theorem append_self (b : Board) (id : SinkId) (m : String) : b.append id m id = b id ++ [m] := by
  simp [append]

theorem append_of_ne {i id : SinkId} (b : Board) (m : String) (h : i ≠ id) :
    b.append id m i = b i := by
  simp [append, h]

end Board

end DefSite
