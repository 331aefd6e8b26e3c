/-!
# Sets of characters

A **character set** is a list of closed intervals of code points. The properties that
the Unicode standard assigns to characters (blank, printable, cased, …) are data of this
form; the modules that hold such data are named for the property.
-/

namespace ClientGen

/-- A set of characters, given by closed intervals of code points. -/
structure CharSet where
  /-- The intervals, by their first and last code points. -/
  intervals : List (Nat × Nat)

namespace CharSet

/-- Whether a character lies in one of the intervals. -/
def contains (s : CharSet) (c : Char) : Bool :=
  s.intervals.any fun i => i.1 ≤ c.toNat && c.toNat ≤ i.2

theorem contains_iff {s : CharSet} {c : Char} :
    s.contains c = true ↔ ∃ i ∈ s.intervals, i.1 ≤ c.toNat ∧ c.toNat ≤ i.2 := by
  simp [contains]

end CharSet

end ClientGen
