/-!
# Sets of code points

A character class of Unicode is data: an ascending list of inclusive runs of
code points.  Membership looks for a run that holds the character.
-/

namespace TunnelLease

namespace Text

/-- A set of characters, given by inclusive runs of code points. -/
structure CodePointSet where
  runs : List (Nat × Nat)

/-- A character belongs to the set when its code point lies in one of the runs. -/
def CodePointSet.contains (set : CodePointSet) (c : Char) : Bool :=
  set.runs.any fun run => run.1 ≤ c.toNat && c.toNat ≤ run.2

end Text

end TunnelLease
