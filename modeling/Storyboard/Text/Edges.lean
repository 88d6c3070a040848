/-!
# Character classes by edges

A set of code points is given by its edges: the ascending list of code points at which
membership changes, starting outside. A code point belongs to the set exactly if an odd
number of edges is at or below it.
-/

namespace Storyboard.Text

/-- Membership in the set with the given edges. -/
def withinEdges (edges : List Nat) (c : Char) : Bool :=
  (edges.takeWhile (fun e => e ≤ c.toNat)).length % 2 == 1

end Storyboard.Text
