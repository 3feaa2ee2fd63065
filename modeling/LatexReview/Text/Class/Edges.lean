import LatexReview.Text.Basic

/-!
Sets of characters by their edges: the code points at which membership changes, in
ascending order, the first member first.
-/

namespace LatexReview.Text.Class

/-- Whether a code point lies in the set with the given edges. -/
def insideFrom (member : Bool) (n : Nat) : List Nat → Bool
  | [] => member
  | edge :: rest => if n < edge then member else insideFrom (!member) n rest

def inside (edges : List Nat) (c : Char) : Bool := insideFrom false c.toNat edges

end LatexReview.Text.Class
