import LatexReview.Text.Numeral

/-!
Places in a text by line and column.
-/

namespace LatexReview

/-- A place in a text, line and column counted from one. -/
structure Position where
  line : UInt32
  column : UInt32
deriving DecidableEq, Inhabited

namespace Position

/-- The place with the given line and column counts. -/
def ofCounts (line column : Nat) : Position := ⟨.ofNat line, .ofNat column⟩

/-- Order by line, then by column. -/
def compare (p q : Position) : Ordering :=
  (Ord.compare p.line.toNat q.line.toNat).then (Ord.compare p.column.toNat q.column.toNat)

def le (p q : Position) : Bool := (p.compare q).isLE

/-- Written as `line:column`. -/
def render (p : Position) : Text :=
  Text.numeral p.line.toNat ++ ':' :: Text.numeral p.column.toNat

end Position

end LatexReview
