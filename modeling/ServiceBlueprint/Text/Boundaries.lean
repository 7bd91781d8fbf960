/-!
# Classes of characters given by their boundaries

A class is written as the ascending list of the code points at which membership changes, starting
outside. A code point belongs to the class when an odd number of boundaries are at or below it.
-/

namespace ServiceBlueprint.Text

def insideBoundaries (boundaries : Array Nat) (c : Char) : Bool :=
  boundaries.foldl (fun inside b => inside ^^ decide (b ≤ c.toNat)) false

end ServiceBlueprint.Text
