/-!
# Ranges of characters

A class of characters is a list of ranges of code points in ascending order,
both ends of a range included.
-/

namespace TemplateEngine.Text

abbrev CharRanges := List (Nat × Nat)

def CharRanges.contains (ranges : CharRanges) (c : Char) : Bool :=
  ranges.any fun (low, high) => low ≤ c.toNat && c.toNat ≤ high

end TemplateEngine.Text
