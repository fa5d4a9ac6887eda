/-!
# Classes of characters given as ranges

A class of characters is written as a list of closed ranges of code points.
-/

namespace WidgetTemplates.Text

/-- Whether `c` lies in one of the closed ranges. -/
def inRanges (ranges : List (Nat × Nat)) (c : Char) : Bool :=
  ranges.any fun r => r.1 ≤ c.toNat && c.toNat ≤ r.2

end WidgetTemplates.Text
