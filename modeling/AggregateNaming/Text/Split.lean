/-!
# Splitting

A row of characters is split at the first that passes a test.
-/

namespace AggregateNaming.Text

/-- The characters before the first that passes a test, and those after it, if there is one. -/
def splitWhere (test : Char → Bool) (cs : List Char) : List Char × Option (List Char) :=
  (cs.takeWhile (!test ·), (cs.dropWhile (!test ·)).tail?)

end AggregateNaming.Text
