import SqlFragments.Text.Fold

/-!
# Leading connectors

Condition fragments come as `where x = 1`, as `and y = 2`, or bare.  The word that connects a
fragment to what stands before it is dropped before fragments are put together.

* `stripConnector`: a fragment without its leading connector
* `joinConditions`: fragments as one `where` clause
-/

namespace SqlFragments

/-- Whether a word connects a condition to what stands before it. -/
def isLeadingConnector (word : Text) : Bool :=
  word.folded == "where".toList || word.folded == "and".toList

/-- A fragment without white space around it and without one leading `where` or `and`. -/
def stripConnector (fragment : Text) : Text :=
  let trimmed := fragment.trim
  if isLeadingConnector (trimmed.takeWhile isWordChar) then
    Text.trim (trimmed.dropWhile isWordChar)
  else trimmed

/-- Condition fragments as one `where` clause, empty if no fragment says anything. -/
def joinConditions (fragments : List Text) : Text :=
  match (fragments.map stripConnector).filter fun f => !f.isEmpty with
  | [] => []
  | parts => "where ".toList ++ Text.join " and ".toList parts

end SqlFragments
