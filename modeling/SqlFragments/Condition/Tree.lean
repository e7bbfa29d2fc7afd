import SqlFragments.Condition.Connector
import SqlFragments.KeywordCase

/-!
# Condition trees

Conditions are built from fragments by conjunction and disjunction.  Fragments that need
parentheses bring their own; a tree adds none.

* `Condition`: a tree of fragments
* `Condition.isEmpty`: whether a tree says nothing
* `Condition.toText`: a tree as SQL
-/

namespace SqlFragments

/-- A condition on rows. -/
inductive Condition where
  /-- A fragment, with or without a leading connector. -/
  | raw (sql : Text)
  /-- All of the children hold. -/
  | all (children : List Condition)
  /-- One of the children holds. -/
  | any (children : List Condition)

namespace Condition

mutual

/-- A condition is empty when none of its fragments says anything. -/
def isEmpty : Condition → Bool
  | raw sql => (stripConnector sql).isEmpty
  | all children => allEmpty children
  | any children => allEmpty children

/-- Whether every one of some conditions is empty. -/
def allEmpty : List Condition → Bool
  | [] => true
  | c :: rest => c.isEmpty && allEmpty rest

end

mutual

/-- A condition as SQL with its keywords in lower case; empty children leave no trace. -/
def toText : Condition → Text
  | raw sql => lowerKeywords (stripConnector sql)
  | all children => Text.join " and ".toList (texts children)
  | any children => Text.join " or ".toList (texts children)

/-- The texts of those of some conditions that are not empty. -/
def texts : List Condition → List Text
  | [] => []
  | c :: rest => if c.isEmpty then texts rest else c.toText :: texts rest

end

end Condition

end SqlFragments
