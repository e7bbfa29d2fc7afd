import Mathlib.Tactic.Common
import SqlFragments.Select.Draft

/-!
# Drafts as sequences of calls

A statement is made by calls in any order, each of which fills one part of the draft: it adds to a
list, or it sets a value in place of the one before.  So a run of calls can be read part by part,
from the calls that concern the part and from no others: a list is what those calls add, in their
order, and a value is that of the last of them.

* `SelectDraft.Call`, `SelectDraft.run` — the calls, and the draft behind a sequence of them.
* `Call.query`, `Call.column`, … — what a call gives to each part.
* `SelectDraft.collected` — a draft put together part by part.
* **`run_eq_collected`** — the draft behind a sequence of calls is the one put together.
-/

namespace SqlFragments

namespace SelectDraft

/-- A call that fills a draft. -/
inductive Call where
  | withQuery (name body : Text)
  | addColumn (expression : Text)
  | addColumnFrom (expression source : Text)
  | addColumnAs (expression source name : Text)
  | selectFrom (table name : Text)
  | joinTable (kind : JoinKind) (table name : Text) (on : Text → Text)
  | filterBy (condition : Condition)
  | groupOn (columns : List Text)
  | havingAll (condition : Condition)
  | orderOn (column : Text) (direction : Direction) (nulls : NullPlace)
  | orderText (text : Text)
  | limitTo (n : Nat)
  | skip (n : Nat)
  | limitPlusOne (n : Nat)
  | limitWithMax (requested max : Nat)

/-- The draft behind one more call. -/
def apply (d : SelectDraft) : Call → SelectDraft
  | .withQuery name body => d.withQuery name body
  | .addColumn expression => d.addColumn expression
  | .addColumnFrom expression source => d.addColumnFrom expression source
  | .addColumnAs expression source name => d.addColumnAs expression source name
  | .selectFrom table name => d.selectFrom table name
  | .joinTable kind table name on => d.joinTable kind table name on
  | .filterBy condition => d.filterBy condition
  | .groupOn columns => d.groupOn columns
  | .havingAll condition => d.havingAll condition
  | .orderOn column direction nulls => d.orderOn column direction nulls
  | .orderText text => d.orderText text
  | .limitTo n => d.limitTo n
  | .skip n => d.skip n
  | .limitPlusOne n => d.limitPlusOne n
  | .limitWithMax requested max => d.limitWithMax requested max

/-- The draft behind a sequence of calls. -/
def run (calls : List Call) : SelectDraft :=
  calls.foldl apply empty

/-! ## What a call gives to each part -/

namespace Call

def query : Call → Option NamedQuery
  | withQuery name body => some ⟨name, body⟩
  | _ => none

def column : Call → Option OutputColumn
  | addColumn expression => some ⟨expression, none, none⟩
  | addColumnFrom expression source => some ⟨expression, nonBlank source, none⟩
  | addColumnAs expression source name => some ⟨expression, nonBlank source, nonBlank name⟩
  | _ => none

def source : Call → Option (Text × Text)
  | selectFrom table name => some (table, name)
  | _ => none

def join : Call → Option Join
  | joinTable kind table name on => some ⟨kind, table, name, on name⟩
  | _ => none

def filter : Call → Option Condition
  | filterBy condition => some condition
  | _ => none

/-- The entries to group by; blank ones are passed over. -/
def groups : Call → List Text
  | groupOn columns => columns.filter fun c => !c.trim.isEmpty
  | _ => []

def having : Call → Option Condition
  | havingAll condition => some condition
  | _ => none

/-- The entries to order by, given one at a time or as text. -/
def orders : Call → List OrderItem
  | orderOn column direction nulls =>
    if column.trim.isEmpty then [] else [⟨column.trim, direction, nulls⟩]
  | orderText text => parseOrder text
  | _ => []

def limit : Call → Option Nat
  | limitTo n => some n
  | limitPlusOne n => some (min (n + 1) maxRows)
  | limitWithMax requested max => some (min requested max)
  | _ => none

def offset : Call → Option Nat
  | skip n => some n
  | _ => none

end Call

/-! ## Part by part -/

/-- The last value that some calls give to a part. -/
def last {α : Type} (part : Call → Option α) (calls : List Call) : Option α :=
  (calls.filterMap part).getLast?

/-- A draft put together part by part: of each list what the calls add to it, in their order, and
of each value the last one. -/
def collected (calls : List Call) : SelectDraft where
  queries := calls.filterMap Call.query
  columns := calls.filterMap Call.column
  source := last Call.source calls
  joins := calls.filterMap Call.join
  filter := last Call.filter calls
  groupBy := calls.flatMap Call.groups
  having := last Call.having calls
  orderBy := calls.flatMap Call.orders
  limit := last Call.limit calls
  offset := last Call.offset calls

/-- A draft with everything that `e` adds to it. -/
def followedBy (d e : SelectDraft) : SelectDraft where
  queries := d.queries ++ e.queries
  columns := d.columns ++ e.columns
  source := e.source.or d.source
  joins := d.joins ++ e.joins
  filter := e.filter.or d.filter
  groupBy := d.groupBy ++ e.groupBy
  having := e.having.or d.having
  orderBy := d.orderBy ++ e.orderBy
  limit := e.limit.or d.limit
  offset := e.offset.or d.offset

/-- What one call gives to all of the parts. -/
def Call.part (c : Call) : SelectDraft where
  queries := c.query.toList
  columns := c.column.toList
  source := c.source
  joins := c.join.toList
  filter := c.filter
  groupBy := c.groups
  having := c.having
  orderBy := c.orders
  limit := c.limit
  offset := c.offset

/-- **One call adds its own part** to the draft, and nothing else. -/
lemma apply_eq (d : SelectDraft) (c : Call) : d.apply c = d.followedBy c.part := by
  cases c with
  | orderOn column direction nulls =>
      rw [apply, orderOn, Call.part, Call.orders]
      split_ifs <;> simp [followedBy, Call.query, Call.column, Call.source, Call.join, Call.filter,
        Call.groups, Call.having, Call.limit, Call.offset]
  | _ =>
      simp [apply, withQuery, addColumn, addColumnFrom, addColumnAs, selectFrom, joinTable,
        filterBy, groupOn, havingAll, orderText, limitPlusOne, limitWithMax, limitTo, skip,
        followedBy, Call.part, Call.query, Call.column, Call.source, Call.join, Call.filter,
        Call.groups, Call.having, Call.orders, Call.limit, Call.offset]

lemma followedBy_assoc (d e f : SelectDraft) :
    (d.followedBy e).followedBy f = d.followedBy (e.followedBy f) := by
  simp only [followedBy, List.append_assoc, Option.or_assoc]

lemma last_cons {α : Type} (part : Call → Option α) (c : Call) (calls : List Call) :
    last part (c :: calls) = (last part calls).or (part c) := by
  rw [last, List.filterMap_cons]
  cases part c with
  | none => rw [Option.or_none, last]
  | some a =>
      rw [List.getLast?_cons, last]
      cases (calls.filterMap part).getLast? <;> rfl

lemma filterMap_cons_eq {α : Type} (part : Call → Option α) (c : Call) (calls : List Call) :
    (c :: calls).filterMap part = (part c).toList ++ calls.filterMap part := by
  rw [List.filterMap_cons]
  cases part c <;> rfl

lemma collected_cons (c : Call) (calls : List Call) :
    collected (c :: calls) = c.part.followedBy (collected calls) := by
  simp only [collected, followedBy, Call.part, filterMap_cons_eq, last_cons, List.flatMap_cons]

lemma foldl_apply : ∀ (calls : List Call) (d : SelectDraft),
    calls.foldl apply d = d.followedBy (collected calls)
  | [], d => by simp [followedBy, collected, last]
  | c :: calls, d => by
      rw [List.foldl_cons, foldl_apply calls, apply_eq, followedBy_assoc, collected_cons]

/-- **The draft behind a sequence of calls** is the one put together from them part by part. -/
theorem run_eq_collected (calls : List Call) : run calls = collected calls := by
  rw [run, foldl_apply]
  simp [followedBy, empty]

end SelectDraft

end SqlFragments
