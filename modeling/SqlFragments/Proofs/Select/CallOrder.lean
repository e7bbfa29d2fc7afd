import Mathlib.Data.List.Basic
import SqlFragments.Proofs.Select.Calls

/-!
# The order of calls

Every call concerns one field of a draft.  Of the fields that are lists, the calls that concern a
field matter in their order; of those that hold a value, only the last call does.  Calls that
concern different fields may stand in any order, so a statement does not tell how its clauses were
filled in turn.

* `Field`, `Call.field` — the fields of a draft, and the one that a call concerns.
* `concerning` — the calls that concern a field.
* `FilledAlike` — two sequences of calls that say the same to every field.
* `flatMap_concerning`, `GivenFor.filterMap_concerning`, `GivenFor.last_eq_bind` — a field is read
  off the calls that concern it.
* **`build_of_filledAlike`** — such sequences build the same statement, or fail for the same reason.
-/

namespace SqlFragments

namespace SelectDraft

/-! ## Fields -/

/-- The fields of a draft. -/
inductive Field where
  | queries
  | columns
  | source
  | joins
  | filter
  | groupBy
  | having
  | orderBy
  | limit
  | offset
deriving DecidableEq, Repr

/-- The fields that calls add to; in the others, a call takes the place of the one before. -/
def Field.isList : Field → Bool
  | queries | columns | joins | groupBy | orderBy => true
  | source | filter | having | limit | offset => false

/-- The field that a call concerns. -/
def Call.field : Call → Field
  | withQuery _ _ => .queries
  | addColumn _ | addColumnFrom _ _ | addColumnAs _ _ _ => .columns
  | selectFrom _ _ => .source
  | joinTable _ _ _ _ => .joins
  | filterBy _ => .filter
  | groupOn _ => .groupBy
  | havingAll _ => .having
  | orderOn _ _ _ | orderText _ => .orderBy
  | limitTo _ | limitPlusOne _ | limitWithMax _ _ => .limit
  | skip _ => .offset

/-- The calls that concern a field. -/
def concerning (f : Field) (calls : List Call) : List Call :=
  calls.filter fun c => c.field = f

/-- Two sequences of calls that say the same to every field. -/
structure FilledAlike (a b : List Call) : Prop where
  lists : ∀ f : Field, f.isList = true → concerning f a = concerning f b
  values : ∀ f : Field, f.isList = false →
    (concerning f a).getLast? = (concerning f b).getLast?

/-! ## A field is read off the calls that concern it -/

variable {α : Type} {f : Field} {a b : List Call}

lemma flatMap_concerning {part : Call → List α} (hpart : ∀ c, c.field ≠ f → part c = []) :
    ∀ calls : List Call, (concerning f calls).flatMap part = calls.flatMap part
  | [] => rfl
  | c :: rest => by
      have hrest := flatMap_concerning hpart rest
      rw [concerning] at hrest ⊢
      by_cases hc : c.field = f
      · rw [List.filter_cons_of_pos (by simpa using hc), List.flatMap_cons, List.flatMap_cons,
          hrest]
      · rw [List.filter_cons_of_neg (by simpa using hc), List.flatMap_cons, hrest, hpart c hc,
          List.nil_append]

/-- A part that is given by the calls that concern a field, and by no others. -/
def GivenFor (f : Field) (part : Call → Option α) : Prop :=
  ∀ c : Call, (part c).isSome = decide (c.field = f)

lemma GivenFor.filterMap_concerning {part : Call → Option α} (hpart : GivenFor f part)
    (calls : List Call) : (concerning f calls).filterMap part = calls.filterMap part := by
  rw [List.filterMap_eq_flatMap_toList, List.filterMap_eq_flatMap_toList]
  refine flatMap_concerning (fun c hc => ?_) calls
  have hnone := hpart c
  rw [decide_eq_false hc, Option.isSome_eq_false_iff, Option.isNone_iff_eq_none] at hnone
  rw [hnone, Option.toList_none]

/-- The last value is that of the last call that concerns the field. -/
lemma GivenFor.last_eq_bind {part : Call → Option α} (hpart : GivenFor f part)
    (calls : List Call) : last part calls = (concerning f calls).getLast?.bind part := by
  rw [last, ← hpart.filterMap_concerning]
  rcases List.eq_nil_or_concat (concerning f calls) with hnil | ⟨front, c, hc⟩
  · rw [hnil]
    rfl
  · have hmem : c ∈ concerning f calls := by
      rw [hc, List.concat_eq_append]
      exact List.mem_concat_self
    have hgiven := hpart c
    rw [show decide (c.field = f) = true from (List.mem_filter.mp hmem).2] at hgiven
    obtain ⟨x, hx⟩ := Option.isSome_iff_exists.mp hgiven
    rw [hc, List.concat_eq_append, List.filterMap_append, List.filterMap_cons_some hx,
      List.filterMap_nil, List.getLast?_concat, List.getLast?_concat, Option.bind_some, hx]

lemma FilledAlike.flatMap_eq (h : FilledAlike a b) (hlist : f.isList = true)
    {part : Call → List α} (hpart : ∀ c, c.field ≠ f → part c = []) :
    a.flatMap part = b.flatMap part := by
  rw [← flatMap_concerning hpart a, h.lists f hlist, flatMap_concerning hpart]

lemma FilledAlike.filterMap_eq (h : FilledAlike a b) (hlist : f.isList = true)
    {part : Call → Option α} (hpart : GivenFor f part) : a.filterMap part = b.filterMap part := by
  rw [← hpart.filterMap_concerning a, h.lists f hlist, hpart.filterMap_concerning]

lemma FilledAlike.last_eq (h : FilledAlike a b) (hvalue : f.isList = false)
    {part : Call → Option α} (hpart : GivenFor f part) : last part a = last part b := by
  rw [hpart.last_eq_bind, hpart.last_eq_bind, h.values f hvalue]

/-! ## The statement -/

/-- **Calls that say the same to every field** give the same draft. -/
lemma FilledAlike.collected_eq (h : FilledAlike a b) : collected a = collected b := by
  have hqueries : GivenFor .queries Call.query := fun c => by cases c <;> rfl
  have hcolumns : GivenFor .columns Call.column := fun c => by cases c <;> rfl
  have hsource : GivenFor .source Call.source := fun c => by cases c <;> rfl
  have hjoins : GivenFor .joins Call.join := fun c => by cases c <;> rfl
  have hfilter : GivenFor .filter Call.filter := fun c => by cases c <;> rfl
  have hhaving : GivenFor .having Call.having := fun c => by cases c <;> rfl
  have hlimit : GivenFor .limit Call.limit := fun c => by cases c <;> rfl
  have hoffset : GivenFor .offset Call.offset := fun c => by cases c <;> rfl
  have hgroups : ∀ c : Call, c.field ≠ .groupBy → c.groups = [] := fun c hc => by
    cases c with
    | groupOn columns => exact absurd rfl hc
    | _ => rfl
  have horders : ∀ c : Call, c.field ≠ .orderBy → c.orders = [] := fun c hc => by
    cases c with
    | orderOn column direction nulls => exact absurd rfl hc
    | orderText text => exact absurd rfl hc
    | _ => rfl
  rw [collected, collected, SelectDraft.mk.injEq]
  exact ⟨h.filterMap_eq rfl hqueries, h.filterMap_eq rfl hcolumns, h.last_eq rfl hsource,
    h.filterMap_eq rfl hjoins, h.last_eq rfl hfilter, h.flatMap_eq rfl hgroups,
    h.last_eq rfl hhaving, h.flatMap_eq rfl horders, h.last_eq rfl hlimit, h.last_eq rfl hoffset⟩

/-- **Clauses may be filled in any order.**  Two sequences of calls build the same statement, or
fail for the same reason, if they add the same to each list in the same order and end with the same
call for each value, however the calls for different fields are interleaved. -/
theorem build_of_filledAlike (h : FilledAlike a b) : (run a).build = (run b).build := by
  rw [run_eq_collected, run_eq_collected, h.collected_eq]

/-- A page of a search, filled as it comes: two tables and three limits are set on the way. -/
def pageCalls : List Call :=
  [.limitTo 500, .orderText "u.name DESC, id".toList, .addColumn "u.name".toList,
    .selectFrom "archive".toList "u".toList, .limitWithMax 80 50, .groupOn ["u.name".toList],
    .filterBy (.raw "u.active".toList), .orderOn "u.age".toList .asc .last,
    .joinTable .left "logs".toList "l".toList fun name => name ++ ".user_id = u.id".toList,
    .selectFrom "users".toList "u".toList, .addColumnAs "COUNT(*)".toList [] "n".toList,
    .withQuery "logs".toList "select 1".toList, .limitPlusOne 20, .groupOn [" ".toList],
    .havingAll (.raw "count(*) > 1".toList)]

/-- The same page, one clause after the other, with another limit set at first. -/
def pageCallsByClause : List Call :=
  [.withQuery "logs".toList "select 1".toList, .addColumn "u.name".toList,
    .addColumnAs "COUNT(*)".toList [] "n".toList, .selectFrom "users".toList "u".toList,
    .joinTable .left "logs".toList "l".toList fun name => name ++ ".user_id = u.id".toList,
    .filterBy (.raw "u.active".toList), .groupOn ["u.name".toList], .groupOn [" ".toList],
    .havingAll (.raw "count(*) > 1".toList), .orderText "u.name DESC, id".toList,
    .orderOn "u.age".toList .asc .last, .limitTo 7, .limitPlusOne 20]

theorem build_of_filledAlike_page : FilledAlike pageCalls pageCallsByClause ∧
    (run pageCalls).build = (run pageCallsByClause).build := by
  have hlists : ∀ f : Field, f.isList = true →
      concerning f pageCalls = concerning f pageCallsByClause := by
    intro f hf
    cases f <;> first | rfl | cases hf
  have hvalues : ∀ f : Field, f.isList = false →
      (concerning f pageCalls).getLast? = (concerning f pageCallsByClause).getLast? := by
    intro f _
    cases f <;> rfl
  exact ⟨⟨hlists, hvalues⟩, build_of_filledAlike ⟨hlists, hvalues⟩⟩

end SelectDraft

end SqlFragments
