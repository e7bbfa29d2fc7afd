import Mathlib.Data.List.Basic
import SqlFragments.Filter.Report
import SqlFragments.Proofs.Filter.Mention

/-!
# Queries inside a condition report nothing

What is reported of a query is read off one condition, that of its left-most selection, and of the
condition only what stands outside the queries in it.  So two queries with the same outline of that
condition give the same report, whatever they name in front, select, read from or combine.

* `Expr.outline` — an expression with the contents of all queries in it taken out.
* **`Expr.columns_outline`** — the columns of an expression are those of its outline.
* `Body.Leftmost` — the condition of the left-most selection.
* **`filterColumns_confined`** — the report depends on the outline of that condition, and names
  columns that the condition mentions.
-/

namespace SqlFragments

/-! ## Outlines -/

/-- A query without contents. -/
def Query.hollow : Query :=
  .mk [] .other

namespace Expr

mutual

/-- An expression whose queries, at any depth, have no contents. -/
def outline : Expr → Expr
  | column path => column path
  | constant => constant
  | wildcard path => wildcard path
  | unary form e => unary form e.outline
  | binary form left right => binary form left.outline right.outline
  | many form es => many form (outlines es)
  | call name arguments clauses => call name (outlines arguments) (outlines clauses)
  | callOn name _ => callOn name Query.hollow
  | .exists _ => .exists Query.hollow
  | amongRows e _ => amongRows e.outline Query.hollow
  | subquery _ => subquery Query.hollow

def outlines : List Expr → List Expr
  | [] => []
  | e :: rest => e.outline :: outlines rest

end

lemma outlines_eq (es : List Expr) : outlines es = es.map outline := by
  induction es with
  | nil => rfl
  | cons e rest ih => rw [outlines, ih, List.map_cons]

/-- The operands that are looked at in an outline are the outlines of those in the expression. -/
lemma walked_outline (e : Expr) : e.outline.walked = e.walked.map outline := by
  cases e with
  | unary form e => cases form <;> rfl
  | binary form left right => cases form <;> rfl
  | many form es => cases form <;> first | rfl | exact outlines_eq es
  | call name arguments clauses => exact outlines_eq arguments
  | _ => rfl

lemma ownColumn_outline (e : Expr) : e.outline.ownColumn = e.ownColumn := by
  cases e <;> rfl

/-- **The columns of an expression are those of its outline.** -/
lemma columns_outline (e : Expr) : e.outline.columns = e.columns := by
  induction e using operand_induction with
  | step e ih =>
      have hwalked : ∀ sub ∈ e.walked, sub.outline.columns = sub.columns := by
        intro sub hsub
        refine ih sub ?_
        rw [operands_eq]
        exact List.mem_append_left _ hsub
      rw [columns_eq, ownColumn_outline, walked_outline, List.flatMap_map, columns_eq e]
      exact congrArg (e.ownColumn ++ ·) (List.flatMap_congr hwalked)

lemma columns_of_outline_eq {e e' : Expr} (h : e.outline = e'.outline) :
    e.columns = e'.columns := by
  rw [← columns_outline e, h, columns_outline]

end Expr

/-! ## The left-most selection -/

/-- The left-most selection of a body has the condition `filter`, or none. -/
inductive Body.Leftmost (filter : Option Expr) : Body → Prop
  | select {columns : List Expr} {sources : List Source} {clauses : List Expr} :
      Leftmost filter (.select columns sources filter clauses)
  | query {named : List Query} {body : Body} :
      Leftmost filter body → Leftmost filter (.query (.mk named body))
  | combined {left right : Body} : Leftmost filter left → Leftmost filter (.combined left right)

/-- **The condition that counts** is that of the left-most selection. -/
lemma Body.Leftmost.filter_eq {filter : Option Expr} {body : Body} (h : body.Leftmost filter) :
    body.filter = filter := by
  induction h with
  | select => rfl
  | query _ ih => rw [Body.filter, Query.filter, ih]
  | combined _ ih => rw [Body.filter, ih]

/-- A body has a left-most selection, or no condition counts. -/
lemma Body.leftmost_or_none : ∀ body : Body,
    (∃ filter, body.Leftmost filter) ∨ body.filter = none
  | .select _ _ filter _ => Or.inl ⟨filter, Leftmost.select⟩
  | .query (.mk _ body) => by
      rw [Body.filter, Query.filter]
      exact (leftmost_or_none body).imp_left fun ⟨filter, h⟩ => ⟨filter, Leftmost.query h⟩
  | .combined left _ => by
      rw [Body.filter]
      exact (leftmost_or_none left).imp_left fun ⟨filter, h⟩ => ⟨filter, Leftmost.combined h⟩
  | .values _ => Or.inr rfl
  | .other => Or.inr rfl

lemma filterColumns_of_leftmost {named : List Query} {body : Body} {filter : Option Expr}
    (h : body.Leftmost filter) :
    (Query.mk named body).filterColumns = sortedNames (filter.elim [] Expr.columns) := by
  rw [Query.filterColumns, Query.filter, h.filter_eq]
  cases filter <;> rfl

/-! ## Reports -/

/-- **Queries inside a condition report nothing**: of two texts that start with a query, the
reports are the same if the conditions of the left-most selections have the same outline.  Every
name in the report is that of a column that the condition mentions outside its queries; and
without such a selection nothing is reported. -/
theorem filterColumns_confined (named named' : List Query) (body body' : Body)
    (more more' : List Statement) :
    (∀ filter filter', body.Leftmost filter → body'.Leftmost filter' →
      filter.map Expr.outline = filter'.map Expr.outline →
      ∃ names, firstFilterColumns (.query (.mk named body) :: more) = .ok names ∧
        firstFilterColumns (.query (.mk named' body') :: more') = .ok names ∧
        ∀ name ∈ names, ∃ e path, filter = some e ∧ e.Mentions path ∧ pathColumn path = name) ∧
    ((∀ filter, ¬ body.Leftmost filter) →
      firstFilterColumns (.query (.mk named body) :: more) = .ok []) := by
  constructor
  · intro filter filter' h h' hsame
    have hcolumns : filter.elim [] Expr.columns = filter'.elim [] Expr.columns := by
      cases filter with
      | none =>
          cases filter' with
          | none => rfl
          | some e' => cases hsame
      | some e =>
          cases filter' with
          | none => cases hsame
          | some e' => exact Expr.columns_of_outline_eq (Option.some.inj hsame)
    refine ⟨sortedNames (filter.elim [] Expr.columns), ?_, ?_, ?_⟩
    · rw [firstFilterColumns, filterColumns_of_leftmost h]
    · rw [firstFilterColumns, filterColumns_of_leftmost h', hcolumns]
    · intro name hmem
      rw [mem_sortedNames] at hmem
      cases filter with
      | none => cases hmem
      | some e =>
          obtain ⟨path, hreports, hname⟩ := Expr.mem_columns_iff.mp hmem
          exact ⟨e, path, rfl, hreports.mentions, hname⟩
  · intro hnone
    have hfilter : body.filter = none :=
      (Body.leftmost_or_none body).resolve_left fun ⟨filter, h⟩ => hnone filter h
    rw [firstFilterColumns, Query.filterColumns, Query.filter, hfilter]

/-- `x in (select y)` as the condition of a selection, and `x in …` as that of the left-most one
of two branches; and a query without selection. -/
theorem filterColumns_confined_union :
    (Body.select [] [] (some (.amongRows (.column [⟨['x'], none⟩])
        (.mk [] (.select [.column [⟨['y'], none⟩]] [] none [])))) []).Leftmost
      (some (.amongRows (.column [⟨['x'], none⟩])
        (.mk [] (.select [.column [⟨['y'], none⟩]] [] none [])))) ∧
    (Body.combined (.query (.mk [] (.select [] []
        (some (.amongRows (.column [⟨['x'], none⟩]) (.mk [] .other))) []))) (.values [])).Leftmost
      (some (.amongRows (.column [⟨['x'], none⟩]) (.mk [] .other))) ∧
    (∃ names,
      firstFilterColumns [.query (.mk [] (.select [] [] (some (.amongRows
        (.column [⟨['x'], none⟩]) (.mk [] (.select [.column [⟨['y'], none⟩]] [] none [])))) []))]
        = .ok names ∧
      firstFilterColumns [.query (.mk [] (.combined (.query (.mk [] (.select [] []
        (some (.amongRows (.column [⟨['x'], none⟩]) (.mk [] .other))) []))) (.values [])))]
        = .ok names ∧
      ∀ name ∈ names, ∃ e path,
        some (.amongRows (.column [⟨['x'], none⟩])
          (.mk [] (.select [.column [⟨['y'], none⟩]] [] none []))) = some e ∧
        Expr.Mentions path e ∧ pathColumn path = name) ∧
    firstFilterColumns [.query (.mk [] (.values []))] = .ok [] :=
  ⟨.select, .combined (.query .select),
    (filterColumns_confined [] [] _ _ [] []).1 _ _ .select (.combined (.query .select)) rfl,
    (filterColumns_confined [] [] (.values []) .other [] []).2 (by rintro _ ⟨⟩)⟩

end SqlFragments
