import Mathlib.Tactic.Common
import SqlFragments.Filter.Columns

/-!
# Which columns of a condition are reported

A column is mentioned in an expression when it stands anywhere in it outside the queries inside.
`Expr.columns` goes down into most forms of expressions, but not into all: what stands below a
form that it passes over is mentioned and not reported.

* `Expr.operands`, `Expr.walked`, `Expr.passedOver` — the expressions directly inside another one,
  those that are looked at, and those that are not.
* `Expr.Mentions`, `Expr.Reports`, `Expr.Overlooks` — a column stands somewhere in an expression,
  at a place that is looked at, or at one that is not.
* **`mem_columns_iff`** — the columns that are found are those at places that are looked at.
* **`reports_walked_mentions`** — every mention is reported or overlooked, and the report holds the
  former exactly.
* **`overlay_overlooks_column`** — a mention that is not reported.
-/

namespace SqlFragments

namespace Expr

/-! ## Operands -/

/-- The expressions directly inside another one.  Queries inside have expressions of their own,
which are none of these. -/
def operands : Expr → List Expr
  | unary _ e => [e]
  | binary _ left right => [left, right]
  | many _ es => es
  | call _ arguments clauses => arguments ++ clauses
  | amongRows e _ => [e]
  | column _ | constant | wildcard _ | callOn _ _ | .exists _ | subquery _ => []

/-- The operands that are looked at for columns: of comparisons and other operators, tests, lists,
ranges, patterns, `case`, tuples and casts, the arguments of calls, and those of the calls with a
syntax of their own. -/
def walked : Expr → List Expr
  | unary (.operator _) e | unary .parenthesised e | unary (.test _) e | unary .cast e
  | unary .collation e | unary .extract e | unary .ceiling e | unary .floor e
  | unary .interval e => [e]
  | binary (.operator _) left right | binary .distinct left right | binary .quantified left right
  | binary .position left right | binary .timeZone left right | binary .unnest left right
  | binary .pattern left right => [left, right]
  | many .tuple es | many .among es | many .between es | many .choice es | many .substring es
  | many .trim es => es
  | call _ arguments _ => arguments
  | amongRows e _ => [e]
  | _ => []

/-- The operands that are passed over: of outer joins and hierarchies, structs and their fields,
matches with a regular expression, arguments named by an expression, `overlay` and `convert`,
arrays, dictionaries, subscripts, paths and groupings; and the clauses of a call. -/
def passedOver : Expr → List Expr
  | unary .outerJoin e | unary .prior e | unary .named e | unary .field e => [e]
  | binary .regularExpression left right | binary .namedArgument left right => [left, right]
  | many .overlay es | many .conversion es | many .array es | many .struct es
  | many .dictionary es | many .subscript es | many .path es | many .grouping es => es
  | call _ _ clauses => clauses
  | _ => []

/-- **Every operand is looked at or passed over.** -/
lemma operands_eq (e : Expr) : e.operands = e.walked ++ e.passedOver := by
  cases e with
  | unary form e => cases form <;> rfl
  | binary form left right => cases form <;> rfl
  | many form es => cases form <;> first | rfl | exact (List.append_nil es).symm
  | _ => rfl

lemma sizeOf_lt_of_mem_operands {e sub : Expr} (h : sub ∈ e.operands) : sizeOf sub < sizeOf e := by
  cases e with
  | unary form e =>
      obtain rfl := List.mem_singleton.mp h
      simp only [unary.sizeOf_spec]
      omega
  | binary form left right =>
      simp only [binary.sizeOf_spec]
      rcases List.mem_cons.mp h with rfl | h
      · omega
      · obtain rfl := List.mem_singleton.mp h
        omega
  | many form es =>
      have hlt : sizeOf sub < sizeOf es := List.sizeOf_lt_of_mem h
      simp only [many.sizeOf_spec]
      omega
  | call name arguments clauses =>
      simp only [call.sizeOf_spec]
      rcases List.mem_append.mp h with h | h
      · have hlt := List.sizeOf_lt_of_mem h
        omega
      · have hlt := List.sizeOf_lt_of_mem h
        omega
  | amongRows e q =>
      obtain rfl := List.mem_singleton.mp h
      simp only [amongRows.sizeOf_spec]
      omega
  | _ => cases h

/-- **Induction on an expression** through its operands. -/
@[elab_as_elim]
lemma operand_induction {P : Expr → Prop} (step : ∀ e, (∀ sub ∈ e.operands, P sub) → P e)
    (e : Expr) : P e := by
  induction hn : sizeOf e using Nat.strongRecOn generalizing e with
  | _ n ih =>
      refine step e fun sub hsub => ih (sizeOf sub) ?_ sub rfl
      rw [← hn]
      exact sizeOf_lt_of_mem_operands hsub

/-! ## Mentions -/

/-- The column `path` stands somewhere in an expression, outside the queries inside. -/
inductive Mentions (path : List Name) : Expr → Prop
  | column : Mentions path (.column path)
  | operand {e sub : Expr} : sub ∈ e.operands → Mentions path sub → Mentions path e

/-- The column `path` stands at a place of an expression that is looked at, as are all
expressions around it. -/
inductive Reports (path : List Name) : Expr → Prop
  | column : Reports path (.column path)
  | walked {e sub : Expr} : sub ∈ e.walked → Reports path sub → Reports path e

/-- The column `path` stands in an operand that is passed over. -/
inductive Overlooks (path : List Name) : Expr → Prop
  | here {e sub : Expr} : sub ∈ e.passedOver → Mentions path sub → Overlooks path e
  | inside {e sub : Expr} : sub ∈ e.walked → Overlooks path sub → Overlooks path e

variable {path : List Name} {e : Expr}

lemma Reports.mentions (h : Reports path e) : Mentions path e := by
  induction h with
  | column => exact Mentions.column
  | @walked e sub hsub _ ih =>
      refine Mentions.operand ?_ ih
      rw [operands_eq]
      exact List.mem_append_left _ hsub

lemma Overlooks.mentions (h : Overlooks path e) : Mentions path e := by
  induction h with
  | @here e sub hsub hmentions =>
      refine Mentions.operand ?_ hmentions
      rw [operands_eq]
      exact List.mem_append_right _ hsub
  | @inside e sub hsub _ ih =>
      refine Mentions.operand ?_ ih
      rw [operands_eq]
      exact List.mem_append_left _ hsub

/-- **Every mention is reported or overlooked.** -/
lemma mentions_iff : Mentions path e ↔ Reports path e ∨ Overlooks path e := by
  constructor
  · intro h
    induction h with
    | column => exact Or.inl Reports.column
    | @operand e sub hsub hmentions ih =>
        rw [operands_eq] at hsub
        rcases List.mem_append.mp hsub with hwalked | hpassed
        · exact ih.imp (Reports.walked hwalked) (Overlooks.inside hwalked)
        · exact Or.inr (Overlooks.here hpassed hmentions)
  · rintro (h | h)
    · exact h.mentions
    · exact h.mentions

/-! ## The columns that are found -/

lemma columnsOfAll_eq (es : List Expr) : columnsOfAll es = es.flatMap columns := by
  induction es with
  | nil => rfl
  | cons e rest ih => rw [columnsOfAll, ih, List.flatMap_cons]

/-- The bare name of an expression that is a column. -/
def ownColumn : Expr → List Text
  | column path => [pathColumn path]
  | _ => []

/-- **The columns of an expression** are its own name and those of the operands that are looked
at. -/
lemma columns_eq (e : Expr) : e.columns = e.ownColumn ++ e.walked.flatMap columns := by
  have hone : ∀ e : Expr, [e].flatMap columns = e.columns := fun e => by
    rw [List.flatMap_cons, List.flatMap_nil, List.append_nil]
  have htwo : ∀ left right : Expr,
      [left, right].flatMap columns = left.columns ++ right.columns := fun left right => by
    rw [List.flatMap_cons, hone]
  cases e with
  | unary form e =>
      cases form <;> simp only [columns, UnaryForm.reports, ownColumn, walked, hone] <;> rfl
  | binary form left right =>
      cases form <;> simp only [columns, BinaryForm.reports, ownColumn, walked, htwo] <;> rfl
  | many form es =>
      cases form <;>
        simp only [columns, ManyForm.reports, ownColumn, walked, columnsOfAll_eq] <;> rfl
  | call name arguments clauses => exact columnsOfAll_eq arguments
  | amongRows e q => exact (hone e).symm
  | _ => rfl

/-- **The columns that are found** are those at places that are looked at. -/
lemma mem_columns_iff {name : Text} :
    name ∈ e.columns ↔ ∃ path, Reports path e ∧ pathColumn path = name := by
  constructor
  · induction e using operand_induction with
    | step e ih =>
        intro hmem
        rw [columns_eq, List.mem_append, List.mem_flatMap] at hmem
        rcases hmem with hown | ⟨sub, hsub, hmem⟩
        · cases e with
          | column path => exact ⟨path, Reports.column, (List.mem_singleton.mp hown).symm⟩
          | _ => cases hown
        · have hoperand : sub ∈ e.operands := by
            rw [operands_eq]
            exact List.mem_append_left _ hsub
          obtain ⟨path, hreports, hname⟩ := ih sub hoperand hmem
          exact ⟨path, Reports.walked hsub hreports, hname⟩
  · rintro ⟨path, hreports, rfl⟩
    induction hreports with
    | column => exact List.mem_singleton.mpr rfl
    | @walked e sub hsub _ ih =>
        rw [columns_eq, List.mem_append, List.mem_flatMap]
        exact Or.inr ⟨sub, hsub, ih⟩

end Expr

/-! ## The report -/

lemma mem_insertName {a name : Text} (names : List Text) :
    name ∈ insertName a names ↔ name = a ∨ name ∈ names := by
  induction names with
  | nil => rw [insertName, List.mem_cons]
  | cons b rest ih =>
      rw [insertName]
      split_ifs with hlt heq
      · rw [List.mem_cons]
      · rw [heq, List.mem_cons, ← or_assoc, or_self]
      · rw [List.mem_cons, ih, List.mem_cons, or_left_comm]

/-- Names in order are the same names. -/
lemma mem_sortedNames {name : Text} (names : List Text) :
    name ∈ sortedNames names ↔ name ∈ names := by
  induction names with
  | nil => rfl
  | cons a rest ih =>
      rw [sortedNames, List.foldr_cons, mem_insertName, ← sortedNames, ih, List.mem_cons]

/-- **Every mention of a column is reported or overlooked, and the report holds the former**: the
names are those of the columns at places that are looked at.  So a condition without operands that
are passed over has all its columns reported. -/
theorem reports_walked_mentions (e : Expr) :
    (∀ name, name ∈ sortedNames e.columns ↔ ∃ path, e.Reports path ∧ pathColumn path = name) ∧
      ∀ path, e.Mentions path ↔ e.Reports path ∨ e.Overlooks path :=
  ⟨fun _ => (mem_sortedNames e.columns).trans Expr.mem_columns_iff,
    fun _ => Expr.mentions_iff⟩

/-- The column `code` stands in `overlay(code placing 'x' from 1) = 'b'` and is not reported. -/
theorem overlay_overlooks_column :
    ∃ e path, e = Expr.binary (.operator "=")
        (.many .overlay [.column path, .constant, .constant]) .constant ∧
      path = [⟨"code".toList, none⟩] ∧ e.Mentions path ∧
      pathColumn path ∉ sortedNames e.columns := by
  refine ⟨_, _, rfl, rfl, ?_, by decide⟩
  exact Expr.Mentions.operand List.mem_cons_self
    (Expr.Mentions.operand List.mem_cons_self Expr.Mentions.column)

end SqlFragments
