import SqlFragments.Proofs.Condition.Conjunction
import SqlFragments.Proofs.KeywordCase.Kept
import SqlFragments.Proofs.Order.Entry
import SqlFragments.Proofs.Select.Calls
import SqlFragments.Proofs.Text.Join

/-!
# Blank entries of a statement

Callers hand over texts that may be blank.  A blank filter, a blank entry to group by and a blank
entry to order by leave no trace, each by a check of its own: an empty condition is no clause, and
the other two are not added to their lists.  A column is added whatever it is, so a blank one takes
a place in the statement.

* `Condition.not_isBlank_toText` — a condition that is not empty is not written as a blank text.
* `OutputColumn.isBlank_toText_iff` — when a column is.
* `Tidy`, `tidy_run` — there is no blank entry in the lists to group and to order by, after any
  calls.
* `WritesNoBlank`, **`build_entries`** — what a statement writes, and when a column of it is blank.
* `not_build_entries_column` — a statement with a blank column.
-/

namespace SqlFragments

/-! ## Conditions -/

namespace Condition

mutual

/-- **A condition that is not empty** is not written as a blank text. -/
lemma not_isBlank_toText : ∀ c : Condition, c.isEmpty = false → c.toText.isBlank = false
  | raw sql, h => by
      rw [isEmpty] at h
      rw [toText, isBlank_lowerKeywords, (trimmed_stripConnector sql).isBlank_eq, h]
  | all children, h => by
      rw [isEmpty] at h
      rw [toText]
      obtain ⟨hne, htexts⟩ := not_isBlank_texts children
      exact Text.not_isBlank_join (hne h) htexts
  | any children, h => by
      rw [isEmpty] at h
      rw [toText]
      obtain ⟨hne, htexts⟩ := not_isBlank_texts children
      exact Text.not_isBlank_join (hne h) htexts

/-- Children that are not all empty are written, and none of them as a blank text. -/
lemma not_isBlank_texts : ∀ children : List Condition,
    (allEmpty children = false → texts children ≠ []) ∧
      ∀ t ∈ texts children, t.isBlank = false
  | [] => ⟨nofun, List.forall_mem_nil _⟩
  | c :: rest => by
      obtain ⟨hne, htexts⟩ := not_isBlank_texts rest
      rw [allEmpty, texts]
      cases hempty : c.isEmpty with
      | true =>
          rw [Bool.true_and, if_pos rfl]
          exact ⟨hne, htexts⟩
      | false =>
          rw [if_neg Bool.false_ne_true]
          exact ⟨fun _ => List.cons_ne_nil _ _,
            List.forall_mem_cons.mpr ⟨not_isBlank_toText c hempty, htexts⟩⟩

end

end Condition

/-- A condition that is written stands behind its word and is not blank. -/
lemma conditionClause_not_isBlank (word : String) (condition : Option Condition) :
    ∀ clause ∈ conditionClause word condition,
      ∃ t : Text, clause = word.toList ++ ' ' :: t ∧ t.isBlank = false := by
  intro clause hclause
  cases condition with
  | none => cases hclause
  | some c =>
      rw [conditionClause] at hclause
      split_ifs at hclause with hempty
      · cases hclause
      · exact ⟨c.toText, List.mem_singleton.mp hclause,
          c.not_isBlank_toText (Bool.eq_false_of_not_eq_true hempty)⟩

/-! ## Columns -/

lemma not_isBlank_as (a b : Text) : Text.isBlank (a ++ " as ".toList ++ b) = false := by
  have has : Text.isBlank " as ".toList = false := by decide
  rw [Text.isBlank_append, Text.isBlank_append, has, Bool.and_false, Bool.false_and]

lemma qualify_nil (source : Option Text) : qualify source [] [] = [] := by
  have hparse : ColumnRef.parse [] = none := by decide +kernel
  cases source with
  | none => rfl
  | some aliasName => simp only [qualify, hparse]

/-- A table alias in front of a column does not make it blank. -/
lemma not_isBlank_qualify (source : Option Text) (expression : Text) {sql : Text}
    (hsql : sql.isBlank = false) : (qualify source expression sql).isBlank = false := by
  unfold qualify
  split
  · split_ifs
    · exact hsql
    · have hdot : Text.isBlank ('.' :: sql) = false := by
        rw [Text.isBlank, List.all_cons, show isBlank '.' = false by decide, Bool.false_and]
      rw [Text.isBlank_append, hdot, Bool.and_false]
  · exact hsql

/-- **A column is blank** when its expression is and it has no alias of its own. -/
lemma OutputColumn.isBlank_toText_iff (c : OutputColumn) :
    c.toText.isBlank = true ↔ c.expression.isBlank = true ∧ c.name = none := by
  obtain ⟨expression, source, name⟩ := c
  unfold toText
  cases hblank : expression.isBlank with
  | true =>
      have htrim : expression.trim = [] :=
        List.isEmpty_iff.mp ((Text.isEmpty_trim_iff _).mpr hblank)
      have hsplit : splitAlias [] = none := by decide +kernel
      simp only [htrim, hsplit, lowerKeywords_eq_nil_iff.mpr, qualify_nil]
      cases name with
      | none => exact iff_of_true rfl ⟨trivial, rfl⟩
      | some name => exact iff_of_false (Bool.eq_false_iff.mp (not_isBlank_as [] name)) nofun
  | false =>
      have hsql : (lowerKeywords expression.trim).isBlank = false := by
        rw [isBlank_lowerKeywords, Text.isBlank_trim, hblank]
      refine iff_of_false (Bool.eq_false_iff.mp ?_) nofun
      cases hsplit : splitAlias expression.trim with
      | some parts =>
          simp only [hsplit]
          exact not_isBlank_as _ _
      | none =>
          simp only [hsplit]
          cases name with
          | some name => exact not_isBlank_as _ _
          | none => exact not_isBlank_qualify source _ hsql

namespace SelectDraft

/-! ## Drafts -/

/-- A draft with no blank entry to group or to order by. -/
structure Tidy (d : SelectDraft) : Prop where
  groups : ∀ g ∈ d.groupBy, g.isBlank = false
  orders : ∀ o ∈ d.orderBy, o.column.isBlank = false

variable {d e : SelectDraft}

lemma Tidy.followedBy (hd : Tidy d) (he : Tidy e) : Tidy (d.followedBy e) where
  groups := List.forall_mem_append.mpr ⟨hd.groups, he.groups⟩
  orders := List.forall_mem_append.mpr ⟨hd.orders, he.orders⟩

/-- What one call gives to the lists is not blank. -/
lemma Call.tidy_part (c : Call) : Tidy c.part where
  groups := by
    cases c with
    | groupOn columns =>
        intro g hg
        have hkept := (List.mem_filter.mp hg).2
        rw [Bool.not_eq_true', ← Bool.not_eq_true, Text.isEmpty_trim_iff] at hkept
        exact Bool.eq_false_of_not_eq_true hkept
    | _ => exact List.forall_mem_nil _
  orders := by
    cases c with
    | orderOn column direction nulls =>
        intro o ho
        simp only [part, orders] at ho
        split_ifs at ho with hblank
        · cases ho
        · rw [List.mem_singleton.mp ho, Text.isBlank_trim]
          rw [Text.isEmpty_trim_iff] at hblank
          exact Bool.eq_false_of_not_eq_true hblank
    | orderText text =>
        intro o ho
        obtain ⟨segment, -, hparse⟩ := List.mem_filterMap.mp ho
        exact OrderItem.column_of_parse hparse
    | _ => exact List.forall_mem_nil _

/-- **One more call** adds no blank entry. -/
lemma Tidy.apply (h : Tidy d) (c : Call) : Tidy (d.apply c) := by
  rw [apply_eq]
  exact h.followedBy c.tidy_part

lemma Tidy.foldl_apply (h : Tidy d) (calls : List Call) :
    Tidy (calls.foldl SelectDraft.apply d) := by
  induction calls generalizing d with
  | nil => exact h
  | cons c rest ih => exact ih (h.apply c)

/-- **No calls** leave a blank entry to group or to order by. -/
theorem tidy_run (calls : List Call) : Tidy (run calls) :=
  Tidy.foldl_apply ⟨List.forall_mem_nil _, List.forall_mem_nil _⟩ calls

/-! ## Statements -/

/-- A draft of which no condition and no entry to group or to order by is written as a blank
text. -/
structure WritesNoBlank (d : SelectDraft) : Prop where
  filter : ∀ clause ∈ conditionClause "where" d.filter,
    ∃ t : Text, clause = "where".toList ++ ' ' :: t ∧ t.isBlank = false
  groups : ∀ g ∈ d.groupBy.map lowerKeywords, g.isBlank = false
  having : ∀ clause ∈ conditionClause "having" d.having,
    ∃ t : Text, clause = "having".toList ++ ' ' :: t ∧ t.isBlank = false
  orders : ∀ o ∈ d.orderBy.map OrderItem.toText, o.isBlank = false

lemma Tidy.writesNoBlank (h : Tidy d) : WritesNoBlank d where
  filter := conditionClause_not_isBlank "where" d.filter
  groups := List.forall_mem_map.mpr fun g hg => (isBlank_lowerKeywords g).trans (h.groups g hg)
  having := conditionClause_not_isBlank "having" d.having
  orders := List.forall_mem_map.mpr fun o ho => by
    have hcolumn : (lowerKeywords o.column.trim).isBlank = false := by
      rw [isBlank_lowerKeywords, Text.isBlank_trim, h.orders o ho]
    rw [OrderItem.toText, List.append_assoc]
    exact Text.not_isBlank_append_left hcolumn _

lemma build_eq_ok {sql : Text} (h : d.build = .ok sql) : ∃ table name,
    d.source = some (table, name) ∧ sql = Text.join [' '] (d.clauses table name) := by
  rw [build] at h
  split at h
  · cases h
  · split_ifs at h
    exact ⟨_, _, ‹_›, (Except.ok.inj h).symm⟩

lemma build_eq_noColumns_iff :
    d.build = .error .noColumns ↔ d.source.isSome = true ∧ d.columns = [] := by
  rw [build]
  cases d.source with
  | none => simp
  | some source =>
      cases d.columns <;> simp

/-- **What a statement writes.**  Its conditions and its entries to group and to order by are never
blank, whatever the calls were given.  An entry of its columns is blank exactly when a call gave a
blank expression and no alias: such a column counts as one. -/
theorem build_entries (calls : List Call) :
    (∀ sql, (run calls).build = .ok sql → ∃ table name,
      (run calls).source = some (table, name) ∧
        sql = Text.join [' '] ((run calls).clauses table name) ∧ WritesNoBlank (run calls) ∧
        ((∃ e ∈ (run calls).columns.map OutputColumn.toText, e.isBlank = true) ↔
          ∃ call ∈ calls, ∃ c, Call.column call = some c ∧
            c.expression.isBlank = true ∧ c.name = none)) ∧
    ((run calls).build = .error .noColumns ↔
      (run calls).source.isSome = true ∧ ∀ call ∈ calls, Call.column call = none) := by
  have hcolumns : (run calls).columns = calls.filterMap Call.column := by
    rw [run_eq_collected, collected]
  refine ⟨fun sql hbuild => ?_, ?_⟩
  · obtain ⟨table, name, hsource, hsql⟩ := build_eq_ok hbuild
    refine ⟨table, name, hsource, hsql, (tidy_run calls).writesNoBlank, ?_⟩
    rw [hcolumns]
    constructor
    · rintro ⟨e, he, hblank⟩
      obtain ⟨c, hc, rfl⟩ := List.mem_map.mp he
      obtain ⟨call, hcall, hgiven⟩ := List.mem_filterMap.mp hc
      exact ⟨call, hcall, c, hgiven, c.isBlank_toText_iff.mp hblank⟩
    · rintro ⟨call, hcall, c, hgiven, hblank⟩
      exact ⟨c.toText, List.mem_map_of_mem (List.mem_filterMap.mpr ⟨call, hcall, hgiven⟩),
        c.isBlank_toText_iff.mpr hblank⟩
  · rw [build_eq_noColumns_iff, hcolumns, List.filterMap_eq_nil_iff]

/-- Calls with a blank entry for each clause but that of the columns. -/
def blankCalls : List Call :=
  [.addColumn "name".toList, .groupOn ["a".toList, " ".toList], .selectFrom "t".toList [],
    .filterBy (.all [.raw " ".toList, .raw "WHERE x".toList]), .havingAll (.raw "and ".toList),
    .orderText "b DESC, , c".toList, .orderOn " ".toList .asc .first]

theorem build_entries_blank : WritesNoBlank (run blankCalls) ∧
    (run blankCalls).build =
      .ok "select name from t where x group by a order by b desc, c".toList ∧
    ∀ e ∈ (run blankCalls).columns.map OutputColumn.toText, e.isBlank = false := by
  have hbuild : (run blankCalls).build =
      .ok "select name from t where x group by a order by b desc, c".toList := by decide +kernel
  obtain ⟨table, name, -, -, hwrites, hiff⟩ := (build_entries blankCalls).1 _ hbuild
  refine ⟨hwrites, hbuild, fun e he => Bool.eq_false_of_not_eq_true fun hblank => ?_⟩
  obtain ⟨call, hcall, c, hgiven, hexpression, -⟩ := hiff.mp ⟨e, he, hblank⟩
  fin_cases hcall <;> cases hgiven
  exact absurd hexpression (by decide)

/-- **A blank column takes a place in the statement**, where a blank entry to group or to order by
is passed over. -/
theorem not_build_entries_column :
    (run [.addColumn " ".toList, .selectFrom "t".toList []]).build =
        .ok "select  from t".toList ∧
      ¬ (∀ e ∈ (run [.addColumn " ".toList, .selectFrom "t".toList []]).columns.map
          OutputColumn.toText, e.isBlank = false) ∧
      (run [.addColumn "a".toList, .selectFrom "t".toList [], .groupOn [" ".toList],
          .orderOn " ".toList .asc .first, .orderText " , ".toList]).build =
        .ok "select a from t".toList := by
  refine ⟨by decide +kernel, by decide +kernel, by decide +kernel⟩

end SelectDraft

end SqlFragments
