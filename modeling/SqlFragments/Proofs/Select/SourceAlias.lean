import SqlFragments.Proofs.Column.Recognition
import SqlFragments.Proofs.Select.InlineAlias

/-!
# The alias of the table in front of a column

A column may be given with the alias of the table it is read from, which is put in front of bare
names and of nothing else.  What counts as a bare name is decided by the reader of column
references.  By the tokens of the expression that is one identifier of one segment, or one keyword:
`NULL` and `TRUE` are taken for names like any other word.

* `IsBareName` — an expression that is a single name by its tokens.
* `splitAlias_of_single` — a single token has no alias written into it.
* `OutputColumn.toText_of_bareName`, `OutputColumn.toText_of_not_bareName` — the two ways to write
  a column with a table alias.
* **`SelectDraft.addColumnFrom_prefixes`** — when the alias is written.
* `SelectDraft.not_addColumnFrom_null` — it is written in front of `NULL`.
-/

namespace SqlFragments

variable {e s : Text}

/-! ## Bare names -/

/-- An expression that is a single name: one identifier of one segment, closed and not empty if it
is quoted, or one keyword. -/
def IsBareName (e : Text) : Prop :=
  (∃ a, tokens e = [.identifier [a]] ∧ IsColumnSegment a) ∨ ∃ w, tokens e = [.keyword w]

lemma isBareName_iff : IsBareName e ↔ ∃ a, RefersTo (tokens e) [a] := by
  constructor
  · rintro (⟨a, htokens, ha⟩ | ⟨w, htokens⟩)
    · rw [htokens]
      exact ⟨a, RefersTo.identifier (List.forall_mem_singleton.mpr ha)⟩
    · rw [htokens]
      exact ⟨w, RefersTo.keyword⟩
  · rintro ⟨a, href⟩
    generalize htokens : tokens e = ts at href
    cases href with
    | keyword => exact Or.inr ⟨a, htokens⟩
    | identifier ha => exact Or.inl ⟨a, htokens, ha a (List.mem_singleton_self a)⟩

/-- **Bare names are the references without a qualifier.** -/
lemma isBareName_iff_parse :
    IsBareName e ↔ ∃ r, ColumnRef.parse e = some r ∧ r.isQualified = false := by
  rw [isBareName_iff]
  constructor
  · rintro ⟨a, href⟩
    exact ⟨_, (ColumnRef.parse_eq_some_iff e _).mpr ⟨[], a, href, rfl⟩, rfl⟩
  · rintro ⟨r, hparse, hqualified⟩
    obtain ⟨front, column, href, rfl⟩ := (ColumnRef.parse_eq_some_iff e r).mp hparse
    cases front with
    | nil => exact ⟨column, href⟩
    | cons a rest => cases hqualified

lemma parse_trim (s : Text) : ColumnRef.parse s.trim = ColumnRef.parse s := by
  rw [ColumnRef.parse, ColumnRef.parse, (Text.trimmed_trim s).trim_eq]

/-! ## Columns -/

/-- **A single token has no alias written into it**, even if it is the word `as`. -/
lemma splitAlias_of_single {t : Token} (h : tokens s = [t]) : splitAlias s = none := by
  rw [splitAlias_eq_none_iff, exists_inlineAlias_iff, h]
  rintro ⟨front, word, back, hsingle, -, hfront, -⟩
  cases front with
  | nil => exact hfront rfl
  | cons first front =>
      have hnil : [] = front ++ word :: back := (List.cons.inj hsingle).2
      exact List.append_ne_nil_of_right_ne_nil front (List.cons_ne_nil word back) hnil.symm

lemma IsBareName.splitAlias_trim (h : IsBareName e) : splitAlias e.trim = none := by
  obtain ⟨a, href⟩ := isBareName_iff.mp h
  have hagain := refersTo_join (a := []) (b := []) rfl rfl href.isSegment.1 href.isSegment.2
  rw [List.nil_append, List.append_nil, ← href.trim_eq] at hagain
  obtain ⟨t, htokens, -⟩ := hagain.text
  exact splitAlias_of_single htokens

namespace OutputColumn

/-- **In front of a bare name** the alias of the table is written. -/
lemma toText_of_bareName (h : IsBareName e) (source : Text) (name : Option Text) :
    toText ⟨e, some source, name⟩ = source ++ '.' :: toText ⟨e, none, name⟩ := by
  obtain ⟨r, hparse, hqualified⟩ := isBareName_iff_parse.mp h
  have hqualify (sql : Text) : qualify (some source) e.trim sql = source ++ '.' :: sql := by
    simp only [qualify, parse_trim, hparse, hqualified, Bool.false_eq_true, if_false]
  have hplain (sql : Text) : qualify none e.trim sql = sql := rfl
  simp only [toText, h.splitAlias_trim, hqualify, hplain]
  cases name <;> simp

/-- **In front of anything else** it is not. -/
lemma toText_of_not_bareName (h : ¬ IsBareName e) (source name : Option Text) :
    toText ⟨e, source, name⟩ = toText ⟨e, none, name⟩ := by
  have hqualify (sql : Text) : qualify source e.trim sql = sql := by
    unfold qualify
    rw [parse_trim]
    split
    · rename_i r hparse
      refine if_pos (Bool.eq_true_of_not_eq_false fun hqualified => h ?_)
      exact isBareName_iff_parse.mpr ⟨r, hparse, hqualified⟩
    · rfl
  have hplain (sql : Text) : qualify none e.trim sql = sql := rfl
  simp only [toText, hqualify, hplain]

end OutputColumn

/-! ## Statements -/

namespace SelectDraft

/-- **The alias of a table is written exactly in front of bare names.**  A column that is given with
a table alias is the column without it, with the alias and a dot in front if the tokens of the
expression are one identifier of one segment (closed and not empty if it is quoted), or one
keyword. -/
theorem addColumnFrom_prefixes (d : SelectDraft) (e source : Text)
    (hsource : source.isBlank = false) : ∃ column plain : OutputColumn,
    (d.addColumnFrom e source).columns = d.columns ++ [column] ∧
    (d.addColumn e).columns = d.columns ++ [plain] ∧
    (column.toText = source.trim ++ '.' :: plain.toText ↔ IsBareName e) ∧
    (column.toText = plain.toText ↔ ¬ IsBareName e) := by
  have hgiven : nonBlank source = some source.trim := by
    rw [nonBlank, if_neg]
    rw [Text.isEmpty_trim_iff, hsource]
    exact Bool.false_ne_true
  have hlonger (t : Text) : source.trim ++ '.' :: t ≠ t := fun heq => by
    have hlength := congrArg List.length heq
    rw [List.length_append, List.length_cons] at hlength
    omega
  refine ⟨⟨e, some source.trim, none⟩, ⟨e, none, none⟩, ?_, rfl, ?_⟩
  · rw [addColumnFrom, hgiven]
  by_cases hbare : IsBareName e
  · rw [OutputColumn.toText_of_bareName hbare]
    exact ⟨iff_of_true rfl hbare, iff_of_false (hlonger _) (not_not_intro hbare)⟩
  · rw [OutputColumn.toText_of_not_bareName hbare]
    exact ⟨iff_of_false (hlonger _).symm hbare, iff_of_true rfl hbare⟩

/-- A quoted name is prefixed, and a call is not. -/
theorem addColumnFrom_prefixes_quoted :
    Text.isBlank " u ".toList = false ∧
    (∃ column plain : OutputColumn,
      (empty.addColumnFrom " \"First\" ".toList " u ".toList).columns = [column] ∧
      column.toText = "u".toList ++ '.' :: plain.toText) ∧
    ∃ column plain : OutputColumn,
      (empty.addColumnFrom "count(*)".toList " u ".toList).columns = [column] ∧
      column.toText = plain.toText := by
  have hsource : Text.isBlank " u ".toList = false := by decide
  have htokens : tokens " \"First\" ".toList = [.identifier ["\"First\"".toList]] := by
    decide +kernel
  have hsegment : IsColumnSegment "\"First\"".toList :=
    isColumnSegment_of_isSegment (by decide)
  have hcall : tokens "count(*)".toList =
      [.function "count".toList, .leftParen, .operator ['*'], .rightParen] := by decide +kernel
  refine ⟨hsource, ?_, ?_⟩
  · obtain ⟨column, plain, hcolumn, -, hiff, -⟩ :=
      addColumnFrom_prefixes empty " \"First\" ".toList " u ".toList hsource
    exact ⟨column, plain, hcolumn, hiff.mpr (Or.inl ⟨_, htokens, hsegment⟩)⟩
  · obtain ⟨column, plain, hcolumn, -, -, hiff⟩ :=
      addColumnFrom_prefixes empty "count(*)".toList " u ".toList hsource
    refine ⟨column, plain, hcolumn, hiff.mpr ?_⟩
    rintro (⟨a, hname, -⟩ | ⟨w, hword⟩)
    · rw [hcall] at hname
      cases hname
    · rw [hcall] at hword
      cases hword

/-- **Keywords are prefixed like names**: `NULL` is read as one keyword, and written behind the
alias all the same. -/
theorem not_addColumnFrom_null :
    (empty.addColumnFrom "NULL".toList "u".toList).columns.map OutputColumn.toText =
      ["u.NULL".toList] ∧
    (empty.addColumn "NULL".toList).columns.map OutputColumn.toText = ["NULL".toList] ∧
    tokens "NULL".toList = [.keyword "NULL".toList] ∧
    ¬ ∃ a, tokens "NULL".toList = [.identifier [a]] := by
  have htokens : tokens "NULL".toList = [.keyword "NULL".toList] := by decide +kernel
  refine ⟨by decide +kernel, by decide +kernel, htokens, ?_⟩
  rintro ⟨a, ha⟩
  rw [htokens] at ha
  cases ha

end SelectDraft

end SqlFragments
