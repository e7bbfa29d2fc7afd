import SqlFragments.CommandLine.Run
import SqlFragments.Proofs.Condition.Conjunction
import SqlFragments.Proofs.KeywordCase.Seam

/-!
# Filters joined as texts and as a condition

There are two ways from filters to a clause.  Their texts can be joined, as they are written; or
they can be the children of a condition, which lower-cases each of them before it puts `and` between
them.  Lower-casing the joined text would not do the same if a keyword could go on from one filter
to the next, or if a quote of one filter were open at the next.  The word between them prevents
the first.

* `QuotesClosed.stripConnector` — what is left of a filter without its connector.
* `Condition.toText_all_raw` — filters as the children of a condition.
* `SelectRequest.draft_eq`, `SelectRequest.clausesAround` — the statement of a selection, with a gap
  for the clause of its filters.
* **`lowerKeywords_joinConditions`** — the two ways agree up to the case of keywords.
-/

namespace SqlFragments

/-! ## Filters that say something -/

lemma QuotesClosed.stripConnector {f : Text} (h : QuotesClosed f) :
    QuotesClosed (stripConnector f) := by
  simp only [SqlFragments.stripConnector]
  split_ifs with hconnector
  · have htrim := h.trim
    rw [← List.takeWhile_append_dropWhile (p := isWordChar) (l := f.trim)] at htrim
    have hword : QuotesClosed (f.trim.takeWhile isWordChar) := quotesClosed_of_quoteless fun c hc =>
      isQuote_of_isWordChar (List.mem_takeWhile_imp hc)
    exact (hword.append_iff.mp htrim).trim
  · exact h.trim

namespace Condition

lemma allEmpty_raw (fragments : List Text) :
    allEmpty (fragments.map raw) = (said fragments).isEmpty := by
  induction fragments with
  | nil => rfl
  | cons f rest ih =>
      rw [List.map_cons, allEmpty, isEmpty, ih, said_cons]
      cases (SqlFragments.stripConnector f).isEmpty <;> rfl

lemma texts_raw (fragments : List Text) :
    texts (fragments.map raw) = (said fragments).map lowerKeywords := by
  induction fragments with
  | nil => rfl
  | cons f rest ih =>
      rw [List.map_cons, texts, isEmpty, ih, said_cons, toText]
      cases (SqlFragments.stripConnector f).isEmpty <;> rfl

/-- **Filters as the children of a condition**: those that say something, lower-cased. -/
lemma toText_all_raw (fragments : List Text) : (all (fragments.map raw)).toText =
    Text.join " and ".toList ((said fragments).map lowerKeywords) := by
  rw [toText, texts_raw]

end Condition

/-! ## Lower-casing the clause -/

lemma isLoneWord_where : IsLoneWord "where".toList :=
  ⟨by decide, List.all_eq_true.mp (by decide), by decide, by decide⟩

lemma isLoneWord_and : IsLoneWord "and".toList :=
  ⟨by decide, List.all_eq_true.mp (by decide), by decide, by decide⟩

/-- **The joined text, lower-cased**, is `where` and the condition. -/
lemma lowerKeywords_joinConditions_eq {fragments : List Text}
    (hclosed : ∀ f ∈ fragments, QuotesClosed f) : lowerKeywords (joinConditions fragments) =
      if (Condition.all (fragments.map .raw)).isEmpty then []
      else "where ".toList ++ (Condition.all (fragments.map .raw)).toText := by
  rw [Condition.isEmpty, Condition.allEmpty_raw, Condition.toText_all_raw]
  by_cases hne : said fragments = []
  · rw [joinConditions_of_nothing_said hne, lowerKeywords_nil, hne]
    rfl
  · have hsaid : ∀ f ∈ said fragments, QuotesClosed f :=
      forall_said (P := QuotesClosed) (fun _ => QuotesClosed.stripConnector) hclosed
    rw [joinConditions_of_said hne, isLoneWord_where.lowerKeywords_append,
      if_neg (by rwa [List.isEmpty_iff])]
    exact congrArg ("where ".toList ++ ·) (isLoneWord_and.lowerKeywords_join hsaid)

/-! ## The statement of a selection -/

namespace SelectRequest

lemma foldl_addColumn (columns : List Text) (d : SelectDraft) :
    columns.foldl SelectDraft.addColumn d =
      { d with columns := d.columns ++ columns.map fun e => ⟨e, none, none⟩ } := by
  induction columns generalizing d with
  | nil => rw [List.map_nil, List.append_nil, List.foldl_nil]
  | cons e rest ih => simp [ih, SelectDraft.addColumn]

variable (r : SelectRequest) (c : Config)

/-- The draft of a selection, part by part. -/
lemma draft_eq : r.draft c =
    { queries := [], columns := r.columns.map fun e => ⟨e, none, none⟩,
      source := some (r.table, r.name), joins := [],
      filter := if r.conditions.isEmpty then none else some (.all (r.conditions.map .raw)),
      groupBy := [], having := none, orderBy := r.orderBy.elim [] parseOrder,
      limit := r.limit.map (min · c.maxLimit), offset := r.offset } := by
  rw [draft, foldl_addColumn]
  cases r.conditions.isEmpty <;> cases r.orderBy <;> cases r.limit <;> cases r.offset <;> rfl

/-- The clauses of the statement that a selection becomes, around the one for its filters. -/
def clausesAround (filter : Text) : List Text :=
  listClause "select" (r.columns.map fun e => OutputColumn.toText ⟨e, none, none⟩) ++
    [tableClause r.table r.name] ++
    (if filter.isEmpty then [] else [filter]) ++
    listClause "order by" ((r.orderBy.elim [] parseOrder).map OrderItem.toText) ++
    numberClause "limit" (r.limit.map (min · c.maxLimit)) ++
    numberClause "offset" r.offset

/-- The clause for the filters is their joined text, lower-cased. -/
lemma conditionClause_draft (hclosed : ∀ f ∈ r.conditions, QuotesClosed f) :
    conditionClause "where" (r.draft c).filter =
      if (lowerKeywords (joinConditions r.conditions)).isEmpty then []
      else [lowerKeywords (joinConditions r.conditions)] := by
  rw [lowerKeywords_joinConditions_eq hclosed, draft_eq]
  cases r.conditions with
  | nil => rfl
  | cons f rest =>
      rw [List.isEmpty_cons, if_neg Bool.false_ne_true, conditionClause]
      cases (Condition.all ((f :: rest).map .raw)).isEmpty <;> rfl

lemma clauses_draft (hclosed : ∀ f ∈ r.conditions, QuotesClosed f) :
    (r.draft c).clauses r.table r.name =
      r.clausesAround c (lowerKeywords (joinConditions r.conditions)) := by
  rw [SelectDraft.clauses, conditionClause_draft r c hclosed, draft_eq, clausesAround, List.map_map]
  simp only [listClause, conditionClause, List.map_nil, List.isEmpty_nil, if_true, List.nil_append,
    List.append_nil, Function.comp_def]

lemma build_draft (hcolumns : r.columns ≠ []) : (r.draft c).build =
    .ok (Text.join [' '] ((r.draft c).clauses r.table r.name)) := by
  have hne : (r.draft c).columns ≠ [] := by
    rw [draft_eq]
    exact fun hnil => hcolumns (List.map_eq_nil_iff.mp hnil)
  have hsource : (r.draft c).source = some (r.table, r.name) := by rw [draft_eq]
  rw [SelectDraft.build, hsource]
  exact if_neg (by rwa [List.isEmpty_iff])

end SelectRequest

/-- **The two ways to combine filters agree.**  The joined text of filters whose quotes are closed,
lower-cased, is the condition that they are the children of, behind `where`; it is empty when that
condition is.  So it is the clause that stands in the statement of a selection with these
filters. -/
theorem lowerKeywords_joinConditions {fragments : List Text}
    (h : ∀ f ∈ fragments, QuotesClosed f) :
    (lowerKeywords (joinConditions fragments) =
      if (Condition.all (fragments.map .raw)).isEmpty then []
      else "where ".toList ++ (Condition.all (fragments.map .raw)).toText) ∧
    ∀ (w : Surroundings) (c : Config) (verbose : Bool) (r : SelectRequest),
      r.conditions = fragments → r.columns ≠ [] →
        ∃ joined, ((Command.join fragments).run w c verbose).out = joined ++ ['\n'] ∧
          ((Command.select r).run w c verbose).out =
            Text.join [' '] (r.clausesAround c (lowerKeywords joined)) ++ ['\n'] := by
  refine ⟨lowerKeywords_joinConditions_eq h, ?_⟩
  rintro w c verbose r rfl hcolumns
  refine ⟨joinConditions r.conditions, ?_, ?_⟩
  · exact List.append_nil _
  · rw [Command.run, runSelect, r.build_draft c hcolumns, r.clauses_draft c h]
    exact List.append_nil _

/-- Filters with `ORDER` at the end of one and `by` at the start of the next, a blank one between
others, and a connector in quotes. -/
def seamFilters : List Text :=
  ["WHERE a = 1 OR b".toList, " ".toList, "x is ORDER".toList, "by = 1".toList,
    "and c LIKE 'AND  x'".toList]

/-- A selection with these filters. -/
def seamRequest : SelectRequest :=
  ⟨"t".toList, [], ["*".toList], seamFilters, none, some 5, none⟩

theorem lowerKeywords_joinConditions_seams :
    (∀ f ∈ seamFilters, QuotesClosed f) ∧ seamRequest.columns ≠ [] ∧
      lowerKeywords (joinConditions seamFilters) =
        "where a = 1 or b and x is ORDER and by = 1 and c LIKE 'AND  x'".toList ∧
      ∀ w : Surroundings, ∃ joined,
        ((Command.join seamFilters).run w .default false).out = joined ++ ['\n'] ∧
          ((Command.select seamRequest).run w .default false).out =
            Text.join [' '] (seamRequest.clausesAround .default (lowerKeywords joined)) ++
              ['\n'] := by
  have hclosed : ∀ f ∈ seamFilters, QuotesClosed f := by decide +kernel
  have hcolumns : seamRequest.columns ≠ [] := by decide
  obtain ⟨htext, hselect⟩ := lowerKeywords_joinConditions hclosed
  refine ⟨hclosed, hcolumns, ?_, fun w => hselect w .default false seamRequest rfl hcolumns⟩
  rw [htext]
  decide +kernel

end SqlFragments
