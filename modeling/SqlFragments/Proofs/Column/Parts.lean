import SqlFragments.Proofs.Column.Grammar

/-!
# Taking a reference apart

The qualifier of a reference, its column and the bare name of the column are found by functions of
their own, each of which cuts the text at its dots anew.  Some of them take off the white space
around the text before they cut, and the one for the bare name only afterwards.  All of them cut at
the same places, since white space opens no quote and is no dot.

* `lastSegment_of_chain` — the last segment of a chain with white space around it.
* `ColumnRef.parse_join` — a chain of segments is read as what it is made of.
* **`ColumnRef.columnName_of_parse`**, `ColumnRef.parse_column` — the column of a reference.
* `ColumnRef.unqualify_unqualify` — a qualifier is taken off once.
* **`ColumnRef.parts_agree`** — the parts are references, and make up the reference again.
-/

namespace SqlFragments

variable {a b s : Text}

/-! ## White space around a chain -/

lemma plain_of_isBlank (hb : b.isBlank = true) :
    ∀ c ∈ b, isIdentifierQuote c = false ∧ c ≠ '.' := by
  intro c hc
  have hblank : isBlank c = true := List.all_eq_true.mp hb c hc
  constructor
  · refine Bool.eq_false_of_not_eq_true fun hq => ?_
    have hquote := isQuote_of_isIdentifierQuote hq
    rw [isQuote_of_isBlank hblank] at hquote
    cases hquote
  · rintro rfl
    exact absurd hblank (by decide)

lemma splitSegments_of_isBlank (hb : b.isBlank = true) : splitSegments b = some [b] := by
  have hcut := splitSegmentsFrom_plain (s := []) (plain_of_isBlank hb) rfl
  rwa [List.append_nil] at hcut

/-- The last segment of a chain is the same with white space around the chain, which goes to it or
to the first segment. -/
lemma lastSegment_of_chain {front : List Text} {column : Text} (ha : a.isBlank = true)
    (hb : b.isBlank = true) (h : ∀ x ∈ front ++ [column], IsName x) :
    ∃ blank, Text.isBlank blank = true ∧
      (splitSegments (a ++ (Text.join ['.'] (front ++ [column]) ++ b))).bind List.getLast? =
        some (blank ++ (column ++ b)) := by
  have hcut := splitSegments_join_append (splitSegments_of_isBlank hb) h
  cases front with
  | nil =>
      refine ⟨a, ha, ?_⟩
      rw [splitSegments, splitSegmentsFrom_plain (plain_of_isBlank ha) hcut]
      rfl
  | cons x front =>
      refine ⟨[], rfl, ?_⟩
      rw [splitSegments, splitSegmentsFrom_plain (plain_of_isBlank ha) hcut, Option.bind_some]
      exact List.getLast?_concat (l := (a ++ x) :: front)

/-! ## References -/

namespace ColumnRef

lemma Segment.isName (h : Segment a) : IsName a :=
  isName_of_isSegment (segment_iff.mp h)

/-- **A chain of segments is read** as its last segment behind the others. -/
lemma parse_join {front : List Text} {column : Text} (h : ∀ x ∈ front ++ [column], Segment x) :
    ColumnRef.parse (Text.join ['.'] (front ++ [column])) =
      some ⟨if front.isEmpty then none else some (Text.join ['.'] front), column⟩ := by
  refine parse_eq_some_iff_chain.mpr ⟨front, column, ⟨by simp, h, ?_⟩, rfl⟩
  exact (trimmed_join fun x hx => (h x hx).isName).trim_eq.symm

variable {r : ColumnRef}

/-- A reference is written as the text it was read from, without the white space around. -/
lemma written_of_parse (h : ColumnRef.parse s = some r) : r.written = s.trim := by
  obtain ⟨front, column, hchain, rfl⟩ := parse_eq_some_iff_chain.mp h
  rw [join_concat, hchain.joined]

/-- The column of a reference is a reference without a qualifier. -/
lemma parse_column (h : ColumnRef.parse s = some r) :
    ColumnRef.parse r.column = some ⟨none, r.column⟩ := by
  obtain ⟨front, column, hchain, rfl⟩ := parse_eq_some_iff_chain.mp h
  have hcolumn : ∀ x ∈ [] ++ [column], Segment x :=
    List.forall_mem_singleton.mpr (hchain.segment column (by simp))
  have hparse := parse_join hcolumn
  rwa [List.nil_append, Text.join_singleton] at hparse

/-- The qualifier of a reference is a reference. -/
lemma isSome_parse_qualifier (h : ColumnRef.parse s = some r) {q : Text}
    (hq : r.qualifier = some q) : (ColumnRef.parse q).isSome = true := by
  obtain ⟨front, column, hchain, rfl⟩ := parse_eq_some_iff_chain.mp h
  cases hlast : front.getLast? with
  | none =>
      rw [List.getLast?_eq_none_iff.mp hlast] at hq
      cases hq
  | some last =>
      obtain ⟨more, rfl⟩ := List.getLast?_eq_some_iff.mp hlast
      rw [if_neg (by simp), Option.some.injEq] at hq
      rw [← hq, parse_join fun x hx => hchain.segment x (List.mem_append_left _ hx)]
      rfl

/-- **The bare name of a reference** is its column without quotes, whatever stands in front of the
column or around the reference. -/
lemma columnName_of_parse (h : ColumnRef.parse s = some r) : columnName s = unquote r.column := by
  obtain ⟨front, column, hchain, rfl⟩ := parse_eq_some_iff_chain.mp h
  obtain ⟨a, b, ha, hb, hs⟩ := Text.exists_trim s
  have hnames : ∀ x ∈ front ++ [column], IsName x := fun x hx => (hchain.segment x hx).isName
  obtain ⟨blank, hblank, hlast⟩ := lastSegment_of_chain ha hb hnames
  have hcolumn : Text.Trimmed column := (hnames column (by simp)).trimmed
  rw [hchain.joined, ← hs] at hlast
  rw [columnName, hlast]
  exact congrArg unquote (Text.trim_append hblank hb hcolumn)

/-- A qualifier is taken off once, and from a reference only. -/
lemma unqualify_unqualify (s : Text) : unqualify (unqualify s) = unqualify s := by
  cases h : ColumnRef.parse s with
  | none => simp only [unqualify, h]
  | some r =>
      cases hr : r.isQualified with
      | false => simp only [unqualify, h, hr, Bool.false_eq_true, if_false]
      | true =>
          simp only [unqualify, h, hr, if_true, parse_column h]
          rfl

/-- **The parts of a reference agree.**  The qualifier of a qualified reference, a dot and the text
without the qualifier are the reference again, and both parts are references, the second one without
a qualifier.  The bare name is the column without its quotes.  From any text at all, the qualifier
is taken off only once. -/
theorem parts_agree (s : Text) :
    (∀ r, ColumnRef.parse s = some r →
      (r.isQualified = true → ∃ q, qualifierOf s = some q ∧ q ++ '.' :: unqualify s = s.trim ∧
        (ColumnRef.parse q).isSome = true ∧
        ColumnRef.parse (unqualify s) = some ⟨none, r.column⟩) ∧
      columnName s = unquote r.column) ∧
    unqualify (unqualify s) = unqualify s := by
  refine ⟨fun r h => ⟨fun hqualified => ?_, columnName_of_parse h⟩, unqualify_unqualify s⟩
  obtain ⟨q, hq⟩ := Option.isSome_iff_exists.mp hqualified
  have hbare : unqualify s = r.column := by simp only [unqualify, h, hqualified, if_true]
  have hwritten : r.written = s.trim := written_of_parse h
  rw [written, hq] at hwritten
  refine ⟨q, ?_, ?_, isSome_parse_qualifier h hq, ?_⟩
  · rw [qualifierOf, h, Option.bind_some, hq]
  · rw [hbare]
    exact hwritten
  · rw [hbare, parse_column h]

/-- A dot and a doubled quote inside quotes, behind a qualifier of two segments and with white space
around it. -/
def spacedReference : Text := "\t\"a.b\".t.\"c\"\"d.\" ".toList

theorem parts_of_spacedReference :
    ColumnRef.parse spacedReference =
      some ⟨some "\"a.b\".t".toList, "\"c\"\"d.\"".toList⟩ ∧
      ∃ q, qualifierOf spacedReference = some q ∧
        q ++ '.' :: unqualify spacedReference = spacedReference.trim ∧
        columnName spacedReference = "c\"\"d.".toList := by
  have h : ColumnRef.parse spacedReference =
      some ⟨some "\"a.b\".t".toList, "\"c\"\"d.\"".toList⟩ := by decide
  have hparts := (parts_agree spacedReference).1 _ h
  obtain ⟨q, hq, hjoined, -⟩ := hparts.1 rfl
  exact ⟨h, q, hq, hjoined, hparts.2⟩

end ColumnRef

end SqlFragments
