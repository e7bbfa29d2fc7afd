import SqlFragments.Column.Listing
import SqlFragments.Proofs.Text.Join

/-!
# Column lists, written and read

A list of columns is written one column to a line with a comma behind it, and read back by its
lines.  Whatever text is read, the result is a list that could have been written so.

* `IsListedColumn` — a text that can be a column of a list.
* `splitLines_append` — a line feed between two texts divides their lines.
* `isListedColumn_listedColumn` — what a line holds, if anything, is such a text.
* **`splitColumns_reads_lines`** — reading takes back what was written, yields nothing else, and
  reads texts on lines of their own apart from each other.
-/

namespace SqlFragments

/-- A text that says something, has no white space around it, and lies on one line. -/
structure IsListedColumn (s : Text) : Prop where
  ne_nil : s ≠ []
  trimmed : Text.Trimmed s
  oneLine : '\n' ∉ s

instance (s : Text) : Decidable (IsListedColumn s) :=
  decidable_of_iff
    (s ≠ [] ∧ (s.head?.any isBlank = false ∧ s.getLast?.any isBlank = false) ∧ '\n' ∉ s)
    ⟨fun ⟨hne, ⟨hfirst, hlast⟩, hline⟩ => ⟨hne, ⟨hfirst, hlast⟩, hline⟩,
      fun h => ⟨h.ne_nil, ⟨h.trimmed.first, h.trimmed.last⟩, h.oneLine⟩⟩

/-- Columns one to a line, each with a comma behind it. -/
def writeColumns (columns : List Text) : Text :=
  columns.flatMap fun column => column ++ [',', '\n']

/-! ## Lines -/

lemma splitLines_ne_nil (s : Text) : splitLines s ≠ [] := by
  fun_cases splitLines s <;> exact List.cons_ne_nil _ _

/-- **A line feed divides the lines** of the texts on its sides. -/
lemma splitLines_append (a b : Text) :
    splitLines (a ++ '\n' :: b) = splitLines a ++ splitLines b := by
  induction a with
  | nil => rfl
  | cons c rest ih =>
      obtain ⟨line, more, hrest⟩ := List.exists_cons_of_ne_nil (splitLines_ne_nil rest)
      rw [List.cons_append, splitLines, splitLines, ih, hrest, List.cons_append]
      split <;> rfl

lemma splitLines_of_not_mem {s : Text} (hs : '\n' ∉ s) : splitLines s = [s] := by
  induction s with
  | nil => rfl
  | cons c rest ih =>
      rw [List.mem_cons, not_or] at hs
      rw [splitLines, if_neg (Ne.symm hs.1), ih hs.2]

lemma not_mem_of_mem_splitLines {s line : Text} (h : line ∈ splitLines s) : '\n' ∉ line := by
  induction s generalizing line with
  | nil =>
      rw [List.mem_singleton.mp h]
      exact List.not_mem_nil
  | cons c rest ih =>
      obtain ⟨first, more, hrest⟩ := List.exists_cons_of_ne_nil (splitLines_ne_nil rest)
      rw [splitLines] at h
      split_ifs at h with hc
      · rcases List.mem_cons.mp h with rfl | hmem
        · exact List.not_mem_nil
        · exact ih hmem
      · simp only [hrest] at h
        rcases List.mem_cons.mp h with rfl | hmem
        · rw [List.mem_cons, not_or]
          exact ⟨Ne.symm hc, ih (by rw [hrest]; exact List.mem_cons_self)⟩
        · exact ih (by rw [hrest]; exact List.mem_cons_of_mem _ hmem)

/-! ## The column of a line -/

/-- A line holds its column as a part of it. -/
lemma listedColumn_isInfix (line : Text) : listedColumn line <:+: line := by
  have htrim : line.trim <:+: line := by
    obtain ⟨a, b, -, -, hline⟩ := Text.exists_trim line
    exact ⟨a, b, by rw [List.append_assoc, ← hline]⟩
  rw [listedColumn]
  split_ifs
  · exact ((Text.trimEnd_isPrefix _).trans (List.dropLast_prefix _)).isInfix.trans htrim
  · exact htrim

lemma trimmed_listedColumn (line : Text) : Text.Trimmed (listedColumn line) := by
  rw [listedColumn]
  split_ifs
  · have hprefix := (Text.trimEnd_isPrefix line.trim.dropLast).trans (List.dropLast_prefix _)
    exact ⟨Text.head_of_isPrefix hprefix (Text.trimmed_trim line).first, Text.getLast_trimEnd _⟩
  · exact Text.trimmed_trim line

/-- A comma behind a column is not part of it. -/
lemma listedColumn_append_comma {column : Text} (h : Text.Trimmed column) (hne : column ≠ []) :
    listedColumn (column ++ [',']) = column := by
  have htrim : Text.trim (column ++ [',']) = column ++ [','] := by
    have hcomma : Text.Trimmed [','] := ⟨by decide, by decide⟩
    have hboth := h.append hne hcomma (List.cons_ne_nil _ _) []
    rw [List.append_nil] at hboth
    exact hboth.trim_eq
  rw [listedColumn, htrim, List.getLast?_concat, if_pos (beq_self_eq_true _),
    List.dropLast_concat]
  exact h.trimEnd_eq

/-! ## Whole lists -/

lemma isListedColumn_of_mem {s column : Text} (h : column ∈ splitColumns s) :
    IsListedColumn column := by
  obtain ⟨hmem, hne⟩ := List.mem_filter.mp h
  obtain ⟨line, hline, rfl⟩ := List.mem_map.mp hmem
  refine ⟨?_, trimmed_listedColumn line, fun hin => ?_⟩
  · rintro hnil
    rw [hnil] at hne
    cases hne
  · exact not_mem_of_mem_splitLines hline ((listedColumn_isInfix line).subset hin)

lemma splitColumns_append (a b : Text) :
    splitColumns (a ++ '\n' :: b) = splitColumns a ++ splitColumns b := by
  rw [splitColumns, splitLines_append, List.map_append, List.filter_append, splitColumns,
    splitColumns]

lemma splitColumns_line {column : Text} (h : IsListedColumn column) :
    splitColumns (column ++ [',']) = [column] := by
  have hline : '\n' ∉ column ++ [','] := by
    rw [List.mem_append, not_or]
    exact ⟨h.oneLine, by decide⟩
  have hsaid : (!column.isEmpty) = true := by
    rw [Bool.not_eq_true', List.isEmpty_eq_false_iff]
    exact h.ne_nil
  rw [splitColumns, splitLines_of_not_mem hline, List.map_singleton,
    listedColumn_append_comma h.trimmed h.ne_nil]
  exact List.filter_cons_of_pos hsaid

lemma splitColumns_writeColumns {columns : List Text} (h : ∀ c ∈ columns, IsListedColumn c) :
    splitColumns (writeColumns columns) = columns := by
  induction columns with
  | nil => rfl
  | cons column rest ih =>
      obtain ⟨hcolumn, hrest⟩ := List.forall_mem_cons.mp h
      have hlines : writeColumns (column :: rest)
          = (column ++ [',']) ++ '\n' :: writeColumns rest := by
        rw [writeColumns, List.flatMap_cons, List.append_assoc, List.append_assoc]
        rfl
      rw [hlines, splitColumns_append, splitColumns_line hcolumn, ih hrest]
      rfl

/-- **Reading a column list inverts writing it**, one column to a line.  Every list that is read,
from whatever text, is one that can be written, and lists that stand on lines of their own are read
one after the other. -/
theorem splitColumns_reads_lines :
    (∀ columns, (∀ c ∈ columns, IsListedColumn c) →
      splitColumns (writeColumns columns) = columns) ∧
    (∀ s, ∀ c ∈ splitColumns s, IsListedColumn c) ∧
    ∀ a b, splitColumns (a ++ '\n' :: b) = splitColumns a ++ splitColumns b :=
  ⟨fun _ h => splitColumns_writeColumns h, fun _ _ h => isListedColumn_of_mem h,
    splitColumns_append⟩

/-- A column that ends in a comma, one with a carriage return in it, and a lone comma. -/
theorem splitColumns_reads_commas :
    (∀ c ∈ ["a,".toList, "b\rc".toList, ",".toList], IsListedColumn c) ∧
      splitColumns "a,,\nb\rc,\n,,\n".toList = ["a,".toList, "b\rc".toList, ",".toList] := by
  have hcolumns : ∀ c ∈ ["a,".toList, "b\rc".toList, ",".toList], IsListedColumn c := by decide
  exact ⟨hcolumns, splitColumns_reads_lines.1 _ hcolumns⟩

end SqlFragments
