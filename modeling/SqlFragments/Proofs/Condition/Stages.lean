import SqlFragments.Proofs.Condition.Conjunction
import SqlFragments.Proofs.KeywordCase.IdentifierRun
import SqlFragments.Proofs.Text.Join

/-!
# Joining in stages

Fragments are collected in groups, and a group is often joined where it was collected.  The joined
text starts with a `where` of its own, which is the one connector that is taken off when the text is
joined with others.  What is left of it is the group as it was without connectors, so it makes no
difference where fragments are joined first.

* `stripConnector_joinConditions` — a joined text without its connector.
* `SaysNothing`, `isEmpty_stripConnector_iff` — fragments that leave no trace.
* **`joinConditions_in_stages`** — joining the joined groups, and what can be left out.
-/

namespace SqlFragments

/-! ## Fragments that say nothing -/

/-- A blank fragment, or a connector that connects nothing. -/
def SaysNothing (f : Text) : Prop :=
  f.isBlank = true ∨ isLeadingConnector f.trim = true

instance (f : Text) : Decidable (SaysNothing f) :=
  inferInstanceAs (Decidable (_ ∨ _))

lemma isEmpty_stripConnector_of_lone {f : Text} (h : isLeadingConnector f.trim = true) :
    (stripConnector f).isEmpty = true := by
  have hopens : OpensWith f f.trim [] := ⟨(List.append_nil _).symm, h, rfl⟩
  rw [hopens.stripConnector.1]
  rfl

/-- **A fragment leaves nothing behind** exactly if it says nothing. -/
lemma isEmpty_stripConnector_iff {f : Text} :
    (stripConnector f).isEmpty = true ↔ SaysNothing f := by
  constructor
  · intro hempty
    by_cases hopens : ∃ connector rest, OpensWith f connector rest
    · obtain ⟨connector, rest, hopens⟩ := hopens
      rw [hopens.stripConnector.1, Text.isEmpty_trim_iff] at hempty
      obtain ⟨htext, hconnector, -⟩ := hopens
      have htrimmed := Text.trimmed_trim f
      rw [htext] at htrimmed
      rw [htrimmed.eq_nil_of_append hempty, List.append_nil] at htext
      rw [← htext] at hconnector
      exact Or.inr hconnector
    · rw [stripConnector_of_not_opensWith hopens, Text.isEmpty_trim_iff] at hempty
      exact Or.inl hempty
  · rintro (hblank | hlone)
    · have htrim : f.trim = [] := List.isEmpty_iff.mp ((Text.isEmpty_trim_iff f).mpr hblank)
      rw [stripConnector, htrim]
      rfl
    · exact isEmpty_stripConnector_of_lone hlone

/-! ## Joined texts -/

variable {fragments : List Text}

lemma trimmed_of_mem_said {f : Text} (h : f ∈ said fragments) : f.Trimmed := by
  obtain ⟨g, -, rfl⟩ := List.mem_map.mp (List.mem_of_mem_filter h)
  exact trimmed_stripConnector g

lemma ne_nil_of_mem_said {f : Text} (h : f ∈ said fragments) : f ≠ [] := by
  have hsays := List.of_mem_filter h
  rintro rfl
  cases hsays

/-- The fragments that say something, in a row. -/
def conjunct (fragments : List Text) : Text :=
  Text.join " and ".toList (said fragments)

lemma conjunct_eq_nil_iff : conjunct fragments = [] ↔ said fragments = [] := by
  constructor
  · intro hnil
    cases hsaid : said fragments with
    | nil => rfl
    | cons f rest =>
        have hmem : f ∈ said fragments := by
          rw [hsaid]
          exact List.mem_cons_self
        rw [conjunct, hsaid] at hnil
        exact absurd hnil (Text.join_ne_nil (ne_nil_of_mem_said hmem) rest)
  · intro hnil
    rw [conjunct, hnil]
    rfl

/-- The joined text is the row behind `where`. -/
lemma joinConditions_eq (fragments : List Text) : joinConditions fragments =
    if conjunct fragments = [] then [] else "where".toList ++ ' ' :: conjunct fragments := by
  split_ifs with hnil
  · exact joinConditions_of_nothing_said (conjunct_eq_nil_iff.mp hnil)
  · exact joinConditions_of_said (mt conjunct_eq_nil_iff.mpr hnil)

/-- **A joined text without its connector** is the row. -/
lemma stripConnector_joinConditions (fragments : List Text) :
    stripConnector (joinConditions fragments) = conjunct fragments := by
  have htrimmed : Text.Trimmed (conjunct fragments) :=
    Text.trimmed_join (fun _ => trimmed_of_mem_said) fun _ => ne_nil_of_mem_said
  rw [joinConditions_eq]
  split_ifs with hnil
  · rw [hnil]
    rfl
  · have hwhole : Text.Trimmed ("where".toList ++ [' '] ++ conjunct fragments) :=
      Text.Trimmed.append (by constructor <;> decide) (by decide) htrimmed hnil [' ']
    rw [List.append_assoc, List.singleton_append] at hwhole
    have hopens : OpensWith ("where".toList ++ ' ' :: conjunct fragments) "where".toList
        (' ' :: conjunct fragments) := ⟨hwhole.trim_eq, by decide, rfl⟩
    have hrow := Text.trim_append (a := [' ']) (b := []) (by decide) rfl htrimmed
    rw [List.append_nil, List.singleton_append] at hrow
    rw [hopens.stripConnector.1, hrow]

/-! ## Groups -/

lemma said_flatten (groups : List (List Text)) : said groups.flatten = groups.flatMap said := by
  rw [said, List.map_flatten, List.filter_flatten, List.map_map, List.flatMap]
  rfl

/-- The joined groups that say something are the rows of the groups that have something to say. -/
lemma said_map_joinConditions (groups : List (List Text)) : said (groups.map joinConditions) =
    (groups.filter fun g => !(said g).isEmpty).map conjunct := by
  induction groups with
  | nil => rfl
  | cons g rest ih =>
      have hempty : (conjunct g).isEmpty = (said g).isEmpty := by
        rw [Bool.eq_iff_iff, List.isEmpty_iff, List.isEmpty_iff, conjunct_eq_nil_iff]
      rw [List.map_cons, said_cons, stripConnector_joinConditions, hempty, ih, List.filter_cons]
      cases (said g).isEmpty <;> rfl

lemma flatMap_said_filter (groups : List (List Text)) :
    (groups.filter fun g => !(said g).isEmpty).flatMap said = groups.flatMap said := by
  induction groups with
  | nil => rfl
  | cons g rest ih =>
      rw [List.filter_cons, List.flatMap_cons, ← ih]
      cases hsaid : said g with
      | nil => rfl
      | cons f more => simp [hsaid]

/-- **The row of the joined groups** is the row of all their fragments. -/
lemma conjunct_map_joinConditions (groups : List (List Text)) :
    conjunct (groups.map joinConditions) = conjunct groups.flatten := by
  have hne : ∀ g ∈ groups.filter (fun g => !(said g).isEmpty), said g ≠ [] := by
    intro g hg hnil
    have hsays := List.of_mem_filter hg
    rw [hnil] at hsays
    cases hsays
  rw [conjunct, said_map_joinConditions, conjunct, said_flatten, ← flatMap_said_filter]
  exact intercalate_map_intercalate hne

lemma said_of_saysNothing {group : List Text} (h : ∀ f ∈ group, SaysNothing f) :
    said group = [] := by
  induction group with
  | nil => rfl
  | cons f rest ih =>
      obtain ⟨hf, hrest⟩ := List.forall_mem_cons.mp h
      rw [said_cons, if_pos (isEmpty_stripConnector_iff.mpr hf), ih hrest]

/-- **Joining can be done in stages.**  Joining the groups first and then what came of them is
joining all their fragments; so a joined text is not changed by joining it again.  Fragments that
say nothing, however many of them stand in a row, can be left out wherever they are, and so can a
group of nothing else. -/
theorem joinConditions_in_stages (groups : List (List Text)) :
    joinConditions (groups.map joinConditions) = joinConditions groups.flatten ∧
    (∀ fragments, joinConditions [joinConditions fragments] = joinConditions fragments) ∧
    ∀ nothing : List Text, (∀ f ∈ nothing, SaysNothing f) →
      (∀ before after,
        joinConditions (before ++ nothing ++ after) = joinConditions (before ++ after)) ∧
      ∀ before after : List (List Text), groups = before ++ nothing :: after →
        joinConditions (groups.map joinConditions) =
          joinConditions ((before ++ after).map joinConditions) := by
  have hstages : ∀ groups : List (List Text),
      joinConditions (groups.map joinConditions) = joinConditions groups.flatten := fun groups => by
    rw [joinConditions_eq, conjunct_map_joinConditions, ← joinConditions_eq]
  have hleft : ∀ nothing : List Text, (∀ f ∈ nothing, SaysNothing f) → ∀ before after,
      joinConditions (before ++ nothing ++ after) = joinConditions (before ++ after) := by
    intro nothing hnothing before after
    rw [joinConditions_eq, joinConditions_eq, conjunct, conjunct, said_append, said_append,
      said_append, said_of_saysNothing hnothing, List.append_nil]
  refine ⟨hstages groups, fun fragments => ?_, fun nothing hnothing => ?_⟩
  · have hone := hstages [fragments]
    rwa [List.map_singleton, List.flatten_singleton] at hone
  · refine ⟨hleft nothing hnothing, ?_⟩
    rintro before after rfl
    rw [hstages, hstages, List.flatten_append, List.flatten_cons, List.flatten_append,
      ← List.append_assoc]
    exact hleft nothing hnothing before.flatten after.flatten

/-- Three groups: one with a connector in each fragment and white space of every kind around it, one
that is empty, and one with a lone connector between two fragments. -/
def collectedGroups : List (List Text) :=
  [["\u3000WHERE a = 1 or b\n".toList, "and and_c".toList], [],
    ["d".toList, " And ".toList, "WHERE and e".toList]]

theorem joinConditions_of_collectedGroups :
    SaysNothing " And ".toList ∧ joinConditions (collectedGroups.map joinConditions) =
        "where a = 1 or b and and_c and d and and e".toList ∧
      joinConditions (collectedGroups.map joinConditions) = joinConditions
        ((collectedGroups.take 1 ++ collectedGroups.drop 2).map joinConditions) ∧
      joinConditions ["d".toList, " And ".toList, "WHERE and e".toList] =
        joinConditions ["d".toList, "WHERE and e".toList] := by
  have hand : SaysNothing " And ".toList := by decide
  obtain ⟨hstages, -, hnothing⟩ := joinConditions_in_stages collectedGroups
  refine ⟨hand, ?_, ?_, ?_⟩
  · rw [hstages]
    decide
  · exact (hnothing [] (List.forall_mem_nil _)).2 _ _ rfl
  · exact (hnothing [" And ".toList] (List.forall_mem_singleton.mpr hand)).1
      ["d".toList] ["WHERE and e".toList]

end SqlFragments
