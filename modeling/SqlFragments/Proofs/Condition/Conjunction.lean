import SqlFragments.Condition.Connector
import SqlFragments.Proofs.Condition.Truth
import SqlFragments.Proofs.Token.Parenthesis

/-!
# Joined filters as a conjunction

Filters are collected one by one and joined by `and`, without parentheses: a filter that needs
them brings its own.  So the clause holds whenever all of the filters do, and it holds only then if
none of them has an `or` outside parentheses, or there is no other filter beside it.

* `said` — the filters that say something, without their connectors.
* `SelfContained.stripConnector` — a filter that closes what it opens does so without its connector.
* `holds_conjoined`, `holds_conjoined_iff` — conditions with `and` between them.
* **`joinConditions_conjunction`** — the clause of a list of filters.
* `not_joinConditions_conjunction_or` — an `or` takes the next filter to its right side.
-/

namespace SqlFragments

/-! ## Filters without connectors -/

/-- The filters that say something, without their connectors. -/
def said (fragments : List Text) : List Text :=
  (fragments.map stripConnector).filter fun f => !f.isEmpty

lemma trimmed_stripConnector (f : Text) : Text.Trimmed (stripConnector f) := by
  rw [stripConnector]
  split_ifs
  · exact Text.trimmed_trim _
  · exact Text.trimmed_trim _

lemma SelfContained.stripConnector {f : Text} (h : SelfContained f) :
    SelfContained (stripConnector f) := by
  simp only [SqlFragments.stripConnector]
  split_ifs with hconnector
  · -- a connector is a word, and words hold neither quotes nor parentheses
    have htrim := h.trim
    rw [← List.takeWhile_append_dropWhile (p := isWordChar) (l := f.trim),
      ← List.append_nil (f.trim.dropWhile isWordChar)] at htrim
    have hword : ∀ c ∈ f.trim.takeWhile isWordChar, isBare c = true :=
      bare_of_class (by decide) fun c hc => List.mem_takeWhile_imp hc
    exact (htrim.of_append hword (List.forall_mem_nil _)).trim
  · exact h.trim

lemma said_cons (f : Text) (rest : List Text) : said (f :: rest) =
    if (stripConnector f).isEmpty then said rest else stripConnector f :: said rest := by
  rw [said, List.map_cons, List.filter_cons, said]
  cases (stripConnector f).isEmpty <;> rfl

lemma said_append (a b : List Text) : said (a ++ b) = said a ++ said b := by
  simp [said]

/-- What a filter keeps without its connector holds of all filters that say something. -/
lemma forall_said {P : Text → Prop} (hstrip : ∀ f, P f → P (stripConnector f))
    {fragments : List Text} (h : ∀ f ∈ fragments, P f) : ∀ f ∈ said fragments, P f := by
  intro f hf
  obtain ⟨g, hg, rfl⟩ := List.mem_map.mp (List.mem_of_mem_filter hf)
  exact hstrip g (h g hg)

/-! ## Conditions with `and` between them -/

/-- Conditions with `and` between them. -/
def conjoined (conditions : List (List Token)) : List Token :=
  [andToken].intercalate conditions

variable {v : List Token → Bool} {conditions : List (List Token)}

@[simp] lemma conjoined_singleton (a : List Token) : conjoined [a] = a := by
  simp [conjoined, List.intercalate]

@[simp] lemma conjoined_cons_cons (a b : List Token) (rest : List (List Token)) :
    conjoined (a :: b :: rest) = a ++ andToken :: conjoined (b :: rest) := by
  simp [conjoined, List.intercalate]

/-- Conditions that hold make a conjunction that holds. -/
lemma holds_conjoined (hne : conditions ≠ []) (hbalanced : ∀ a ∈ conditions, Balanced a)
    (h : ∀ a ∈ conditions, holds v a = true) : holds v (conjoined conditions) = true := by
  induction conditions with
  | nil => exact absurd rfl hne
  | cons a rest ih =>
      cases rest with
      | nil => simpa using h
      | cons b rest =>
          obtain ⟨ha, hrest⟩ := List.forall_mem_cons.mp h
          obtain ⟨hleft, hright⟩ := List.forall_mem_cons.mp hbalanced
          rw [conjoined_cons_cons]
          exact holds_append_and hleft ha (ih (List.cons_ne_nil b rest) hright hrest)

/-- Without `or`, a conjunction is one alternative that is cut at every `and`. -/
lemma conjunctionHolds_conjoined (hne : conditions ≠ [])
    (hbalanced : ∀ a ∈ conditions, Balanced a) :
    conjunctionHolds v (conjoined conditions) = conditions.all (conjunctionHolds v) := by
  induction conditions with
  | nil => exact absurd rfl hne
  | cons a rest ih =>
      cases rest with
      | nil => simp
      | cons b rest =>
          obtain ⟨hleft, hright⟩ := List.forall_mem_cons.mp hbalanced
          rw [conjoined_cons_cons, conjunctionHolds_append hleft,
            ih (List.cons_ne_nil b rest) hright, List.all_cons (a := a)]

lemma conjoined_outside (hne : conditions ≠ []) (hbalanced : ∀ a ∈ conditions, Balanced a) :
    Balanced (conjoined conditions) ∧ ∀ t ∈ outside 0 (conjoined conditions),
      t = andToken ∨ ∃ a ∈ conditions, t ∈ outside 0 a := by
  induction conditions with
  | nil => exact absurd rfl hne
  | cons a rest ih =>
      obtain ⟨hleft, hright⟩ := List.forall_mem_cons.mp hbalanced
      cases rest with
      | nil =>
          rw [conjoined_singleton]
          exact ⟨hleft, fun t ht => Or.inr ⟨a, List.mem_cons_self, ht⟩⟩
      | cons b rest =>
          obtain ⟨hrest, hmem⟩ := ih (List.cons_ne_nil b rest) hright
          rw [conjoined_cons_cons, hleft.outside_append,
            outside_plain (show andToken ≠ .leftParen from nofun) nofun]
          refine ⟨hleft.append (Balanced.plain nofun nofun hrest), fun t ht => ?_⟩
          simp only [List.mem_append, List.mem_cons] at ht
          rcases ht with ht | rfl | ht
          · exact Or.inr ⟨a, List.mem_cons_self, ht⟩
          · exact Or.inl rfl
          · exact (hmem t ht).imp_right fun ⟨c, hc, htc⟩ => ⟨c, List.mem_cons_of_mem a hc, htc⟩

/-- **A conjunction without `or`** holds exactly when all of the conditions do. -/
lemma holds_conjoined_iff (hne : conditions ≠ []) (hbalanced : ∀ a ∈ conditions, Balanced a)
    (hor : ∀ a ∈ conditions, ∀ t ∈ outside 0 a, t.isKeyword "or".toList = false) :
    holds v (conjoined conditions) = true ↔ ∀ a ∈ conditions, holds v a = true := by
  obtain ⟨hwhole, houtside⟩ := conjoined_outside hne hbalanced
  have hnone : ∀ t ∈ outside 0 (conjoined conditions), t.isKeyword "or".toList = false := by
    intro t ht
    rcases houtside t ht with rfl | ⟨a, ha, hta⟩
    · decide
    · exact hor a ha t hta
  rw [holds_of_no_or hwhole hnone, conjunctionHolds_conjoined hne hbalanced, List.all_eq_true]
  refine forall₂_congr fun a ha => ?_
  rw [holds_of_no_or (hbalanced a ha) (hor a ha)]

/-! ## The clause -/

/-- A word that is read as one token separates what stands around it, with a space on either
side. -/
lemma isSeparator_word (word : Text) {t : Token} (hclosed : QuotesClosed word)
    (hcall : endsCallable word = false) (hblank : Text.isBlank (' ' :: (word ++ [' '])) = false)
    (hparen : opensCall (' ' :: (word ++ [' '])) = false) (hword : tokens word = [t]) :
    IsSeparator (' ' :: (word ++ [' '])) t where
  separates := fun _ => separates_space _
  noCall := fun _ => (opensCall_append_of_not_isBlank hblank).trans hparen
  tokens_append := fun s => by
    have hspace : tokens (' ' :: (word ++ ' ' :: s)) = tokens (word ++ ' ' :: s) :=
      tokens_cons_blank (by decide) _
    rw [List.cons_append, List.append_assoc, List.singleton_append, hspace,
      tokens_word_append hclosed hcall, hword, List.singleton_append]

lemma isSeparator_and : IsSeparator " and ".toList andToken :=
  isSeparator_word "and".toList (by decide) (endsCallable_of_isKeyword (by decide)) (by decide)
    (by decide) (tokens_of_isKeyword (by decide))

lemma joinConditions_of_nothing_said {fragments : List Text} (h : said fragments = []) :
    joinConditions fragments = [] := by
  rw [joinConditions, show List.filter _ _ = said fragments from rfl, h]

lemma joinConditions_of_said {fragments : List Text} (hne : said fragments ≠ []) :
    joinConditions fragments =
      "where".toList ++ ' ' :: Text.join " and ".toList (said fragments) := by
  obtain ⟨f, rest, hsaid⟩ := List.exists_cons_of_ne_nil hne
  rw [joinConditions, show List.filter _ _ = said fragments from rfl, hsaid]
  rfl

/-- The clause of filters that say something: `where`, and the filters with `and` between them. -/
lemma tokens_joinConditions {fragments : List Text} (hclosed : ∀ f ∈ said fragments, QuotesClosed f)
    (hne : said fragments ≠ []) : tokens (joinConditions fragments) =
      .keyword "where".toList :: conjoined ((said fragments).map tokens) := by
  have hwhere : SqlFragments.isKeyword "where".toList = true := by decide
  rw [joinConditions_of_said hne, tokens_word_append (by decide) (endsCallable_of_isKeyword hwhere),
    isSeparator_and.tokens_join hclosed, tokens_of_isKeyword hwhere, List.singleton_append,
    conjoined]

/-- **Joined filters are a conjunction.**  Whatever the atoms mean, the clause holds if all filters
that say something do.  It holds only then if there is no more than one of them, or none has an
`or` outside parentheses. -/
theorem joinConditions_conjunction {fragments : List Text}
    (h : ∀ f ∈ fragments, SelfContained f) (v : List Token → Bool) :
    ((∀ f ∈ said fragments, holds v (tokens f) = true) →
      clauseHolds v (joinConditions fragments) = true) ∧
    ((said fragments).length ≤ 1 ∨ (∀ f ∈ said fragments, ∀ t ∈ outside 0 (tokens f),
        t.isKeyword "or".toList = false) →
      (clauseHolds v (joinConditions fragments) = true ↔
        ∀ f ∈ said fragments, holds v (tokens f) = true)) := by
  have hself : ∀ f ∈ said fragments, SelfContained f :=
    forall_said (P := SelfContained) (fun _ => SelfContained.stripConnector) h
  by_cases hne : said fragments = []
  · rw [joinConditions_of_nothing_said hne, hne]
    have hempty : clauseHolds v [] = true := by
      rw [clauseHolds, tokens_of_blank rfl]
    exact ⟨fun _ => hempty, fun _ => iff_of_true hempty (List.forall_mem_nil _)⟩
  have hclause : clauseHolds v (joinConditions fragments) =
      holds v (conjoined ((said fragments).map tokens)) := by
    have htokens := tokens_joinConditions (fun f hf => (hself f hf).quotes) hne
    rw [clauseHolds, htokens]
    rfl
  have hmap : (said fragments).map tokens ≠ [] := fun hnil => hne (List.map_eq_nil_iff.mp hnil)
  have hbalanced : ∀ a ∈ (said fragments).map tokens, Balanced a :=
    List.forall_mem_map.mpr fun f hf => (hself f hf).parens
  rw [hclause]
  refine ⟨fun hall => holds_conjoined hmap hbalanced (List.forall_mem_map.mpr hall), ?_⟩
  rintro (hone | hor)
  · obtain ⟨f, hf⟩ : ∃ f, said fragments = [f] := by
      refine List.length_eq_one_iff.mp (Nat.le_antisymm hone ?_)
      exact List.length_pos_of_ne_nil hne
    rw [hf]
    simp
  · rw [holds_conjoined_iff hmap hbalanced (List.forall_mem_map.mpr hor), List.forall_mem_map]

/-- Filters as they are collected: with a connector, blank, or in parentheses. -/
def collectedFilters : List Text :=
  ["WHERE a = 1".toList, " ".toList, "and (b = 2 or c = 'x or y')".toList]

theorem joinConditions_conjunction_collected : (∀ f ∈ collectedFilters, SelfContained f) ∧
    ∀ v : List Token → Bool, clauseHolds v (joinConditions collectedFilters) = true ↔
      holds v (tokens "a = 1".toList) = true ∧
        holds v (tokens "(b = 2 or c = 'x or y')".toList) = true := by
  have hself : ∀ f ∈ collectedFilters, SelfContained f := by decide +kernel
  have hor : ∀ f ∈ said collectedFilters, ∀ t ∈ outside 0 (tokens f),
      t.isKeyword "or".toList = false := by decide +kernel
  have hsaid : said collectedFilters = ["a = 1".toList, "(b = 2 or c = 'x or y')".toList] := by
    decide +kernel
  refine ⟨hself, fun v => ?_⟩
  have hiff := (joinConditions_conjunction hself v).2 (Or.inr hor)
  rwa [hsaid, List.forall_mem_cons, List.forall_mem_singleton] at hiff

/-- **An `or` takes the next filter to its right side**: `a = 1` is enough for the clause of the two
filters `a = 1 or b = 2` and `c = 3`, and not for the second filter. -/
theorem not_joinConditions_conjunction_or :
    (∀ f ∈ ["a = 1 or b = 2".toList, "c = 3".toList], SelfContained f) ∧
    ∃ v : List Token → Bool,
      ¬ (clauseHolds v (joinConditions ["a = 1 or b = 2".toList, "c = 3".toList]) = true ↔
        ∀ f ∈ said ["a = 1 or b = 2".toList, "c = 3".toList], holds v (tokens f) = true) := by
  refine ⟨by decide +kernel, fun atom => atom == tokens "a = 1".toList, ?_⟩
  decide +kernel

end SqlFragments
