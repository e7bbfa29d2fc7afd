import SqlFragments.Proofs.Condition.Redirection
import SqlFragments.Proofs.Token.Shape

/-!
# The type names of casts

A type may have the name of a column.  Where it is the target of a cast it is no reference, and it
should stay as it is: behind the word `as`, and behind the operator `::`.  The pass over the tokens
looks for the word only, so a type behind the operator is taken for a reference like any other.

* `FollowsCast` — a place directly behind the cast operator.
* `Anchored.ne`, `Redirected.eq_iff` — a reference that the rule applies to does not stay as it is.
* **`usePlaceholder_cast_targets`** — what becomes of the type names of casts.
* **`not_keeps_type_behind_operator`** — a type name that gets the placeholder.
-/

namespace SqlFragments

/-- The token directly before a place is the cast operator. -/
def FollowsCast (ts : List Token) (i : Nat) : Prop :=
  ∃ j t, i = j + 1 ∧ ts[j]? = some t ∧ t.isCast = true

variable {columns : List Text} {ts : List Token} {i : Nat}

/-- The placeholder is no segment of a token that was read. -/
lemma ChainFits.ne_placeholder {final : Prop} {segments : List Text}
    (h : ChainFits final segments) : "%s".toList ∉ segments := by
  intro hmem
  rcases h.mem _ hmem with hfits | hstar
  · rcases hfits.plain_or_quoted with hplain | ⟨q, t, heq, hq⟩
    · exact absurd hplain (by decide)
    · obtain ⟨rfl, -⟩ := List.cons.inj heq
      exact absurd hq (by decide)
  · exact absurd hstar (by decide)

/-- **The rule changes what it applies to**: a placeholder was not read, and a qualifier that is
long enough is not empty. -/
lemma Anchored.ne {next : Option Token} {t v : Token} (h : Anchored columns ts i t v)
    (hfits : t.Fits next) : v ≠ t := by
  cases h with
  | @outside qualifier column _ _ _ _ =>
      rintro heq
      cases hfits with
      | identifier hchain _ =>
          refine hchain.ne_placeholder ?_
          rw [← Token.identifier.inj heq]
          exact List.mem_cons_self
  | @inside qualifier column _ _ _ hlength =>
      rintro heq
      have hnil : [column] = qualifier ++ [column] := Token.identifier.inj heq
      obtain rfl : qualifier = [] := by simpa using hnil
      exact absurd hlength (by decide)

/-- An identifier stays as it is exactly when the rule does not apply to it. -/
lemma Redirected.eq_iff {next : Option Token} {segments : List Text} {u : Token}
    (h : Redirected columns ts i (.identifier segments) u)
    (hfits : (Token.identifier segments).Fits next) :
    u = .identifier segments ↔ ∀ v, ¬ Anchored columns ts i (.identifier segments) v := by
  rcases h with hrule | ⟨hnone, hsame | ⟨w, w', hword, -⟩⟩
  · exact iff_of_false (hrule.ne hfits) fun hnone => hnone u hrule
  · exact iff_of_true hsame hnone
  · cases hword

/-- **The type names of casts.**  Every condition is written from as many tokens as it has.  A type
name directly behind `as` is written as it stands, wherever it is and whatever columns are known.
Behind `::` it is written as it stands exactly when it would be anywhere else: when the rule for
references to known columns does not apply to it. -/
theorem usePlaceholder_cast_targets (hcolumns : columns ≠ []) (condition : Text) :
    ∃ out, usePlaceholder columns condition =
        (if condition.isBlank then condition else render out) ∧
      out.length = (tokens condition).length ∧
      ∀ i segments, (tokens condition)[i]? = some (.identifier segments) →
        (FollowsAs (tokens condition) i → out[i]? = some (.identifier segments)) ∧
        (FollowsCast (tokens condition) i → (out[i]? = some (.identifier segments) ↔
          ∀ v, ¬ Anchored columns (tokens condition) i (.identifier segments) v)) := by
  refine ⟨anchoredTokens columns condition, usePlaceholder_eq hcolumns condition,
    length_redirectTokens _ _ _ _, fun i segments ht => ?_⟩
  obtain ⟨u, hu, hred⟩ := redirectTokens_redirected columns (tokens condition) [] Scope.empty rfl
    i _ ht
  rw [List.nil_append, List.length_nil, Nat.zero_add] at hred
  obtain ⟨next, hfits⟩ := (tokens_fitting condition).exists_fits _ (List.mem_of_getElem? ht)
  have hkept : (anchoredTokens columns condition)[i]? = some (.identifier segments) ↔
      ∀ v, ¬ Anchored columns (tokens condition) i (.identifier segments) v := by
    have hout : (anchoredTokens columns condition)[i]? = some u := hu
    rw [hout, Option.some.injEq]
    exact hred.eq_iff hfits
  exact ⟨fun has => hkept.mpr (not_anchored_of_followsAs has), fun _ => hkept⟩

/-- Casts in both notations, in a subquery and outside, with types that are named like columns. -/
def castsOfColumns : Text :=
  "cast(value as numeric) > (select max(cast(ax.value as \"date\")) from t) and value::int > 1".toList

theorem usePlaceholder_cast_targets_value : ["value".toList, "numeric".toList, "date".toList] ≠ [] ∧
    ∃ out, usePlaceholder ["value".toList, "numeric".toList, "date".toList] castsOfColumns =
        (if castsOfColumns.isBlank then castsOfColumns else render out) ∧
      out.length = (tokens castsOfColumns).length ∧
      ∀ i segments, (tokens castsOfColumns)[i]? = some (.identifier segments) →
        (FollowsAs (tokens castsOfColumns) i → out[i]? = some (.identifier segments)) ∧
        (FollowsCast (tokens castsOfColumns) i → (out[i]? = some (.identifier segments) ↔
          ∀ v, ¬ Anchored ["value".toList, "numeric".toList, "date".toList]
            (tokens castsOfColumns) i (.identifier segments) v)) :=
  ⟨by decide, usePlaceholder_cast_targets (by decide) castsOfColumns⟩

/-- **A type name behind the cast operator gets the placeholder** when a known column has the same
name. -/
theorem not_keeps_type_behind_operator :
    (tokens "value::date > 1".toList)[2]? = some (.identifier ["date".toList]) ∧
    FollowsCast (tokens "value::date > 1".toList) 2 ∧
    (anchoredTokens ["value".toList, "date".toList] "value::date > 1".toList)[2]?
      = some (.identifier ["%s".toList, "date".toList]) ∧
    usePlaceholder ["value".toList, "date".toList] "value::date > 1".toList
      = "%s.value::%s.date > 1".toList := by
  refine ⟨by decide +kernel, ⟨1, .operator "::".toList, rfl, ?_, rfl⟩, ?_, ?_⟩
  all_goals decide +kernel

end SqlFragments
