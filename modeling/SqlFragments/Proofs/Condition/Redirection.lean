import SqlFragments.Condition.Placeholder
import SqlFragments.Proofs.Text.Blank
import SqlFragments.Proofs.Text.Case
import SqlFragments.Proofs.Token.Bracket

/-!
# Which references get the placeholder

`usePlaceholder` reads the tokens of a condition once and keeps the open parentheses and the open
`between` on the way.  What it does to a reference can be said without any of that: it depends
on the reference, on the token before it, and on whether a `(` in front of it that is still open
is followed by `select`.

* `InSubquery` — a place lies in a subquery, by matching parentheses.
* `Anchored` — the rule: the new form of a reference to a known column at a place.
* **`usePlaceholder_anchors_references`** — the result is the writing of as many tokens, anchored
  where the rule says so and unchanged elsewhere, the case of `and` and `or` aside.
-/

namespace SqlFragments

/-! ## The rule -/

/-- A place lies in a subquery when a parenthesis that is open there is directly followed by
`select`. -/
def InSubquery (ts : List Token) (i : Nat) : Prop :=
  ∃ p t, OpenAt ts p i ∧ ts[p + 1]? = some t ∧ t.isKeyword "select".toList = true

/-- The token directly before a place is the keyword `as`. -/
def FollowsAs (ts : List Token) (i : Nat) : Prop :=
  ∃ j t, i = j + 1 ∧ ts[j]? = some t ∧ t.isKeyword "as".toList = true

/-- A segment names one of the known columns, case, quotes and outer white space aside. -/
def NamesKnown (columns : List Text) (segment : Text) : Prop :=
  segment ≠ ['*'] ∧ ∃ k ∈ columns, Text.lower (unquote segment) = Text.lower (unquote k.trim)

/-- The number of characters of a qualifier, its quotes and dots aside. -/
def qualifierLength (qualifier : List Text) : Nat :=
  qualifier.foldr (fun segment n => (unquote segment).length + n) 0

/-- **The rule.**  A reference to a known column that does not follow `as` goes behind the
placeholder outside subqueries, unless its qualifier is too short; in a subquery it loses a
qualifier that is long enough. -/
inductive Anchored (columns : List Text) (ts : List Token) (i : Nat) : Token → Token → Prop
  | outside {qualifier : List Text} {column : Text} :
      NamesKnown columns column → ¬ FollowsAs ts i → ¬ InSubquery ts i →
      qualifier = [] ∨ 2 ≤ qualifierLength qualifier →
      Anchored columns ts i (.identifier (qualifier ++ [column]))
        (.identifier ["%s".toList, column])
  | inside {qualifier : List Text} {column : Text} :
      NamesKnown columns column → ¬ FollowsAs ts i → InSubquery ts i →
      2 ≤ qualifierLength qualifier →
      Anchored columns ts i (.identifier (qualifier ++ [column])) (.identifier [column])

/-- Both tokens are the same `and` or `or`, in any case. -/
def RecasedConnector (t u : Token) : Prop :=
  ∃ w w', t = .keyword w ∧ u = .keyword w' ∧ isConnectorWord w = true ∧
    w'.sameLetters w = true

/-- A token and what becomes of it: the rule applies, or nothing but the case of a connector
changes. -/
def Redirected (columns : List Text) (ts : List Token) (i : Nat) (t u : Token) : Prop :=
  Anchored columns ts i t u ∨
    (∀ v, ¬ Anchored columns ts i t v) ∧ (u = t ∨ RecasedConnector t u)

/-! ## One reference -/

lemma length_flatMap_unquote (qualifier : List Text) :
    (qualifier.flatMap unquote).length = qualifierLength qualifier := by
  induction qualifier with
  | nil => rfl
  | cons s rest ih =>
      rw [List.flatMap_cons, List.length_append, ih]
      rfl

lemma contains_knownColumn_iff (columns : List Text) (segment : Text) :
    (columns.map knownColumn).contains (Text.lower (unquote segment)) = true ↔
      ∃ k ∈ columns, Text.lower (unquote segment) = Text.lower (unquote k.trim) := by
  rw [List.contains_iff_mem, List.mem_map]
  exact exists_congr fun k => and_congr_right fun _ => eq_comm

/-- What `redirect` does to a chain, read off its last segment and its qualifier. -/
lemma redirect_concat (known : List Text) (inSub : Bool) (qualifier : List Text)
    (column : Text) :
    redirect known inSub (qualifier ++ [column]) =
      if column = ['*'] ∨ known.contains (Text.lower (unquote column)) = false then none
      else if qualifier = [] ∧ inSub = true then none
      else if qualifier ≠ [] ∧ qualifierLength qualifier < 2 then none
      else some (if inSub then [column] else [placeholder, column]) := by
  simp only [redirect, List.getLast?_append, List.getLast?_singleton, Option.some_or,
    List.dropLast_concat, length_flatMap_unquote, minQualifierLength]
  simp

/-- An instance of the rule speaks of the last segment and of the qualifier in front of it. -/
lemma Anchored.of_concat {columns qualifier : List Text} {ts : List Token} {i : Nat}
    {column : Text} {v : Token}
    (h : Anchored columns ts i (.identifier (qualifier ++ [column])) v) :
    NamesKnown columns column ∧
      (¬ InSubquery ts i ∧ (qualifier = [] ∨ 2 ≤ qualifierLength qualifier) ∨
        InSubquery ts i ∧ 2 ≤ qualifierLength qualifier) := by
  generalize ht : Token.identifier (qualifier ++ [column]) = t at h
  cases h with
  | outside hk _ hs hq =>
      simp only [Token.identifier.injEq] at ht
      obtain ⟨rfl, hc⟩ := List.append_inj' ht rfl
      cases hc
      exact ⟨hk, Or.inl ⟨hs, hq⟩⟩
  | inside hk _ hs hq =>
      simp only [Token.identifier.injEq] at ht
      obtain ⟨rfl, hc⟩ := List.append_inj' ht rfl
      cases hc
      exact ⟨hk, Or.inr ⟨hs, hq⟩⟩

/-- A reference gets its new form exactly by the rule. -/
lemma redirected_identifier {columns : List Text} {ts : List Token} {i : Nat} {inSub : Bool}
    (hsub : inSub = true ↔ InSubquery ts i) (has : ¬ FollowsAs ts i) (segments : List Text) :
    Redirected columns ts i (.identifier segments)
      ((redirect (columns.map knownColumn) inSub segments).elim (.identifier segments)
        .identifier) := by
  rcases List.eq_nil_or_concat segments with rfl | ⟨qualifier, column, rfl⟩
  · refine Or.inr ⟨?_, Or.inl rfl⟩
    rintro v hv
    generalize ht : Token.identifier [] = t at hv
    cases hv <;> simp at ht
  rw [List.concat_eq_append, redirect_concat]
  split_ifs with h1 h2 h3 h4
  · refine Or.inr ⟨fun v hv => ?_, Or.inl rfl⟩
    obtain ⟨⟨hstar, hk⟩, -⟩ := hv.of_concat
    rcases h1 with h1 | h1
    · exact hstar h1
    · rw [(contains_knownColumn_iff columns column).mpr hk] at h1
      cases h1
  · refine Or.inr ⟨fun v hv => ?_, Or.inl rfl⟩
    obtain ⟨rfl, hin⟩ := h2
    rcases hv.of_concat.2 with ⟨hout, -⟩ | ⟨-, hlen⟩
    · exact hout (hsub.mp hin)
    · exact absurd hlen (by decide)
  · refine Or.inr ⟨fun v hv => ?_, Or.inl rfl⟩
    obtain ⟨hne, hlt⟩ := h3
    rcases hv.of_concat.2 with ⟨-, hq | hlen⟩ | ⟨-, hlen⟩
    · exact hne hq
    · omega
    · omega
  all_goals
    rw [not_or, Bool.not_eq_false] at h1
    have hk : NamesKnown columns column := ⟨h1.1, (contains_knownColumn_iff _ _).mp h1.2⟩
  · -- in a subquery the qualifier is dropped
    refine Or.inl (Anchored.inside hk has (hsub.mp h4) ?_)
    have hne : qualifier ≠ [] := fun hq => h2 ⟨hq, h4⟩
    exact Nat.le_of_not_lt fun hlt => h3 ⟨hne, hlt⟩
  · -- elsewhere the placeholder takes its place
    refine Or.inl (Anchored.outside hk has (fun hs => h4 (hsub.mpr hs)) ?_)
    by_cases hq : qualifier = []
    · exact Or.inl hq
    · exact Or.inr (Nat.le_of_not_lt fun hlt => h3 ⟨hq, hlt⟩)

lemma not_anchored {columns : List Text} {ts : List Token} {i : Nat} {t : Token}
    (h : ∀ segments, t ≠ .identifier segments) (v : Token) : ¬ Anchored columns ts i t v := by
  rintro (⟨⟩ | ⟨⟩)
  · exact h _ rfl
  · exact h _ rfl

lemma not_anchored_of_followsAs {columns : List Text} {ts : List Token} {i : Nat} {t : Token}
    (h : FollowsAs ts i) (v : Token) : ¬ Anchored columns ts i t v := by
  rintro (⟨_, has, _, _⟩ | ⟨_, has, _, _⟩)
  · exact has h
  · exact has h

/-! ## One token -/

/-- For every parenthesis that is open before `i`, innermost first: whether it opens a
subquery. -/
def scopeFlags (ts : List Token) (i : Nat) : List Bool :=
  (bracketRun [] 0 (ts.take i)).map fun p => ts[p + 1]?.any (·.isKeyword "select".toList)

lemma scopeFlags_any_iff {ts : List Token} {i : Nat} (hi : i ≤ ts.length) :
    (scopeFlags ts i).any id = true ↔ InSubquery ts i := by
  simp only [scopeFlags, List.any_map, List.any_eq_true, Function.comp_apply, id_eq,
    mem_bracketRun_iff_openAt ts hi, Option.any_eq_true]
  constructor
  · rintro ⟨p, hopen, t, ht, hsel⟩
    exact ⟨p, t, hopen, ht, hsel⟩
  · rintro ⟨p, t, hopen, ht, hsel⟩
    exact ⟨p, hopen, t, ht, hsel⟩

lemma take_succ_eq_append {ts : List Token} {i : Nat} {t : Token} (ht : ts[i]? = some t) :
    ts.take (i + 1) = ts.take i ++ [t] := by
  rw [List.take_add_one, ht, Option.toList_some]

/-- **Step: the flags.**  The scope behind a token has the flags of the next place. -/
lemma redirectToken_brackets (known : List Text) {ts : List Token} {i : Nat} {t : Token}
    {scope : Scope} (previous : Option Token) (ht : ts[i]? = some t)
    (hscope : scope.brackets = scopeFlags ts i) :
    (redirectToken known scope previous t ts[i + 1]?).2.brackets = scopeFlags ts (i + 1) := by
  have hi : i < ts.length := (List.getElem?_eq_some_iff.mp ht).1
  have hlen : (ts.take i).length = i := by rw [List.length_take]; omega
  have hrun : bracketRun [] 0 (ts.take (i + 1))
      = bracketStep (bracketRun [] 0 (ts.take i)) i t := by
    rw [take_succ_eq_append ht, bracketRun_append, hlen, Nat.zero_add]
    rfl
  rw [scopeFlags, hrun]
  cases t with
  | leftParen => simp only [redirectToken, bracketStep, List.map_cons, hscope, scopeFlags]
  | rightParen =>
      simp only [redirectToken, bracketStep, Scope.close, List.map_tail, hscope, scopeFlags]
  | keyword word =>
      simp only [redirectToken, bracketStep, recaseKeyword, hscope, scopeFlags]
      split_ifs <;> simp only [hscope, scopeFlags]
  | identifier segments =>
      simp only [redirectToken, bracketStep]
      split_ifs <;> simp only [hscope, scopeFlags]
  | _ => simp only [redirectToken, bracketStep, hscope, scopeFlags]

lemma recaseKeyword_redirected (columns : List Text) (ts : List Token) (i : Nat)
    (scope : Scope) (word : Text) :
    Redirected columns ts i (.keyword word) (recaseKeyword scope word).1 := by
  have hrule : ∀ v, ¬ Anchored columns ts i (.keyword word) v :=
    not_anchored fun _ h => by cases h
  refine Or.inr ⟨hrule, ?_⟩
  rw [recaseKeyword]
  split_ifs with h1 h2 h3
  · exact Or.inl rfl
  · exact Or.inl rfl
  · rw [Bool.and_eq_true] at h3
    refine Or.inr ⟨word, word.toAsciiUpper, rfl, rfl, h3.2, Text.sameLetters_toAsciiUpper word⟩
  · exact Or.inl rfl

/-- **Step: the token.**  It becomes what the rule says. -/
lemma redirectToken_redirected {columns : List Text} {ts : List Token} {i : Nat} {t : Token}
    {scope : Scope} {previous : Option Token} (next : Option Token) (hi : i ≤ ts.length)
    (hscope : scope.brackets = scopeFlags ts i)
    (hprev : previous.any (·.isKeyword "as".toList) = true ↔ FollowsAs ts i) :
    Redirected columns ts i t
      (redirectToken (columns.map knownColumn) scope previous t next).1 := by
  have hsub : scope.inSubquery = true ↔ InSubquery ts i := by
    rw [Scope.inSubquery, hscope, scopeFlags_any_iff hi]
  cases t with
  | keyword word => exact recaseKeyword_redirected columns ts i scope word
  | identifier segments =>
      simp only [redirectToken]
      split_ifs with has
      · exact Or.inr ⟨not_anchored_of_followsAs (hprev.mp has), Or.inl rfl⟩
      · exact redirected_identifier hsub (fun h => has (hprev.mpr h)) segments
  | _ => exact Or.inr ⟨not_anchored fun _ h => (by cases h), Or.inl rfl⟩

/-! ## The whole condition -/

/-- The tokens that a condition is written from once its references are anchored. -/
def anchoredTokens (columns : List Text) (condition : Text) : List Token :=
  redirectTokens (columns.map knownColumn) Scope.empty none (tokens condition)

lemma usePlaceholder_eq_render {columns : List Text} {condition : Text}
    (hcolumns : columns ≠ []) (hcondition : condition.isBlank = false) :
    usePlaceholder columns condition = render (anchoredTokens columns condition) := by
  have htrim : condition.trim.isEmpty = false := by
    rw [← Bool.not_eq_true, Text.isEmpty_trim_iff, hcondition]
    exact Bool.false_ne_true
  have hempty : columns.isEmpty = false := by
    rw [← Bool.not_eq_true, List.isEmpty_iff]
    exact hcolumns
  rw [usePlaceholder, hempty, htrim]
  rfl

lemma usePlaceholder_of_isBlank (columns : List Text) {s : Text} (h : s.isBlank = true) :
    usePlaceholder columns s = s := by
  rw [usePlaceholder, (Text.isEmpty_trim_iff s).mpr h, Bool.or_true]
  rfl

/-- A condition that says something is the writing of its new tokens; a blank one has none. -/
lemma usePlaceholder_eq {columns : List Text} (hcolumns : columns ≠ []) (condition : Text) :
    usePlaceholder columns condition =
      if condition.isBlank then condition else render (anchoredTokens columns condition) := by
  split_ifs with hcondition
  · exact usePlaceholder_of_isBlank columns hcondition
  · exact usePlaceholder_eq_render hcolumns (Bool.eq_false_of_not_eq_true hcondition)

/-- The last token of a prefix decides whether the next place follows `as`. -/
lemma followsAs_iff (before rest : List Token) :
    before.getLast?.any (·.isKeyword "as".toList) = true ↔
      FollowsAs (before ++ rest) before.length := by
  rcases List.eq_nil_or_concat before with rfl | ⟨front, last, rfl⟩
  · constructor
    · intro h; cases h
    · rintro ⟨j, t, hj, -⟩; cases hj
  · rw [List.concat_eq_append, List.getLast?_concat, Option.any_some, List.append_assoc,
      List.length_append, List.length_singleton]
    constructor
    · intro h
      refine ⟨front.length, last, rfl, ?_, h⟩
      rw [List.getElem?_append_right (Nat.le_refl _), Nat.sub_self]
      rfl
    · rintro ⟨j, t, hj, ht, has⟩
      obtain rfl : front.length = j := by omega
      rw [List.getElem?_append_right (Nat.le_refl _), Nat.sub_self] at ht
      cases ht
      exact has

lemma length_redirectTokens (known : List Text) : ∀ (ts : List Token) (scope : Scope)
    (previous : Option Token), (redirectTokens known scope previous ts).length = ts.length
  | [], _, _ => rfl
  | t :: rest, scope, previous => by
      simp only [redirectTokens, List.length_cons, length_redirectTokens known rest]

/-- **Run.**  From any place on, every token becomes what the rule says, if the scope at that
place fits. -/
lemma redirectTokens_redirected (columns : List Text) : ∀ (rest before : List Token)
    (scope : Scope), scope.brackets = scopeFlags (before ++ rest) before.length →
    ∀ j t, rest[j]? = some t →
      ∃ u, (redirectTokens (columns.map knownColumn) scope before.getLast? rest)[j]? = some u ∧
        Redirected columns (before ++ rest) (before.length + j) t u
  | [], _, _, _, j, t, ht => by simp at ht
  | first :: rest, before, scope, hscope, j, t, ht => by
      have hfirst : (before ++ first :: rest)[before.length]? = some first := by
        rw [List.getElem?_append_right (Nat.le_refl _), Nat.sub_self]
        rfl
      have hnext : (before ++ first :: rest)[before.length + 1]? = rest.head? := by
        rw [List.getElem?_append_right (Nat.le_add_right _ _), Nat.add_sub_cancel_left,
          List.getElem?_cons_succ, List.head?_eq_getElem?]
      cases j with
      | zero =>
          cases ht
          refine ⟨_, rfl, ?_⟩
          have hle : before.length ≤ (before ++ first :: rest).length := by
            rw [List.length_append]; omega
          exact redirectToken_redirected rest.head? hle hscope (followsAs_iff before _)
      | succ j =>
          have hstep := redirectToken_brackets (columns.map knownColumn)
            before.getLast? hfirst hscope
          rw [hnext] at hstep
          have happ : before ++ first :: rest = (before ++ [first]) ++ rest := by
            rw [List.append_assoc, List.singleton_append]
          have hlen : (before ++ [first]).length = before.length + 1 := by
            rw [List.length_append, List.length_singleton]
          rw [happ, ← hlen] at hstep
          obtain ⟨u, hu, hred⟩ := redirectTokens_redirected columns rest (before ++ [first]) _
            hstep j t ht
          rw [List.getLast?_concat] at hu
          refine ⟨u, hu, ?_⟩
          rw [happ, ← Nat.add_assoc, Nat.add_right_comm, ← hlen]
          exact hred

/-- **Every reference is anchored by the rule, and nothing else changes**: a condition that says
something is written from as many tokens as it has, each of which follows from the reference, the
token before it and the open parentheses. -/
theorem usePlaceholder_anchors_references {columns : List Text} {condition : Text}
    (hcolumns : columns ≠ []) (hcondition : condition.isBlank = false) :
    ∃ out, usePlaceholder columns condition = render out ∧
      out.length = (tokens condition).length ∧
      ∀ i t, (tokens condition)[i]? = some t →
        ∃ u, out[i]? = some u ∧ Redirected columns (tokens condition) i t u := by
  refine ⟨anchoredTokens columns condition, usePlaceholder_eq_render hcolumns hcondition,
    length_redirectTokens _ _ _ _, fun i t ht => ?_⟩
  have hrun := redirectTokens_redirected columns (tokens condition) [] Scope.empty rfl i t ht
  rw [List.nil_append, List.length_nil, Nat.zero_add] at hrun
  exact hrun

/-- A known column inside and outside a subquery, as the example of the placeholder has it. -/
theorem usePlaceholder_anchors_salary :
    ["salary".toList] ≠ [] ∧
    Text.isBlank "ax.salary > (SELECT AVG(by.salary) FROM emp1)".toList = false ∧
    ∃ out, usePlaceholder ["salary".toList]
        "ax.salary > (SELECT AVG(by.salary) FROM emp1)".toList = render out ∧
      out.length = (tokens "ax.salary > (SELECT AVG(by.salary) FROM emp1)".toList).length ∧
      ∀ i t, (tokens "ax.salary > (SELECT AVG(by.salary) FROM emp1)".toList)[i]? = some t →
        ∃ u, out[i]? = some u ∧ Redirected ["salary".toList]
          (tokens "ax.salary > (SELECT AVG(by.salary) FROM emp1)".toList) i t u :=
  ⟨by decide, by decide, usePlaceholder_anchors_references (by decide) (by decide)⟩

end SqlFragments
