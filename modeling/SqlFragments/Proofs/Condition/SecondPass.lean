import SqlFragments.Proofs.Condition.Rewritten
import SqlFragments.Proofs.Token.Bare

/-!
# Rewriting a condition twice

Rewriting anchors each reference once more.  It does not know its own placeholder, so a condition
in which it anchored something does not come back unchanged: every placeholder of the first pass
is taken apart, and from then on nothing changes any more.

* `barePercents_usePlaceholder` — a pass adds a `%` for every reference that it anchors.
* `bareIn_placeholder_render` — a placeholder outside quotes is that of an anchored reference.
* **`not_bareIn_placeholder`** — a text that rewriting returns unchanged shows no placeholder.
* `redirectTokens_broken` — the second pass over the pieces of anchored references.
* **`usePlaceholder_again`** — what a second and a third pass return.
* **`not_usePlaceholder_again`** — a placeholder that is broken apart.
-/

namespace SqlFragments

variable {t u : Token} {ts us rest : List Token} {next previous : Option Token}
  {columns : List Text} {condition : Text}

/-! ## Counting `%` -/

/-- The `%` of a text, outside its quotes. -/
def barePercents (s : Text) : Text :=
  (bareChars none s).filter (· == '%')

lemma barePercents_eq_flatMap (s : Text) :
    barePercents s = (bareChars none s).flatMap fun c => [c].filter (· == '%') := by
  rw [barePercents, ← List.filter_flatMap, List.flatMap_singleton']

lemma barePercents_tokens (s : Text) :
    barePercents s = (tokens s).flatMap fun t => barePercents t.text := by
  have hblank : ∀ c, isBlank c = true → [c].filter (· == '%') = [] := by
    intro c hc
    refine List.filter_eq_nil_iff.mpr (List.forall_mem_singleton.mpr fun hpercent => ?_)
    rw [beq_iff_eq.mp hpercent] at hc
    exact absurd hc (by decide)
  simp only [barePercents_eq_flatMap]
  exact flatMap_bareChars_tokens hblank s

lemma barePercents_render (hclosed : us.IsChain fun u _ => QuotesClosed u.text) :
    barePercents (render us) = us.flatMap fun u => barePercents u.text := by
  simp only [barePercents_eq_flatMap]
  exact flatMap_bareChars_render rfl hclosed

lemma barePercents_of_standsInNames {s : Text}
    (h : ∀ c ∈ bareChars none s, standsInNames c = true) : barePercents s = [] := by
  refine List.filter_eq_nil_iff.mpr fun c hc hpercent => ?_
  rw [beq_iff_eq] at hpercent
  have hnot := h c hc
  rw [hpercent] at hnot
  exact absurd hnot (by decide)

/-- Names hold no `%` outside their quotes, so one is added where the placeholder is. -/
lemma Reformed.barePercents (h : Reformed t u) (hfits : t.Fits next) :
    (barePercents u.text).length =
      (barePercents t.text).length + (if u.isAnchored then 1 else 0) := by
  cases h with
  | same t => rw [hfits.not_isAnchored, if_neg Bool.false_ne_true, Nat.add_zero]
  | @connector w w' hw =>
      cases hfits with
      | keyword hkeyword =>
          have hw' := (isKeyword_of_sameLetters hw).trans hkeyword
          rw [Token.text, barePercents_of_standsInNames
            (standsInNames_of_isPlainName (isPlainName_of_isKeyword hw')), Token.text,
            barePercents_of_standsInNames
            (standsInNames_of_isPlainName (isPlainName_of_isKeyword hkeyword))]
          rfl
  | @inside qualifier column hstar =>
      have hchain := hfits.standsInNames rfl
      cases hfits with
      | identifier hfit hplain =>
          rw [endsPlain_concat] at hplain
          have hcolumn : (Token.identifier [column]).Fits next :=
            Token.Fits.identifier (ChainFits.last (segmentFits_of_chainFits hfit hstar)) hplain
          rw [barePercents_of_standsInNames hchain,
            barePercents_of_standsInNames (hcolumn.standsInNames rfl), hcolumn.not_isAnchored]
          rfl
  | @outside qualifier column hstar =>
      have hchain := hfits.standsInNames rfl
      cases hfits with
      | identifier hfit _ =>
          have hcolumn := segmentFits_of_chainFits hfit hstar
          have hclosed : QuotesClosed (placeholder ++ ['.']) := rfl
          have hone : barePercents (placeholder ++ ['.'] ++ column) = ['%'] := by
            rw [SqlFragments.barePercents, hclosed.bareChars_append, List.filter_append]
            exact congrArg _ (barePercents_of_standsInNames hcolumn.standsInNames)
          rw [barePercents_of_standsInNames hchain, Token.text, Text.join_cons_cons,
            Text.join_singleton, hone]
          rfl

lemma barePercents_of_reformed (h : List.Forall₂ Reformed ts us) : Fitting ts →
    (us.flatMap fun u => barePercents u.text).length =
      (ts.flatMap fun t => barePercents t.text).length + us.countP Token.isAnchored := by
  induction h with
  | nil => exact fun _ => rfl
  | cons htu _ ih =>
      rintro ⟨hfits, hmore⟩
      rw [List.flatMap_cons, List.flatMap_cons, List.length_append, List.length_append,
        htu.barePercents hfits, ih hmore, List.countP_cons]
      omega

/-- **A pass adds a `%`** for every reference that it anchors, and no other one. -/
lemma barePercents_usePlaceholder (hcolumns : columns ≠ []) (s : Text) :
    (barePercents (usePlaceholder columns s)).length =
      (barePercents s).length + (anchoredTokens columns s).countP Token.isAnchored := by
  rw [usePlaceholder_eq hcolumns]
  split_ifs with hcondition
  · rw [anchoredTokens, (tokens_eq_nil_iff s).mpr hcondition]
    rfl
  · rw [barePercents_render (fittingRewritten_anchoredTokens columns s).closed,
      barePercents_tokens s]
    exact barePercents_of_reformed (anchoredTokens_reformed columns s) (tokens_fitting s)

/-! ## Placeholders outside quotes -/

/-- The first character of the placeholder is in no other token together with the second one. -/
lemma Token.Fits.not_bareIn_placeholder (h : t.Fits next) : ¬ BareIn placeholder t.text := by
  have hpercent : ¬ BareIn ['%'] t.text → ¬ BareIn placeholder t.text := fun hnot hbare =>
    hnot (BareIn.of_append (w := ['%']) (v := ['s']) hbare)
  have hname : t.isQuotable = true → ¬ BareIn placeholder t.text := fun ht =>
    hpercent (not_bareIn_of_standsInNames (by decide) (h.standsInNames ht))
  cases h with
  | literal _ => exact hname rfl
  | openLiteral _ _ => exact hname rfl
  | identifier _ _ => exact hname rfl
  | function _ _ _ _ _ => exact hname rfl
  | keyword hw =>
      exact hpercent (not_bareIn_of_standsInNames (by decide)
        (standsInNames_of_isPlainName (isPlainName_of_isKeyword hw)))
  | number ht => exact hpercent (not_bareIn_of_not_mem (percent_not_mem_number ht))
  | parameter ht => exact hpercent (not_bareIn_of_not_mem (percent_not_mem_parameter ht))
  | leftParen => exact hpercent (not_bareIn_of_not_mem (by decide))
  | rightParen => exact hpercent (not_bareIn_of_not_mem (by decide))
  | comma => exact hpercent (not_bareIn_of_not_mem (by decide))
  | operator _ hop =>
      intro hbare
      exact absurd (hop 's' (hbare.isInfix.subset (by decide))) (by decide)
  | other _ => exact fun hbare => absurd hbare.isInfix.length_le (by simp [placeholder, Token.text])

lemma Token.FitsRewritten.bareIn_placeholder (h : u.FitsRewritten next) :
    BareIn placeholder u.text ↔ u.isAnchored = true := by
  cases h with
  | same hfit =>
      rw [hfit.not_isAnchored]
      exact iff_of_false hfit.not_bareIn_placeholder Bool.false_ne_true
  | anchored _ _ =>
      rw [Token.text, Text.join_cons_cons, List.append_assoc]
      exact iff_of_true ⟨[], _, rfl, rfl⟩ rfl

lemma bareIn_placeholder_renderAfter (rest : List Token) : ∀ (u : Token)
    (previous : Option Token), FittingRewritten (u :: rest) →
    (BareIn placeholder (u.text ++ renderAfter u (isSign previous u) rest) ↔
      ∃ v ∈ u :: rest, v.isAnchored = true) := by
  induction rest with
  | nil =>
      intro u previous h
      rw [renderAfter, List.append_nil, h.1.bareIn_placeholder]
      simp
  | cons v rest ih =>
      intro u previous h
      have hclosed := h.1.quotesClosed (Option.some_ne_none _)
      have hspace : ∀ s : Text, BareIn placeholder
          ((if !isSign previous u && needsSpace u v then [' '] else []) ++ s)
            ↔ BareIn placeholder s := by
        intro s
        split_ifs
        · have hblank : QuotesClosed [' '] := rfl
          have hnot : ¬ BareIn placeholder [' '] := fun h => absurd h.isInfix (by decide)
          rw [placeholder, bareIn_append_of_two rfl hblank, ← placeholder]
          simp [hnot]
        · exact Iff.rfl
      -- the seam behind a token never makes a placeholder
      have hseam : ¬ (u.text.getLast? = some '%' ∧
          (renderAfter u (isSign previous u) (v :: rest)).head? = some 's') := by
        rintro ⟨hlast, hhead⟩
        rcases seam previous u (v :: rest) with h | h
        · exact h hlast
        · exact h hhead
      rw [placeholder, bareIn_append_of_two rfl hclosed, ← placeholder, or_iff_left hseam,
        h.1.bareIn_placeholder, renderAfter, List.append_assoc, hspace, ih v (some u) h.2]
      simp

/-- **A placeholder outside quotes** is that of an anchored reference. -/
lemma bareIn_placeholder_render (h : FittingRewritten us) :
    BareIn placeholder (render us) ↔ ∃ u ∈ us, u.isAnchored = true := by
  cases us with
  | nil => exact iff_of_false (fun h => absurd h.isInfix (by decide)) (by simp)
  | cons u rest => exact bareIn_placeholder_renderAfter rest u none h

lemma bareIn_placeholder_usePlaceholder (hcolumns : columns ≠ []) (condition : Text) :
    BareIn placeholder (usePlaceholder columns condition) ↔
      ∃ u ∈ anchoredTokens columns condition, u.isAnchored = true := by
  rw [usePlaceholder_eq hcolumns]
  split_ifs with hblank
  · rw [anchoredTokens, (tokens_eq_nil_iff condition).mpr hblank]
    refine iff_of_false (fun h => ?_) (by simp [redirectTokens])
    have hmem : '%' ∈ condition := h.isInfix.subset (by decide)
    exact absurd (List.all_eq_true.mp hblank _ hmem) (by decide)
  · exact bareIn_placeholder_render (fittingRewritten_anchoredTokens columns condition)

/-- **A text that rewriting returns unchanged shows no placeholder.**  It would hold more `%` than
before if a reference was anchored in it, and without one no placeholder is written. -/
theorem not_bareIn_placeholder {s : Text} (hcolumns : columns ≠ [])
    (hsame : usePlaceholder columns s = s) : ¬ BareIn placeholder s := by
  have hcount := barePercents_usePlaceholder hcolumns s
  rw [hsame, left_eq_add, List.countP_eq_zero] at hcount
  rw [← hsame, bareIn_placeholder_usePlaceholder hcolumns]
  rintro ⟨u, hu, hanchored⟩
  exact hcount u hu hanchored

/-! ## The second pass -/

/-- In a subquery a column without a qualifier stays as it is. -/
lemma redirect_column (known : List Text) (column : Text) :
    redirect known true [column] = none := by
  rw [← List.nil_append [column], redirect_concat]
  by_cases hcolumn : column = ['*'] ∨ known.contains (Text.lower (unquote column)) = false
  · rw [if_pos hcolumn]
  · rw [if_neg hcolumn, if_pos ⟨rfl, rfl⟩]

/-- A column behind a single letter stays as it is everywhere. -/
lemma redirect_letter (known : List Text) (inSub : Bool) (column : Text) :
    redirect known inSub [['s'], column] = none := by
  rw [← List.singleton_append, redirect_concat]
  by_cases hcolumn : column = ['*'] ∨ known.contains (Text.lower (unquote column)) = false
  · rw [if_pos hcolumn]
  · rw [if_neg hcolumn, if_neg fun h => List.cons_ne_nil _ _ h.1,
      if_pos ⟨List.cons_ne_nil _ _, by decide⟩]

lemma redirect_eq_some {known : List Text} {inSub : Bool} {segments new : List Text}
    (h : redirect known inSub segments = some new) :
    ∃ column, inSub = true ∧ new = [column] ∨ new = [placeholder, column] := by
  rcases List.eq_nil_or_concat segments with rfl | ⟨qualifier, column, rfl⟩
  · cases h
  rw [List.concat_eq_append, redirect_concat] at h
  split_ifs at h with _ _ _ hin
  · exact ⟨column, Or.inl ⟨hin, (Option.some.inj h).symm⟩⟩
  · exact ⟨column, Or.inr (Option.some.inj h).symm⟩

/-- The second pass over the pieces of an anchored reference. -/
lemma redirectTokens_anchored (known : List Text) (scope : Scope) (previous : Option Token)
    (column : Text) (us : List Token) :
    redirectTokens known scope previous ((Token.identifier [placeholder, column]).broken ++ us)
      = (Token.identifier [placeholder, column]).broken ++
        redirectTokens known scope (some (.identifier [['s'], column])) us := by
  have hpercent : Token.isKeyword (.operator ['%']) "as".toList = false := rfl
  simp only [Token.broken_anchored, List.cons_append, List.nil_append, redirectTokens,
    redirectToken, redirect_letter, Option.any_some, hpercent, if_neg Bool.false_ne_true,
    Option.elim_none]

/-- The second pass over a reference that is left as it is. -/
lemma redirectTokens_identifier (known : List Text) (scope : Scope) {previous : Option Token}
    {chain : List Text} (hchain : (Token.identifier chain).isAnchored = false)
    (hkept : previous.any (·.isKeyword "as".toList) = true ∨
      redirect known scope.inSubquery chain = none) (us : List Token) :
    redirectTokens known scope previous ((Token.identifier chain).broken ++ us)
      = (Token.identifier chain).broken ++
        redirectTokens known scope (some (.identifier chain)) us := by
  rw [Token.broken_of_not_isAnchored hchain, List.singleton_append, redirectTokens,
    redirectToken_identifier]
  rcases hkept with has | hnone
  · rw [if_pos has]
    rfl
  · rw [hnone, Option.getD_none, ite_self]
    rfl

/-- **The second pass over what became of a token** leaves it, broken or not, and goes on in the
scope of the first one. -/
lemma redirectTokens_broken_append (known : List Text) (scope : Scope)
    {previous previous' after : Option Token} (hfits : t.Fits after)
    (hprevious : previous'.any (·.isKeyword "as".toList)
      = previous.any (·.isKeyword "as".toList))
    (hnext : us.head?.any (·.isKeyword "select".toList)
      = next.any (·.isKeyword "select".toList)) :
    ∃ last : Token, last.isKeyword "as".toList = t.isKeyword "as".toList ∧
      redirectTokens known scope previous'
          ((redirectToken known scope previous t next).1.broken ++ us)
        = (redirectToken known scope previous t next).1.broken ++
          redirectTokens known (redirectToken known scope previous t next).2 (some last) us := by
  have hreformed := redirectToken_reformed known scope previous t next
  cases t with
  | leftParen =>
      refine ⟨.leftParen, rfl, ?_⟩
      simp only [redirectToken, Token.broken, List.singleton_append, redirectTokens, hnext]
  | keyword w =>
      obtain ⟨w', scope', hfirst, hagain⟩ := recaseKeyword_again scope w
      simp only [redirectToken, hfirst] at hreformed ⊢
      refine ⟨.keyword w', hreformed.isKeyword (a := ['s']) "as".toList, ?_⟩
      simp only [Token.broken, List.singleton_append, redirectTokens, redirectToken, hagain]
  | identifier segments =>
      rw [redirectToken_identifier] at hreformed ⊢
      split_ifs at hreformed ⊢ with has
      · exact ⟨_, rfl, redirectTokens_identifier known scope hfits.not_isAnchored
          (Or.inl (hprevious.trans has)) us⟩
      cases hnew : redirect known scope.inSubquery segments with
      | none =>
          exact ⟨_, rfl, redirectTokens_identifier known scope hfits.not_isAnchored
            (Or.inr hnew) us⟩
      | some new =>
          rw [hnew, Option.getD_some] at hreformed
          obtain ⟨column, ⟨hin, rfl⟩ | rfl⟩ := redirect_eq_some hnew
          · -- the column that is left of the reference is no placeholder
            have hcolumn : (Token.identifier [column]).isAnchored = false := by
              cases hreformed.fitsRewritten hfits with
              | same hfit => exact hfit.not_isAnchored
            refine ⟨.identifier [column], rfl,
              redirectTokens_identifier known scope hcolumn (Or.inr ?_) us⟩
            rw [hin]
            exact redirect_column known column
          · exact ⟨.identifier [['s'], column], rfl,
              redirectTokens_anchored known scope previous' column us⟩
  | _ => exact ⟨_, rfl, rfl⟩

/-- What becomes of a token starts with a keyword only where there was one. -/
lemma Reformed.head_broken (h : Reformed t u) (word : Text) (us : List Token) :
    (u.broken ++ us).head?.any (·.isKeyword word) = t.isKeyword word := by
  have hbroken : (u.broken ++ us).head?.any (·.isKeyword word) = u.isKeyword word := by
    unfold Token.broken
    split
    · split_ifs <;> rfl
    · rfl
  rw [hbroken]
  have hfill := h.isKeyword (a := ['s']) word
  cases u <;> exact hfill

/-- **The second pass** leaves the pieces of what the first one gave. -/
lemma redirectTokens_broken (known : List Text) : ∀ (ts : List Token) (scope : Scope)
    (previous previous' : Option Token), Fitting ts →
    previous'.any (·.isKeyword "as".toList) = previous.any (·.isKeyword "as".toList) →
    redirectTokens known scope previous'
        ((redirectTokens known scope previous ts).flatMap Token.broken)
      = (redirectTokens known scope previous ts).flatMap Token.broken
  | [], _, _, _, _, _ => rfl
  | t :: rest, scope, previous, previous', hfits, hprevious => by
      have hnext : ((redirectTokens known (redirectToken known scope previous t rest.head?).2
          (some t) rest).flatMap Token.broken).head?.any (·.isKeyword "select".toList)
            = rest.head?.any (·.isKeyword "select".toList) := by
        cases rest with
        | nil => rfl
        | cons v more =>
            exact (redirectToken_reformed known _ _ v more.head?).head_broken "select".toList _
      obtain ⟨last, hlast, hstep⟩ := redirectTokens_broken_append known scope hfits.1 hprevious
        hnext
      simp only [redirectTokens, List.flatMap_cons]
      rw [hstep, redirectTokens_broken known rest _ (some t) (some last) hfits.2 hlast]

lemma anchoredTokens_usePlaceholder (hcolumns : columns ≠ []) (happart : Apart (tokens condition))
    (hkept : KeepsColumns columns condition) :
    anchoredTokens columns (usePlaceholder columns condition)
      = (anchoredTokens columns condition).flatMap Token.broken := by
  rw [anchoredTokens, tokens_usePlaceholder hcolumns happart hkept]
  exact redirectTokens_broken _ _ _ _ _ (tokens_fitting condition) rfl

/-! ## Three passes -/

lemma isBlank_usePlaceholder (hcolumns : columns ≠ []) (happart : Apart (tokens condition))
    (hkept : KeepsColumns columns condition) (hcondition : condition.isBlank = false) :
    Text.isBlank (usePlaceholder columns condition) = false := by
  rw [← Bool.not_eq_true, ← tokens_eq_nil_iff] at hcondition ⊢
  rw [tokens_usePlaceholder hcolumns happart hkept, ← List.head?_eq_none_iff, (head_broken _).1,
    List.head?_eq_none_iff, ← List.length_eq_zero_iff, anchoredTokens, length_redirectTokens,
    List.length_eq_zero_iff]
  exact hcondition

/-- **A second pass** writes the pieces. -/
lemma usePlaceholder_twice (hcolumns : columns ≠ []) (happart : Apart (tokens condition))
    (hkept : KeepsColumns columns condition) (hcondition : condition.isBlank = false) :
    usePlaceholder columns (usePlaceholder columns condition)
      = render ((anchoredTokens columns condition).flatMap Token.broken) := by
  rw [usePlaceholder_eq_render hcolumns
    (isBlank_usePlaceholder hcolumns happart hkept hcondition),
    anchoredTokens_usePlaceholder hcolumns happart hkept]

/-- **A third pass** changes nothing any more. -/
lemma usePlaceholder_thrice (hcolumns : columns ≠ []) (happart : Apart (tokens condition))
    (hkept : KeepsColumns columns condition) :
    usePlaceholder columns (usePlaceholder columns (usePlaceholder columns condition))
      = usePlaceholder columns (usePlaceholder columns condition) := by
  cases hcondition : condition.isBlank with
  | true => simp only [usePlaceholder_of_isBlank columns hcondition]
  | false =>
      have hfits := fittingRewritten_anchoredTokens columns condition
      have hread := tokens_render hfits.broken (hfits.exact_broken hkept.exact)
        (hfits.apart_broken (apart_of_reformed (anchoredTokens_reformed columns condition)
          happart))
      have hfixed := anchoredTokens_usePlaceholder hcolumns happart hkept
      rw [anchoredTokens, tokens_usePlaceholder hcolumns happart hkept] at hfixed
      have hblank : Text.isBlank (render ((anchoredTokens columns condition).flatMap
          Token.broken)) = false := by
        rw [← Bool.not_eq_true, ← tokens_eq_nil_iff, hread,
          ← tokens_usePlaceholder hcolumns happart hkept, tokens_eq_nil_iff, Bool.not_eq_true]
        exact isBlank_usePlaceholder hcolumns happart hkept hcondition
      rw [usePlaceholder_twice hcolumns happart hkept hcondition,
        usePlaceholder_eq_render hcolumns hblank, anchoredTokens, hread, hfixed]

/-- **Rewriting a condition twice.**  Whatever the condition, it does not come back unchanged from
a second pass if the first one anchored a reference.  If no two of its tokens run together and no
column of it is read as a keyword, the second pass reads every placeholder as an operator and a
letter and writes them apart, so that it changes the text exactly if a reference was anchored; and
a third pass changes nothing. -/
theorem usePlaceholder_again (hcolumns : columns ≠ []) (condition : Text) :
    ((∃ t ∈ anchoredTokens columns condition, t.isAnchored = true) →
      usePlaceholder columns (usePlaceholder columns condition)
        ≠ usePlaceholder columns condition) ∧
    (Apart (tokens condition) → KeepsColumns columns condition →
      (condition.isBlank = false →
        usePlaceholder columns (usePlaceholder columns condition)
          = render ((anchoredTokens columns condition).flatMap Token.broken)) ∧
      (usePlaceholder columns (usePlaceholder columns condition)
          = usePlaceholder columns condition ↔
        ∀ t ∈ anchoredTokens columns condition, t.isAnchored = false) ∧
      usePlaceholder columns (usePlaceholder columns (usePlaceholder columns condition))
        = usePlaceholder columns (usePlaceholder columns condition)) := by
  have hchanged : (∃ t ∈ anchoredTokens columns condition, t.isAnchored = true) →
      usePlaceholder columns (usePlaceholder columns condition)
        ≠ usePlaceholder columns condition := fun hanchored hsame =>
    not_bareIn_placeholder hcolumns hsame
      ((bareIn_placeholder_usePlaceholder hcolumns condition).mpr hanchored)
  refine ⟨hchanged, fun happart hkept => ⟨usePlaceholder_twice hcolumns happart hkept, ?_,
    usePlaceholder_thrice hcolumns happart hkept⟩⟩
  constructor
  · intro hsame t ht
    rw [← Bool.not_eq_true]
    exact fun hanchored => hchanged ⟨t, ht, hanchored⟩ hsame
  · intro hnone
    cases hcondition : condition.isBlank with
    | true => simp only [usePlaceholder_of_isBlank columns hcondition]
    | false =>
        rw [usePlaceholder_twice hcolumns happart hkept hcondition,
          List.flatMap_congr fun t ht => Token.broken_of_not_isAnchored (hnone t ht),
          List.flatMap_singleton', usePlaceholder_eq_render hcolumns hcondition]

/-- A qualified reference, one that is left alone, a sign in front of a third one, and a
subquery. -/
def mixedReferences : Text :=
  "ax.age > -age and u.age::int in (select by.age from t) or name = '%s.age'".toList

theorem usePlaceholder_again_mixed : ["age".toList] ≠ [] ∧
    Apart (tokens mixedReferences) ∧ KeepsColumns ["age".toList] mixedReferences ∧
    usePlaceholder ["age".toList] (usePlaceholder ["age".toList] mixedReferences)
      ≠ usePlaceholder ["age".toList] mixedReferences ∧
    usePlaceholder ["age".toList] (usePlaceholder ["age".toList]
        (usePlaceholder ["age".toList] mixedReferences))
      = usePlaceholder ["age".toList] (usePlaceholder ["age".toList] mixedReferences) := by
  have hcolumns : ["age".toList] ≠ [] := by decide
  have happart : Apart (tokens mixedReferences) := by decide +kernel
  have hkept : KeepsColumns ["age".toList] mixedReferences := by decide +kernel
  have hanchored : ∃ t ∈ anchoredTokens ["age".toList] mixedReferences, t.isAnchored = true := by
    decide +kernel
  obtain ⟨hchanged, hmore⟩ := usePlaceholder_again hcolumns mixedReferences
  exact ⟨hcolumns, happart, hkept, hchanged hanchored, (hmore happart hkept).2.2⟩

/-- **A placeholder is broken apart**, although a qualifier of two characters is replaced by the
placeholder wherever it is known as one. -/
theorem not_usePlaceholder_again :
    usePlaceholder ["age".toList] "age > 10".toList = "%s.age > 10".toList ∧
    usePlaceholder ["age".toList] "%s.age > 10".toList = "% s.age > 10".toList ∧
    "% s.age > 10".toList ≠ "%s.age > 10".toList := by
  decide +kernel

end SqlFragments
