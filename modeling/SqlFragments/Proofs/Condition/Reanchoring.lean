import SqlFragments.Proofs.Condition.Binding
import SqlFragments.Proofs.Text.LowerCase
import SqlFragments.Proofs.Token.RoundTrip

/-!
# Pointing a bound condition at another alias

A condition that was rewritten and bound to an alias can be rewritten once more: every reference
that got the placeholder has the alias as its qualifier now, and gets the placeholder again.  For
this the bound text has to be read as the tokens that it was written from, and the second pass has
to decide about each of them as the first one did.

* `Token.HoldsPlaceholder` — a literal or a quoted name has a placeholder in it.
* **`redirectToken_again`** — one token: the second pass gives the same token and the same scope.
* **`tokens_bound`** — the tokens of a bound condition.
* **`reanchoring`** — rewriting, binding and rewriting is rewriting, if no known column is a
  keyword in lower case.
* **`not_reanchoring_like`** — it is not enough that no known column is a keyword as written.
-/

namespace SqlFragments

variable {a : Text}

/-! ## Tokens without a placeholder -/

/-- A placeholder stands in a literal or in a quoted name.  Of a function name only quoted
segments can hold one. -/
def Token.HoldsPlaceholder : Token → Prop
  | literal t => placeholder <:+: t
  | identifier segments => ∃ s ∈ segments, isQuotedSegment s = true ∧ placeholder <:+: s
  | function name => placeholder <:+: name
  | _ => False

instance (t : Token) : Decidable t.HoldsPlaceholder :=
  match t with
  | .literal t => inferInstanceAs (Decidable (placeholder <:+: t))
  | .identifier segments => inferInstanceAs
      (Decidable (∃ s ∈ segments, isQuotedSegment s = true ∧ placeholder <:+: s))
  | .function name => inferInstanceAs (Decidable (placeholder <:+: name))
  | .keyword _ | .number _ | .parameter _ | .leftParen | .rightParen | .comma | .operator _
  | .other _ => inferInstanceAs (Decidable False)

/-- A segment is plain, quoted, or `*`. -/
lemma ChainFits.segment {final : Prop} {segments : List Text} (h : ChainFits final segments) :
    ∀ s ∈ segments, isPlainName s = true ∨ isQuotedSegment s = true ∨ s = ['*'] := by
  have hsegment : ∀ {final : Prop} {s : Text}, SegmentFits final s →
      isPlainName s = true ∨ isQuotedSegment s = true ∨ s = ['*'] := by
    intro final s hs
    rcases hs.plain_or_quoted with hplain | ⟨q, t, rfl, hq⟩
    · exact Or.inl hplain
    · exact Or.inr (Or.inl hq)
  have hname : ∀ {s : Text}, IsName s →
      isPlainName s = true ∨ isQuotedSegment s = true ∨ s = ['*'] := fun hs =>
    hsegment (Or.inl hs : SegmentFits False _)
  induction h with
  | last hs => exact List.forall_mem_singleton.mpr (hsegment hs)
  | star hs => exact List.forall_mem_cons.mpr ⟨hname hs,
      List.forall_mem_singleton.mpr (Or.inr (Or.inr rfl))⟩
  | cons hs _ ih => exact List.forall_mem_cons.mpr ⟨hname hs, ih⟩

/-- **A token without a placeholder stays as it is** when placeholders are filled. -/
lemma Token.Fits.fill_eq_self {next : Option Token} {t : Token} (ha : isPlainName a = true)
    (h : t.Fits next) (hfree : ¬ t.HoldsPlaceholder) : t.fill a = t := by
  have hself : ∀ {s : Text}, ¬ placeholder <:+: s → fillPlaceholder a s = s := fun hs =>
    (fill_eq_self_iff (not_mem_of_isPlainName ha (by decide)) _).mpr hs
  cases h with
  | literal _ => exact congrArg Token.literal (hself hfree)
  | openLiteral _ _ => exact congrArg Token.literal (hself hfree)
  | function _ _ _ _ _ => exact congrArg Token.function (hself hfree)
  | @identifier segments hchain _ =>
      have hsegments : ∀ s ∈ segments, fillPlaceholder a s = s := by
        intro s hs
        rcases hchain.segment s hs with hplain | hquoted | rfl
        · exact fill_of_isPlainName hplain
        · exact hself fun hin => hfree ⟨s, hs, hquoted, hin⟩
        · exact fill_star
      exact congrArg Token.identifier ((List.map_congr_left hsegments).trans (List.map_id segments))
  | _ => rfl

/-! ## The second pass over one token -/

lemma unquote_of_isPlainName {s : Text} (h : isPlainName s = true) : unquote s = s := by
  have hunwrap : ∀ q, isQuote q = true → unwrap q s = none := by
    intro q hq
    cases s with
    | nil => rfl
    | cons c rest =>
        have hc : c ≠ q := by
          rintro rfl
          rw [isPlainName, startsIdentifier_of_isQuote hq] at h
          cases h
        rw [unwrap, decide_eq_false hc, Bool.false_and, if_neg Bool.false_ne_true]
  rw [unquote, hunwrap '"' (by decide), hunwrap '\x60' (by decide)]

lemma recaseKeyword_again (scope : Scope) (w : Text) :
    ∃ w' scope', recaseKeyword scope w = (.keyword w', scope') ∧
      recaseKeyword scope w' = (.keyword w', scope') := by
  have hupper : ∀ word : Text, w.toAsciiUpper.sameLetters word = w.sameLetters word := by
    intro word
    rw [Text.sameLetters, Text.toAsciiLower_toAsciiUpper, Text.sameLetters]
  have htwice : w.toAsciiUpper.toAsciiUpper = w.toAsciiUpper := by
    rw [Text.toAsciiUpper, Text.toAsciiUpper, List.map_map]
    exact List.map_congr_left fun c _ => Char.toUpper_toUpper_eq_toUpper c
  simp only [recaseKeyword]
  split_ifs with hbetween hand hconnector
  · exact ⟨w, _, rfl, if_pos hbetween⟩
  · exact ⟨w, _, rfl, by rw [if_neg hbetween, if_pos hand]⟩
  · refine ⟨w.toAsciiUpper, _, rfl, ?_⟩
    rw [isConnectorWord, hupper, hupper, hupper, htwice, ← isConnectorWord, if_neg hbetween,
      if_neg hand, if_pos hconnector]
  · exact ⟨w, _, rfl, by rw [if_neg hbetween, if_neg hand, if_neg hconnector]⟩

/-- A reference in its new form gets that form again, once the placeholder is filled. -/
lemma redirect_again (known : List Text) (inSub : Bool) {segments out : List Text}
    (ha : isPlainName a = true) (hlength : 2 ≤ a.length)
    (hsame : segments.map (fillPlaceholder a) = segments)
    (hout : (redirect known inSub segments).getD segments = out) :
    (redirect known inSub (out.map (fillPlaceholder a))).getD (out.map (fillPlaceholder a))
      = out := by
  rcases List.eq_nil_or_concat segments with rfl | ⟨qualifier, column, rfl⟩
  · subst hout
    rfl
  rw [List.concat_eq_append] at hout hsame
  have hcolumn : fillPlaceholder a column = column := by
    have hlast := congrArg List.getLast? hsame
    rw [List.map_append, List.map_singleton, List.getLast?_concat, List.getLast?_concat] at hlast
    exact Option.some.inj hlast
  cases hfirst : redirect known inSub (qualifier ++ [column]) with
  | none =>
      rw [hfirst, Option.getD_none] at hout
      rw [← hout, hsame, hfirst, Option.getD_none]
  | some new =>
      rw [hfirst, Option.getD_some] at hout
      rw [redirect_concat] at hfirst
      split_ifs at hfirst with h1 h2 h3 hin
      · -- in a subquery the column stands alone, and stays so
        obtain rfl := Option.some.inj hfirst
        rw [← hout, List.map_singleton, hcolumn, ← List.nil_append [column], redirect_concat,
          if_neg h1, if_pos ⟨rfl, hin⟩, Option.getD_none]
      · -- elsewhere the alias is a qualifier that is long enough
        obtain rfl := Option.some.inj hfirst
        have halias : out.map (fillPlaceholder a) = [a] ++ [column] := by
          rw [← hout, List.map_cons, List.map_singleton, hcolumn, placeholder, fill_placeholder,
            fill_nil, List.append_nil, List.singleton_append]
        have hlong : ¬ ([a] ≠ [] ∧ qualifierLength [a] < 2) := by
          rintro ⟨-, hlt⟩
          rw [qualifierLength, List.foldr_cons, List.foldr_nil, unquote_of_isPlainName ha,
            Nat.add_zero] at hlt
          omega
        rw [halias, redirect_concat, if_neg h1, if_neg fun h => List.cons_ne_nil a [] h.1,
          if_neg hlong, if_neg hin, Option.getD_some, hout]

lemma redirectToken_identifier (known : List Text) (scope : Scope) (previous next : Option Token)
    (segments : List Text) :
    redirectToken known scope previous (.identifier segments) next =
      (.identifier (if previous.any (·.isKeyword "as".toList) then segments
        else (redirect known scope.inSubquery segments).getD segments), scope) := by
  simp only [redirectToken]
  split_ifs
  · rfl
  · cases redirect known scope.inSubquery segments <;> rfl

/-- **The second pass over one token** gives that token again, and leaves the same scope. -/
lemma redirectToken_again (known : List Text) (scope : Scope) {t : Token}
    {previous previous' next next' : Option Token} (ha : isPlainName a = true)
    (hlength : 2 ≤ a.length) (hsame : t.fill a = t)
    (hprevious : previous'.any (·.isKeyword "as".toList)
      = previous.any (·.isKeyword "as".toList))
    (hnext : next'.any (·.isKeyword "select".toList) = next.any (·.isKeyword "select".toList)) :
    redirectToken known scope previous' ((redirectToken known scope previous t next).1.fill a)
        next' = redirectToken known scope previous t next := by
  cases t with
  | leftParen => simp only [redirectToken, Token.fill, hnext]
  | keyword w =>
      obtain ⟨w', scope', hfirst, hagain⟩ := recaseKeyword_again scope w
      simp only [redirectToken, hfirst, Token.fill, hagain]
  | identifier segments =>
      have hsegments := Token.identifier.inj hsame
      rw [redirectToken_identifier, Token.fill, redirectToken_identifier, hprevious]
      split_ifs with has
      · rw [hsegments]
      · rw [redirect_again known scope.inSubquery ha hlength hsegments rfl]
  | _ => simp only [redirectToken, hsame]

/-! ## The second pass over all tokens -/

/-- What becomes of a token is the same keyword, or no keyword either. -/
lemma Reformed.isKeyword {t u : Token} (h : Reformed t u) (word : Text) :
    (u.fill a).isKeyword word = t.isKeyword word := by
  cases h with
  | same t => cases t <;> rfl
  | @connector w w' hw =>
      show w'.sameLetters word = w.sameLetters word
      rw [Text.sameLetters, Text.sameLetters_iff.mp hw, Text.sameLetters]
  | _ => rfl

lemma any_isKeyword_redirectTokens (known : List Text) (scope : Scope) (previous : Option Token)
    (ts : List Token) (word : Text) :
    (((redirectTokens known scope previous ts).map (Token.fill a)).head?.any
      (·.isKeyword word)) = ts.head?.any (·.isKeyword word) := by
  cases ts with
  | nil => rfl
  | cons t rest => exact (redirectToken_reformed known scope previous t rest.head?).isKeyword word

/-- **The second pass** gives what the first one gave, from any place on. -/
lemma redirectTokens_again (known : List Text) (ha : isPlainName a = true)
    (hlength : 2 ≤ a.length) : ∀ (ts : List Token) (scope : Scope)
    (previous previous' : Option Token), (∀ t ∈ ts, t.fill a = t) →
    previous'.any (·.isKeyword "as".toList) = previous.any (·.isKeyword "as".toList) →
    redirectTokens known scope previous'
        ((redirectTokens known scope previous ts).map (Token.fill a))
      = redirectTokens known scope previous ts
  | [], _, _, _, _, _ => rfl
  | t :: rest, scope, previous, previous', hsame, hprevious => by
      obtain ⟨ht, hrest⟩ := List.forall_mem_cons.mp hsame
      have hreformed := redirectToken_reformed known scope previous t rest.head?
      have hstep := redirectToken_again known scope ha hlength ht hprevious
        (any_isKeyword_redirectTokens (a := a) known
          (redirectToken known scope previous t rest.head?).2 (some t) rest "select".toList)
      have hrun := redirectTokens_again known ha hlength rest
        (redirectToken known scope previous t rest.head?).2 (some t)
        (some ((redirectToken known scope previous t rest.head?).1.fill a)) hrest
        (hreformed.isKeyword "as".toList)
      simp only [redirectTokens, List.map_cons, hstep]
      rw [hrun]

/-! ## The tokens of a bound condition -/

/-- An operator or a mark is what it was. -/
lemma Reformed.eq_of_isMark {t u : Token} (h : Reformed t u) (hmark : u.isMark = true) :
    u = t := by
  cases h with
  | same t => rfl
  | _ => cases hmark

lemma isMark_of_runsTogether {t u : Token} (h : runsTogether t u = true) :
    t.isMark = true ∧ u.isMark = true := by
  rcases runsTogether_iff.mp h with ⟨rfl, more, rfl⟩ | ⟨rfl, rfl⟩ <;> exact ⟨rfl, rfl⟩

lemma Reformed.runsTogether {t u t' u' : Token} (h : Reformed t u) (h' : Reformed t' u')
    (happart : runsTogether t t' = false) : runsTogether u u' = false := by
  rw [← Bool.not_eq_true]
  intro htogether
  obtain ⟨hu, hu'⟩ := isMark_of_runsTogether htogether
  rw [h.eq_of_isMark hu, h'.eq_of_isMark hu', happart] at htogether
  cases htogether

lemma apart_of_reformed {ts us : List Token} (h : List.Forall₂ Reformed ts us) :
    Apart ts → Apart us := by
  induction h with
  | nil => exact fun _ => List.IsChain.nil
  | @cons t u rest rest' htu hrest ih =>
      intro happart
      obtain ⟨hnext, hmore⟩ := List.isChain_cons.mp happart
      refine List.isChain_cons.mpr ⟨?_, ih hmore⟩
      cases hrest with
      | nil => exact fun v hv => by cases hv
      | cons htu' _ =>
          rintro v ⟨⟩
          exact htu.runsTogether htu' (hnext _ rfl)

lemma fill_eq_self_of_isMark {u : Token} (h : (u.fill a).isMark = true) : u.fill a = u := by
  cases u with
  | operator op => rfl
  | other c => rfl
  | _ => cases h

lemma Apart.fill {us : List Token} (h : Apart us) : Apart (us.map (Token.fill a)) := by
  refine (List.isChain_map _).mpr (h.imp fun t u happart => ?_)
  rw [← Bool.not_eq_true]
  intro htogether
  obtain ⟨ht, hu⟩ := isMark_of_runsTogether htogether
  rw [fill_eq_self_of_isMark ht, fill_eq_self_of_isMark hu, happart] at htogether
  cases htogether

/-- A known column is no keyword if its form for comparison is none. -/
lemma isLoneKeyword_column {columns : List Text}
    (hkeyword : ∀ k ∈ columns, isKeyword (knownColumn k) = false) {column : Text}
    (hknown : (columns.map knownColumn).contains (Text.lower (unquote column)) = true) :
    isLoneKeyword [column] = false := by
  rw [isLoneKeyword, ← Bool.not_eq_true, Bool.and_eq_true]
  rintro ⟨-, hcolumn⟩
  obtain ⟨k, hk, hsame⟩ := List.mem_map.mp (List.contains_iff_mem.mp hknown)
  have hlower := isKeyword_lower hcolumn
  rw [unquote_of_isPlainName (isPlainName_of_isKeyword hcolumn)] at hsame
  rw [← hsame, hkeyword k hk] at hlower
  cases hlower

lemma redirectToken_exact {columns : List Text}
    (hkeyword : ∀ k ∈ columns, isKeyword (knownColumn k) = false) {scope : Scope} {t : Token}
    {previous next : Option Token} (ht : t.Exact) :
    (redirectToken (columns.map knownColumn) scope previous t next).1.Exact := by
  cases t with
  | identifier segments =>
      simp only [redirectToken]
      split_ifs with has
      · exact ht
      · rcases List.eq_nil_or_concat segments with rfl | ⟨qualifier, column, rfl⟩
        · exact ht
        · rw [List.concat_eq_append] at ht ⊢
          rw [redirect_concat]
          split_ifs with h1 h2 h3 hin
          · exact ht
          · exact ht
          · exact ht
          · rw [not_or, Bool.not_eq_false] at h1
            exact isLoneKeyword_column hkeyword h1.2
          · rfl
  | keyword w =>
      obtain ⟨w', scope', hfirst, -⟩ := recaseKeyword_again scope w
      simp only [redirectToken, hfirst]
      trivial
  | operator op => exact ht
  | other c => exact ht
  | _ => trivial

lemma redirectTokens_exact {columns : List Text}
    (hkeyword : ∀ k ∈ columns, isKeyword (knownColumn k) = false) : ∀ (ts : List Token)
    (scope : Scope) (previous : Option Token), (∀ t ∈ ts, t.Exact) →
    ∀ u ∈ redirectTokens (columns.map knownColumn) scope previous ts, u.Exact
  | [], _, _, _ => fun u hu => absurd hu List.not_mem_nil
  | _ :: rest, _, _, hexact => by
      obtain ⟨ht, hrest⟩ := List.forall_mem_cons.mp hexact
      exact List.forall_mem_cons.mpr ⟨redirectToken_exact hkeyword ht,
        redirectTokens_exact hkeyword rest _ _ hrest⟩

lemma Token.FitsRewritten.fill_exact {next : Option Token} {u : Token}
    (h : u.FitsRewritten next) (hexact : u.Exact) : (u.fill a).Exact := by
  cases h with
  | anchored _ _ => rfl
  | same hfit =>
      cases hfit with
      | identifier hchain _ => exact (isLoneKeyword_fill hchain).trans hexact
      | operator _ _ => exact hexact
      | other _ => exact hexact
      | _ => trivial

lemma FittingRewritten.fill_exact : ∀ {us : List Token}, FittingRewritten us →
    (∀ u ∈ us, u.Exact) → ∀ u ∈ us.map (Token.fill a), u.Exact
  | [], _, _ => fun u hu => absurd hu List.not_mem_nil
  | _ :: _, ⟨hfit, hfits⟩, hexact => by
      obtain ⟨hu, hrest⟩ := List.forall_mem_cons.mp hexact
      exact List.forall_mem_cons.mpr ⟨hfit.fill_exact hu, hfits.fill_exact hrest⟩

variable {columns : List Text} {condition : Text}

/-- **The tokens of a bound condition** are those it was written from, with the alias in the place
of the placeholder. -/
lemma tokens_bound (hcolumns : columns ≠ []) (hcondition : condition.isBlank = false)
    (hkeyword : ∀ k ∈ columns, isKeyword (knownColumn k) = false) (ha : isPlainName a = true)
    (happart : Apart (tokens condition)) :
    tokens (fillPlaceholder a (usePlaceholder columns condition))
      = (anchoredTokens columns condition).map (Token.fill a) := by
  have hfits := fittingRewritten_anchoredTokens columns condition
  rw [usePlaceholder_eq_render hcolumns hcondition, fill_render hfits.fill_text]
  exact tokens_render (hfits.fill ha)
    (hfits.fill_exact (redirectTokens_exact hkeyword _ _ _ (tokens_exact condition)))
    (apart_of_reformed (anchoredTokens_reformed columns condition) happart).fill

lemma fill_eq_self_of_mem (ha : isPlainName a = true) : ∀ {ts : List Token}, Fitting ts →
    (∀ t ∈ ts, ¬ t.HoldsPlaceholder) → ∀ t ∈ ts, t.fill a = t
  | [], _, _ => fun t ht => absurd ht List.not_mem_nil
  | t :: rest, ⟨hfit, hfits⟩, hfree => by
      obtain ⟨ht, hrest⟩ := List.forall_mem_cons.mp hfree
      exact List.forall_mem_cons.mpr ⟨hfit.fill_eq_self ha ht, fill_eq_self_of_mem ha hfits hrest⟩

/-- **A bound condition can be pointed at another alias**: rewriting it once more gives what
rewriting gave in the first place.  Its literals and quoted names hold no placeholder, no two of
its tokens run together, the alias is as long as a qualifier that is replaced, and no known
column is a keyword in the lower case in which it is compared. -/
theorem reanchoring (hcolumns : columns ≠ [])
    (hkeyword : ∀ k ∈ columns, isKeyword (Text.lower (unquote k.trim)) = false)
    (ha : isPlainName a = true) (hlength : 2 ≤ a.length)
    (hfree : ∀ t ∈ tokens condition, ¬ t.HoldsPlaceholder) (happart : Apart (tokens condition)) :
    usePlaceholder columns (fillPlaceholder a (usePlaceholder columns condition))
      = usePlaceholder columns condition := by
  cases hcondition : condition.isBlank with
  | true =>
      have hpercent : '%' ∉ condition := fun hmem =>
        absurd (List.all_eq_true.mp hcondition _ hmem) (by decide)
      rw [usePlaceholder_of_isBlank columns hcondition, fill_of_not_mem (d := '%') (by decide)
        hpercent, usePlaceholder_of_isBlank columns hcondition]
  | false =>
      have hsame := fill_eq_self_of_mem ha (tokens_fitting condition) hfree
      have hbound := tokens_bound hcolumns hcondition hkeyword ha happart
      have hblank :
          Text.isBlank (fillPlaceholder a (usePlaceholder columns condition)) = false := by
        rw [← Bool.not_eq_true, ← tokens_eq_nil_iff] at hcondition ⊢
        rw [hbound, List.map_eq_nil_iff, ← List.length_eq_zero_iff, anchoredTokens,
          length_redirectTokens, List.length_eq_zero_iff]
        exact hcondition
      rw [usePlaceholder_eq_render hcolumns hblank, anchoredTokens, hbound,
        usePlaceholder_eq_render hcolumns hcondition, anchoredTokens,
        redirectTokens_again _ ha hlength _ _ _ _ hsame rfl]

/-- A quoted reference, a subquery with a qualifier of its own, a sign and a cast. -/
theorem reanchoring_salary :
    ["salary".toList, "id".toList] ≠ [] ∧
    (∀ k ∈ ["salary".toList, "id".toList], isKeyword (Text.lower (unquote (Text.trim k))) = false) ∧
    isPlainName "en".toList = true ∧ 2 ≤ "en".toList.length ∧
    (∀ t ∈ tokens "\"salary\">-1 and id::int in (select by.id from t or 1%s)".toList,
      ¬ t.HoldsPlaceholder) ∧
    Apart (tokens "\"salary\">-1 and id::int in (select by.id from t or 1%s)".toList) ∧
    usePlaceholder ["salary".toList, "id".toList] (fillPlaceholder "en".toList
        (usePlaceholder ["salary".toList, "id".toList]
          "\"salary\">-1 and id::int in (select by.id from t or 1%s)".toList))
      = usePlaceholder ["salary".toList, "id".toList]
          "\"salary\">-1 and id::int in (select by.id from t or 1%s)".toList :=
  ⟨by decide, by decide +kernel, by decide, by decide, by decide +kernel, by decide +kernel,
    reanchoring (by decide) (by decide +kernel) (by decide) (by decide) (by decide +kernel)
      (by decide +kernel)⟩

/-- A known column with a Kelvin sign is no keyword, but in lower case it is `like`.  Without its
qualifier that column is read as the keyword, and the `-` behind it becomes a sign. -/
theorem not_reanchoring_like :
    ["li\u212Ae".toList] ≠ [] ∧
    (∀ k ∈ ["li\u212Ae".toList], isKeyword (unquote (Text.trim k)) = false) ∧
    isPlainName "bx".toList = true ∧ 2 ≤ "bx".toList.length ∧
    (∀ t ∈ tokens "x in (select ax.like - 1 from t)".toList, ¬ t.HoldsPlaceholder) ∧
    Apart (tokens "x in (select ax.like - 1 from t)".toList) ∧
    usePlaceholder ["li\u212Ae".toList] (fillPlaceholder "bx".toList
        (usePlaceholder ["li\u212Ae".toList] "x in (select ax.like - 1 from t)".toList))
      ≠ usePlaceholder ["li\u212Ae".toList] "x in (select ax.like - 1 from t)".toList := by
  decide +kernel

end SqlFragments
