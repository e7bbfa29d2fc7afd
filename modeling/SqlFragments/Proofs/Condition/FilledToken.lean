import SqlFragments.Proofs.Condition.Fill
import SqlFragments.Proofs.Token.Written

/-!
# Filling the placeholder token by token

A `%` that is written in front of an `s` stands in a literal or in an identifier: as an operator
it has a space behind it.  So filling the placeholder in the writing of tokens is filling it in
each token, and if the alias is a plain identifier each of them keeps its shape.

* `Token.fill` — a token with the placeholder filled in its text.
* **`fill_render`** — filling goes through the writing of tokens.
* **`Token.Fits.fill`** — a token that fits still does.
-/

namespace SqlFragments

variable {a : Text}

/-! ## One token -/

/-- A token with the placeholder filled in its text; only literals and names can hold one. -/
def Token.fill (a : Text) : Token → Token
  | literal t => literal (fillPlaceholder a t)
  | identifier segments => identifier (segments.map (fillPlaceholder a))
  | function name => function (fillPlaceholder a name)
  | t => t

lemma not_mem_of_isPlainName (ha : isPlainName a = true) {c : Char}
    (hc : continuesIdentifier c = false) : c ∉ a := by
  intro hmem
  cases a with
  | nil => cases hmem
  | cons d rest =>
      rw [isPlainName, Bool.and_eq_true, List.all_eq_true] at ha
      have hcontinues : continuesIdentifier c = true := by
        rcases List.mem_cons.mp hmem with rfl | hrest
        · exact continuesIdentifier_of_starts ha.1
        · exact ha.2 c hrest
      rw [hc] at hcontinues
      cases hcontinues

lemma fill_of_isPlainName {w : Text} (hw : isPlainName w = true) : fillPlaceholder a w = w :=
  fill_of_not_mem (d := '%') (by decide) (not_mem_of_isPlainName hw (by decide))

lemma fill_join (segments : List Text) : fillPlaceholder a (Text.join ['.'] segments)
    = Text.join ['.'] (segments.map (fillPlaceholder a)) := by
  induction segments with
  | nil => exact fill_nil
  | cons s more ih =>
      cases more with
      | nil => rw [Text.join_singleton, List.map_singleton, Text.join_singleton]
      | cons b more =>
          rw [Text.join_cons_cons, List.append_assoc, List.singleton_append,
            fill_append_cons (by decide) (by decide), ih]
          simp only [List.map_cons, Text.join_cons_cons, List.append_assoc,
            List.singleton_append]

/-! ## Shapes -/

lemma fill_quoted {q : Char} (hq : q ∉ placeholder) (t : Text) :
    fillPlaceholder a (q :: t) = q :: fillPlaceholder a t :=
  fill_cons fun h => hq (by rw [h.1]; decide)

lemma quote_not_mem {q : Char} (hq : isQuote q = true) : q ∉ placeholder :=
  apply_quote (P := fun q => q ∉ placeholder) (by decide) hq

lemma IsClosedRun.fill {q : Char} {t : Text} (ha : isPlainName a = true) (hq : isQuote q = true)
    (h : IsClosedRun q t) : IsClosedRun q (fillPlaceholder a t) := by
  obtain ⟨inner, rfl, hin⟩ := h
  have hmem := quote_not_mem hq
  have hne : q ≠ '%' ∧ q ≠ 's' := by
    constructor <;>
      · rintro rfl
        exact hmem (by decide)
  refine ⟨fillPlaceholder a inner, ?_, quotesDoubled_fill hmem
    (not_mem_of_isPlainName ha (continuesIdentifier_of_isQuote hq)) inner hin⟩
  rw [fill_quoted hmem, fill_append_cons hne.1 hne.2, fill_nil]

lemma IsOpenRun.fill {q : Char} {t : Text} (ha : isPlainName a = true) (hq : isQuote q = true)
    (h : IsOpenRun q t) : IsOpenRun q (fillPlaceholder a t) := by
  obtain ⟨inner, rfl, hin⟩ := h
  have hmem := quote_not_mem hq
  exact ⟨fillPlaceholder a inner, fill_quoted hmem inner, quotesDoubled_fill hmem
    (not_mem_of_isPlainName ha (continuesIdentifier_of_isQuote hq)) inner hin⟩

lemma IsName.fill {s : Text} (ha : isPlainName a = true) (h : IsName s) :
    IsName (fillPlaceholder a s) := by
  rcases h with hplain | ⟨q, hq, hclosed⟩
  · rw [fill_of_isPlainName hplain]
    exact Or.inl hplain
  · exact Or.inr ⟨q, hq, hclosed.fill ha (isQuote_of_isIdentifierQuote hq)⟩

lemma SegmentFits.fill {final : Prop} {s : Text} (ha : isPlainName a = true)
    (h : SegmentFits final s) : SegmentFits final (fillPlaceholder a s) := by
  rcases h with hname | ⟨hfinal, q, hq, hopen⟩
  · exact Or.inl (hname.fill ha)
  · exact Or.inr ⟨hfinal, q, hq, hopen.fill ha (isQuote_of_isIdentifierQuote hq)⟩

lemma fill_star : fillPlaceholder a ['*'] = ['*'] := by
  rw [fill_cons (by simp), fill_nil]

lemma ChainFits.fill {final : Prop} {segments : List Text} (ha : isPlainName a = true)
    (h : ChainFits final segments) : ChainFits final (segments.map (fillPlaceholder a)) := by
  induction h with
  | last hs => exact ChainFits.last (hs.fill ha)
  | star hs =>
      rw [List.map_cons, List.map_singleton, fill_star]
      exact ChainFits.star (hs.fill ha)
  | cons hs _ ih => exact ChainFits.cons (hs.fill ha) ih

/-- A segment is quoted before and after, or it is plain and stays as it is. -/
lemma isQuotedSegment_fill {final : Prop} {s : Text} (h : SegmentFits final s) :
    isQuotedSegment (fillPlaceholder a s) = isQuotedSegment s := by
  rcases h.plain_or_quoted with hplain | ⟨q, t, rfl, hq⟩
  · rw [fill_of_isPlainName hplain]
  · rw [fill_quoted (quote_not_mem (isQuote_of_isIdentifierQuote hq))]
    rfl

lemma isLoneKeyword_fill {final : Prop} {segments : List Text} (h : ChainFits final segments) :
    isLoneKeyword (segments.map (fillPlaceholder a)) = isLoneKeyword segments := by
  cases h with
  | @last s hs =>
      have hquoted := isQuotedSegment_fill (a := a) hs
      rw [List.map_singleton, isLoneKeyword, isLoneKeyword, hquoted]
      rcases hs.plain_or_quoted with hplain | ⟨q, t, rfl, hq⟩
      · rw [fill_of_isPlainName hplain]
      · rw [isQuotedSegment, hq]
        rfl
  | star _ => rfl
  | cons _ hmore => cases hmore <;> rfl

lemma endsPlain_fill {final : Prop} {segments : List Text} (ha : isPlainName a = true)
    (h : ChainFits final segments) :
    endsPlain (segments.map (fillPlaceholder a)) = endsPlain segments := by
  have hne : ∀ {s : Text}, SegmentFits final s → s ≠ ['*'] := by
    rintro s hs rfl
    exact absurd rfl (ChainFits.last hs).ne_star
  induction h with
  | @last s hs =>
      rw [List.map_singleton, endsPlain, endsPlain, List.getLast?_singleton,
        List.getLast?_singleton, Option.any_some, Option.any_some, isQuotedSegment_fill hs,
        bne_iff_ne.mpr (hne hs), bne_iff_ne.mpr (hne (hs.fill ha))]
  | star _ =>
      rw [List.map_cons, List.map_singleton, fill_star]
      rfl
  | @cons s more hs hmore ih =>
      cases more with
      | nil => cases hmore
      | cons b more =>
          rw [List.map_cons, List.map_cons, endsPlain, endsPlain, List.getLast?_cons_cons,
            List.getLast?_cons_cons]
          exact ih

/-- **A token that fits still does** when its placeholders are filled. -/
lemma Token.Fits.fill {next : Option Token} {t : Token} (ha : isPlainName a = true)
    (h : t.Fits next) : (t.fill a).Fits next := by
  cases h with
  | literal ht => exact Token.Fits.literal (ht.fill ha (by decide))
  | openLiteral hnext ht => exact Token.Fits.openLiteral hnext (ht.fill ha (by decide))
  | identifier hchain hplain =>
      refine Token.Fits.identifier (hchain.fill ha) fun hnext => ?_
      rw [endsPlain_fill ha hchain, hplain hnext]
  | @function segments hne hnames hplain hlone hnext =>
      have hchain : ChainFits True segments := chainFits_of_names hne hnames
      rw [Token.fill, fill_join]
      refine Token.Fits.function ?_ ?_ ?_ ?_ hnext
      · rw [Ne, List.map_eq_nil_iff]
        exact hne
      · intro s hs
        obtain ⟨s, hmem, rfl⟩ := List.mem_map.mp hs
        exact (hnames s hmem).fill ha
      · rw [endsPlain_fill ha hchain, hplain]
      · rw [isLoneKeyword_fill hchain, hlone]
  | keyword hw => exact Token.Fits.keyword hw
  | number ht => exact Token.Fits.number ht
  | parameter ht => exact Token.Fits.parameter ht
  | leftParen => exact Token.Fits.leftParen
  | rightParen => exact Token.Fits.rightParen
  | comma => exact Token.Fits.comma
  | operator hne hop => exact Token.Fits.operator hne hop
  | other hc => exact Token.Fits.other hc

lemma percent_not_mem_number {t : Text} (h : IsNumber t) : '%' ∉ t := by
  intro hmem
  rcases h.mem hmem with hdigit | hsign
  · exact absurd hdigit (by decide)
  · exact absurd hsign (by decide)

lemma percent_not_mem_parameter {t : Text} (h : IsParameter t) : '%' ∉ t := by
  obtain ⟨c, digits, rfl, hfirst, hdigits⟩ := h
  rw [List.mem_cons, not_or]
  refine ⟨?_, fun hmem => absurd (hdigits '%' hmem) (by decide)⟩
  rintro rfl
  cases hfirst

lemma Token.Fits.fill_text {next : Option Token} {t : Token} (h : t.Fits next) :
    fillPlaceholder a t.text = (t.fill a).text := by
  have hpercent : '%' ∈ placeholder := by decide
  cases h with
  | literal _ => rfl
  | openLiteral _ _ => rfl
  | @identifier segments _ _ => exact fill_join segments
  | function _ _ _ _ _ => rfl
  | keyword hw => exact fill_of_isPlainName (isPlainName_of_isKeyword hw)
  | number ht => exact fill_of_not_mem hpercent (percent_not_mem_number ht)
  | parameter ht => exact fill_of_not_mem hpercent (percent_not_mem_parameter ht)
  | leftParen => exact fill_of_not_mem hpercent (by decide)
  | rightParen => exact fill_of_not_mem hpercent (by decide)
  | comma => exact fill_of_not_mem hpercent (by decide)
  | operator _ hop =>
      refine fill_of_not_mem (d := 's') (by decide) fun hmem => ?_
      exact absurd (hop 's' hmem) (by decide)
  | @other c _ =>
      rw [Token.text, fill_cons (by simp), fill_nil]
      rfl

/-! ## Writings -/

/-- No placeholder lies across the end of a written token. -/
lemma seam (previous : Option Token) (t : Token) (rest : List Token) :
    t.text.getLast? ≠ some '%' ∨ (renderAfter t (isSign previous t) rest).head? ≠ some 's' := by
  by_cases hparen : t = .leftParen
  · rw [hparen]
    exact Or.inl (by decide)
  cases hcast : t.isCast with
  | true =>
      rw [eq_of_isCast hcast]
      exact Or.inl (by decide)
  | false =>
      -- a sign has no space behind it, but it ends in no `%`; all else has something behind it
      -- that is no `s`
      cases hsign : isSign previous t with
      | true =>
          cases t with
          | operator op =>
              have hop : (op == ['-'] || op == ['+']) = true :=
                (Bool.and_eq_true_iff.mp hsign).1
              rw [Bool.or_eq_true, beq_iff_eq, beq_iff_eq] at hop
              rcases hop with rfl | rfl <;> exact Or.inl (by decide)
          | _ => cases hsign
      | false =>
          refine Or.inr fun hhead => ?_
          rcases head_renderAfter hparen hcast rest 's' hhead with hmem | ⟨hs, _⟩
          · exact absurd hmem (by decide)
          · exact absurd hs (by decide)

lemma needsSpace_fill (t u : Token) : needsSpace (t.fill a) (u.fill a) = needsSpace t u := by
  cases t <;> cases u <;> rfl

lemma isSign_fill (t u : Token) : isSign (some (t.fill a)) (u.fill a) = isSign (some t) u := by
  cases t <;> cases u <;> rfl

lemma fill_renderAfter : ∀ (ts : List Token) (t : Token) (sign : Bool),
    (∀ u ∈ ts, fillPlaceholder a u.text = (u.fill a).text) →
      fillPlaceholder a (renderAfter t sign ts)
        = renderAfter (t.fill a) sign (ts.map (Token.fill a))
  | [], _, _, _ => fill_nil
  | u :: rest, t, sign, h => by
      have hrest := fill_renderAfter rest u (isSign (some t) u) fun v hv =>
        h v (List.mem_cons_of_mem _ hv)
      have hspace : ∀ s : Text, fillPlaceholder a
          ((if !sign && needsSpace t u then [' '] else []) ++ s)
            = (if !sign && needsSpace t u then [' '] else []) ++ fillPlaceholder a s := by
        intro s
        split_ifs
        · exact fill_cons fun h => absurd h.1 (by decide)
        · rfl
      rw [List.map_cons, renderAfter, renderAfter, List.append_assoc, hspace,
        fill_append _ _ (seam (some t) u rest), h u List.mem_cons_self, hrest, needsSpace_fill,
        isSign_fill, List.append_assoc]

/-- **Filling goes through the writing of tokens.** -/
lemma fill_render {ts : List Token}
    (h : ∀ t ∈ ts, fillPlaceholder a t.text = (t.fill a).text) :
    fillPlaceholder a (render ts) = render (ts.map (Token.fill a)) := by
  cases ts with
  | nil => exact fill_nil
  | cons t rest =>
      have hsign : isSign none (t.fill a) = isSign none t := by cases t <;> rfl
      rw [List.map_cons, render, render, fill_append _ _ (seam none t rest),
        h t List.mem_cons_self, hsign,
        fill_renderAfter rest t _ fun u hu => h u (List.mem_cons_of_mem _ hu)]

end SqlFragments
