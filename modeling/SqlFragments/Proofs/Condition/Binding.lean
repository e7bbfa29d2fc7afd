import SqlFragments.Proofs.Condition.FilledToken
import SqlFragments.Proofs.Condition.Redirection
import SqlFragments.Proofs.Token.Seam

/-!
# Binding a condition to an alias

A condition is bound by filling the placeholder in its rewritten text.  The placeholder is plain
text there, so a `%s` that was in the condition from the start is filled as well, in literals and
in quoted names; and a column that is left without its qualifier in a subquery is read as a
keyword if it is named like one.  This file shows that nothing else goes wrong.

* `literals`, `identifiers` — the literals of some tokens, and their chains of segments.
* `Reformed` — what may become of a token, whatever its place.
* **`words_tokens_bound`** — the tokens of a bound condition, operators and other marks aside.
* **`binding_exact`** — literals are kept exactly when none holds the placeholder, and
  identifiers exactly when no segment does and no column is read as a keyword.
-/

namespace SqlFragments

variable {a : Text}

/-! ## What becomes of a token -/

/-- What may become of a token, whatever its place. -/
inductive Reformed : Token → Token → Prop
  | same (t : Token) : Reformed t t
  | connector {w w' : Text} : w'.sameLetters w = true → Reformed (.keyword w) (.keyword w')
  | inside {qualifier : List Text} {column : Text} : column ≠ ['*'] →
      Reformed (.identifier (qualifier ++ [column])) (.identifier [column])
  | outside {qualifier : List Text} {column : Text} : column ≠ ['*'] →
      Reformed (.identifier (qualifier ++ [column])) (.identifier [placeholder, column])

lemma redirectToken_reformed (known : List Text) (scope : Scope) (previous : Option Token)
    (t : Token) (next : Option Token) :
    Reformed t (redirectToken known scope previous t next).1 := by
  cases t with
  | keyword w =>
      simp only [redirectToken, recaseKeyword]
      split_ifs
      · exact Reformed.same _
      · exact Reformed.same _
      · exact Reformed.connector (Text.sameLetters_toAsciiUpper w)
      · exact Reformed.same _
  | identifier segments =>
      simp only [redirectToken]
      split_ifs
      · exact Reformed.same _
      · rcases List.eq_nil_or_concat segments with rfl | ⟨qualifier, column, rfl⟩
        · exact Reformed.same _
        · rw [List.concat_eq_append, redirect_concat]
          split_ifs with hcolumn
          · exact Reformed.same _
          · exact Reformed.same _
          · exact Reformed.same _
          · exact Reformed.inside fun hstar => hcolumn (Or.inl hstar)
          · exact Reformed.outside fun hstar => hcolumn (Or.inl hstar)
  | _ => exact Reformed.same _

lemma redirectTokens_reformed (known : List Text) : ∀ (ts : List Token) (scope : Scope)
    (previous : Option Token), List.Forall₂ Reformed ts (redirectTokens known scope previous ts)
  | [], _, _ => List.Forall₂.nil
  | t :: rest, scope, previous =>
      List.Forall₂.cons (redirectToken_reformed known scope previous t _)
        (redirectTokens_reformed known rest _ _)

lemma anchoredTokens_reformed (columns : List Text) (condition : Text) :
    List.Forall₂ Reformed (tokens condition) (anchoredTokens columns condition) :=
  redirectTokens_reformed _ _ _ _

/-- The last segment of a chain, if it is not `*`. -/
lemma segmentFits_of_chainFits {final : Prop} {qualifier : List Text} {column : Text}
    (h : ChainFits final (qualifier ++ [column])) (hstar : column ≠ ['*']) :
    SegmentFits final column :=
  (h.mem column List.mem_concat_self).resolve_right hstar

lemma endsPlain_concat (qualifier : List Text) (column : Text) :
    endsPlain (qualifier ++ [column]) = endsPlain [column] := by
  rw [endsPlain, endsPlain, List.getLast?_concat, List.getLast?_singleton]

/-- A token that a condition is written from, in front of `next`: it fits there, or it is a
reference behind the placeholder, whose column fits there. -/
inductive Token.FitsRewritten (next : Option Token) : Token → Prop
  | same {t : Token} : t.Fits next → FitsRewritten next t
  | anchored {column : Text} : SegmentFits (next = none) column →
      (next = some .leftParen → endsPlain [column] = false) →
      FitsRewritten next (.identifier [placeholder, column])

/-- **What becomes of a token** stands where the token stood. -/
lemma Reformed.fitsRewritten {next : Option Token} {t u : Token} (h : Reformed t u)
    (hfit : t.Fits next) : u.FitsRewritten next := by
  cases h with
  | same t => exact Token.FitsRewritten.same hfit
  | connector hw =>
      cases hfit with
      | keyword hkeyword =>
          exact Token.FitsRewritten.same
            (Token.Fits.keyword ((isKeyword_of_sameLetters hw).trans hkeyword))
  | @inside qualifier column hstar =>
      cases hfit with
      | identifier hchain hplain =>
          rw [endsPlain_concat] at hplain
          exact Token.FitsRewritten.same (Token.Fits.identifier
            (ChainFits.last (segmentFits_of_chainFits hchain hstar)) hplain)
  | @outside qualifier column hstar =>
      cases hfit with
      | identifier hchain hplain =>
          rw [endsPlain_concat] at hplain
          exact Token.FitsRewritten.anchored (segmentFits_of_chainFits hchain hstar) hplain

/-- **It fits** once the placeholder is filled. -/
lemma Token.FitsRewritten.fill {next : Option Token} {u : Token} (ha : isPlainName a = true)
    (h : u.FitsRewritten next) : (u.fill a).Fits next := by
  cases h with
  | same hfit => exact hfit.fill ha
  | @anchored column hcolumn hplain =>
      have halias : fillPlaceholder a placeholder = a := by
        rw [placeholder, fill_placeholder, fill_nil, List.append_nil]
      rw [Token.fill, List.map_cons, List.map_singleton, halias]
      refine Token.Fits.identifier
        (ChainFits.cons (Or.inl ha) (ChainFits.last (hcolumn.fill ha))) fun hnext => ?_
      have hends := endsPlain_fill ha (ChainFits.last hcolumn)
      rw [List.map_singleton, ← endsPlain_concat [a], hplain hnext] at hends
      exact hends

lemma Token.FitsRewritten.fill_text {next : Option Token} {u : Token}
    (h : u.FitsRewritten next) : fillPlaceholder a u.text = (u.fill a).text := by
  cases h with
  | same hfit => exact hfit.fill_text
  | anchored _ _ => exact fill_join _

/-! ## The tokens of a bound condition -/

lemma Reformed.leftParen_iff {t u : Token} (h : Reformed t u) :
    u = .leftParen ↔ t = .leftParen := by
  cases h <;> simp

/-- A token fits as well in front of another token, if that is a parenthesis or none alike. -/
lemma Token.Fits.congr {next next' : Option Token} {t : Token} (h : t.Fits next)
    (hnone : next = none → next' = none) (hparen : next' = some .leftParen ↔ next = some .leftParen) :
    t.Fits next' := by
  have hmono : ∀ {segments : List Text}, ChainFits (next = none) segments →
      ChainFits (next' = none) segments := by
    intro segments hchain
    induction hchain with
    | last hs => exact ChainFits.last (hs.imp_right fun hopen => ⟨hnone hopen.1, hopen.2⟩)
    | star hs => exact ChainFits.star hs
    | cons hs _ ih => exact ChainFits.cons hs ih
  cases h with
  | literal ht => exact Token.Fits.literal ht
  | openLiteral hnext ht => exact Token.Fits.openLiteral (hnone hnext) ht
  | identifier hchain hplain =>
      exact Token.Fits.identifier (hmono hchain) fun hnext => hplain (hparen.mp hnext)
  | function hne hnames hplain hlone hnext =>
      exact Token.Fits.function hne hnames hplain hlone (hparen.mpr hnext)
  | keyword hw => exact Token.Fits.keyword hw
  | number ht => exact Token.Fits.number ht
  | parameter ht => exact Token.Fits.parameter ht
  | leftParen => exact Token.Fits.leftParen
  | rightParen => exact Token.Fits.rightParen
  | comma => exact Token.Fits.comma
  | operator hne hop => exact Token.Fits.operator hne hop
  | other hc => exact Token.Fits.other hc

/-- Every token stands in front of the one behind it as one that a condition is written from. -/
def FittingRewritten : List Token → Prop
  | [] => True
  | u :: rest => u.FitsRewritten rest.head? ∧ FittingRewritten rest

/-- **What becomes of tokens that fit** are tokens that a condition is written from. -/
lemma fittingRewritten_of_reformed {ts us : List Token} (h : List.Forall₂ Reformed ts us) :
    Fitting ts → FittingRewritten us := by
  induction h with
  | nil => exact fun _ => trivial
  | @cons t u rest rest' htu hrest ih =>
      rintro ⟨hfit, hfits⟩
      -- the next token is another one now, but a parenthesis is where one was
      refine ⟨htu.fitsRewritten (hfit.congr ?_ ?_), ih hfits⟩
      · intro hnone
        cases hrest with
        | nil => rfl
        | cons _ _ => cases hnone
      · cases hrest with
        | nil => rfl
        | cons hnext _ =>
            simp only [List.head?_cons, Option.some.injEq]
            exact hnext.leftParen_iff

lemma fill_eq_leftParen_iff (u : Token) : u.fill a = .leftParen ↔ u = .leftParen := by
  cases u <;> simp [Token.fill]

lemma FittingRewritten.fill (ha : isPlainName a = true) : ∀ {us : List Token},
    FittingRewritten us → Fitting (us.map (Token.fill a))
  | [], _ => trivial
  | _ :: rest, ⟨hfit, hfits⟩ => by
      refine ⟨(hfit.fill ha).congr ?_ ?_, hfits.fill ha⟩
      · rw [List.head?_map, Option.map_eq_none_iff]
        exact id
      · cases rest with
        | nil => rfl
        | cons v more =>
            simp only [List.map_cons, List.head?_cons, Option.some.injEq]
            exact fill_eq_leftParen_iff v

lemma FittingRewritten.fill_text : ∀ {us : List Token}, FittingRewritten us →
    ∀ u ∈ us, fillPlaceholder a u.text = (u.fill a).text
  | [], _ => fun _ hu => absurd hu List.not_mem_nil
  | _ :: _, ⟨hfit, hfits⟩ => List.forall_mem_cons.mpr ⟨hfit.fill_text, hfits.fill_text⟩

lemma Token.FitsRewritten.quotesClosed {next : Option Token} {u : Token}
    (h : u.FitsRewritten next) (hnext : next ≠ none) : QuotesClosed u.text := by
  cases h with
  | same hfit => exact hfit.quotesClosed hnext
  | anchored hcolumn _ =>
      have hdot : QuotesClosed ['.'] := rfl
      have hsegments := (ChainFits.last hcolumn).quotesClosed hnext
      exact hdot.join (List.forall_mem_cons.mpr ⟨rfl, hsegments⟩)

/-- Only the last token of a rewritten condition leaves a quote open. -/
lemma FittingRewritten.closed : ∀ {us : List Token}, FittingRewritten us →
    us.IsChain fun u _ => QuotesClosed u.text
  | [], _ => List.IsChain.nil
  | [u], _ => List.IsChain.singleton u
  | _ :: _ :: _, ⟨hfit, hfits⟩ =>
      List.IsChain.cons_cons (hfit.quotesClosed (Option.some_ne_none _)) hfits.closed

/-- The tokens that a condition is written from. -/
lemma fittingRewritten_anchoredTokens (columns : List Text) (condition : Text) :
    FittingRewritten (anchoredTokens columns condition) :=
  fittingRewritten_of_reformed (anchoredTokens_reformed columns condition)
    (tokens_fitting condition)

/-- **The tokens of a bound condition**, operators and other marks aside. -/
lemma words_tokens_bound {columns : List Text} (hcolumns : columns ≠ []) (condition : Text)
    (ha : isPlainName a = true) :
    words (tokens (fillPlaceholder a (usePlaceholder columns condition)))
      = (words ((anchoredTokens columns condition).map (Token.fill a))).map Token.reread := by
  cases hcondition : condition.isBlank with
  | true =>
      have hall : ∀ c ∈ condition, isBlank c = true := List.all_eq_true.mp hcondition
      have hsame : usePlaceholder columns condition = condition := by
        rw [usePlaceholder, (Text.isEmpty_trim_iff condition).mpr hcondition, Bool.or_true]
        rfl
      have hpercent : '%' ∉ condition := fun hmem => absurd (hall _ hmem) (by decide)
      have hnil : tokens condition = [] :=
        tokens_of_blank (List.dropWhile_eq_nil_iff.mpr hall)
      rw [hsame, fill_of_not_mem (d := '%') (by decide) hpercent, anchoredTokens, hnil]
      rfl
  | false =>
      have hfits := fittingRewritten_anchoredTokens columns condition
      rw [usePlaceholder_eq_render hcolumns hcondition, fill_render hfits.fill_text,
        words_tokens_render (hfits.fill ha)]

/-! ## Literals and identifiers -/

def Token.asLiteral : Token → Option Text
  | literal t => some t
  | _ => none

def Token.asIdentifier : Token → Option (List Text)
  | identifier segments => some segments
  | _ => none

def literals (ts : List Token) : List Text :=
  ts.filterMap Token.asLiteral

/-- The identifiers of some tokens, each as its segments. -/
def identifiers (ts : List Token) : List (List Text) :=
  ts.filterMap Token.asIdentifier

lemma literals_words (ts : List Token) : literals (words ts) = literals ts := by
  rw [literals, words, List.filterMap_filter]
  congr 1
  funext t
  cases t <;> rfl

lemma identifiers_words (ts : List Token) : identifiers (words ts) = identifiers ts := by
  rw [identifiers, words, List.filterMap_filter]
  congr 1
  funext t
  cases t <;> rfl

lemma literals_map_reread (ts : List Token) :
    literals (ts.map Token.reread) = literals ts := by
  rw [literals, List.filterMap_map]
  congr 1
  funext t
  cases t with
  | identifier segments =>
      show Token.asLiteral (Token.reread (.identifier segments)) = none
      rw [Token.reread]
      split_ifs <;> rfl
  | _ => rfl

/-- A lone keyword is no identifier any more. -/
lemma identifiers_map_reread (ts : List Token) :
    identifiers (ts.map Token.reread) = (identifiers ts).filter (!isLoneKeyword ·) := by
  rw [identifiers, List.filterMap_map, identifiers, List.filter_filterMap]
  congr 1
  funext t
  cases t with
  | identifier segments =>
      show Token.asIdentifier (Token.reread (.identifier segments))
        = (some segments).filter (!isLoneKeyword ·)
      rw [Token.reread, Option.filter_some]
      cases isLoneKeyword segments <;> rfl
  | _ => rfl

lemma literals_map_fill (ts : List Token) :
    literals (ts.map (Token.fill a)) = (literals ts).map (fillPlaceholder a) := by
  rw [literals, List.filterMap_map, literals, List.map_filterMap]
  congr 1
  funext t
  cases t <;> rfl

lemma identifiers_map_fill (ts : List Token) :
    identifiers (ts.map (Token.fill a))
      = (identifiers ts).map (·.map (fillPlaceholder a)) := by
  rw [identifiers, List.filterMap_map, identifiers, List.map_filterMap]
  congr 1
  funext t
  cases t <;> rfl

lemma literals_of_reformed {ts us : List Token} (h : List.Forall₂ Reformed ts us) :
    literals us = literals ts := by
  induction h with
  | nil => rfl
  | @cons t u rest rest' htu _ ih =>
      rw [literals] at ih ⊢
      rw [literals, List.filterMap_cons, List.filterMap_cons, ih]
      cases htu <;> rfl

/-- Filling changes no identifier into a lone keyword, or back. -/
lemma isLoneKeyword_map_fill {ts us : List Token} (h : List.Forall₂ Reformed ts us) :
    Fitting ts → ∀ segments ∈ identifiers us,
      isLoneKeyword (segments.map (fillPlaceholder a)) = isLoneKeyword segments := by
  induction h with
  | nil => exact fun _ segments hmem => absurd hmem List.not_mem_nil
  | @cons t u rest rest' htu _ ih =>
      rintro ⟨hfit, hfits⟩ segments hmem
      obtain ⟨v, hv, hsegments⟩ := List.mem_filterMap.mp hmem
      rcases List.mem_cons.mp hv with rfl | hv
      · cases htu with
        | same t =>
            cases hfit with
            | identifier hchain _ =>
                obtain rfl := Option.some.inj hsegments
                exact isLoneKeyword_fill hchain
            | _ => cases hsegments
        | connector _ => cases hsegments
        | inside hstar =>
            cases hfit with
            | identifier hchain _ =>
                obtain rfl := Option.some.inj hsegments
                exact isLoneKeyword_fill
                  (ChainFits.last (segmentFits_of_chainFits hchain hstar))
        | outside _ =>
            obtain rfl := Option.some.inj hsegments
            rfl
      · exact ih hfits segments (List.mem_filterMap.mpr ⟨v, hv, hsegments⟩)

/-! ## The exact condition -/

/-- A segment with the alias in the place of the placeholder. -/
def bindSegment (a s : Text) : Text :=
  if s = placeholder then a else s

/-- Filling does to a segment what it should unless a placeholder lies inside. -/
lemma fill_eq_bindSegment_iff (ha : isPlainName a = true) (s : Text) :
    fillPlaceholder a s = bindSegment a s ↔ (s ≠ placeholder → ¬ placeholder <:+: s) := by
  rw [bindSegment]
  split_ifs with hs
  · rw [hs, placeholder, fill_placeholder, fill_nil, List.append_nil]
    exact ⟨fun _ hne => absurd rfl hne, fun _ => rfl⟩
  · rw [fill_eq_self_iff (not_mem_of_isPlainName ha (by decide))]
    exact ⟨fun h _ => h, fun h => h hs⟩

/-- **The literals of a bound condition** are those of the condition, filled. -/
lemma literals_bound {columns : List Text} (hcolumns : columns ≠ []) (condition : Text)
    (ha : isPlainName a = true) :
    literals (tokens (fillPlaceholder a (usePlaceholder columns condition)))
      = (literals (tokens condition)).map (fillPlaceholder a) := by
  rw [← literals_words, words_tokens_bound hcolumns condition ha, literals_map_reread,
    literals_words, literals_map_fill, literals_of_reformed (anchoredTokens_reformed _ _)]

/-- **The identifiers of a bound condition** are those it was written from, filled, but for lone
keywords. -/
lemma identifiers_bound {columns : List Text} (hcolumns : columns ≠ []) (condition : Text)
    (ha : isPlainName a = true) :
    identifiers (tokens (fillPlaceholder a (usePlaceholder columns condition)))
      = ((identifiers (anchoredTokens columns condition)).map
          (·.map (fillPlaceholder a))).filter (!isLoneKeyword ·) := by
  rw [← identifiers_words, words_tokens_bound hcolumns condition ha, identifiers_map_reread,
    identifiers_words, identifiers_map_fill]

/-- **When binding is exact.**  A bound condition has the literals of the condition exactly when
none of them holds the placeholder.  It has the identifiers that the rewritten condition is
written from, with the alias in the place of the placeholder, exactly when no other segment holds
the placeholder and none of them is a lone keyword. -/
theorem binding_exact {columns : List Text} {condition : Text} (hcolumns : columns ≠ [])
    (ha : isPlainName a = true) :
    (literals (tokens (fillPlaceholder a (usePlaceholder columns condition)))
        = literals (tokens condition) ↔
      ∀ t ∈ literals (tokens condition), ¬ placeholder <:+: t) ∧
    (identifiers (tokens (fillPlaceholder a (usePlaceholder columns condition)))
        = (identifiers (anchoredTokens columns condition)).map (·.map (bindSegment a)) ↔
      ∀ segments ∈ identifiers (anchoredTokens columns condition),
        isLoneKeyword segments = false ∧
          ∀ s ∈ segments, s ≠ placeholder → ¬ placeholder <:+: s) := by
  constructor
  · rw [literals_bound hcolumns condition ha]
    conv_lhs => rw [← List.map_id (literals (tokens condition)), List.map_map, List.map_inj_left]
    exact forall₂_congr fun t _ => fill_eq_self_iff (not_mem_of_isPlainName ha (by decide)) t
  · have hlone := isLoneKeyword_map_fill (a := a) (anchoredTokens_reformed columns condition)
      (tokens_fitting condition)
    rw [identifiers_bound hcolumns condition ha]
    generalize identifiers (anchoredTokens columns condition) = chains at hlone
    have hsegments : ∀ segments : List Text,
        segments.map (fillPlaceholder a) = segments.map (bindSegment a) ↔
          ∀ s ∈ segments, s ≠ placeholder → ¬ placeholder <:+: s := by
      intro segments
      rw [List.map_inj_left]
      exact forall₂_congr fun s _ => fill_eq_bindSegment_iff ha s
    constructor
    · intro heq
      -- no identifier is lost, so none is a keyword
      have hlength : ((chains.map (·.map (fillPlaceholder a))).filter (!isLoneKeyword ·)).length
          = (chains.map (·.map (fillPlaceholder a))).length := by
        rw [heq, List.length_map, List.length_map]
      rw [List.length_filter_eq_length_iff] at hlength
      rw [List.filter_eq_self.mpr hlength, List.map_inj_left] at heq
      intro segments hmem
      refine ⟨?_, (hsegments segments).mp (heq segments hmem)⟩
      have hkept := hlength _ (List.mem_map_of_mem hmem)
      rw [hlone segments hmem, Bool.not_eq_true'] at hkept
      exact hkept
    · intro h
      have hkept : ∀ segments ∈ chains.map (·.map (fillPlaceholder a)),
          (!isLoneKeyword segments) = true := by
        intro segments hmem
        obtain ⟨chain, hchain, rfl⟩ := List.mem_map.mp hmem
        rw [hlone chain hchain, (h chain hchain).1]
        rfl
      rw [List.filter_eq_self.mpr hkept, List.map_inj_left]
      exact fun segments hmem => (hsegments segments).mpr (h segments hmem).2

/-- A pattern, and a column named like a keyword that loses its qualifier. -/
theorem binding_exact_limit :
    ["limit".toList] ≠ [] ∧ isPlainName "en".toList = true ∧
    (literals (tokens (fillPlaceholder "en".toList (usePlaceholder ["limit".toList]
          "limit > (select ax.limit from t) and x like '%s'".toList)))
        = literals (tokens "limit > (select ax.limit from t) and x like '%s'".toList) ↔
      ∀ t ∈ literals (tokens "limit > (select ax.limit from t) and x like '%s'".toList),
        ¬ placeholder <:+: t) ∧
    (identifiers (tokens (fillPlaceholder "en".toList (usePlaceholder ["limit".toList]
          "limit > (select ax.limit from t) and x like '%s'".toList)))
        = (identifiers (anchoredTokens ["limit".toList]
            "limit > (select ax.limit from t) and x like '%s'".toList)).map
              (·.map (bindSegment "en".toList)) ↔
      ∀ segments ∈ identifiers (anchoredTokens ["limit".toList]
          "limit > (select ax.limit from t) and x like '%s'".toList),
        isLoneKeyword segments = false ∧
          ∀ s ∈ segments, s ≠ placeholder → ¬ placeholder <:+: s) :=
  ⟨by decide, by decide, binding_exact (by decide) (by decide)⟩

/-- A pattern that reads `%s` becomes the alias. -/
theorem binding_fills_pattern :
    literals (tokens (fillPlaceholder "u".toList
        (usePlaceholder ["name".toList] "name like '%s'".toList)))
      ≠ literals (tokens "name like '%s'".toList) := by
  decide +kernel

end SqlFragments
