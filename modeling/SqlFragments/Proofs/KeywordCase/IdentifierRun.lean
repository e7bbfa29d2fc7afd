import SqlFragments.Condition.Connector
import SqlFragments.Proofs.KeywordCase.Place
import SqlFragments.Proofs.Token.Quotes

/-!
# Keywords within identifiers

An identifier goes on in `$` and in every number sign, and a word does not.  So a word boundary can
lie inside an identifier, and there a keyword is found that the identifier only starts or ends with:
`SELECT$x` becomes `select$x`, and the connector of `and$x = 1` is taken off.  This file says when
exactly that happens to a maximal run of identifier characters, and that it happens to no run made
of word characters alone.

* `IsIdentifierRun` — a maximal run of identifier characters outside quoted runs.
* `Lowered.standsBetween` — a run is kept or lower-cased in its place.
* `HoldsKeyword`, **`keepsRun_iff`** — a run is kept exactly if no keyword is cut out of it.
* `IsKeywordWord`, `not_holdsKeyword` — runs of word characters that are no keyword.
* `OpensWith` — a connector at the start of a fragment, up to a word boundary.
* **`keywords_end_at_wordChars`** — keywords in runs and connectors together.
-/

namespace SqlFragments

variable {before w w' after s s' : Text}

/-! ## Runs of identifier characters -/

/-- A place that no span contains. -/
def OutsideSpans (spans : List Span) (place : Nat) : Prop :=
  ∀ span ∈ spans, ¬ (span.start ≤ place ∧ place < span.stop)

instance (spans : List Span) (place : Nat) : Decidable (OutsideSpans spans place) :=
  inferInstanceAs (Decidable (∀ span ∈ spans, _))

/-- A maximal run of identifier characters that no quoted run reaches into. -/
structure IsIdentifierRun (before w after : Text) : Prop where
  nonempty : w ≠ []
  chars : ∀ c ∈ w, continuesIdentifier c = true
  left : before.getLast?.any continuesIdentifier = false
  right : after.head?.any continuesIdentifier = false
  outside : OutsideSpans (quotedSpans (before ++ (w ++ after))) before.bytes

/-- The first part of a text is a prefix of one that is no shorter. -/
lemma exists_prefix_of_bytes {a b c d : Text} (h : a ++ b = c ++ d) (hbytes : a.bytes ≤ c.bytes) :
    ∃ m, c = a ++ m ∧ b = m ++ d := by
  rcases List.append_eq_append_iff.mp h with hends | ⟨m, ha, hd⟩
  · exact hends
  · rw [ha, Text.bytes_append] at hbytes
    obtain rfl : m = [] := by
      by_contra hne
      have hpos := Text.bytes_pos hne
      omega
    exact ⟨[], by rw [ha, List.append_nil, List.append_nil], hd.symm⟩

/-- No quote is open at a place outside the quoted runs. -/
lemma quotesClosed_of_outside (hs : s ≠ []) (before : Text) : ∀ {offset place : Nat},
    place = offset + before.bytes → OutsideSpans (quotedFrom offset (before ++ s)) place →
      QuotesClosed before := by
  induction hn : before.length using Nat.strongRecOn generalizing before with
  | _ n ih =>
      intro offset place hplace houtside
      cases before with
      | nil => rfl
      | cons c rest =>
          rw [List.length_cons] at hn
          rw [Text.bytes_cons] at hplace
          cases hquote : isQuote c with
          | false =>
              have hc : ∀ d ∈ [c], isQuote d = false := List.forall_mem_singleton.mpr hquote
              have hspans := quotedFrom_quoteless hc (rest ++ s) offset
              rw [List.singleton_append, ← List.cons_append] at hspans
              rw [hspans] at houtside
              exact (quotesClosed_of_quoteless hc).append
                (ih _ (by omega) rest rfl (hplace.trans (Nat.add_assoc _ _ _).symm) houtside)
          | true =>
              rw [List.cons_append, quotedFrom_run hquote] at houtside
              obtain ⟨hfirst, hmore⟩ := List.forall_mem_cons.mp houtside
              simp only [Text.bytes_cons] at hfirst hmore
              -- the first run ends in front of the place
              obtain ⟨m, hrest, hbehind⟩ :=
                exists_prefix_of_bytes (takeQuoted_append c (rest ++ s)) (by omega)
              have hne : (takeQuoted c (rest ++ s)).2 ≠ [] := by
                rw [hbehind]
                exact List.append_ne_nil_of_right_ne_nil _ hs
              have hlength := congrArg List.length hrest
              have hbytes := congrArg Text.bytes hrest
              rw [List.length_append] at hlength
              rw [Text.bytes_append] at hbytes
              rw [hbehind] at hmore
              rw [hrest, ← List.cons_append]
              refine ((isClosedRun_takeQuoted hne).quotesClosed hquote).append
                (ih _ (by omega) m rfl ?_ hmore)
              omega

lemma IsIdentifierRun.quotesClosed (h : IsIdentifierRun before w after) : QuotesClosed before :=
  quotesClosed_of_outside (List.append_ne_nil_of_left_ne_nil h.nonempty after) before
    (Nat.zero_add _).symm h.outside

/-! ## A run in the lower-cased text -/

/-- The same characters, some of them in lower case. -/
def Recased (w w' : Text) : Prop :=
  List.Forall₂ (fun c c' => c' = c ∨ c' = c.toLower) w w'

lemma Recased.sameVisible (h : Recased w w') : SameVisible w' w := by
  induction h with
  | nil => rfl
  | cons hc _ ih => exact (sameVisible_char hc).append ih

/-- The first character that is not the same is one in lower case. -/
lemma Recased.exists_lowered (h : Recased w w') (hne : w' ≠ w) : ∃ (p q p' q' : Text) (d : Char),
    w = p ++ d :: q ∧ w' = p' ++ d.toLower :: q' ∧ Recased p p' ∧ Recased q q' ∧ d.toLower ≠ d := by
  induction h with
  | nil => exact absurd rfl hne
  | @cons c c' rest rest' hc hrest ih =>
      by_cases hsame : c' = c
      · obtain ⟨p, q, p', q', d, hw, hw', hp, hq, hd⟩ := ih fun heq => hne (by rw [hsame, heq])
        exact ⟨c :: p, q, c' :: p', q', d, by rw [hw]; rfl, by rw [hw']; rfl, .cons hc hp, hq, hd⟩
      · obtain rfl := hc.resolve_left hsame
        exact ⟨[], rest, [], rest', c, rfl, rfl, .nil, hrest, hsame⟩

/-- Characters outside quotes that are not white space are kept or lower-cased in their order. -/
lemma Lowered.split {whole x : Text} (hw : ∀ c ∈ w, isQuote c = false ∧ isBlank c = false) :
    Lowered whole (w ++ x) s' → ∃ w' x', s' = w' ++ x' ∧ Recased w w' ∧ Lowered whole x x' := by
  induction w generalizing s' with
  | nil => exact fun h => ⟨[], s', rfl, List.Forall₂.nil, h⟩
  | cons c rest ih =>
      obtain ⟨⟨hquote, hblank⟩, hrest⟩ := List.forall_mem_cons.mp hw
      intro h
      rw [List.cons_append] at h
      generalize heq : c :: (rest ++ x) = y at h
      cases h with
      | nil => cases heq
      | quoted hq _ =>
          rw [(List.cons.inj heq).1, hq] at hquote
          cases hquote
      | char _ hc hmore =>
          obtain ⟨rfl, rfl⟩ := List.cons.inj heq
          obtain ⟨w', x', rfl, hw', hx'⟩ := ih hrest hmore
          exact ⟨_ :: w', x', rfl, List.Forall₂.cons hc hw', hx'⟩
      | gap _ hb _ _ _ =>
          rw [(List.cons.inj heq).1, hb] at hblank
          cases hblank

/-- White space ends in front of a run. -/
lemma exists_of_gap_append {gap b rest : Text} (hne : w ≠ [])
    (hw : ∀ c ∈ w, isQuote c = false ∧ isBlank c = false) (hgap : gap.isBlank = true)
    (htail : gap ++ rest = b ++ (w ++ after)) : ∃ m, b = gap ++ m ∧ rest = m ++ (w ++ after) := by
  rcases List.append_eq_append_iff.mp htail with hends | ⟨m, hgap', hsplit⟩
  · exact hends
  · cases m with
    | nil => exact ⟨[], by rw [hgap', List.append_nil, List.append_nil], hsplit.symm⟩
    | cons c m =>
        obtain ⟨c', w, rfl⟩ := List.exists_cons_of_ne_nil hne
        obtain rfl : c' = c := (List.cons.inj hsplit).1
        have hblank : isBlank c' = true := List.all_eq_true.mp hgap c' (by rw [hgap']; simp)
        rw [(hw c' List.mem_cons_self).2] at hblank
        cases hblank

/-- A run does not start with a quote. -/
lemma head_ne_quote_of_run {q : Char} (hne : w ≠ [])
    (hw : ∀ c ∈ w, isQuote c = false ∧ isBlank c = false) (hq : isQuote q = true) :
    (w ++ after).head? ≠ some q := by
  obtain ⟨c, w, rfl⟩ := List.exists_cons_of_ne_nil hne
  rw [List.cons_append, List.head?_cons, Ne, Option.some.injEq]
  rintro rfl
  rw [(hw c List.mem_cons_self).1] at hq
  cases hq

/-- **A run is kept or lower-cased in its place.** -/
lemma Lowered.standsBetween {whole x : Text} (hne : w ≠ [])
    (hw : ∀ c ∈ w, isQuote c = false ∧ isBlank c = false) (h : Lowered whole x s') :
    ∀ {before : Text}, x = before ++ (w ++ after) → QuotesClosed before →
      ∃ w', Recased w w' ∧ StandsBetween s' before w' after := by
  have hstart : ∀ {y y' : Text}, Lowered whole y y' → y = w ++ after →
      ∃ w', Recased w w' ∧ StandsBetween y' [] w' after := by
    rintro y y' hy rfl
    obtain ⟨w', after', rfl, hw', hafter⟩ := hy.split hw
    exact ⟨w', hw', standsBetween_head hafter.sameVisible⟩
  induction h with
  | nil =>
      intro before hx _
      exact absurd (List.append_eq_nil_iff.mp (List.append_eq_nil_iff.mp hx.symm).2).1 hne
  | @quoted q rest rest' hq hrest ih =>
      intro before hx hclosed
      cases before with
      | nil => exact hstart (.quoted hq hrest) hx
      | cons c b =>
          rw [List.cons_append] at hx
          obtain ⟨rfl, rfl⟩ := List.cons.inj hx
          rw [takeQuoted_append_of_closed hq (hclosed.isClosedRun hq)
            (head_ne_quote_of_run hne hw hq)] at ih ⊢
          obtain ⟨w', hw', hstands⟩ := ih rfl (hclosed.takeQuoted hq)
          refine ⟨w', hw', ?_⟩
          have hrun := hstands.prepend (a := q :: (takeQuoted q b).1) rfl
          rw [cons_takeQuoted_append, List.cons_append] at hrun
          exact hrun
  | @char c c' rest rest' hq hc hrest ih =>
      intro before hx hclosed
      cases before with
      | nil => exact hstart (.char hq hc hrest) hx
      | cons d b =>
          rw [List.cons_append] at hx
          obtain ⟨rfl, rfl⟩ := List.cons.inj hx
          have hd : QuotesClosed [c] := quotesClosed_of_quoteless (List.forall_mem_singleton.mpr hq)
          obtain ⟨w', hw', hstands⟩ := ih rfl (hd.append_iff.mp hclosed)
          exact ⟨w', hw', hstands.prepend (sameVisible_char hc)⟩
  | @gap front gap d rest rest' hwhole hb hgap hpair hrest ih =>
      intro before hx hclosed
      cases before with
      | nil => exact hstart (.gap hwhole hb hgap hpair hrest) hx
      | cons e b =>
          rw [List.cons_append] at hx
          obtain ⟨rfl, htail⟩ := List.cons.inj hx
          obtain ⟨m, rfl, hm⟩ := exists_of_gap_append hne hw hgap htail
          have hblank : Text.isBlank (d :: gap) = true := by
            rw [Text.isBlank, List.all_cons, hb]
            exact hgap
          obtain ⟨w', hw', hstands⟩ :=
            ih hm ((quotesClosed_of_isBlank hblank).append_iff.mp hclosed)
          exact ⟨w', hw', hstands.prepend (sameVisible_of_isBlank (a := [' ']) (by decide) hblank)⟩

/-! ## Keywords in a run -/

/-- A run is found unchanged in the lower-cased text, at its place. -/
def KeepsRun (before w after : Text) : Prop :=
  StandsBetween (lowerKeywords (before ++ (w ++ after))) before w after

/-- A keyword with capitals is cut out of a run by word boundaries. -/
def HoldsKeyword (before w after : Text) : Prop :=
  ∃ p r q, w = p ++ (r ++ q) ∧ IsWholeWord (before ++ p) r (q ++ after) ∧
    IsCased (before ++ p) r (q ++ after) ∧ r.toAsciiLower ≠ r

/-- A word that is a keyword or half of one, in any case. -/
def IsKeywordWord (w : Text) : Prop :=
  w.folded ∈ caseWords ∨ ∃ pair ∈ casePairs, w.folded = pair.1 ∨ w.folded = pair.2

instance (w : Text) : Decidable (IsKeywordWord w) :=
  inferInstanceAs (Decidable (_ ∨ _))

lemma IsCased.isKeywordWord (h : IsCased before w after) : IsKeywordWord w := by
  rcases h with hword | hpair | hpair
  · exact Or.inl hword
  · exact Or.inr ⟨_, hpair, Or.inl rfl⟩
  · exact Or.inr ⟨_, hpair, Or.inr rfl⟩

/-- Keywords are made of identifier characters. -/
lemma IsKeywordWord.continues (h : IsKeywordWord w) : ∀ c ∈ w, continuesIdentifier c = true := by
  have hwords : ∀ word ∈ caseWords, word.all continuesIdentifier = true := by decide
  have hpairs : ∀ pair ∈ casePairs,
      pair.1.all continuesIdentifier = true ∧ pair.2.all continuesIdentifier = true := by
    decide
  have hall : w.folded.all continuesIdentifier = true := by
    rcases h with hword | ⟨pair, hpair, heq | heq⟩
    · exact hwords _ hword
    · rw [heq]
      exact (hpairs _ hpair).1
    · rw [heq]
      exact (hpairs _ hpair).2
  exact forall_mem_of_folded continuesIdentifier_foldChar hall

/-- A character with case belongs to a word. -/
lemma isWordChar_of_toLower_ne {c : Char} (h : c.toLower ≠ c) : isWordChar c = true := by
  have hc : c.toNat < 128 := by
    by_contra hascii
    exact h (toLower_of_not_ascii hascii)
  obtain ⟨n, rfl⟩ := exists_fin_of_ascii hc
  have hall : ∀ n : Fin 128, (Char.ofNat n).toLower ≠ Char.ofNat n →
      isWordChar (Char.ofNat n) = true := by decide
  exact hall n h

/-- The whole word around a character. -/
lemma exists_wholeWord {c : Char} (hc : isWordChar c = true) (x y : Text) :
    ∃ a p q b : Text, x = a ++ p ∧ y = q ++ b ∧ IsWholeWord a (p ++ c :: q) b := by
  refine ⟨(x.reverse.dropWhile isWordChar).reverse, (x.reverse.takeWhile isWordChar).reverse,
    y.takeWhile isWordChar, y.dropWhile isWordChar, ?_, List.takeWhile_append_dropWhile.symm, ?_⟩
  · rw [← List.reverse_append, List.takeWhile_append_dropWhile, List.reverse_reverse]
  · refine ⟨List.append_ne_nil_of_right_ne_nil _ (List.cons_ne_nil _ _), ?_, ?_,
      head_any_dropWhile _ _⟩
    · refine List.forall_mem_append.mpr ⟨fun d hd => ?_, List.forall_mem_cons.mpr ⟨hc, ?_⟩⟩
      · exact List.mem_takeWhile_imp (List.mem_reverse.mp hd)
      · exact fun d hd => List.mem_takeWhile_imp hd
    · rw [List.getLast?_reverse]
      exact head_any_dropWhile _ _

/-- A text of identifier characters does not go on where an identifier ends. -/
lemma exists_suffix_of_left {a p q : Text} (h : before ++ p = a ++ q)
    (hq : ∀ c ∈ q, continuesIdentifier c = true)
    (hbefore : before.getLast?.any continuesIdentifier = false) :
    ∃ m, p = m ++ q ∧ a = before ++ m := by
  rcases List.append_eq_append_iff.mp h with ⟨m, ha, hp⟩ | ⟨m, hbefore', hq'⟩
  · exact ⟨m, hp, ha⟩
  · obtain rfl : m = [] := by
      rw [hbefore'] at hbefore
      exact eq_nil_of_last (fun c hc => hq c (by rw [hq']; exact List.mem_append_left _ hc)) hbefore
    exact ⟨[], by rw [hq']; rfl, by rw [hbefore', List.append_nil, List.append_nil]⟩

lemma exists_prefix_of_right {a p q : Text} (h : p ++ after = q ++ a)
    (hq : ∀ c ∈ q, continuesIdentifier c = true)
    (hafter : after.head?.any continuesIdentifier = false) :
    ∃ m, p = q ++ m ∧ a = m ++ after := by
  rcases List.append_eq_append_iff.mp h with ⟨m, hq', hafter'⟩ | ⟨m, hp, ha⟩
  · obtain rfl : m = [] := by
      rw [hafter'] at hafter
      exact eq_nil_of_head (fun c hc => hq c (by rw [hq']; exact List.mem_append_right _ hc)) hafter
    exact ⟨[], by rw [hq', List.append_nil, List.append_nil], hafter'.symm⟩
  · exact ⟨m, hp, ha⟩

lemma IsIdentifierRun.plain (h : IsIdentifierRun before w after) :
    ∀ c ∈ w, isQuote c = false ∧ isBlank c = false := by
  intro c hc
  have hcontinues := h.chars c hc
  refine ⟨Bool.eq_false_of_not_eq_true fun hq => ?_, Bool.eq_false_of_not_eq_true fun hb => ?_⟩
  · rw [continuesIdentifier_of_isQuote hq] at hcontinues
    cases hcontinues
  · rw [continuesIdentifier_of_isBlank hb] at hcontinues
    cases hcontinues

/-- A whole word within a run is lower-cased exactly if it is a keyword. -/
lemma IsIdentifierRun.wholeWord {p q r : Text} (h : IsIdentifierRun before (p ++ (r ++ q)) after)
    (hword : IsWholeWord (before ++ p) r (q ++ after)) :
    StandsBetween (lowerKeywords (before ++ (p ++ (r ++ q) ++ after))) (before ++ p)
      (casedWord (before ++ p) r (q ++ after)) (q ++ after) := by
  have hp : QuotesClosed p := quotesClosed_of_quoteless fun c hc =>
    (h.plain c (List.mem_append_left _ hc)).1
  have hstands := hword.lowerKeywords (h.quotesClosed.append hp)
  simp only [List.append_assoc] at hstands ⊢
  exact hstands

/-- A run with a keyword in it is not kept. -/
lemma IsIdentifierRun.not_keepsRun (h : IsIdentifierRun before w after)
    (hholds : HoldsKeyword before w after) : ¬ KeepsRun before w after := by
  obtain ⟨p, r, q, rfl, hword, hcased, hne⟩ := hholds
  intro hkeeps
  have hstands := h.wholeWord hword
  rw [casedWord, if_pos hcased] at hstands
  obtain ⟨c, rest, rfl, hc⟩ := hword.exists_cons
  have hblank : isBlank c = false := isBlank_of_isWordChar hc
  refine hne (hstands.unique (hkeeps.part rfl rfl) (List.length_map _) ?_ ?_ hblank)
  · exact List.cons_ne_nil _ _
  · exact (isBlank_toLower c).trans hblank

/-- A character of a whole word that is no keyword is kept. -/
lemma IsWholeWord.char_standsBetween {a p q b : Text} {d : Char} (h : IsWholeWord a (p ++ d :: q) b)
    (hcased : ¬ IsCased a (p ++ d :: q) b) (hclosed : QuotesClosed (a ++ p)) :
    StandsBetween (SqlFragments.lowerKeywords (a ++ p ++ d :: (q ++ b))) (a ++ p) [d] (q ++ b) := by
  have hstands := h.lowerKeywords (hclosed.of_append fun c hc =>
    isQuote_of_isWordChar (h.word c (List.mem_append_left _ hc)))
  rw [casedWord, if_neg hcased] at hstands
  have hpart := hstands.part (w := [d]) (q := q) rfl rfl
  simp only [List.append_assoc, List.cons_append] at hpart ⊢
  exact hpart

/-- **A run without a keyword in it is kept.** -/
lemma IsIdentifierRun.keepsRun (h : IsIdentifierRun before w after)
    (hholds : ¬ HoldsKeyword before w after) : KeepsRun before w after := by
  obtain ⟨w', hrecased, hstands⟩ :=
    (lowerKeywords_lowered (before ++ (w ++ after))).standsBetween h.nonempty h.plain rfl
      h.quotesClosed
  by_cases hsame : w' = w
  · exact hsame ▸ hstands
  -- a capital was lower-cased, so the whole word around it is a keyword
  exfalso
  obtain ⟨p, q, p', q', d, rfl, rfl, hp, hq, hd⟩ := hrecased.exists_lowered hsame
  obtain ⟨a, p₂, q₁, b, hleft, hright, hword⟩ :=
    exists_wholeWord (isWordChar_of_toLower_ne hd) (before ++ p) (q ++ after)
  by_cases hcased : IsCased a (p₂ ++ d :: q₁) b
  · have hchars := hcased.isKeywordWord.continues
    obtain ⟨m, rfl, rfl⟩ := exists_suffix_of_left hleft
      (fun c hc => hchars c (List.mem_append_left _ hc)) h.left
    obtain ⟨n, rfl, rfl⟩ := exists_prefix_of_right hright
      (fun c hc => hchars c (List.mem_append_right _ (List.mem_cons_of_mem _ hc))) h.right
    refine hholds ⟨m, p₂ ++ d :: q₁, n, by simp, hword, hcased, fun heq => hd ?_⟩
    have hmap : (p₂ ++ d :: q₁).map Char.toLower = (p₂ ++ d :: q₁).map id := by
      rw [List.map_id]
      exact heq
    exact List.map_inj_left.mp hmap d (by simp)
  · have hp' : QuotesClosed p := quotesClosed_of_quoteless fun c hc =>
      (h.plain c (List.mem_append_left _ hc)).1
    have hclosed := h.quotesClosed.append hp'
    rw [hleft] at hclosed
    have hkept := hword.char_standsBetween hcased hclosed
    rw [← hleft, ← hright] at hkept
    have hlower := hstands.part (w := [d.toLower]) hp.sameVisible hq.sameVisible
    simp only [List.append_assoc, List.cons_append] at hkept hlower
    have hblank : isBlank d = false := (h.plain d (by simp)).2
    have heq := hlower.unique hkept rfl (List.cons_ne_nil _ _)
      ((isBlank_toLower d).trans hblank) hblank
    exact hd (List.cons.inj heq).1

/-- **A run is kept exactly if no keyword is cut out of it.** -/
theorem keepsRun_iff (h : IsIdentifierRun before w after) :
    KeepsRun before w after ↔ ¬ HoldsKeyword before w after :=
  ⟨fun hkeeps hholds => h.not_keepsRun hholds hkeeps, h.keepsRun⟩

/-- A run of word characters holds no keyword but itself. -/
lemma not_holdsKeyword (hw : ∀ c ∈ w, isWordChar c = true) (hnot : ¬ IsKeywordWord w) :
    ¬ HoldsKeyword before w after := by
  rintro ⟨p, r, q, rfl, hword, hcased, -⟩
  have hp : p = [] := eq_nil_of_last (fun c hc => hw c (by simp [hc])) hword.left
  have hq : q = [] := eq_nil_of_head (fun c hc => hw c (by simp [hc])) hword.right
  rw [hp, hq, List.nil_append, List.append_nil] at hnot
  exact hnot hcased.isKeywordWord

/-! ## Connectors -/

/-- A connector at the start of a fragment, up to a word boundary. -/
def OpensWith (f connector rest : Text) : Prop :=
  f.trim = connector ++ rest ∧ isLeadingConnector connector = true ∧
    rest.head?.any isWordChar = false

instance (f connector rest : Text) : Decidable (OpensWith f connector rest) :=
  inferInstanceAs (Decidable (_ ∧ _))

/-- The identifier characters that a fragment starts with. -/
def leadingRun (f : Text) : Text :=
  f.trim.takeWhile continuesIdentifier

variable {f connector rest : Text}

/-- Connectors are words, and identifiers. -/
lemma isLeadingConnector_class {p : Char → Bool} (hfold : ∀ c, p (foldChar c) = p c)
    (hwhere : "where".toList.all p = true) (hand : "and".toList.all p = true)
    (h : isLeadingConnector connector = true) : ∀ c ∈ connector, p c = true := by
  refine forall_mem_of_folded hfold ?_
  rw [isLeadingConnector, Bool.or_eq_true, beq_iff_eq, beq_iff_eq] at h
  rcases h with heq | heq
  · rw [heq, hwhere]
  · rw [heq, hand]

/-- **A connector is taken off up to a word boundary**, and it is all of the first run exactly if
that run ends there too. -/
lemma OpensWith.stripConnector (h : OpensWith f connector rest) :
    stripConnector f = rest.trim ∧
      (leadingRun f = connector ↔ rest.head?.any continuesIdentifier = false) := by
  obtain ⟨htext, hconnector, hrest⟩ := h
  have hword := isLeadingConnector_class isWordChar_foldChar (by decide) (by decide) hconnector
  have hcontinues :=
    isLeadingConnector_class continuesIdentifier_foldChar (by decide) (by decide) hconnector
  obtain ⟨htake, hdrop⟩ := takeWhile_append_of_head hword hrest
  constructor
  · rw [SqlFragments.stripConnector, htext, htake, hdrop, if_pos hconnector]
  · rw [leadingRun, htext, List.takeWhile_append_of_pos hcontinues, List.append_right_eq_self]
    cases rest with
    | nil => exact iff_of_true rfl rfl
    | cons c more =>
        rw [List.takeWhile_cons, List.head?_cons, Option.any_some]
        cases continuesIdentifier c <;> simp

lemma stripConnector_of_not_opensWith (h : ¬ ∃ connector rest, OpensWith f connector rest) :
    stripConnector f = f.trim := by
  rw [stripConnector]
  refine if_neg fun hconnector => h ⟨_, f.trim.dropWhile isWordChar, ?_, hconnector, ?_⟩
  · exact List.takeWhile_append_dropWhile.symm
  · exact head_any_dropWhile _ _

/-! ## Word boundaries -/

/-- **Keywords end at word characters.**  A maximal run of identifier characters outside quotes is
found unchanged in the lower-cased text exactly if no keyword with capitals is cut out of it by word
boundaries; so a run of word characters that is no keyword is kept.  A connector is taken off a
text exactly if a word boundary follows it, and it is then the whole leading run exactly if the
identifier does not go on in a character that is none of a word. -/
theorem keywords_end_at_wordChars (s : Text) :
    (∀ before w after : Text, s = before ++ (w ++ after) → IsIdentifierRun before w after →
      (KeepsRun before w after ↔ ¬ HoldsKeyword before w after) ∧
        (¬ IsKeywordWord w → (∀ c ∈ w, isWordChar c = true) → KeepsRun before w after)) ∧
    (∀ connector rest, OpensWith s connector rest → stripConnector s = rest.trim ∧
      (leadingRun s = connector ↔ rest.head?.any continuesIdentifier = false)) ∧
    ((¬ ∃ connector rest, OpensWith s connector rest) → stripConnector s = s.trim) := by
  refine ⟨fun before w after _ h => ⟨keepsRun_iff h, fun hnot hw => ?_⟩, ?_, ?_⟩
  · exact (keepsRun_iff h).mpr (not_holdsKeyword hw hnot)
  · exact fun connector rest h => h.stripConnector
  · exact stripConnector_of_not_opensWith

/-- A name that only contains a keyword is kept, and a connector in front of a condition is taken
off. -/
theorem keywords_end_at_wordChars_order :
    KeepsRun "FROM ".toList "ORDER_By".toList " x".toList ∧
      stripConnector " AND x = 1".toList = "x = 1".toList := by
  have hrun : IsIdentifierRun "FROM ".toList "ORDER_By".toList " x".toList :=
    ⟨by decide, List.all_eq_true.mp (by decide), by decide, by decide, by decide +kernel⟩
  have hopens : OpensWith " AND x = 1".toList "AND".toList " x = 1".toList := by decide
  constructor
  · have hruns := (keywords_end_at_wordChars "FROM ORDER_By x".toList).1
    exact (hruns _ _ _ rfl hrun).2 (by decide) (List.all_eq_true.mp (by decide))
  · rw [((keywords_end_at_wordChars " AND x = 1".toList).2.1 _ _ hopens).1]
    rfl

/-- In `SELECT$x` a keyword is lower-cased within an identifier, and the connector is taken off
`and$x = 1`. -/
theorem not_keepsRun_dollar :
    IsIdentifierRun [] "SELECT$x".toList [] ∧ ¬ IsKeywordWord "SELECT$x".toList ∧
      ¬ KeepsRun [] "SELECT$x".toList [] ∧
      stripConnector "and$x = 1".toList = "$x = 1".toList ∧
      leadingRun "and$x = 1".toList = "and$x".toList := by
  have hrun : IsIdentifierRun [] "SELECT$x".toList [] :=
    ⟨by decide, List.all_eq_true.mp (by decide), by decide, by decide, by decide +kernel⟩
  have hholds : HoldsKeyword [] "SELECT$x".toList [] :=
    ⟨[], "SELECT".toList, "$x".toList, rfl,
      ⟨by decide, List.all_eq_true.mp (by decide), by decide, by decide⟩, by decide, by decide⟩
  exact ⟨hrun, by decide, hrun.not_keepsRun hholds, by decide, by decide⟩

end SqlFragments
