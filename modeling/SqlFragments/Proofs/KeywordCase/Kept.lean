import SqlFragments.Proofs.KeywordCase.Tokens
import SqlFragments.Proofs.Token.Parenthesis

/-!
# What lower-casing keeps of a fragment

A fragment that is written in lower case can still be put where the fragment could: what it opens
is closed as before, its commas stand where they stood, there is white space around it only if
there was, and its words are the same up to the case of their letters.

* `Lowered.foldl_quoteAfter` — the open quote.
* `closesFrom_recased`, `outside_recased`, `comma_mem_recased` — parentheses and commas.
* `Lowered.getLast_isBlank` — white space at the end.
* `SameWords`, `Lowered.sameWords` — the words.
* **`SelfContained.lowerKeywords`**, `Text.Trimmed.lowerKeywords`, `isBlank_lowerKeywords`,
  `folded_words_lowerKeywords` — the same for `lowerKeywords`.
-/

namespace SqlFragments

variable {whole s s' : Text}

/-! ## Quotes -/

lemma isQuote_recased {c c' : Char} (h : c' = c ∨ c' = c.toLower) : isQuote c' = isQuote c := by
  rcases h with rfl | rfl
  · rfl
  · exact isQuote_toLower c

/-- **The same quote is open** behind related texts. -/
lemma Lowered.foldl_quoteAfter (h : Lowered whole s s') :
    s'.foldl quoteAfter none = s.foldl quoteAfter none := by
  have hplain : ∀ {c : Char}, isQuote c = false → quoteAfter none c = none := fun hc =>
    quoteAfter_of_not_isQuote nofun hc
  induction h with
  | nil => rfl
  | @quoted q rest rest' hq hrest ih =>
      have happ := takeQuoted_append q rest
      rcases takeQuoted_run q rest with hclosed | ⟨-, hend⟩
      · have hrun : QuotesClosed (q :: (takeQuoted q rest).1) := hclosed.quotesClosed hq
        rw [← List.cons_append, List.foldl_append, show List.foldl _ _ _ = none from hrun, ih]
        conv_rhs => rw [← happ, ← List.cons_append, List.foldl_append,
          show List.foldl _ _ _ = none from hrun]
      · rw [hend] at hrest happ
        rw [hrest.nil_inv, happ]
  | char hc hc' _ ih =>
      rw [List.foldl_cons, List.foldl_cons, hplain hc, hplain ((isQuote_recased hc').trans hc), ih]
  | @gap _ gap b rest _ _ hb hgap _ _ ih =>
      have hclosed : QuotesClosed gap := quotesClosed_of_isBlank hgap
      rw [List.foldl_cons, List.foldl_cons, List.foldl_append, hplain (isQuote_of_isBlank hb),
        show List.foldl _ _ _ = none from hclosed, hplain (show isQuote ' ' = false by decide), ih]

/-! ## Parentheses and commas -/

lemma Token.Recased.depthAfter {t t' : Token} (h : t.Recased t') (depth : Nat) :
    depthAfter depth t' = SqlFragments.depthAfter depth t := by
  cases h <;> rfl

lemma Token.Recased.eq_comma_iff {t t' : Token} (h : t.Recased t') : t' = .comma ↔ t = .comma := by
  cases h <;> simp

lemma closesFrom_recased {ts ts' : List Token} (h : List.Forall₂ Token.Recased ts ts') :
    ∀ depth : Nat, closesFrom depth ts' = closesFrom depth ts := by
  induction h with
  | nil => exact fun depth => rfl
  | @cons t t' rest rest' ht _ ih =>
      intro depth
      have hright : (t' != .rightParen) = (t != .rightParen) := by cases ht <;> rfl
      rw [closesFrom, closesFrom, ht.depthAfter, hright, ih]

/-- A keyword stays the same keyword, in any case. -/
lemma Token.Recased.isKeyword {t t' : Token} (h : t.Recased t') (word : Text) :
    t'.isKeyword word = t.isKeyword word := by
  cases h with
  | keyword hw =>
      rw [Token.isKeyword, Token.isKeyword, Text.sameLetters, Text.sameLetters,
        Text.sameLetters_iff.mp hw]
  | _ => rfl

lemma not_isKeyword_recased {ts ts' : List Token} (h : List.Forall₂ Token.Recased ts ts')
    {word : Text} : (∀ t ∈ ts', t.isKeyword word = false) ↔ ∀ t ∈ ts, t.isKeyword word = false := by
  induction h with
  | nil => exact Iff.rfl
  | cons ht _ ih => rw [List.forall_mem_cons, List.forall_mem_cons, ht.isKeyword word, ih]

/-- **As many parentheses are open** behind recased tokens. -/
lemma depthBehind_recased {ts ts' : List Token} (h : List.Forall₂ Token.Recased ts ts') :
    ∀ depth : Nat, depthBehind depth ts' = depthBehind depth ts := by
  induction h with
  | nil => exact fun depth => rfl
  | @cons t t' rest rest' ht _ ih =>
      intro depth
      have hmore := ih (depthAfter depth t)
      rw [depthBehind] at hmore
      rw [depthBehind, List.foldl_cons, ht.depthAfter, hmore]
      rfl

/-- **The same places are outside parentheses** in recased tokens. -/
lemma outside_recased {ts ts' : List Token} (h : List.Forall₂ Token.Recased ts ts') :
    ∀ depth : Nat, List.Forall₂ Token.Recased (outside depth ts) (outside depth ts') := by
  induction h with
  | nil => exact fun depth => List.Forall₂.nil
  | @cons t t' rest rest' ht _ ih =>
      intro depth
      rw [outside, outside, ht.depthAfter]
      split_ifs with hdepth
      · exact List.Forall₂.cons ht (ih _)
      · exact ih _

lemma comma_mem_recased {ts ts' : List Token} (h : List.Forall₂ Token.Recased ts ts') :
    .comma ∈ ts' ↔ .comma ∈ ts := by
  induction h with
  | nil => exact Iff.rfl
  | @cons t t' rest rest' ht _ ih =>
      rw [List.mem_cons, List.mem_cons, eq_comm, ht.eq_comma_iff, eq_comm, ih]

/-! ## White space at the end -/

lemma Lowered.eq_nil_iff (h : Lowered whole s s') : s' = [] ↔ s = [] := by
  cases h <;> simp

/-- The end of two texts is that of their rests, if there are any. -/
lemma getLast_isBlank_append (a a' : Text) {rest rest' : Text} (hnil : rest' = [] ↔ rest = [])
    (ha : rest = [] → a'.getLast?.any isBlank = a.getLast?.any isBlank)
    (hrest : rest'.getLast?.any isBlank = rest.getLast?.any isBlank) :
    (a' ++ rest').getLast?.any isBlank = (a ++ rest).getLast?.any isBlank := by
  by_cases h : rest = []
  · rw [h, hnil.mpr h, List.append_nil, List.append_nil, ha h]
  · rw [List.getLast?_append_of_ne_nil _ h,
      List.getLast?_append_of_ne_nil _ fun h' => h (hnil.mp h'), hrest]

/-- Related texts end in white space, or neither does. -/
lemma Lowered.getLast_isBlank (h : Lowered whole s s') :
    s'.getLast?.any isBlank = s.getLast?.any isBlank := by
  induction h with
  | nil => rfl
  | @quoted q rest rest' hq hrest ih =>
      rw [← cons_takeQuoted_append q rest, ← List.cons_append]
      exact getLast_isBlank_append _ _ hrest.eq_nil_iff (fun _ => rfl) ih
  | @char c c' rest rest' _ hc hrest ih =>
      refine getLast_isBlank_append [c] [c'] hrest.eq_nil_iff (fun _ => ?_) ih
      exact caseBlind_isBlank.recased hc
  | @gap _ gap b rest rest' _ _ _ hpair hrest ih =>
      refine getLast_isBlank_append (b :: gap) [' '] hrest.eq_nil_iff (fun hnil => ?_) ih
      -- a gap stands in front of the second word of a pair
      have hword := hpair.head_word
      rw [hnil] at hword
      cases hword

/-! ## Words -/

/-- Two texts with the same words up to the case of their letters, and so behind the start of a
word. -/
def SameWords (s s' : Text) : Prop :=
  ∀ word word' : Text, word'.folded = word.folded →
    (Text.wordsFrom word' s').map Text.folded = (Text.wordsFrom word s).map Text.folded

lemma folded_reverse (word : Text) : Text.folded word.reverse = word.folded.reverse :=
  List.map_reverse

lemma sameWords_nil : SameWords [] [] := by
  intro word word' h
  have hempty : word'.isEmpty = word.isEmpty := by
    cases word <;> cases word' <;> first | rfl | cases h
  rw [Text.wordsFrom, Text.wordsFrom, hempty]
  split_ifs
  · rfl
  · rw [List.map_singleton, List.map_singleton, folded_reverse, folded_reverse, h]

/-- White space ends a word in both, and some more of it in one of them changes nothing. -/
lemma SameWords.gap {c c' : Char} {gap : Text} (hc : isBlank c = true) (hc' : isBlank c' = true)
    (hgap : gap.isBlank = true) (h : SameWords s s') : SameWords (c :: (gap ++ s)) (c' :: s') := by
  intro word word' hword
  rw [Text.wordsFrom_of_blank word hc, Text.wordsFrom_of_blank word' hc', List.map_append,
    List.map_append, sameWords_nil word word' hword, Text.words_blank_append hgap, Text.words,
    Text.words, h [] [] rfl]

lemma SameWords.cons {c c' : Char} (hblank : isBlank c' = isBlank c)
    (hfold : foldChar c' = foldChar c) (h : SameWords s s') : SameWords (c :: s) (c' :: s') := by
  cases hc : isBlank c with
  | true =>
      have hnone : Text.isBlank [] = true := rfl
      exact h.gap hc (hblank.trans hc) hnone
  | false =>
      intro word word' hword
      rw [Text.wordsFrom, Text.wordsFrom, hblank, hc, if_neg Bool.false_ne_true,
        if_neg Bool.false_ne_true]
      refine h _ _ ?_
      rw [Text.folded, List.map_cons, hfold]
      exact congrArg _ hword

lemma SameWords.append (a : Text) (h : SameWords s s') : SameWords (a ++ s) (a ++ s') := by
  induction a with
  | nil => exact h
  | cons c rest ih => exact ih.cons rfl rfl

/-- **Related texts have the same words** up to the case of their letters. -/
lemma Lowered.sameWords (h : Lowered whole s s') : SameWords s s' := by
  induction h with
  | nil => exact sameWords_nil
  | @quoted q rest rest' _ _ ih =>
      have hrun := ih.append (q :: (takeQuoted q rest).1)
      rw [cons_takeQuoted_append, List.cons_append] at hrun
      exact hrun
  | @char c c' _ _ _ hc _ ih =>
      refine ih.cons (caseBlind_isBlank.recased hc) ?_
      rcases hc with rfl | rfl
      · rfl
      · exact foldChar_toLower c
  | @gap _ gap b rest rest' _ hb hgap _ _ ih =>
      have hspace : isBlank ' ' = true := by decide
      exact ih.gap hb hspace hgap

/-! ## Unchanged tokens -/

lemma SegmentRecased.refl (a : Text) : SegmentRecased a a :=
  ⟨Text.sameLetters_refl a, fun _ => rfl⟩

lemma Token.Fits.recased {next : Option Token} {t : Token} (h : t.Fits next) : t.Recased t := by
  cases h with
  | literal => exact .literal _
  | openLiteral => exact .literal _
  | identifier => exact .identifier (List.forall₂_same.mpr fun a _ => SegmentRecased.refl a)
  | function _ hnames =>
      exact .function hnames (List.forall₂_same.mpr fun a _ => SegmentRecased.refl a)
  | keyword => exact .keyword (Text.sameLetters_refl _)
  | number => exact .number (Text.sameLetters_refl _)
  | parameter => exact .parameter _
  | leftParen => exact .leftParen
  | rightParen => exact .rightParen
  | comma => exact .comma
  | operator => exact .operator _
  | other => exact .other _

/-- The tokens of a text are related to themselves. -/
lemma recased_tokens (s : Text) : List.Forall₂ Token.Recased (tokens s) (tokens s) :=
  List.forall₂_same.mpr fun t ht => by
    obtain ⟨next, hfits⟩ := (tokens_fitting s).exists_fits t ht
    exact hfits.recased

/-! ## Lower-cased fragments -/

lemma tokens_lowerKeywords (s : Text) :
    List.Forall₂ Token.Recased (tokens s) (tokens (lowerKeywords s)) :=
  (relexed_of_lowered s (List.nil_append s).symm (lowerKeywords_lowered s)).tokens

lemma QuotesClosed.lowerKeywords (h : QuotesClosed s) : QuotesClosed (lowerKeywords s) :=
  (lowerKeywords_lowered s).foldl_quoteAfter.trans h

/-- **A fragment that closes what it opens** does so in lower case. -/
lemma SelfContained.lowerKeywords (h : SelfContained s) : SelfContained (lowerKeywords s) where
  quotes := h.quotes.lowerKeywords
  parens := by
    rw [balanced_iff, closesFrom_recased (tokens_lowerKeywords s)]
    exact (balanced_iff _).mp h.parens

lemma Text.Trimmed.lowerKeywords (h : Text.Trimmed s) : Text.Trimmed (lowerKeywords s) where
  first := ((lowerKeywords_lowered s).head_any caseBlind_isBlank).trans h.first
  last := (lowerKeywords_lowered s).getLast_isBlank.trans h.last

lemma lowerKeywords_eq_nil_iff : lowerKeywords s = [] ↔ s = [] :=
  (lowerKeywords_lowered s).eq_nil_iff

lemma isBlank_lowerKeywords (s : Text) : (lowerKeywords s).isBlank = s.isBlank := by
  have hlength := (tokens_lowerKeywords s).length_eq
  rw [Bool.eq_iff_iff, ← tokens_eq_nil_iff, ← tokens_eq_nil_iff, ← List.length_eq_zero_iff,
    ← List.length_eq_zero_iff, hlength]

lemma comma_mem_outside_lowerKeywords :
    .comma ∈ outside 0 (tokens (lowerKeywords s)) ↔ .comma ∈ outside 0 (tokens s) :=
  comma_mem_recased (outside_recased (tokens_lowerKeywords s) 0)

/-- **Words keep their letters** up to case. -/
lemma folded_words_lowerKeywords (s : Text) :
    (lowerKeywords s).words.map Text.folded = s.words.map Text.folded :=
  (lowerKeywords_lowered s).sameWords [] [] rfl

end SqlFragments
