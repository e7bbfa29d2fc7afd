import SqlFragments.Proofs.Token.Bare
import SqlFragments.Proofs.Token.Outside

/-!
# The parentheses and commas of a text

A parenthesis or comma outside quotes is a token of its own, and no other token holds one there.  So
whether the parentheses of a text match can be told from its characters, and a stretch that has
neither quotes nor parentheses can be cut off in front without a change.

* `bareParens` — the parentheses of a text outside its quotes.
* `Token.Fits.punctuation` — the parentheses and commas of one token.
* **`punctuation_tokens`**, `bareParens_tokens` — those of a text are those among its tokens.
* **`balanced_tokens_iff`** — matching depends on the parentheses only.
* `SelfContained` — a text that closes what it opens; so does what is left of it without white
  space or a word at its ends.
-/

namespace SqlFragments

/-! ## Parentheses by character -/

def parenOf (c : Char) : List Token :=
  if c = '(' then [.leftParen] else if c = ')' then [.rightParen] else []

/-- The parentheses of a text outside its quotes, `quote` being open in front of it. -/
def bareParens (quote : Option Char) : Text → List Token
  | [] => []
  | c :: rest => (if quote.isNone then parenOf c else []) ++ bareParens (quoteAfter quote c) rest

/-- They are what the bare characters of the text are, each a parenthesis or none. -/
lemma bareParens_eq_flatMap (s : Text) : ∀ quote : Option Char,
    bareParens quote s = (bareChars quote s).flatMap parenOf := by
  induction s with
  | nil => exact fun quote => rfl
  | cons c rest ih =>
      intro quote
      rw [bareParens, bareChars, List.flatMap_append, ih]
      split_ifs
      · rw [List.flatMap_singleton]
      · rfl

lemma bareParens_append_of_closed {a : Text} (ha : QuotesClosed a) (b : Text) :
    bareParens none (a ++ b) = bareParens none a ++ bareParens none b := by
  simp only [bareParens_eq_flatMap, ha.bareChars_append, List.flatMap_append]

lemma parenOf_of_isBare {c : Char} (h : isBare c = true) : parenOf c = [] := by
  simp only [isBare, Bool.and_eq_true, bne_iff_ne] at h
  rw [parenOf, if_neg h.1.2, if_neg h.2]

lemma parenOf_of_standsInNames {c : Char} (h : standsInNames c = true) : parenOf c = [] := by
  have hne : ∀ d : Char, standsInNames d = false → c ≠ d := by
    rintro d hd rfl
    rw [h] at hd
    cases hd
  rw [parenOf, if_neg (hne '(' (by decide)), if_neg (hne ')' (by decide))]

lemma bareParens_of_bare {s : Text} (h : ∀ c ∈ s, isBare c = true) : bareParens none s = [] := by
  rw [bareParens_eq_flatMap]
  exact List.flatMap_eq_nil_iff.mpr fun c hc => parenOf_of_isBare (h c (mem_of_mem_bareChars hc))

/-- The parenthesis or comma that a character is. -/
def punctuationOf (c : Char) : List Token :=
  if c = ',' then [.comma] else parenOf c

lemma punctuationOf_of_standsInNames {c : Char} (h : standsInNames c = true) :
    punctuationOf c = [] := by
  have hcomma : c ≠ ',' := by
    rintro rfl
    exact absurd h (by decide)
  rw [punctuationOf, if_neg hcomma, parenOf_of_standsInNames h]

lemma punctuationOf_of_isBare {c : Char} (h : isBare c = true) (hcomma : c ≠ ',') :
    punctuationOf c = [] := by
  rw [punctuationOf, if_neg hcomma, parenOf_of_isBare h]

lemma filter_punctuationOf (c : Char) : (punctuationOf c).filter Token.isParen = parenOf c := by
  rw [punctuationOf, parenOf]
  split_ifs with hcomma hleft hright hleft hright
  · rw [hcomma] at hleft
    cases hleft
  · rw [hcomma] at hright
    cases hright
  · rfl
  · rfl
  · rfl
  · rfl

/-! ## Parentheses and commas by token -/

def Token.isPunctuation (t : Token) : Bool :=
  t.isParen || t == .comma

/-- The parentheses and commas in the text of a token: itself, if it is one. -/
lemma Token.Fits.punctuation {next : Option Token} {t : Token} (h : t.Fits next) :
    (bareChars none t.text).flatMap punctuationOf = [t].filter Token.isPunctuation := by
  by_cases hself : t.isPunctuation = true
  · cases t with
    | leftParen => rfl
    | rightParen => rfl
    | comma => rfl
    | _ => cases hself
  · rw [List.filter_cons_of_neg hself, List.filter_nil, List.flatMap_eq_nil_iff]
    intro c hc
    cases ht : t.isQuotable with
    | true => exact punctuationOf_of_standsInNames (h.standsInNames ht c hc)
    | false =>
        rw [isPunctuation, Bool.or_eq_true, not_or, Bool.not_eq_true, beq_iff_eq] at hself
        obtain ⟨hbare, hcomma⟩ := h.plain ht hself.1 hself.2 c (mem_of_mem_bareChars hc)
        exact punctuationOf_of_isBare hbare hcomma

/-- **Parentheses and commas outside quotes are tokens**, and no other token holds one. -/
theorem punctuation_tokens (s : Text) :
    (bareChars none s).flatMap punctuationOf = (tokens s).filter Token.isPunctuation := by
  have hblank : ∀ c, isBlank c = true → punctuationOf c = [] := by
    intro c hc
    obtain ⟨hbare, hcomma⟩ := plain_of_class (s := [c]) (by decide)
      (List.forall_mem_singleton.mpr hc) c List.mem_cons_self
    exact punctuationOf_of_isBare hbare hcomma
  have htoken : ∀ t ∈ tokens s,
      (bareChars none t.text).flatMap punctuationOf = [t].filter Token.isPunctuation := by
    intro t ht
    obtain ⟨next, hfits⟩ := (tokens_fitting s).exists_fits t ht
    exact hfits.punctuation
  rw [flatMap_bareChars_tokens hblank, List.flatMap_congr htoken, ← List.filter_flatMap,
    List.flatMap_singleton']

/-- So the parentheses outside quotes are those among the tokens. -/
theorem bareParens_tokens (s : Text) :
    bareParens none s = (tokens s).filter Token.isParen := by
  have hparen : ∀ t : Token, (t.isParen && t.isPunctuation) = t.isParen := fun t => by
    rw [Token.isPunctuation]
    cases t.isParen <;> rfl
  rw [bareParens_eq_flatMap, ← funext filter_punctuationOf, ← List.filter_flatMap,
    punctuation_tokens, List.filter_filter]
  exact List.filter_congr fun t _ => hparen t

/-- What is neither a parenthesis nor a comma does not change the count. -/
lemma depthAfter_of_not_isPunctuation {t : Token} (h : t.isPunctuation = false) (depth : Nat) :
    depthAfter depth t = depth := by
  refine depthAfter_plain ?_ ?_ depth
  · rintro rfl
    cases h
  · rintro rfl
    cases h

lemma depthBehind_filter (ts : List Token) : ∀ depth : Nat,
    depthBehind depth (ts.filter Token.isPunctuation) = depthBehind depth ts := by
  induction ts with
  | nil => exact fun _ => rfl
  | cons t rest ih =>
      intro depth
      cases ht : t.isPunctuation with
      | true =>
          rw [List.filter_cons_of_pos ht]
          exact ih _
      | false =>
          rw [List.filter_cons_of_neg (Bool.eq_false_iff.mp ht), ih, depthBehind, depthBehind,
            List.foldl_cons, depthAfter_of_not_isPunctuation ht]

/-- So the parentheses and commas outside parentheses are told from parentheses and commas. -/
lemma outside_filter (ts : List Token) : ∀ depth : Nat,
    outside depth (ts.filter Token.isPunctuation) =
      (outside depth ts).filter Token.isPunctuation := by
  induction ts with
  | nil => exact fun _ => rfl
  | cons t rest ih =>
      intro depth
      cases ht : t.isPunctuation with
      | true =>
          rw [List.filter_cons_of_pos ht, outside, outside, ih]
          split_ifs
          · rw [List.filter_cons_of_pos ht]
          · rfl
      | false =>
          rw [List.filter_cons_of_neg (Bool.eq_false_iff.mp ht), ih, outside,
            depthAfter_of_not_isPunctuation ht]
          split_ifs
          · rw [List.filter_cons_of_neg (Bool.eq_false_iff.mp ht)]
          · rfl

/-! ## Matching -/

lemma closesFrom_filter (ts : List Token) :
    ∀ depth : Nat, closesFrom depth (ts.filter Token.isParen) = closesFrom depth ts := by
  induction ts with
  | nil => exact fun depth => rfl
  | cons t rest ih =>
      intro depth
      cases t with
      | leftParen => exact ih (depth + 1)
      | rightParen =>
          simp only [List.filter_cons, Token.isParen, if_true, closesFrom, depthAfter, ih]
      | _ => exact ih depth

/-- **Whether parentheses match** depends on the parentheses outside quotes only. -/
theorem balanced_tokens_iff (s : Text) :
    Balanced (tokens s) ↔ closesFrom 0 (bareParens none s) = true := by
  rw [balanced_iff, bareParens_tokens, closesFrom_filter]

/-! ## Texts that close what they open -/

/-- A text whose quotes are closed and whose parentheses match. -/
structure SelfContained (s : Text) : Prop where
  quotes : QuotesClosed s
  parens : Balanced (tokens s)

instance : DecidablePred SelfContained := fun s =>
  decidable_of_iff (QuotesClosed s ∧ Balanced (tokens s))
    ⟨fun h => ⟨h.1, h.2⟩, fun h => ⟨h.quotes, h.parens⟩⟩

/-- What stands around a text and is bare can be taken away. -/
lemma SelfContained.of_append {a s b : Text} (ha : ∀ c ∈ a, isBare c = true)
    (hb : ∀ c ∈ b, isBare c = true) (h : SelfContained (a ++ (s ++ b))) : SelfContained s := by
  have hclosed : QuotesClosed a :=
    quotesClosed_of_quoteless fun c hc => isQuote_of_isBare (ha c hc)
  have hquotes : QuotesClosed s :=
    (hclosed.append_iff.mp h.quotes).of_append fun c hc => isQuote_of_isBare (hb c hc)
  refine ⟨hquotes, ?_⟩
  have hparens := (balanced_tokens_iff _).mp h.parens
  rw [bareParens_append_of_closed hclosed, bareParens_append_of_closed hquotes,
    bareParens_of_bare ha, bareParens_of_bare hb, List.nil_append, List.append_nil] at hparens
  exact (balanced_tokens_iff s).mpr hparens

lemma SelfContained.trim {s : Text} (h : SelfContained s) : SelfContained s.trim where
  quotes := h.quotes.trim
  parens := by
    rw [tokens_trim h.quotes]
    exact h.parens

end SqlFragments
