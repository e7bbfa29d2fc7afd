import SqlFragments.Proofs.Text.Bare
import SqlFragments.Proofs.Token.Seam

/-!
# What stands outside the quotes of tokens

Outside quotes a text is made of white space and of the characters of its tokens, one token behind
the other.  The same holds for tokens that are written in a row, so a character can be looked for,
or counted, token by token.

* `standsInNames` — a character that a name may show outside its quotes.
* **`Token.Fits.standsInNames`** — literals and names show no others.
* **`flatMap_bareChars_tokens`**, **`flatMap_bareChars_render`** — the bare characters of a text
  and of a writing, told by those of the tokens.
-/

namespace SqlFragments

/-! ## Names -/

/-- A character that may stand in a name outside its quotes, or opens one. -/
def standsInNames (c : Char) : Bool :=
  continuesIdentifier c || isQuote c || c == '.' || c == '*'

lemma standsInNames_of_continues {c : Char} (h : continuesIdentifier c = true) :
    standsInNames c = true := by
  rw [standsInNames, h, Bool.true_or, Bool.true_or, Bool.true_or]

lemma standsInNames_of_isQuote {c : Char} (h : isQuote c = true) : standsInNames c = true := by
  rw [standsInNames, h, Bool.or_true, Bool.true_or, Bool.true_or]

lemma standsInNames_of_isPlainName {s : Text} (h : isPlainName s = true) :
    ∀ c ∈ bareChars none s, standsInNames c = true := fun c hc =>
  standsInNames_of_continues (continues_of_isPlainName h c (mem_of_mem_bareChars hc))

lemma SegmentFits.standsInNames {final : Prop} {s : Text} (h : SegmentFits final s) :
    ∀ c ∈ bareChars none s, standsInNames c = true := by
  have hquote : ∀ {q c : Char}, isIdentifierQuote q = true → c = q →
      SqlFragments.standsInNames c = true := by
    rintro q _ hq rfl
    exact standsInNames_of_isQuote (isQuote_of_isIdentifierQuote hq)
  rcases h with (hplain | ⟨q, hq, hrun⟩) | ⟨-, q, hq, hrun⟩
  · exact standsInNames_of_isPlainName hplain
  · exact fun c hc => hquote hq (hrun.bareChars (isQuote_of_isIdentifierQuote hq) c hc)
  · exact fun c hc => hquote hq (hrun.bareChars (isQuote_of_isIdentifierQuote hq) c hc)

lemma standsInNames_dotted {a b : Text} (hclosed : QuotesClosed a)
    (ha : ∀ c ∈ bareChars none a, standsInNames c = true)
    (hb : ∀ c ∈ bareChars none b, standsInNames c = true) :
    ∀ c ∈ bareChars none (a ++ ['.'] ++ b), standsInNames c = true := by
  have hdot : QuotesClosed ['.'] := rfl
  rw [(hclosed.append hdot).bareChars_append, hclosed.bareChars_append]
  refine List.forall_mem_append.mpr ⟨List.forall_mem_append.mpr ⟨ha, ?_⟩, hb⟩
  exact List.forall_mem_singleton.mpr rfl

lemma ChainFits.standsInNames {final : Prop} {segments : List Text}
    (h : ChainFits final segments) :
    ∀ c ∈ bareChars none (Text.join ['.'] segments), standsInNames c = true := by
  induction h with
  | last ha =>
      rw [Text.join_singleton]
      exact ha.standsInNames
  | @star a ha =>
      have hname : SegmentFits False a := Or.inl ha
      rw [Text.join_cons_cons, Text.join_singleton]
      exact standsInNames_dotted ha.quotesClosed hname.standsInNames
        (List.forall_mem_singleton.mpr rfl)
  | @cons a more ha hmore ih =>
      have hname : SegmentFits False a := Or.inl ha
      cases more with
      | nil => cases hmore
      | cons b more =>
          rw [Text.join_cons_cons]
          exact standsInNames_dotted ha.quotesClosed hname.standsInNames ih

/-- **Literals and names** show nothing else outside their quotes. -/
lemma Token.Fits.standsInNames {next : Option Token} {t : Token} (h : t.Fits next)
    (ht : t.isQuotable = true) : ∀ c ∈ bareChars none t.text, standsInNames c = true := by
  cases h with
  | literal hrun =>
      exact fun c hc => standsInNames_of_isQuote (by rw [hrun.bareChars rfl c hc]; rfl)
  | openLiteral _ hrun =>
      exact fun c hc => standsInNames_of_isQuote (by rw [hrun.bareChars rfl c hc]; rfl)
  | identifier hchain _ => exact hchain.standsInNames
  | function hne hnames _ _ _ =>
      exact (chainFits_of_names hne hnames : ChainFits False _).standsInNames
  | _ => cases ht

lemma not_bareIn_of_standsInNames {c : Char} {s : Text} (hc : standsInNames c = false)
    (hs : ∀ d ∈ bareChars none s, standsInNames d = true) : ¬ BareIn [c] s := by
  intro hbare
  rw [hs c ((mem_bareChars_iff s).mpr hbare)] at hc
  cases hc

/-! ## Tokens in a row -/

section

variable {β : Type} {f : Char → List β}

/-- **A text** shows what its tokens show, white space aside. -/
lemma flatMap_bareChars_tokens (hf : ∀ c, isBlank c = true → f c = []) (s : Text) :
    (bareChars none s).flatMap f =
      (tokens s).flatMap fun t => (bareChars none t.text).flatMap f := by
  have hspace : ∀ {b : Text}, b.isBlank = true → (bareChars none b).flatMap f = [] := fun hb =>
    List.flatMap_eq_nil_iff.mpr fun c hc =>
      hf c (List.all_eq_true.mp hb c (mem_of_mem_bareChars hc))
  induction s using scan_induction with
  | blank s hs =>
      have hblank := (tokens_eq_nil_iff s).mp (tokens_of_blank hs)
      rw [tokens_of_blank hs]
      exact hspace hblank
  | token s c rest hs ih =>
      have hblank : isBlank c = false := isBlank_of_dropWhile hs
      have hclosed : QuotesClosed (s.takeWhile isBlank) :=
        quotesClosed_of_isBlank List.all_takeWhile
      -- a token that leaves a quote open has nothing behind it
      have htoken : bareChars none (c :: rest) =
          bareChars none (readToken c rest).1.text ++ bareChars none (readToken c rest).2 := by
        conv_lhs => rw [← readToken_append c rest]
        by_cases hrest : (readToken c rest).2 = []
        · rw [hrest, List.append_nil, bareChars, List.append_nil]
        · exact (readToken_text_closed hblank hrest).bareChars_append _
      rw [tokens_of_token hs, ← List.takeWhile_append_dropWhile (p := isBlank) (l := s),
        hclosed.bareChars_append, hs, htoken, List.flatMap_append, List.flatMap_append, ih,
        hspace List.all_takeWhile, List.nil_append, List.flatMap_cons]

lemma flatMap_bareChars_renderAfter (hf : f ' ' = []) (rest : List Token) : ∀ (t : Token)
    (sign : Bool), (t :: rest).IsChain (fun t _ => QuotesClosed t.text) →
    (bareChars none (t.text ++ renderAfter t sign rest)).flatMap f =
      (t :: rest).flatMap fun t => (bareChars none t.text).flatMap f := by
  induction rest with
  | nil =>
      intro t sign _
      rw [renderAfter, List.append_nil, List.flatMap_cons, List.flatMap_nil, List.append_nil]
  | cons u rest ih =>
      intro t sign hchain
      obtain ⟨hclosed, hmore⟩ := List.isChain_cons_cons.mp hchain
      have hspace : ∀ s : Text, (bareChars none
          ((if !sign && needsSpace t u then [' '] else []) ++ s)).flatMap f
            = (bareChars none s).flatMap f := by
        intro s
        split_ifs
        · exact (List.flatMap_cons ..).trans (by rw [hf]; rfl)
        · rfl
      rw [renderAfter, List.append_assoc, hclosed.bareChars_append, List.flatMap_append, hspace,
        ih u _ hmore, List.flatMap_cons (x := t)]

/-- **A writing** shows what its tokens show, if each closes its quotes in front of another
one. -/
lemma flatMap_bareChars_render (hf : f ' ' = []) {ts : List Token}
    (hchain : ts.IsChain fun t _ => QuotesClosed t.text) :
    (bareChars none (render ts)).flatMap f =
      ts.flatMap fun t => (bareChars none t.text).flatMap f := by
  cases ts with
  | nil => rfl
  | cons t rest => exact flatMap_bareChars_renderAfter hf rest t _ hchain

end

end SqlFragments
