import SqlFragments.Proofs.Token.Reread

/-!
# Written tokens are read back

`render` sets tokens apart by a space or by a character that none of them goes on with, so each is
read back from the writing.  Operators are the exception: two of them may be written without a
space and read as one.  So a list of tokens is read back but for operators and other marks, which
never swallow anything else.

* `Token.reread` — what a token is read back as: a column named like a keyword becomes the
  keyword.
* `Token.isMark`, `words` — operators and other marks, and the tokens without them.
* **`Token.Fits.readsAs`** — one token is read back from a writing.
* **`words_tokens_append`** — operator characters add no word, whichever operators they become.
* **`words_tokens_render`** — all tokens but marks are read back, in their order.
-/

namespace SqlFragments

/-- What a token is read back as: a lone plain segment that is a word of the keyword set becomes
the keyword. -/
def Token.reread : Token → Token
  | identifier segments =>
    if isLoneKeyword segments then keyword (Text.join ['.'] segments) else identifier segments
  | t => t

/-! ## What stands behind a written token -/

/-- Whether a token is an operator or a mark of its own. -/
def Token.isMark : Token → Bool
  | operator _ | other _ => true
  | _ => false

/-- The tokens that are no marks. -/
def words (ts : List Token) : List Token :=
  ts.filter (!·.isMark)

lemma words_cons_of_mark {t : Token} (h : t.isMark = true) (ts : List Token) :
    words (t :: ts) = words ts := by
  rw [words, List.filter_cons_of_neg (by rw [h]; decide), words]

lemma words_cons_of_not_mark {t : Token} (h : t.isMark = false) (ts : List Token) :
    words (t :: ts) = t :: words ts := by
  rw [words, List.filter_cons_of_pos (by rw [h]; decide), words]

lemma needsSpace_eq_false {t u : Token} (h : needsSpace t u = false) :
    u = .rightParen ∨ u = .comma ∨ t = .leftParen ∨ (∃ name, t = .function name ∧ u = .leftParen) ∨
      t.isCast = true ∨ u.isCast = true := by
  unfold needsSpace at h
  split at h
  · exact Or.inl rfl
  · exact Or.inr (Or.inl rfl)
  · exact Or.inr (Or.inr (Or.inl rfl))
  · exact Or.inr (Or.inr (Or.inr (Or.inl ⟨_, rfl, rfl⟩)))
  · refine Or.inr (Or.inr (Or.inr (Or.inr ?_)))
    cases ht : t.isCast with
    | true => exact Or.inl rfl
    | false =>
        rw [ht, Bool.not_false, Bool.true_and, Bool.not_eq_false'] at h
        exact Or.inr h

lemma eq_of_isCast {u : Token} (h : u.isCast = true) : u = .operator [':', ':'] := by
  cases u with
  | operator op => rw [eq_of_beq (show (op == [':', ':']) = true from h)]
  | _ => cases h

/-- **Behind a token stands something that no token goes on with**, unless that token asks for
what follows; behind a function name stands its parenthesis. -/
lemma head_renderAfter {t : Token} (hparen : t ≠ .leftParen) (hcast : t.isCast = false)
    (rest : List Token) : ∀ c, (renderAfter t false rest).head? = some c →
      c ∈ [' ', ')', ',', ':'] ∨ c = '(' ∧ ∃ name, t = .function name := by
  cases rest with
  | nil =>
      intro c hc
      cases hc
  | cons u more =>
      rw [renderAfter, Bool.not_false, Bool.true_and]
      cases hspace : needsSpace t u with
      | true =>
          rintro c ⟨⟩
          exact Or.inl (by decide)
      | false =>
          rcases needsSpace_eq_false hspace with rfl | rfl | ht | ⟨name, ht, rfl⟩ | ht | hu
          · rintro c ⟨⟩
            exact Or.inl (by decide)
          · rintro c ⟨⟩
            exact Or.inl (by decide)
          · exact absurd ht hparen
          · rintro c ⟨⟩
            exact Or.inr ⟨rfl, name, ht⟩
          · rw [hcast] at ht
            cases ht
          · rw [eq_of_isCast hu]
            rintro c ⟨⟩
            exact Or.inl (by decide)

lemma stops_renderAfter {t : Token} (hparen : t ≠ .leftParen) (hname : ∀ name, t ≠ .function name)
    (hcast : t.isCast = false) (rest : List Token) : Stops (renderAfter t false rest) := by
  intro c hc
  rcases head_renderAfter hparen hcast rest c hc with hmem | ⟨_, name, ht⟩
  · exact hmem
  · exact absurd ht (hname name)

lemma ChainFits.text_head {final : Prop} {segments : List Text} (h : ChainFits final segments) :
    ∃ c more, Text.join ['.'] segments = c :: more ∧ startsSegment c = true := by
  cases segments with
  | nil => cases h
  | cons first more =>
      have hfirst := h.head
      cases first with
      | nil => cases hfirst
      | cons c t => exact ⟨c, t ++ dotted more, join_eq_dotted _ _, hfirst⟩

lemma chainFits_of_names {final : Prop} : ∀ {segments : List Text}, segments ≠ [] →
    (∀ a ∈ segments, IsName a) → ChainFits final segments
  | [], hne, _ => absurd rfl hne
  | [_], _, h => ChainFits.last (Or.inl (h _ List.mem_cons_self))
  | _ :: _ :: _, _, h => ChainFits.cons (h _ List.mem_cons_self)
      (chainFits_of_names (List.cons_ne_nil _ _) fun b hb => h b (List.mem_cons_of_mem _ hb))

lemma chainFits_of_isKeyword {final : Prop} {w : Text} (h : isKeyword w = true) :
    ChainFits final [w] :=
  ChainFits.last (Or.inl (Or.inl (isPlainName_of_isKeyword h)))

/-- A keyword alone is one token. -/
lemma tokens_of_isKeyword {w : Text} (h : isKeyword w = true) : tokens w = [.keyword w] := by
  have hreads := (chainFits_of_isKeyword h : ChainFits True [w]).readsAs
    (show Closes [] from rfl) rfl fun _ => rfl
  have hquoted := isQuotedSegment_of_isPlainName (isPlainName_of_isKeyword h)
  rw [List.append_nil, Text.join_singleton, chainToken, hquoted, h, if_neg Bool.false_ne_true,
    if_pos rfl] at hreads
  rw [tokens_of_readsAs hreads, tokens_of_blank rfl]

/-- A token starts with no white space, and with a parenthesis only where it is one. -/
def Token.Shows (t : Token) : Prop :=
  ∃ c more, t.text = c :: more ∧ isBlank c = false ∧ (c = '(' → t = .leftParen)

lemma Token.Fits.shows {next : Option Token} {t : Token} (h : t.Fits next) : t.Shows := by
  have hsegment : ∀ {final : Prop} {segments : List Text}, ChainFits final segments →
      ∃ c more, Text.join ['.'] segments = c :: more ∧ isBlank c = false ∧ c ≠ '(' := by
    intro final segments hchain
    obtain ⟨c, more, htext, hc⟩ := hchain.text_head
    exact ⟨c, more, htext, isBlank_of_startsSegment hc, startsSegment_ne hc (by decide)⟩
  have hmark : ∀ {c : Char}, SqlFragments.isMark c = true → isBlank c = false ∧ c ≠ '(' := by
    intro c hc
    obtain ⟨hblank, _, _, _, _, hparen, _, _⟩ := isMark_iff.mp hc
    exact ⟨hblank, hparen⟩
  cases h with
  | literal hclosed =>
      obtain ⟨inner, rfl, _⟩ := hclosed
      exact ⟨'\'', _, rfl, by decide, fun h => absurd h (by decide)⟩
  | openLiteral _ hopen =>
      obtain ⟨inner, rfl, _⟩ := hopen
      exact ⟨'\'', _, rfl, by decide, fun h => absurd h (by decide)⟩
  | identifier hchain _ =>
      obtain ⟨c, more, htext, hblank, hparen⟩ := hsegment hchain
      exact ⟨c, more, htext, hblank, fun h => absurd h hparen⟩
  | function hne hnames _ _ _ =>
      obtain ⟨c, more, htext, hblank, hparen⟩ :=
        hsegment (chainFits_of_names hne hnames : ChainFits True _)
      exact ⟨c, more, htext, hblank, fun h => absurd h hparen⟩
  | @keyword w hw =>
      obtain ⟨c, more, htext, hblank, hparen⟩ :=
        hsegment (chainFits_of_isKeyword hw : ChainFits True _)
      rw [Text.join_singleton] at htext
      exact ⟨c, more, htext, hblank, fun h => absurd h hparen⟩
  | number ht =>
      obtain ⟨c, mantissa, exponent, rfl, hfirst, _⟩ := ht
      have hc := isDigit_or_dot hfirst
      refine ⟨c, _, rfl, (not_startsSegment_of_digit hc).1, ?_⟩
      rintro rfl
      exact absurd hc (by decide)
  | parameter ht =>
      obtain ⟨c, digits, rfl, hfirst, _⟩ := ht
      rcases eq_question_or_dollar hfirst with rfl | rfl <;>
        exact ⟨_, _, rfl, by decide, fun h => absurd h (by decide)⟩
  | leftParen => exact ⟨'(', [], rfl, by decide, fun _ => rfl⟩
  | rightParen => exact ⟨')', [], rfl, by decide, fun h => absurd h (by decide)⟩
  | comma => exact ⟨',', [], rfl, by decide, fun h => absurd h (by decide)⟩
  | @operator op hne hop =>
      cases op with
      | nil => exact absurd rfl hne
      | cons c more =>
          have hc := hop c List.mem_cons_self
          rw [isOperatorChar, Bool.and_eq_true, Bool.and_eq_true] at hc
          obtain ⟨hblank, hparen⟩ := hmark hc.1.1
          exact ⟨c, more, rfl, hblank, fun h => absurd h hparen⟩
  | other hc =>
      obtain ⟨hblank, hparen⟩ := hmark hc
      exact ⟨_, [], rfl, hblank, fun h => absurd h hparen⟩

/-- A parenthesis comes next, white space aside, when it is the next token. -/
lemma opensCall_renderAfter {rest : List Token} (h : ∀ u, rest.head? = some u → u.Shows)
    (t : Token) (sign : Bool) :
    opensCall (renderAfter t sign rest) = true → rest.head? = some .leftParen := by
  cases rest with
  | nil =>
      intro hcall
      cases hcall
  | cons u more =>
      obtain ⟨c, tail, htext, hblank, hparen⟩ := h u rfl
      have hskip : ∀ sp : Text, (∀ b ∈ sp, isBlank b = true) →
          opensCall (sp ++ u.text ++ renderAfter u (isSign (some t) u) more) = (c == '(') := by
        intro sp hsp
        have hhead : (u.text ++ renderAfter u (isSign (some t) u) more).head?.any isBlank
            = false := by
          rw [htext]
          exact hblank
        rw [opensCall, List.append_assoc, (takeWhile_append_of_head hsp hhead).2, htext]
        rfl
      intro hcall
      have hsp : ∀ b ∈ (if !sign && needsSpace t u then [' '] else ([] : Text)),
          isBlank b = true := by
        split_ifs
        · intro b hb
          rw [List.mem_singleton.mp hb]
          decide
        · intro b hb
          cases hb
      rw [renderAfter, hskip _ hsp] at hcall
      rw [List.head?_cons, hparen (eq_of_beq hcall)]

/-! ## Words are read back -/

lemma Fitting.head_shows {rest : List Token} (h : Fitting rest) :
    ∀ u, rest.head? = some u → u.Shows := by
  cases rest with
  | nil => exact fun u hu => by cases hu
  | cons u more =>
      rintro _ ⟨⟩
      exact h.1.shows

/-- **One token is read back** from a writing, if it is no mark. -/
lemma Token.Fits.readsAs {t : Token} {rest : List Token} (h : t.Fits rest.head?)
    (hrest : ∀ u, rest.head? = some u → u.Shows) (hmark : t.isMark = false)
    (previous : Option Token) :
    ReadsAs (t.text ++ renderAfter t (isSign previous t) rest) t.reread
      (renderAfter t (isSign previous t) rest) := by
  have hstops : t ≠ .leftParen → (∀ name, t ≠ .function name) → t.isCast = false →
      Stops (renderAfter t false rest) := fun h1 h2 h3 => stops_renderAfter h1 h2 h3 rest
  have hnil : rest.head? = none → renderAfter t false rest = [] := by
    intro hnone
    cases rest with
    | nil => rfl
    | cons u more => cases hnone
  have hcall := opensCall_renderAfter hrest t false
  cases h with
  | literal hclosed =>
      exact literal_readsAs (Or.inl hclosed) (hstops (by simp) (by simp) rfl).closes
  | openLiteral hnone hopen =>
      exact literal_readsAs (Or.inr ⟨hopen, hnil hnone⟩) (hstops (by simp) (by simp) rfl).closes
  | @identifier segments hchain hplain =>
      have hstop := hstops (by simp) (by simp) rfl
      have hdot : opensSegment (renderAfter (.identifier segments) false rest) = false := by
        rw [opensSegment, hstop.head_any (by decide), Bool.false_and]
      have hreads := hchain.readsAs hstop.closes hdot hnil
      have hnocall : (endsPlain segments && opensCall (renderAfter (.identifier segments) false
          rest)) = false := by
        rw [← Bool.not_eq_true, Bool.and_eq_true]
        rintro ⟨hends, hopens⟩
        rw [hplain (hcall hopens)] at hends
        cases hends
      rw [chainToken_eq hchain.ne_star, hnocall, if_neg Bool.false_ne_true] at hreads
      exact hreads
  | @function segments hne hnames hplain hlone hnext =>
      cases rest with
      | nil => cases hnext
      | cons u more =>
          obtain rfl : u = .leftParen := Option.some.inj hnext
          have hchain : ChainFits False segments := chainFits_of_names hne hnames
          have hclose : Closes (renderAfter (.function (Text.join ['.'] segments)) false
              (.leftParen :: more)) := rfl
          have hreads := hchain.readsAs hclose rfl False.elim
          have hopens : opensCall (renderAfter (.function (Text.join ['.'] segments)) false
              (.leftParen :: more)) = true := rfl
          rw [chainToken_eq hchain.ne_star, hlone, if_neg Bool.false_ne_true, hplain, hopens,
            Bool.and_true, if_pos rfl] at hreads
          exact hreads
  | @keyword w hw =>
      have hstop := hstops (by simp) (by simp) rfl
      have hdot : opensSegment (renderAfter (.keyword w) false rest) = false := by
        rw [opensSegment, hstop.head_any (by decide), Bool.false_and]
      have hchain : ChainFits False [w] := chainFits_of_isKeyword hw
      have hreads := hchain.readsAs hstop.closes hdot False.elim
      have hlone : isLoneKeyword [w] = true := by
        rw [isLoneKeyword, isQuotedSegment_of_isPlainName (isPlainName_of_isKeyword hw), hw]
        rfl
      rw [chainToken_eq hchain.ne_star, hlone, if_pos rfl, Text.join_singleton] at hreads
      exact hreads
  | number ht => exact number_readsAs ht (hstops (by simp) (by simp) rfl)
  | parameter ht => exact parameter_readsAs ht (hstops (by simp) (by simp) rfl)
  | leftParen => exact ⟨'(', _, rfl, by decide, rfl⟩
  | rightParen => exact ⟨')', _, rfl, by decide, rfl⟩
  | comma => exact ⟨',', _, rfl, by decide, rfl⟩
  | operator _ _ => cases hmark
  | other _ => cases hmark

/-! ## Marks leave words alone -/

lemma readToken_mark {c : Char} {rest : Text} (hc : isMark c = true)
    (hdigit : c = '.' ∨ c = '$' → startsWithDigit rest = false) :
    readToken c rest = readPunctuation c rest := by
  obtain ⟨_, hsegment, hliteral, hnodigit, hquestion, _, _, _⟩ := isMark_iff.mp hc
  have hnumber : (c.isDigit || c == '.' && startsWithDigit rest) = false := by
    rw [hnodigit, Bool.false_or, ← Bool.not_eq_true, Bool.and_eq_true, beq_iff_eq]
    rintro ⟨hdot, hstarts⟩
    rw [hdigit (Or.inl hdot)] at hstarts
    cases hstarts
  have hparameter : (c == '?' || c == '$' && startsWithDigit rest) = false := by
    rw [beq_eq_false_iff_ne.mpr hquestion, Bool.false_or, ← Bool.not_eq_true, Bool.and_eq_true,
      beq_iff_eq]
    rintro ⟨hdollar, hstarts⟩
    rw [hdigit (Or.inr hdollar)] at hstarts
    cases hstarts
  exact readToken_punctuation hliteral hsegment hnumber hparameter

/-- A mark is read as a mark of its own, or as an operator that takes operator characters only. -/
lemma readPunctuation_mark {c : Char} (hc : isMark c = true) (rest : Text) :
    (readPunctuation c rest).1.isMark = true ∧
      ∃ taken, rest = taken ++ (readPunctuation c rest).2 ∧
        ∀ x ∈ taken, isOperatorChar x = true := by
  obtain ⟨_, _, _, _, _, h1, h2, h3⟩ := isMark_iff.mp hc
  rcases readPunctuation_cases c rest with
    ⟨hparen, _⟩ | ⟨hparen, _⟩ | ⟨hcomma, _⟩ | ⟨_, ⟨op, more, hmem, hop, h⟩ | ⟨_, h⟩ | h⟩
  · exact absurd hparen h1
  · exact absurd hparen h2
  · exact absurd hcomma h3
  · rw [h]
    cases op with
    | nil => exact absurd (length_pos_of_longOperator hmem) (Nat.lt_irrefl 0)
    | cons d taken =>
        exact ⟨rfl, taken, (List.cons.inj hop).2.symm, fun x hx =>
          isOperatorChar_of_longOperator hmem x (List.mem_cons_of_mem _ hx)⟩
  · rw [h]
    exact ⟨rfl, [], rfl, fun x hx => absurd hx List.not_mem_nil⟩
  · rw [h]
    exact ⟨rfl, [], rfl, fun x hx => absurd hx List.not_mem_nil⟩

/-- Behind a mark the words are those of what its operator leaves. -/
lemma words_tokens_cons {c : Char} {rest : Text} (hc : isMark c = true)
    (hdigit : c = '.' ∨ c = '$' → startsWithDigit rest = false) :
    ∃ taken left, rest = taken ++ left ∧ (∀ x ∈ taken, isOperatorChar x = true) ∧
      words (tokens (c :: rest)) = words (tokens left) := by
  obtain ⟨hmark, taken, hrest, htaken⟩ := readPunctuation_mark hc rest
  have hreads : ReadsAs (c :: rest) (readPunctuation c rest).1 (readPunctuation c rest).2 :=
    ⟨c, rest, rfl, (isMark_iff.mp hc).1, readToken_mark hc hdigit⟩
  refine ⟨taken, _, hrest, htaken, ?_⟩
  rw [tokens_of_readsAs hreads, words_cons_of_mark hmark]

/-- **Operator characters add no word**, whichever operators they are read into. -/
lemma words_tokens_append (n : Nat) : ∀ {ms more : Text}, (ms ++ more).length = n →
    (∀ x ∈ ms, isOperatorChar x = true) → words (tokens (ms ++ more)) = words (tokens more) := by
  induction n using Nat.strongRecOn with
  | _ n ih =>
      intro ms more hn hms
      cases ms with
      | nil => rfl
      | cons c ms =>
          have hc := hms c List.mem_cons_self
          rw [isOperatorChar, Bool.and_eq_true, Bool.and_eq_true, bne_iff_ne, bne_iff_ne] at hc
          obtain ⟨⟨hmark, hdot⟩, hdollar⟩ := hc
          have hdigit : c = '.' ∨ c = '$' → startsWithDigit (ms ++ more) = false := fun h =>
            absurd h (not_or.mpr ⟨hdot, hdollar⟩)
          obtain ⟨taken, left, hleft, htaken, hwords⟩ := words_tokens_cons hmark hdigit
          have hlt : (ms ++ more).length < n := by
            rw [← hn, List.cons_append, List.length_cons]
            exact Nat.lt_succ_self _
          -- the first operator may take characters from `more` as well, so the hypothesis is
          -- used twice: for the rest of `ms`, and for what that operator takes
          have hsame := ih _ hlt rfl fun x hx => hms x (List.mem_cons_of_mem _ hx)
          have htook := ih (taken ++ left).length (by rw [← hleft]; exact hlt) rfl htaken
          rw [List.cons_append, hwords, ← htook, ← hleft, hsame]

lemma Token.Fits.words_tokens_mark {t : Token} {rest : List Token} (h : t.Fits rest.head?)
    (hmark : t.isMark = true) (previous : Option Token) :
    words (tokens (t.text ++ renderAfter t (isSign previous t) rest))
      = words (tokens (renderAfter t (isSign previous t) rest)) := by
  cases h with
  | operator _ hop => exact words_tokens_append _ rfl hop
  | @other c hc =>
      have hstop : Stops (renderAfter (.other c) false rest) :=
        stops_renderAfter (by simp) (by simp) rfl rest
      obtain ⟨taken, left, hleft, htaken, hwords⟩ :=
        words_tokens_cons hc fun _ => hstop.head_any (p := Char.isDigit) (by decide)
      refine hwords.trans ?_
      rw [← words_tokens_append _ rfl htaken, ← hleft]
      rfl
  | _ => cases hmark

/-! ## Whole writings -/

lemma tokens_cons_blank {b : Char} (hb : isBlank b = true) (s : Text) :
    tokens (b :: s) = tokens s :=
  tokens_append_of_isBlank (List.all_eq_true.mpr (List.forall_mem_singleton.mpr hb)) s

/-- The space in front of a token is passed over. -/
lemma tokens_renderAfter_cons (t : Token) (sign : Bool) (u : Token) (rest : List Token) :
    tokens (renderAfter t sign (u :: rest))
      = tokens (u.text ++ renderAfter u (isSign (some t) u) rest) := by
  rw [renderAfter, List.append_assoc]
  split_ifs
  · exact tokens_cons_blank (by decide) _
  · rfl

/-- One token of a writing, and what stands behind it. -/
lemma words_tokens_text {t : Token} {rest : List Token} (h : Fitting (t :: rest))
    (previous : Option Token) :
    words (tokens (t.text ++ renderAfter t (isSign previous t) rest)) =
      (words [t]).map Token.reread ++
        words (tokens (renderAfter t (isSign previous t) rest)) := by
  obtain ⟨hfit, hrest⟩ := h
  cases hmark : t.isMark with
  | true =>
      rw [words_cons_of_mark hmark]
      exact hfit.words_tokens_mark hmark previous
  | false =>
      have hreread : t.reread.isMark = false := by
        cases t with
        | identifier segments =>
            rw [Token.reread]
            split_ifs <;> rfl
        | _ => exact hmark
      rw [tokens_of_readsAs (hfit.readsAs hrest.head_shows hmark previous),
        words_cons_of_not_mark hreread, words_cons_of_not_mark hmark]
      rfl

lemma words_append (a b : List Token) : words (a ++ b) = words a ++ words b :=
  List.filter_append a b

lemma words_tokens_renderAfter : ∀ (ts : List Token) (t : Token) (sign : Bool), Fitting ts →
    words (tokens (renderAfter t sign ts)) = (words ts).map Token.reread
  | [], _, _, _ => by
      rw [renderAfter, tokens_of_blank rfl]
      rfl
  | u :: rest, t, sign, h => by
      rw [tokens_renderAfter_cons, words_tokens_text h, words_tokens_renderAfter rest u _ h.2,
        ← List.map_append, ← words_append]
      rfl

/-- **Every token but marks is read back** from the writing of tokens that fit, in their order. -/
lemma words_tokens_render {ts : List Token} (h : Fitting ts) :
    words (tokens (render ts)) = (words ts).map Token.reread := by
  cases ts with
  | nil =>
      rw [render, tokens_of_blank rfl]
      rfl
  | cons t rest =>
      rw [render, words_tokens_text h, words_tokens_renderAfter rest t _ h.2, ← List.map_append,
        ← words_append]
      rfl

end SqlFragments