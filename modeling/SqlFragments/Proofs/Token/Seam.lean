import SqlFragments.Proofs.Text.Closed
import SqlFragments.Proofs.Token.RoundTrip

/-!
# Tokens at a seam

Fragments are written one behind the other with white space or a comma between them.  Nothing that
is read of the first one goes on past such a seam, as long as its quotes are closed: no identifier,
number or operator is continued by white space or a comma.  The one look that is taken past the
seam is for the parenthesis that makes a name a function.

* `Separates` — a text that starts with white space or a comma, or is empty.
* `StopsBefore` — a reading function gives the same piece with more text behind.
* `EndsClosed` — it does not stop for want of a quote.
* `readSegment_stopsBefore`, `readChain_stopsBefore`, … — the functions, one after the other.
* **`scan_append_separates`**, **`tokens_append`** — the scan of two fragments is that of the first
  and that of the second, and so are the tokens.
* `IsSeparator.tokens_join` — the tokens of fragments with a separator between them.
* `tokens_trim` — white space around a fragment has no tokens.
-/

namespace SqlFragments

/-- A text that starts with white space or a comma, or is empty. -/
def Separates (m : Text) : Prop :=
  ∀ c, m.head? = some c → isBlank c = true ∨ c = ','

/-- A reading function gives the same piece when `m` stands behind the text. -/
def StopsBefore {α : Type} (m : Text) (read : Text → α × Text) (s : Text) : Prop :=
  read (s ++ m) = ((read s).1, (read s).2 ++ m)

/-- A name that a parenthesis behind it makes a function. -/
def Token.isCallable : Token → Bool
  | identifier segments => endsPlain segments
  | _ => false

/-- Whether a text ends in such a name. -/
def endsCallable (s : Text) : Bool :=
  (tokens s).getLast?.any Token.isCallable

/-- The characters that separate. -/
def separators : Text :=
  ',' :: blankCodes.map Char.ofNat

variable {m : Text}

/-! ## Scans in a row -/

/-- A scan behind another one; the white space behind the first goes to what follows it. -/
def Scan.append (a b : Scan) : Scan :=
  match b.lexemes with
  | [] => ⟨a.lexemes, a.trailing ++ b.trailing⟩
  | l :: rest => ⟨a.lexemes ++ { l with blank := a.trailing ++ l.blank } :: rest, b.trailing⟩

lemma Scan.cons_append (l : Lexeme) (a b : Scan) :
    (⟨l :: a.lexemes, a.trailing⟩ : Scan).append b =
      ⟨l :: (a.append b).lexemes, (a.append b).trailing⟩ := by
  unfold Scan.append
  split <;> rfl

lemma Scan.map_token_append (a b : Scan) : (a.append b).lexemes.map Lexeme.token =
    a.lexemes.map Lexeme.token ++ b.lexemes.map Lexeme.token := by
  unfold Scan.append
  split
  · rename_i h
    simp [h]
  · rename_i h
    simp [h]

lemma takeWhile_append_of_cons {s : Text} {c : Char} {rest : Text}
    (h : s.dropWhile isBlank = c :: rest) : (s ++ m).takeWhile isBlank = s.takeWhile isBlank := by
  induction s with
  | nil => cases h
  | cons d more ih =>
      rw [List.dropWhile_cons] at h
      rw [List.cons_append, List.takeWhile_cons, List.takeWhile_cons]
      split_ifs at h ⊢ with hd
      · rw [ih h]
      · rfl

/-- White space in front of a text goes to its first lexeme. -/
lemma scan_append_of_isBlank {s : Text} (hs : s.isBlank = true) :
    scan (s ++ m) = (⟨[], s⟩ : Scan).append (scan m) := by
  have hdrop := dropWhile_append_of_isBlank hs m
  cases h : m.dropWhile isBlank with
  | nil => rw [scan_of_blank h, scan_of_blank (hdrop.trans h), Scan.append]
  | cons c rest =>
      rw [scan_of_token h, scan_of_token (hdrop.trans h),
        List.takeWhile_append_of_pos (List.all_eq_true.mp hs)]
      rfl

/-! ## A parenthesis ahead -/

lemma exists_of_not_isBlank {s : Text} (h : s.isBlank = false) :
    ∃ c rest, s.dropWhile isBlank = c :: rest := by
  refine List.exists_cons_of_ne_nil fun hnil => ?_
  rw [Text.isBlank, List.all_eq_true.mpr (List.dropWhile_eq_nil_iff.mp hnil)] at h
  cases h

lemma dropWhile_append_of_cons {s : Text} {c : Char} {rest : Text}
    (h : s.dropWhile isBlank = c :: rest) : (s ++ m).dropWhile isBlank = c :: (rest ++ m) := by
  rw [List.dropWhile_append, h]
  rfl

lemma opensCall_of_isBlank {s : Text} (h : s.isBlank = true) : opensCall s = false := by
  rw [opensCall, dropWhile_of_isBlank h]
  rfl

lemma opensCall_append_of_isBlank {s : Text} (h : s.isBlank = true) :
    opensCall (s ++ m) = opensCall m := by
  rw [opensCall, dropWhile_append_of_isBlank h m, opensCall]

lemma opensCall_append_of_not_isBlank {s : Text} (h : s.isBlank = false) :
    opensCall (s ++ m) = opensCall s := by
  obtain ⟨c, rest, hc⟩ := exists_of_not_isBlank h
  rw [opensCall, opensCall, hc, dropWhile_append_of_cons hc, List.head?_cons, List.head?_cons]

lemma opensCall_append_of_not_call (hm : opensCall m = false) (s : Text) :
    opensCall (s ++ m) = opensCall s := by
  cases hs : s.isBlank with
  | true => rw [opensCall_append_of_isBlank hs, hm, opensCall_of_isBlank hs]
  | false => exact opensCall_append_of_not_isBlank hs

/-! ## What is left of a closed text -/

lemma IsName.quotesClosed {a : Text} (h : IsName a) : QuotesClosed a := by
  rcases h with hplain | ⟨q, hq, hrun⟩
  · exact quotesClosed_of_isPlainName hplain
  · exact hrun.quotesClosed (isQuote_of_isIdentifierQuote hq)

lemma ChainFits.quotesClosed {final : Prop} {segments : List Text} (h : ChainFits final segments)
    (hfinal : ¬ final) : ∀ a ∈ segments, QuotesClosed a := by
  induction h with
  | last ha =>
      have hname : IsName _ := ha.resolve_right fun hopen => hfinal hopen.1
      exact List.forall_mem_singleton.mpr hname.quotesClosed
  | star ha =>
      exact List.forall_mem_cons.mpr ⟨ha.quotesClosed, List.forall_mem_singleton.mpr rfl⟩
  | cons ha _ ih => exact List.forall_mem_cons.mpr ⟨ha.quotesClosed, ih⟩

/-- A token that can hold a quoted run. -/
def Token.isQuotable : Token → Bool
  | literal _ | identifier _ | function _ => true
  | _ => false

def Token.isParen : Token → Bool
  | leftParen | rightParen => true
  | _ => false

/-- A character that is neither a quote nor a parenthesis. -/
def isBare (c : Char) : Bool :=
  !isQuote c && c != '(' && c != ')'

lemma isQuote_of_isBare {c : Char} (h : isBare c = true) : isQuote c = false := by
  rw [isBare, Bool.and_eq_true, Bool.and_eq_true, Bool.not_eq_true'] at h
  exact h.1.1

lemma bare_of_class {p : Char → Bool} {s : Text}
    (hp : ['\'', '"', '\x60', '(', ')'].all (!p ·) = true) (h : ∀ c ∈ s, p c = true) :
    ∀ c ∈ s, isBare c = true := by
  intro c hc
  have hne : ∀ d ∈ ['\'', '"', '\x60', '(', ')'], c ≠ d := by
    rintro d hd rfl
    have hnot := List.all_eq_true.mp hp c hd
    rw [h c hc] at hnot
    cases hnot
  simp only [List.forall_mem_cons] at hne
  simp [isBare, isQuote, hne]

/-- The same for a class without commas. -/
lemma plain_of_class {p : Char → Bool} {s : Text}
    (hp : ['\'', '"', '\x60', '(', ')', ','].all (!p ·) = true) (h : ∀ c ∈ s, p c = true) :
    ∀ c ∈ s, isBare c = true ∧ c ≠ ',' := by
  have hnot := List.all_eq_true.mp hp
  refine fun c hc => ⟨bare_of_class (List.all_eq_true.mpr fun d hd => hnot d ?_) h c hc, ?_⟩
  · exact List.mem_append_left [','] hd
  · rintro rfl
    have hcomma := hnot ',' (by decide)
    rw [h _ hc] at hcomma
    cases hcomma

/-- **Other tokens** hold neither quotes nor parentheses, nor commas. -/
lemma Token.Fits.plain {next : Option Token} {t : Token} (h : t.Fits next)
    (ht : t.isQuotable = false) (hparen : t.isParen = false) (hcomma : t ≠ .comma) :
    ∀ c ∈ t.text, isBare c = true ∧ c ≠ ',' := by
  cases h with
  | literal _ => cases ht
  | openLiteral _ _ => cases ht
  | identifier _ _ => cases ht
  | function _ _ _ _ _ => cases ht
  | keyword hw =>
      exact plain_of_class (by decide) (continues_of_isPlainName (isPlainName_of_isKeyword hw))
  | number hnumber =>
      refine plain_of_class (p := fun d => d.isDigit || ['.', 'e', 'E', '+', '-'].contains d)
        (by decide) fun d hd => ?_
      rw [Bool.or_eq_true, List.contains_iff_mem]
      exact hnumber.mem hd
  | parameter hparameter =>
      obtain ⟨c, digits, rfl, hc, hdigits⟩ := hparameter
      refine plain_of_class (p := fun d => d.isDigit || d == '?' || d == '$') (by decide)
        (List.forall_mem_cons.mpr ⟨?_, fun d hd => ?_⟩)
      · rcases eq_question_or_dollar hc with rfl | rfl <;> rfl
      · rw [hdigits d hd]
        rfl
  | leftParen => cases hparen
  | rightParen => cases hparen
  | comma => exact absurd rfl hcomma
  | operator _ hop => exact plain_of_class (by decide) hop
  | other hc =>
      exact plain_of_class (p := SqlFragments.isMark) (by decide)
        (List.forall_mem_singleton.mpr hc)

lemma Token.Fits.bare {next : Option Token} {t : Token} (h : t.Fits next)
    (ht : t.isQuotable = false) (hparen : t.isParen = false) : ∀ c ∈ t.text, isBare c = true := by
  by_cases hcomma : t = .comma
  · rw [hcomma]
    exact List.forall_mem_singleton.mpr rfl
  · exact fun c hc => (h.plain ht hparen hcomma c hc).1

lemma Token.Fits.quoteless {next : Option Token} {t : Token} (h : t.Fits next)
    (ht : t.isQuotable = false) : ∀ c ∈ t.text, isQuote c = false := by
  cases hparen : t.isParen with
  | true =>
      cases t with
      | leftParen => exact List.forall_mem_singleton.mpr rfl
      | rightParen => exact List.forall_mem_singleton.mpr rfl
      | _ => cases hparen
  | false =>
      exact fun c hc => isQuote_of_isBare (h.bare ht hparen c hc)

/-- **Only the last token of a text leaves a quote open.** -/
lemma Token.Fits.quotesClosed {next : Option Token} {t : Token} (h : t.Fits next)
    (hnext : next ≠ none) : QuotesClosed t.text := by
  have hdots : QuotesClosed ['.'] := rfl
  cases ht : t.isQuotable with
  | false => exact quotesClosed_of_quoteless (h.quoteless ht)
  | true =>
      cases h with
      | literal hrun => exact hrun.quotesClosed rfl
      | openLiteral hnone _ => exact absurd hnone hnext
      | identifier hchain _ => exact hdots.join (hchain.quotesClosed hnext)
      | function _ hnames _ _ _ => exact hdots.join fun a ha => (hnames a ha).quotesClosed
      | _ => cases ht

/-- What is read fits in front of something, and in front of some token unless the text ends. -/
lemma exists_readToken_fits {c : Char} {rest : Text} (hblank : isBlank c = false) :
    ∃ next, (readToken c rest).1.Fits next ∧ ((readToken c rest).2 ≠ [] → next ≠ none) := by
  by_cases hrest : (readToken c rest).2 = []
  · refine ⟨none, readToken_fits hblank (fun _ => rfl) ?_, fun h => absurd hrest h⟩
    rw [hrest]
    exact iff_of_false (by simp) (by decide)
  -- what stands behind the token does not matter, as long as there is something
  cases hcall : opensCall (readToken c rest).2 with
  | true =>
      exact ⟨some .leftParen, readToken_fits hblank (fun h => absurd h hrest)
        (iff_of_true rfl hcall), fun _ => Option.some_ne_none _⟩
  | false =>
      refine ⟨some .comma, readToken_fits hblank (fun h => absurd h hrest) ?_,
        fun _ => Option.some_ne_none _⟩
      rw [hcall]
      exact iff_of_false (by decide) Bool.false_ne_true

/-- A reading function does not stop for want of a quote: all quotes of the text are closed, or the
function stops in front of something. -/
def EndsClosed {α : Type} (read : Text → α × Text) (s : Text) : Prop :=
  QuotesClosed s ∨ (read s).2 ≠ []

lemma quotesClosed_readSegment {s : Text} (hs : s.head?.any startsSegment = true)
    (hclosed : QuotesClosed s) : QuotesClosed (readSegment s).2 :=
  quotesClosed_rest (readSegment_append s) hclosed fun hrest =>
    (readSegment_isName hs hrest).quotesClosed

/-- If the chain behind a segment does not stop for want of a quote, the segment does not. -/
lemma endsClosed_readChain_of_segment {s : Text} (hs : s.head?.any startsSegment = true)
    (h : QuotesClosed s ∨ (readChain (readSegment s).2).2 ≠ []) :
    EndsClosed readSegment s ∧ EndsClosed readChain (readSegment s).2 := by
  refine ⟨h.imp_right fun hrest hnil => hrest ?_, h.imp_left (quotesClosed_readSegment hs)⟩
  rw [hnil, readChain_stop rfl]

/-- A token in front of more text leaves no quote open. -/
lemma readToken_text_closed {c : Char} {rest : Text} (hblank : isBlank c = false)
    (hrest : (readToken c rest).2 ≠ []) : QuotesClosed (readToken c rest).1.text := by
  obtain ⟨next, hfits, hnext⟩ := exists_readToken_fits hblank
  exact hfits.quotesClosed (hnext hrest)

lemma quotesClosed_readToken {c : Char} {rest : Text} (hblank : isBlank c = false)
    (h : QuotesClosed (c :: rest)) : QuotesClosed (readToken c rest).2 :=
  quotesClosed_rest (readToken_append c rest) h (readToken_text_closed hblank)

section

variable (hm : Separates m)

include hm

/-! ## Chains -/

/-- A class without separators does not come next. -/
lemma Separates.head_any {p : Char → Bool} (hp : separators.all (!p ·) = true) :
    m.head?.any p = false := by
  cases m with
  | nil => rfl
  | cons c rest =>
      have hmem : c ∈ separators := by
        rcases hm c rfl with hc | rfl
        · exact List.mem_cons_of_mem _
            (List.mem_map.mpr ⟨_, toNat_mem_blankCodes hc, Char.ofNat_toNat c⟩)
        · exact List.mem_cons_self
      have hnot := List.all_eq_true.mp hp c hmem
      rw [Bool.not_eq_true'] at hnot
      exact hnot

lemma Separates.head_ne_quote {q : Char} (hq : isQuote q = true) : m.head? ≠ some q := by
  intro hhead
  have hnone := hm.head_any (p := isQuote) (by decide)
  rw [hhead, Option.any_some, hq] at hnone
  cases hnone

lemma readSegment_stopsBefore {s : Text} (hs : EndsClosed readSegment s) :
    StopsBefore m readSegment s := by
  have hplain : ∀ {s : Text}, s.head?.any isIdentifierQuote = false →
      (s ++ m).head?.any isIdentifierQuote = false → StopsBefore m readSegment s := by
    intro s h h'
    obtain ⟨htake, hdrop⟩ :=
      takeWhile_append_of_stop (hm.head_any (p := continuesIdentifier) (by decide +kernel)) s
    rw [StopsBefore, readSegment_plain h, readSegment_plain h', htake, hdrop]
  cases s with
  | nil => exact hplain rfl (hm.head_any (by decide))
  | cons c rest =>
      cases hq : isIdentifierQuote c with
      | false => exact hplain hq hq
      | true =>
          have hquote := isQuote_of_isIdentifierQuote hq
          rw [EndsClosed, readSegment_quoted hq] at hs
          have hrun : IsClosedRun c (c :: (takeQuoted c rest).1) :=
            hs.elim (fun hclosed => hclosed.isClosedRun hquote) isClosedRun_takeQuoted
          rw [StopsBefore, List.cons_append, readSegment_quoted hq, readSegment_quoted hq,
            takeQuoted_append_of_closed hquote hrun (hm.head_ne_quote hquote)]

lemma opensSegment_append (s : Text) : opensSegment (s ++ m) = opensSegment s := by
  match s with
  | [] =>
      rw [List.nil_append, opensSegment, hm.head_any (p := (· == '.')) (by decide)]
      rfl
  | [d] =>
      have hnext := hm.head_any (p := fun c => c == '*' || startsSegment c) (by decide +kernel)
      rw [opensSegment, opensSegment, List.cons_append, List.nil_append, List.tail_cons, hnext]
      rfl
  | d :: c :: rest => rfl

lemma readChain_stopsBefore (s : Text) : EndsClosed readChain s → StopsBefore m readChain s := by
  induction s using chain_induction with
  | stop s hs =>
      intro _
      rw [StopsBefore, readChain_stop hs, readChain_stop (by rw [opensSegment_append hm, hs])]
  | star rest =>
      intro _
      rw [StopsBefore, List.cons_append, List.cons_append, readChain_star, readChain_star]
  | segment s hs ih =>
      intro hends
      rw [EndsClosed, readChain_segment hs] at hends
      obtain ⟨hsegment, hmore⟩ := endsClosed_readChain_of_segment hs <|
        hends.imp_left (show QuotesClosed ['.'] from rfl).append_iff.mp
      rw [StopsBefore, List.cons_append, readChain_segment hs,
        readChain_segment (head_any_append hs m), readSegment_stopsBefore hm hsegment, ih hmore]

/-- **An identifier is read in front of a separator as at the end**, unless it is the last token
and a parenthesis makes it a function. -/
lemma readIdentifier_stopsBefore {s : Text} (hs : s.head?.any startsSegment = true)
    (hends : EndsClosed readIdentifier s)
    (hcall : (readIdentifier s).2.isBlank = true →
      ((readIdentifier s).1.isCallable && opensCall m) = false) :
    StopsBefore m readIdentifier s := by
  have hstar := readSegment_cons_ne_star hs (readChain (readSegment s).2).1
  obtain ⟨hsegment, hmore⟩ := endsClosed_readChain_of_segment hs hends
  have hchain := readChain_stopsBefore hm (readSegment s).2 hmore
  simp only [readIdentifier] at hcall
  simp only [StopsBefore, readIdentifier]
  rw [readSegment_stopsBefore hm hsegment, hchain]
  refine Prod.ext ?_ rfl
  rw [chainToken_eq hstar, chainToken_eq hstar]
  rw [chainToken_eq hstar] at hcall
  cases hlone : isLoneKeyword ((readSegment s).1 :: (readChain (readSegment s).2).1) with
  | true => rfl
  | false =>
      cases hblank : (readChain (readSegment s).2).2.isBlank with
      | false => rw [opensCall_append_of_not_isBlank hblank]
      | true =>
          -- the chain is the last token: the parenthesis can only stand in `m`
          have hnot := hcall hblank
          rw [hlone, opensCall_of_isBlank hblank, Bool.and_false] at hnot
          rw [opensCall_append_of_isBlank hblank, opensCall_of_isBlank hblank, Bool.and_false,
            show (endsPlain _ && opensCall m) = false from hnot]

/-! ## Numbers, parameters and punctuation -/

lemma Separates.isDigit : m.head?.any Char.isDigit = false :=
  hm.head_any (by decide)

lemma startsWithDigit_append (s : Text) : startsWithDigit (s ++ m) = startsWithDigit s := by
  cases s with
  | nil => exact hm.isDigit
  | cons c rest => rfl

lemma opensExponent_append (s : Text) : opensExponent (s ++ m) = opensExponent s := by
  match s with
  | [] =>
      rw [List.nil_append, opensExponent,
        hm.head_any (p := fun c => c == 'e' || c == 'E') (by decide)]
      rfl
  | [e] =>
      rw [opensExponent, opensExponent, List.cons_append, List.nil_append, List.tail_cons,
        hm.isDigit, hm.head_any (p := fun c => c == '+' || c == '-') (by decide)]
      rfl
  | [e, x] =>
      rw [opensExponent, opensExponent, List.cons_append, List.cons_append, List.nil_append,
        List.tail_cons, List.tail_cons, hm.isDigit]
      rfl
  | e :: x :: d :: rest => rfl

lemma readExponent_stopsBefore (s : Text) : StopsBefore m readExponent s := by
  have happ := opensExponent_append hm s
  cases hs : opensExponent s with
  | false => rw [StopsBefore, readExponent_stop hs, readExponent_stop (happ.trans hs)]
  | true =>
      obtain ⟨e, x, rest, rfl⟩ := exists_of_opensExponent hs
      obtain ⟨htake, hdrop⟩ := takeWhile_append_of_stop hm.isDigit rest
      rw [hs, List.cons_append, List.cons_append] at happ
      rw [StopsBefore, readExponent_digits hs, List.cons_append, List.cons_append,
        readExponent_digits happ, htake, hdrop]

lemma readNumber_stopsBefore (s : Text) : StopsBefore m readNumber s := by
  obtain ⟨htake, hdrop⟩ := takeWhile_append_of_stop
    (hm.head_any (p := fun c => c.isDigit || c == '.') (by decide)) s
  simp only [StopsBefore, readNumber]
  rw [htake, hdrop, readExponent_stopsBefore hm]

/-- **No operator goes on behind a separator.** -/
lemma readPunctuation_append_separates (c : Char) (rest : Text) :
    readPunctuation c (rest ++ m) =
      ((readPunctuation c rest).1, (readPunctuation c rest).2 ++ m) := by
  have hsame : ∀ op ∈ longOperators,
      op.isPrefixOf (c :: (rest ++ m)) = op.isPrefixOf (c :: rest) := by
    intro op hop
    rw [Bool.eq_iff_iff, List.isPrefixOf_iff_prefix, List.isPrefixOf_iff_prefix]
    refine ⟨fun hlong => ?_, fun hshort => hshort.trans (List.prefix_append (c :: rest) m)⟩
    by_contra hnot
    obtain ⟨d, hd, hstart⟩ := prefix_of_prefix_append (b := c :: rest) hlong hnot
    have hmem : d ∈ op := hstart.subset (List.mem_append_right _ (List.mem_singleton.mpr rfl))
    have hnone := hm.head_any (p := isOperatorChar) (by decide)
    rw [hd, Option.any_some, isOperatorChar_of_longOperator hop d hmem] at hnone
    cases hnone
  by_cases h1 : c = '('
  · rw [readPunctuation, readPunctuation, if_pos h1, if_pos h1]
  by_cases h2 : c = ')'
  · rw [readPunctuation, readPunctuation, if_neg h1, if_pos h2, if_neg h1, if_pos h2]
  by_cases h3 : c = ','
  · rw [readPunctuation, readPunctuation, if_neg h1, if_neg h2, if_pos h3, if_neg h1, if_neg h2,
      if_pos h3]
  rw [readPunctuation, readPunctuation, if_neg h1, if_neg h2, if_neg h3, if_neg h1, if_neg h2,
    if_neg h3, List.find?_congr hsame]
  cases hfound : longOperators.find? (·.isPrefixOf (c :: rest)) with
  | none =>
      simp only
      split_ifs <;> rfl
  | some op =>
      have hstart : op <+: c :: rest := by simpa using List.find?_some hfound
      exact Prod.ext rfl (List.drop_append_of_le_length hstart.length_le)

/-! ## Tokens -/

/-- **A token is read in front of a separator as at the end**, unless it is the want of a quote that
ends it. -/
lemma readToken_append_separates {c : Char} {rest : Text} (hblank : isBlank c = false)
    (hends : QuotesClosed (c :: rest) ∨ (readToken c rest).2 ≠ [])
    (hcall : (readToken c rest).2.isBlank = true →
      ((readToken c rest).1.isCallable && opensCall m) = false) :
    readToken c (rest ++ m) = ((readToken c rest).1, (readToken c rest).2 ++ m) := by
  by_cases hliteral : c = '\''
  · subst hliteral
    rw [readToken_literal] at hends
    have hrun : IsClosedRun '\'' ('\'' :: (takeQuoted '\'' rest).1) :=
      hends.elim (fun hclosed => hclosed.isClosedRun rfl) isClosedRun_takeQuoted
    rw [readToken_literal, readToken_literal,
      takeQuoted_append_of_closed rfl hrun (hm.head_ne_quote rfl)]
  cases hsegment : startsSegment c with
  | true =>
      rw [readToken_segment hsegment] at hends hcall ⊢
      rw [readToken_segment hsegment]
      exact readIdentifier_stopsBefore hm (s := c :: rest) hsegment hends hcall
  | false =>
      have hdigit := startsWithDigit_append hm rest
      cases hnumber : c.isDigit || c == '.' && startsWithDigit rest with
      | true =>
          rw [readToken_number hliteral hsegment hnumber,
            readToken_number hliteral hsegment (by rw [hdigit, hnumber])]
          exact readNumber_stopsBefore hm (c :: rest)
      | false =>
          cases hparameter : c == '?' || c == '$' && startsWithDigit rest with
          | true =>
              obtain ⟨htake, hdrop⟩ := takeWhile_append_of_stop hm.isDigit rest
              rw [readToken_parameter hliteral hsegment hnumber hparameter,
                readToken_parameter hliteral hsegment (by rw [hdigit, hnumber])
                  (by rw [hdigit, hparameter]), htake, hdrop]
          | false =>
              rw [readToken_punctuation hliteral hsegment hnumber hparameter,
                readToken_punctuation hliteral hsegment (by rw [hdigit, hnumber])
                  (by rw [hdigit, hparameter])]
              exact readPunctuation_append_separates hm c rest

/-- **Scans of fragments**: in front of a separator, a text whose quotes are closed is scanned as
it is on its own.  Only a name at its end changes its kind, when the separator is followed by a
parenthesis. -/
theorem scan_append_separates {s : Text} : QuotesClosed s →
    (endsCallable s && opensCall m) = false → scan (s ++ m) = (scan s).append (scan m) := by
  induction s using scan_induction with
  | blank s hs =>
      intro _ _
      rw [scan_append_of_isBlank ((tokens_eq_nil_iff s).mp (tokens_of_blank hs)),
        scan_of_blank hs]
  | token s c rest hs ih =>
      intro hclosed hcall
      have hblank : isBlank c = false := isBlank_of_dropWhile hs
      have hclosed' : QuotesClosed (c :: rest) := by
        rw [← hs]
        exact hclosed.dropWhile_isBlank
      rw [endsCallable, tokens_of_token hs] at hcall
      have hread := readToken_append_separates hm hblank (Or.inl hclosed') fun hrest => by
        rw [(tokens_eq_nil_iff _).mpr hrest] at hcall
        exact hcall
      have hmore := ih (quotesClosed_readToken hblank hclosed') <| by
        rw [List.getLast?_cons] at hcall
        rw [endsCallable]
        cases hlast : (tokens (readToken c rest).2).getLast? with
        | none => rfl
        | some t =>
            rw [hlast] at hcall
            exact hcall
      rw [scan_of_token hs, scan_of_token (dropWhile_append_of_cons hs), hread, hmore,
        takeWhile_append_of_cons hs, Scan.cons_append]

/-- **Tokens of fragments**: they are those of the first one, and those of the second one. -/
theorem tokens_append {s : Text} (hs : QuotesClosed s)
    (hcall : (endsCallable s && opensCall m) = false) :
    tokens (s ++ m) = tokens s ++ tokens m := by
  rw [tokens, scan_append_separates hm hs hcall, Scan.map_token_append, tokens, tokens]

lemma tokens_append_of_not_call {s : Text} (hs : QuotesClosed s) (hcall : opensCall m = false) :
    tokens (s ++ m) = tokens s ++ tokens m :=
  tokens_append hm hs (by rw [hcall, Bool.and_false])

end

/-! ## Spaces and commas -/

lemma separates_space (s : Text) : Separates (' ' :: s) := by
  rintro c ⟨⟩
  exact Or.inl (by decide)

lemma separates_comma (s : Text) : Separates (',' :: s) := by
  rintro c ⟨⟩
  exact Or.inr rfl

/-- A word in front of a space, in so far as a parenthesis would not make it a function. -/
lemma endsCallable_of_isKeyword {word : Text} (h : isKeyword word = true) :
    endsCallable word = false := by
  rw [endsCallable, tokens_of_isKeyword h]
  rfl

lemma tokens_word_append {word : Text} (hclosed : QuotesClosed word)
    (hcall : endsCallable word = false) (s : Text) :
    tokens (word ++ ' ' :: s) = tokens word ++ tokens s := by
  rw [tokens_append (separates_space s) hclosed (by rw [hcall, Bool.false_and]),
    tokens_cons_blank (by decide)]

lemma tokens_leftParen (s : Text) : tokens ('(' :: s) = .leftParen :: tokens s := by
  rw [tokens_of_token (show ('(' :: s).dropWhile isBlank = '(' :: s from rfl)]
  rfl

lemma tokens_comma (s : Text) : tokens (',' :: s) = .comma :: tokens s := by
  rw [tokens_of_token (show (',' :: s).dropWhile isBlank = ',' :: s from rfl)]
  rfl

/-! ## White space around a fragment -/

lemma separates_of_isBlank (hm : m.isBlank = true) : Separates m := fun c hc =>
  Or.inl (List.all_eq_true.mp hm c (List.mem_of_head? hc))

/-- A fragment has the same tokens without the white space around it. -/
lemma tokens_trim {s : Text} (h : QuotesClosed s) : tokens s.trim = tokens s := by
  obtain ⟨a, b, ha, hb, hs⟩ := Text.exists_trim s
  have happ := tokens_append_of_not_call (separates_of_isBlank hb) h.trim (opensCall_of_isBlank hb)
  rw [(tokens_eq_nil_iff b).mpr hb, List.append_nil] at happ
  conv_rhs => rw [hs, tokens_append_of_isBlank ha, happ]

/-! ## Lists of fragments -/

/-- A separator that is read as one token, and keeps what stands around it apart. -/
structure IsSeparator (separator : Text) (t : Token) : Prop where
  separates : ∀ s, Separates (separator ++ s)
  noCall : ∀ s, opensCall (separator ++ s) = false
  tokens_append : ∀ s, tokens (separator ++ s) = t :: tokens s

lemma isSeparator_comma : IsSeparator ", ".toList .comma where
  separates := fun s => separates_comma (' ' :: s)
  noCall := fun _ => rfl
  tokens_append := fun s => (tokens_comma (' ' :: s)).trans (by rw [tokens_cons_blank (by decide)])

/-- **The tokens of a list of fragments** are those of its parts, with the separator between
them. -/
lemma IsSeparator.tokens_join {separator : Text} {t : Token} (h : IsSeparator separator t) :
    ∀ {parts : List Text}, (∀ p ∈ parts, QuotesClosed p) →
      tokens (Text.join separator parts) = [t].intercalate (parts.map tokens)
  | [], _ => tokens_of_blank rfl
  | [p], _ => by simp [List.intercalate]
  | p :: q :: rest, hclosed => by
      obtain ⟨hp, hrest⟩ := List.forall_mem_cons.mp hclosed
      rw [Text.join_cons_cons, List.append_assoc,
        tokens_append_of_not_call (h.separates _) hp (h.noCall _), h.tokens_append,
        h.tokens_join hrest]
      simp [List.intercalate]

end SqlFragments
