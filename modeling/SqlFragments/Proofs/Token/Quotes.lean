import SqlFragments.Proofs.Token.Seam
import SqlFragments.Proofs.Token.Span

/-!
# Quoted runs and tokens

The quoted runs of a text are found in two ways: by a scan for quotes, and as literals and quoted
segments when tokens are read.  Both look for the same closing quote, and a token is read only
where no run is open, so they find the same runs.

* `quotedFrom` — the runs of a text that starts at an offset.
* `Token.segments`, `Token.quotedSpans` — the runs within one token.
* `quotedFrom_segment`, `quotedFrom_chain`, **`quotedFrom_token`** — the runs of a text are those
  of its first segment, chain or token, and those of what is left.
* `QuotesRead` — runs and tokens of a text agree.
* **`quotedSpans_agree`** — they do, for every text.
-/

namespace SqlFragments

/-! ## The runs of tokens -/

/-- The spans of the quoted ones of some segments with dots between them. -/
def quotedSegmentSpans (offset : Nat) : List Text → List Span
  | [] => []
  | a :: more =>
    (if isQuotedSegment a then [⟨offset, offset + a.bytes⟩] else []) ++
      quotedSegmentSpans (offset + a.bytes + 1) more

/-- The segments of an identifier, or those that the name of a function is read as. -/
def Token.segments : Token → List Text
  | identifier segments => segments
  | function name => (readSegment name).1 :: (readChain (readSegment name).2).1
  | _ => []

/-- The spans of the quoted runs within a token: all of a literal, and the quoted segments of a
name. -/
def Token.quotedSpans (span : Span) : Token → List Span
  | literal _ => [span]
  | t => quotedSegmentSpans span.start t.segments

/-- **The two ways to find quoted runs agree.** -/
structure QuotesRead (s : Text) : Prop where
  /-- The runs are those within the tokens, in their order. -/
  runs : quotedSpans s = ((spans s).zip (tokens s)).flatMap fun p => p.2.quotedSpans p.1
  /-- The segments that a function name is read as are all of it. -/
  names : ∀ name, .function name ∈ tokens s →
    Text.join ['.'] (Token.function name).segments = name
  /-- No token starts or ends strictly inside a run. -/
  boundaries : ∀ span ∈ spans s, ∀ run ∈ quotedSpans s,
    ¬ (run.start < span.start ∧ span.start < run.stop) ∧
      ¬ (run.start < span.stop ∧ span.stop < run.stop)
  /-- Tokens that are neither literals nor names hold no quotes. -/
  others : ∀ t ∈ tokens s, t.isQuotable = false → ∀ c ∈ t.text, isQuote c = false

/-! ## The runs of a text -/

/-- The spans of the quoted runs of a text that starts at an offset. -/
def quotedFrom (offset : Nat) (s : Text) : List Span :=
  quotedSpansFrom offset (pieces s)

lemma quotedSpansFrom_consPlain (c : Char) (ps : List Piece) (offset : Nat) :
    quotedSpansFrom offset (consPlain c ps) = quotedSpansFrom (offset + c.utf8Size) ps := by
  match ps with
  | [] => rfl
  | .quoted text :: rest => rfl
  | .plain text :: rest =>
      rw [consPlain, quotedSpansFrom, quotedSpansFrom, Text.bytes_cons, Nat.add_assoc]

/-- Characters that are no quotes only move the runs behind them. -/
lemma quotedFrom_quoteless {a : Text} (ha : ∀ c ∈ a, isQuote c = false) (s : Text) :
    ∀ offset : Nat, quotedFrom offset (a ++ s) = quotedFrom (offset + a.bytes) s := by
  induction a with
  | nil => exact fun offset => rfl
  | cons c rest ih =>
      obtain ⟨hc, hrest⟩ := List.forall_mem_cons.mp ha
      intro offset
      have hmore := ih hrest (offset + c.utf8Size)
      rw [quotedFrom] at hmore ⊢
      rw [List.cons_append, pieces, hc, if_neg Bool.false_ne_true, quotedSpansFrom_consPlain, hmore,
        Text.bytes_cons, Nat.add_assoc]

lemma quotedFrom_run {q : Char} (hq : isQuote q = true) (s : Text) (offset : Nat) :
    quotedFrom offset (q :: s) =
      ⟨offset, offset + Text.bytes (q :: (takeQuoted q s).1)⟩ ::
        quotedFrom (offset + Text.bytes (q :: (takeQuoted q s).1)) (takeQuoted q s).2 := by
  rw [quotedFrom, pieces, if_pos hq, quotedSpansFrom, quotedFrom]

/-- The run of a first segment, and those of what is left. -/
lemma quotedFrom_segment {s : Text} (hs : s.head?.any startsSegment = true) (offset : Nat) :
    quotedFrom offset s =
      (if isQuotedSegment (readSegment s).1 then
        [⟨offset, offset + (readSegment s).1.bytes⟩] else []) ++
      quotedFrom (offset + (readSegment s).1.bytes) (readSegment s).2 := by
  cases s with
  | nil => cases hs
  | cons c rest =>
      cases hq : isIdentifierQuote c with
      | true =>
          rw [readSegment_quoted hq, isQuotedSegment, hq, if_pos rfl,
            quotedFrom_run (isQuote_of_isIdentifierQuote hq)]
          rfl
      | false =>
          have hc : startsIdentifier c = true := by
            have hstart : startsSegment c = true := hs
            rw [startsSegment, hq, Bool.or_false] at hstart
            exact hstart
          have hplain := isPlainName_takeWhile hc rest
          rw [readSegment_plain (show (c :: rest).head?.any isIdentifierQuote = false from hq),
            isQuotedSegment_of_isPlainName hplain,
            if_neg Bool.false_ne_true, List.nil_append]
          conv_lhs => rw [← List.takeWhile_append_dropWhile (p := continuesIdentifier)
            (l := c :: rest)]
          exact quotedFrom_quoteless (quoteless_of_isPlainName hplain) _ offset

/-- The runs of further segments, each behind a dot, and those of what is left. -/
lemma quotedFrom_chain (s : Text) : ∀ offset : Nat, quotedFrom offset s =
    quotedSegmentSpans (offset + 1) (readChain s).1 ++
      quotedFrom (offset + (dotted (readChain s).1).bytes) (readChain s).2 := by
  induction s using chain_induction with
  | stop s hs =>
      intro offset
      rw [readChain_stop hs]
      rfl
  | star rest =>
      intro offset
      have hplain : ∀ c ∈ ['.', '*'], isQuote c = false :=
        List.forall_mem_cons.mpr ⟨rfl, List.forall_mem_singleton.mpr rfl⟩
      rw [readChain_star]
      exact quotedFrom_quoteless hplain rest offset
  | segment s hs ih =>
      intro offset
      have hplain : ∀ c ∈ ['.'], isQuote c = false := List.forall_mem_singleton.mpr rfl
      have hdot : quotedFrom offset ('.' :: s) = quotedFrom (offset + 1) s :=
        quotedFrom_quoteless hplain s offset
      have hstop : offset + ('.'.utf8Size + ((readSegment s).1.bytes +
          (dotted (readChain (readSegment s).2).1).bytes)) = offset + 1 +
          (readSegment s).1.bytes + (dotted (readChain (readSegment s).2).1).bytes := by
        rw [show '.'.utf8Size = 1 from rfl]
        omega
      rw [readChain_segment hs, quotedSegmentSpans, dotted, Text.bytes_cons, Text.bytes_append,
        hdot, quotedFrom_segment hs, ih, List.append_assoc, hstop]

/-! ## The runs of a token -/

/-- The segments that a chain is read as, whatever it is taken for. -/
lemma quotedFrom_identifier {s : Text} (hs : s.head?.any startsSegment = true) (offset : Nat) :
    quotedFrom offset s =
      quotedSegmentSpans offset ((readSegment s).1 :: (readChain (readSegment s).2).1) ++
      quotedFrom (offset + (readIdentifier s).1.text.bytes) (readIdentifier s).2 := by
  have hbytes : (readIdentifier s).1.text.bytes =
      (readSegment s).1.bytes + (dotted (readChain (readSegment s).2).1).bytes := by
    rw [readIdentifier, chainToken_text, join_eq_dotted, Text.bytes_append]
  rw [hbytes, quotedFrom_segment hs, quotedFrom_chain, quotedSegmentSpans, List.append_assoc,
    ← Nat.add_assoc]
  rfl

/-- A name is read again as its segments. -/
lemma readChain_join {segments : List Text} (hne : segments ≠ [])
    (hnames : ∀ a ∈ segments, IsName a) :
    (readSegment (Text.join ['.'] segments)).1 ::
      (readChain (readSegment (Text.join ['.'] segments)).2).1 = segments := by
  have hchain : ChainFits False segments := chainFits_of_names hne hnames
  obtain ⟨first, more, rfl⟩ := List.exists_cons_of_ne_nil hne
  have hend : Closes [] := rfl
  obtain ⟨hsegment, hmore⟩ := hchain.readChain hend rfl False.elim first more rfl
  rw [List.append_nil] at hsegment hmore
  rw [join_eq_dotted, hsegment, hmore]

lemma quotedSpans_identifier (segments : List Text) (span : Span) :
    (Token.identifier segments).quotedSpans span = quotedSegmentSpans span.start segments := rfl

lemma quotedSpans_function (name : Text) (span : Span) :
    (Token.function name).quotedSpans span =
      quotedSegmentSpans span.start (Token.function name).segments := rfl

/-- What a chain is taken for has its quoted segments as runs. -/
lemma quotedSpans_chainToken {s : Text} (hs : s.head?.any startsSegment = true) (span : Span) :
    (readIdentifier s).1.quotedSpans span =
      quotedSegmentSpans span.start
        ((readSegment s).1 :: (readChain (readSegment s).2).1) := by
  simp only [readIdentifier]
  rw [chainToken_eq (readSegment_cons_ne_star hs _)]
  split_ifs with hlone hcall
  · -- a keyword is no quoted word
    obtain ⟨word, hword⟩ := isLoneKeyword_eq hlone
    rw [hword] at hlone ⊢
    rw [isLoneKeyword, Bool.and_eq_true, Bool.not_eq_true'] at hlone
    simp [Token.quotedSpans, Token.segments, quotedSegmentSpans, hlone.1]
  · rw [Bool.and_eq_true] at hcall
    have hnames := isName_of_call hs hcall.1 hcall.2
    rw [quotedSpans_function, Token.segments, readChain_join (List.cons_ne_nil _ _) hnames]
  · exact quotedSpans_identifier _ span

/-- A token that opens neither a literal nor a segment cannot hold a run. -/
lemma isQuotable_readToken {c : Char} {rest : Text} (hliteral : c ≠ '\'')
    (hsegment : startsSegment c = false) : (readToken c rest).1.isQuotable = false := by
  rw [readToken_of_not_segment hliteral hsegment]
  split_ifs
  · rfl
  · rfl
  · rcases readPunctuation_cases c rest with
      ⟨_, h⟩ | ⟨_, h⟩ | ⟨_, h⟩ | ⟨_, ⟨op, more, _, _, h⟩ | ⟨_, h⟩ | h⟩ <;>
      · rw [h]
        rfl

lemma quotedSpans_of_not_isQuotable {t : Token} (ht : t.isQuotable = false) (span : Span) :
    t.quotedSpans span = [] := by
  cases t with
  | literal _ => cases ht
  | identifier _ => cases ht
  | function _ => cases ht
  | _ => rfl

/-- **The runs of a text are those of its first token**, and those of what is left. -/
lemma quotedFrom_token {c : Char} {rest : Text} (hblank : isBlank c = false) (offset : Nat) :
    quotedFrom offset (c :: rest) =
      (readToken c rest).1.quotedSpans ⟨offset, offset + (readToken c rest).1.text.bytes⟩ ++
      quotedFrom (offset + (readToken c rest).1.text.bytes) (readToken c rest).2 := by
  by_cases hliteral : c = '\''
  · subst hliteral
    rw [readToken_literal, quotedFrom_run rfl]
    rfl
  cases hsegment : startsSegment c with
  | true =>
      have hs : (c :: rest).head?.any startsSegment = true := hsegment
      rw [readToken_segment hsegment, quotedSpans_chainToken hs, quotedFrom_identifier hs]
  | false =>
      have hquotable : (readToken c rest).1.isQuotable = false :=
        isQuotable_readToken hliteral hsegment
      obtain ⟨next, hfits⟩ : ∃ next, (readToken c rest).1.Fits next :=
        (exists_readToken_fits hblank).imp fun _ => And.left
      rw [quotedSpans_of_not_isQuotable hquotable, List.nil_append,
        ← quotedFrom_quoteless (hfits.quoteless hquotable), readToken_append]

/-! ## The runs of all tokens -/

lemma quotedFrom_scan (s : Text) : ∀ offset : Nat, quotedFrom offset s =
    ((spansFrom offset (scan s).lexemes).zip (tokens s)).flatMap fun p => p.2.quotedSpans p.1 := by
  induction s using scan_induction with
  | blank s hs =>
      intro offset
      have hblank : s.isBlank = true := (tokens_eq_nil_iff s).mp (tokens_of_blank hs)
      have hmore := quotedFrom_quoteless (quoteless_of_isBlank hblank) [] offset
      rw [List.append_nil] at hmore
      rw [hmore, scan_of_blank hs, quotedFrom, pieces]
      rfl
  | token s c rest hs ih =>
      intro offset
      have hspace : quotedFrom offset s =
          quotedFrom (offset + Text.bytes (s.takeWhile isBlank)) (c :: rest) := by
        conv_lhs => rw [← List.takeWhile_append_dropWhile (p := isBlank) (l := s), hs]
        exact quotedFrom_quoteless (quoteless_of_isBlank List.all_takeWhile) _ offset
      rw [hspace, quotedFrom_token (isBlank_of_dropWhile hs), ih, tokens_of_token hs,
        scan_of_token hs, spansFrom, List.zip_cons_cons, List.flatMap_cons]

/-- The span of a token is as long as its text. -/
lemma stop_eq_of_mem_zip {span : Span} {t : Token} : ∀ (ls : List Lexeme) (offset : Nat),
    (∀ l ∈ ls, l.source = l.token.text) →
    (span, t) ∈ (spansFrom offset ls).zip (ls.map Lexeme.token) →
      span.stop = span.start + t.text.bytes
  | [], _, _, h => by cases h
  | l :: rest, offset, hsource, h => by
      obtain ⟨hl, hrest⟩ := List.forall_mem_cons.mp hsource
      simp only [spansFrom, List.map_cons, List.zip_cons_cons, List.mem_cons] at h
      rcases h with heq | h
      · obtain ⟨rfl, rfl⟩ := Prod.mk.inj heq
        rw [← hl]
      · exact stop_eq_of_mem_zip rest _ hrest h

/-- The runs of segments lie within the chain that they make up. -/
lemma within_quotedSegmentSpans {run : Span} : ∀ (segments : List Text) (offset : Nat),
    run ∈ quotedSegmentSpans offset segments →
      offset ≤ run.start ∧ run.stop ≤ offset + (Text.join ['.'] segments).bytes
  | [], _, h => by cases h
  | a :: more, offset, h => by
      rw [quotedSegmentSpans, List.mem_append] at h
      rw [join_eq_dotted, Text.bytes_append]
      rcases h with h | h
      · split_ifs at h
        · obtain rfl := List.mem_singleton.mp h
          exact ⟨Nat.le_refl _, by simp only; omega⟩
        · cases h
      · obtain ⟨hstart, hstop⟩ := within_quotedSegmentSpans more _ h
        cases more with
        | nil => cases h
        | cons b more =>
            have hdot : '.'.utf8Size = 1 := rfl
            rw [join_eq_dotted, Text.bytes_append] at hstop
            rw [dotted, Text.bytes_cons, Text.bytes_append, hdot]
            omega

/-- The segments of a token make up no more than its text. -/
lemma Token.join_segments_le (t : Token) : (Text.join ['.'] t.segments).bytes ≤ t.text.bytes := by
  cases t with
  | identifier segments => exact Nat.le_refl _
  | function name =>
      have happ := join_readChain_append (readSegment name).2 (readSegment name).1
      rw [readSegment_append] at happ
      have hbytes := congrArg Text.bytes happ
      rw [Text.bytes_append] at hbytes
      show (Text.join ['.'] ((readSegment name).1 :: (readChain (readSegment name).2).1)).bytes ≤
        name.bytes
      omega
  | _ => exact Nat.zero_le _

/-- **The runs of a token lie within its span.** -/
lemma Token.within_quotedSpans {t : Token} {span run : Span}
    (hspan : span.stop = span.start + t.text.bytes) (h : run ∈ t.quotedSpans span) :
    span.start ≤ run.start ∧ run.stop ≤ span.stop := by
  have hsegments : run ∈ quotedSegmentSpans span.start t.segments →
      span.start ≤ run.start ∧ run.stop ≤ span.stop := by
    intro hrun
    obtain ⟨hstart, hstop⟩ := within_quotedSegmentSpans t.segments span.start hrun
    have hle := t.join_segments_le
    omega
  cases t with
  | literal _ =>
      obtain rfl := List.mem_singleton.mp h
      exact ⟨Nat.le_refl _, Nat.le_refl _⟩
  | _ => exact hsegments h

/-- Spans in order: two of them are the same, or one ends before the other starts. -/
lemma apart_of_pairwise {spans : List Span} (h : spans.Pairwise fun a b => a.stop ≤ b.start) :
    ∀ a ∈ spans, ∀ b ∈ spans, a = b ∨ a.stop ≤ b.start ∨ b.stop ≤ a.start := by
  induction h with
  | nil => exact List.forall_mem_nil _
  | cons hfirst _ ih =>
      intro a ha b hb
      rcases List.mem_cons.mp ha with rfl | haRest
      · rcases List.mem_cons.mp hb with rfl | hbRest
        · exact Or.inl rfl
        · exact Or.inr (Or.inl (hfirst b hbRest))
      · rcases List.mem_cons.mp hb with rfl | hbRest
        · exact Or.inr (Or.inr (hfirst a haRest))
        · exact ih a haRest b hbRest

/-- **The two ways to find quoted runs agree**, whatever the text. -/
theorem quotedSpans_agree (s : Text) : QuotesRead s where
  runs := quotedFrom_scan s 0
  names := by
    intro name hname
    obtain ⟨next, hfits⟩ := (tokens_fitting s).exists_fits _ hname
    cases hfits with
    | function hne hnames _ _ _ => rw [Token.segments, readChain_join hne hnames]
  boundaries := by
    intro span hspan run hrun
    -- the run lies within a token, and no token starts or ends strictly inside another one
    have hruns := quotedFrom_scan s 0
    rw [show quotedFrom 0 s = quotedSpans s from rfl] at hruns
    rw [hruns] at hrun
    obtain ⟨⟨token, t⟩, hmem, hrun⟩ := List.mem_flatMap.mp hrun
    obtain ⟨hstart, hstop⟩ := Token.within_quotedSpans
      (stop_eq_of_mem_zip (scan s).lexemes 0 (source_eq_text s) hmem) hrun
    have hlength := nonempty_spansFrom (scan s).lexemes 0 (source_ne_nil s) span hspan
    have hapart := apart_of_pairwise (ordered_spansFrom (scan s).lexemes 0)
    rcases hapart span hspan token (List.of_mem_zip hmem).1 with rfl | hbefore | hbehind
    · omega
    · omega
    · omega
  others := by
    intro t ht hquotable
    obtain ⟨next, hfits⟩ := (tokens_fitting s).exists_fits t ht
    exact hfits.quoteless hquotable

end SqlFragments
