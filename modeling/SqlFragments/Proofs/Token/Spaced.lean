import SqlFragments.Proofs.Token.Quotes

/-!
# Two texts with a space between them

A text whose quotes are closed is read in front of a space as it is on its own, and what stands
behind the space is read as it is on its own, further to the right.  Only the look for a
parenthesis goes across the space: it makes a name at the end of the first text a function.  The
spans know nothing of that, since the name is read from the same characters.

* `EndsInName` — the last token of a text is a name that a parenthesis would make a function.
* `Span.shift` — a span further to the right.
* `scan_append_call` — the scan of two texts when the second one opens a parenthesis behind such a
  name.
* `spans_append_separates` — the spans of two texts, whatever becomes of the name.
* **`tokens_append_space`** — tokens and spans of two texts with a space between them.
-/

namespace SqlFragments

/-- The last token of a text is a name that a parenthesis behind it would make a function: a chain
of segments that ends in a plain one, and nothing but white space behind it. -/
def EndsInName (s : Text) : Prop :=
  ∃ (segments : List Text) (last front blank : Text),
    (tokens s).getLast? = some (.identifier segments) ∧
      segments.getLast? = some last ∧ last ≠ ['*'] ∧ isQuotedSegment last = false ∧
      s = front ++ (Text.join ['.'] segments ++ blank) ∧ blank.isBlank = true

/-- A span with `n` further bytes in front of the text. -/
def Span.shift (n : Nat) (span : Span) : Span :=
  ⟨span.start + n, span.stop + n⟩

variable {a b m s : Text}

/-! ## Names at the end -/

lemma endsPlain_iff {segments : List Text} : endsPlain segments = true ↔
    ∃ last, segments.getLast? = some last ∧ last ≠ ['*'] ∧ isQuotedSegment last = false := by
  simp [endsPlain, Option.any_eq_true]

/-- The last token of a text, and the white space behind it. -/
lemma exists_last_lexeme {t : Token} (h : (tokens s).getLast? = some t) :
    ∃ front l, (scan s).lexemes = front ++ [l] ∧ l.token = t ∧
      s = (front.flatMap Lexeme.text ++ l.blank) ++ (t.text ++ (scan s).trailing) := by
  rw [tokens, List.getLast?_map, Option.map_eq_some_iff] at h
  obtain ⟨l, hlast, rfl⟩ := h
  obtain ⟨front, hfront⟩ := List.getLast?_eq_some_iff.mp hlast
  refine ⟨front, l, hfront, rfl, ?_⟩
  have htext := scan_append s
  have hsource : l.source = l.token.text := by
    refine source_eq_text s l ?_
    rw [hfront]
    exact List.mem_append_right _ List.mem_cons_self
  rw [hfront, List.flatMap_append, List.flatMap_singleton, Lexeme.text, hsource] at htext
  conv_lhs => rw [← htext]
  simp only [List.append_assoc]

/-- **A text ends in a name** exactly if its last token says so: nothing but white space can stand
behind a last token. -/
lemma endsInName_iff : EndsInName s ↔ endsCallable s = true := by
  rw [endsCallable, Option.any_eq_true]
  constructor
  · rintro ⟨segments, last, -, -, hlast, hsegment, hstar, hplain, -, -⟩
    exact ⟨_, hlast, endsPlain_iff.mpr ⟨last, hsegment, hstar, hplain⟩⟩
  · rintro ⟨t, hlast, hcallable⟩
    cases t with
    | identifier segments =>
        obtain ⟨last, hsegment, hstar, hplain⟩ := endsPlain_iff.mp hcallable
        obtain ⟨front, l, -, -, htext⟩ := exists_last_lexeme hlast
        exact ⟨segments, last, _, _, hlast, hsegment, hstar, hplain, htext, trailing_isBlank s⟩
    | _ => cases hcallable

instance : DecidablePred EndsInName := fun _ => decidable_of_iff' _ endsInName_iff

/-! ## Spans further to the right -/

lemma Span.shift_shift (m n : Nat) (span : Span) :
    (span.shift m).shift n = span.shift (n + m) := by
  simp only [shift, Nat.add_assoc, Nat.add_comm m n]

lemma spansFrom_shift (n : Nat) : ∀ (ls : List Lexeme) (offset : Nat),
    spansFrom (offset + n) ls = (spansFrom offset ls).map (Span.shift n)
  | [], _ => rfl
  | l :: rest, offset => by
      have hstart : offset + n + l.blank.bytes = offset + l.blank.bytes + n := by omega
      have hstop : offset + l.blank.bytes + n + l.source.bytes =
          offset + l.blank.bytes + l.source.bytes + n := by omega
      rw [spansFrom, spansFrom, List.map_cons, hstart, hstop, spansFrom_shift n rest, Span.shift]

/-- The spans of scans in a row: those of the second start behind all of the first. -/
lemma spansFrom_scan_append (a b : Scan) (offset : Nat) :
    spansFrom offset (a.append b).lexemes = spansFrom offset a.lexemes ++
      spansFrom (offset + Text.bytes (a.lexemes.flatMap Lexeme.text ++ a.trailing)) b.lexemes := by
  rw [Scan.append]
  split
  · rename_i hnil
    rw [hnil, spansFrom, List.append_nil]
  · rename_i l rest hcons
    rw [hcons, spansFrom_append, spansFrom, spansFrom]
    simp only [Text.bytes_append, Nat.add_assoc]

/-! ## A name in front of a parenthesis -/

section

variable (hm : Separates m)

include hm

/-- **A name becomes a function** in front of a parenthesis, and is read from the same
characters. -/
lemma readIdentifier_append_call (hs : s.head?.any startsSegment = true)
    (hends : EndsClosed readIdentifier s) (hblank : (readIdentifier s).2.isBlank = true)
    (hname : (readIdentifier s).1.isCallable = true) (hcall : opensCall m = true) :
    readIdentifier (s ++ m) =
      (.function (readIdentifier s).1.text, (readIdentifier s).2 ++ m) := by
  have hstar := readSegment_cons_ne_star hs (readChain (readSegment s).2).1
  obtain ⟨hsegment, hmore⟩ := endsClosed_readChain_of_segment hs hends
  have hchain := readChain_stopsBefore hm (readSegment s).2 hmore
  have htext : (readIdentifier s).1.text =
      Text.join ['.'] ((readSegment s).1 :: (readChain (readSegment s).2).1) := by
    rw [readIdentifier, chainToken_text]
  rw [htext]
  simp only [readIdentifier] at hblank hname ⊢
  rw [chainToken_eq hstar, opensCall_of_isBlank hblank, Bool.and_false] at hname
  have hlone : isLoneKeyword ((readSegment s).1 :: (readChain (readSegment s).2).1) = false := by
    refine Bool.eq_false_of_not_eq_true fun hlone => ?_
    rw [hlone, if_pos rfl] at hname
    cases hname
  rw [hlone, if_neg Bool.false_ne_true, if_neg Bool.false_ne_true] at hname
  have hplain : endsPlain ((readSegment s).1 :: (readChain (readSegment s).2).1) = true := hname
  rw [readSegment_stopsBefore hm hsegment, hchain]
  refine Prod.ext ?_ rfl
  rw [chainToken_eq hstar, opensCall_append_of_isBlank hblank, hlone, hplain, hcall]
  rfl

lemma readToken_append_call {c : Char} {rest : Text} (hclosed : QuotesClosed (c :: rest))
    (hblank : (readToken c rest).2.isBlank = true)
    (hname : (readToken c rest).1.isCallable = true) (hcall : opensCall m = true) :
    readToken c (rest ++ m) =
      (.function (readToken c rest).1.text, (readToken c rest).2 ++ m) := by
  have hliteral : c ≠ '\'' := by
    rintro rfl
    cases hname
  cases hsegment : startsSegment c with
  | true =>
      rw [readToken_segment hsegment] at hblank hname ⊢
      rw [readToken_segment hsegment]
      exact readIdentifier_append_call hm (s := c :: rest) hsegment (Or.inl hclosed) hblank hname
        hcall
  | false =>
      -- punctuation, numbers and parameters are no names
      have hquotable : (readToken c rest).1.isQuotable = false :=
        isQuotable_readToken hliteral hsegment
      revert hname hquotable
      cases (readToken c rest).1 with
      | identifier _ => exact fun _ h => nomatch h
      | _ => exact fun h _ => nomatch h

/-- **The scan of two texts** when the second one opens a parenthesis behind a name: the name is a
function, and all else is as it was. -/
lemma scan_append_call (hcall : opensCall m = true) : QuotesClosed s → endsCallable s = true →
    ∃ front l, (scan s).lexemes = front ++ [l] ∧
      scan (s ++ m) = (⟨front ++ [{ l with token := .function l.source }], (scan s).trailing⟩ :
        Scan).append (scan m) := by
  induction s using scan_induction with
  | blank s hs =>
      intro _ hname
      rw [endsCallable, tokens_of_blank hs] at hname
      cases hname
  | token s c rest hs ih =>
      intro hclosed hname
      have hblank : isBlank c = false := isBlank_of_dropWhile hs
      have hclosed' : QuotesClosed (c :: rest) := by
        rw [← hs]
        exact hclosed.dropWhile_isBlank
      rw [endsCallable, tokens_of_token hs, List.getLast?_cons] at hname
      rw [scan_of_token hs, scan_of_token (dropWhile_append_of_cons hs),
        takeWhile_append_of_cons hs]
      cases hmore : (readToken c rest).2.isBlank with
      | true =>
          -- this token is the last one
          rw [(tokens_eq_nil_iff _).mpr hmore] at hname
          rw [readToken_append_call hm hclosed' hmore hname hcall, scan_append_of_isBlank hmore,
            scan_of_blank (dropWhile_of_isBlank hmore)]
          exact ⟨[], _, rfl, (Scan.cons_append _ ⟨[], _⟩ _).symm⟩
      | false =>
          rw [readToken_append_separates hm hblank (Or.inl hclosed') fun h => by
            rw [hmore] at h
            cases h]
          have hne : tokens (readToken c rest).2 ≠ [] := fun hnil => by
            rw [(tokens_eq_nil_iff _).mp hnil] at hmore
            cases hmore
          obtain ⟨t, hlast⟩ := Option.ne_none_iff_exists'.mp (mt List.getLast?_eq_none_iff.mp hne)
          rw [hlast] at hname
          obtain ⟨front, l, hfront, hscan⟩ := ih (quotesClosed_readToken hblank hclosed') <| by
            rw [endsCallable, hlast]
            exact hname
          refine ⟨_ :: front, l, congrArg (List.cons _) hfront, ?_⟩
          rw [hscan]
          exact (Scan.cons_append _ ⟨_, _⟩ _).symm

/-- **The spans of two texts** are those of the first, and those of the second behind all of it.  A
name that becomes a function keeps its span. -/
lemma spans_append_separates (hs : QuotesClosed s) :
    spans (s ++ m) = spans s ++ (spans m).map (Span.shift s.bytes) := by
  have happend : ∀ a : Scan, a.lexemes.flatMap Lexeme.text ++ a.trailing = s →
      spansFrom 0 a.lexemes = spans s →
        spansFrom 0 (a.append (scan m)).lexemes = spans s ++ (spans m).map (Span.shift s.bytes) := by
    intro a htext hspans
    rw [spansFrom_scan_append, htext, hspans, spansFrom_shift]
    rfl
  have htext := scan_append s
  cases hcall : endsCallable s && opensCall m with
  | false =>
      rw [spans, scan_append_separates hm hs hcall]
      exact happend _ htext rfl
  | true =>
      obtain ⟨hname, hopens⟩ := Bool.and_eq_true_iff.mp hcall
      obtain ⟨front, l, hfront, hscan⟩ := scan_append_call hm hopens hs hname
      rw [hfront] at htext
      rw [spans, hscan]
      refine happend _ ?_ ?_
      · simpa [Lexeme.text] using htext
      · rw [spans, hfront, spansFrom_append, spansFrom_append]
        rfl

end

/-! ## A space between two texts -/

/-- A space in front of a text moves its spans by one byte. -/
lemma spans_cons_space (s : Text) : spans (' ' :: s) = (spans s).map (Span.shift 1) := by
  have hscan : scan (' ' :: s) = (⟨[], [' ']⟩ : Scan).append (scan s) :=
    scan_append_of_isBlank (s := [' ']) (by decide)
  rw [spans, hscan, spansFrom_scan_append, spansFrom_shift]
  rfl

/-- A name that becomes a function is another token. -/
lemma tokens_append_ne_of_call (hm : Separates m) (hs : QuotesClosed s)
    (hname : endsCallable s = true) (hcall : opensCall m = true) :
    tokens (s ++ m) ≠ tokens s ++ tokens m := by
  obtain ⟨front, l, hfront, hscan⟩ := scan_append_call hm hcall hs hname
  intro heq
  rw [tokens, hscan, Scan.map_token_append, ← tokens, List.append_cancel_right_eq, tokens, hfront,
    List.map_append, List.map_append, List.append_cancel_left_eq] at heq
  have htoken : Token.function l.source = l.token := List.singleton_inj.mp heq
  rw [endsCallable, tokens, hfront, List.map_append, List.map_singleton, List.getLast?_concat,
    ← htoken] at hname
  cases hname

/-- **Two texts with a space between them.**  The quotes of the first are closed.  Then the spans
are those of the first text, and those of the second as far to the right as the first and the space
are long; and the tokens are those of the first, and those of the second, exactly if the second one
does not open a parenthesis behind a name at the end of the first. -/
theorem tokens_append_space (ha : QuotesClosed a) (b : Text) :
    spans (a ++ ' ' :: b) = spans a ++ (spans b).map (Span.shift (a.bytes + 1)) ∧
      (tokens (a ++ ' ' :: b) = tokens a ++ tokens b ↔
        ¬ (EndsInName a ∧ opensCall b = true)) := by
  have hspace : tokens (' ' :: b) = tokens b := tokens_cons_blank (by decide) b
  have hcall : opensCall (' ' :: b) = opensCall b := opensCall_append_of_isBlank (s := [' ']) rfl
  constructor
  · rw [spans_append_separates (separates_space b) ha, spans_cons_space, List.map_map]
    exact congrArg _ (List.map_congr_left fun span _ => Span.shift_shift 1 a.bytes span)
  · rw [endsInName_iff, ← hspace, ← hcall]
    constructor
    · rintro htokens ⟨hname, hopens⟩
      exact tokens_append_ne_of_call (separates_space b) ha hname hopens htokens
    · intro hnot
      refine tokens_append (separates_space b) ha ?_
      rw [Bool.and_eq_false_iff, ← Bool.not_eq_true, ← Bool.not_eq_true]
      exact not_and_or.mp hnot

/-- The letter behind a number is a name, which goes on neither in a sign nor in an open literal
behind the space, but is called by a parenthesis there. -/
theorem tokens_append_space_letter : QuotesClosed "né = 1.5e".toList ∧
    ¬ (EndsInName "né = 1.5e".toList ∧ opensCall "+'open".toList = true) ∧
    tokens ("né = 1.5e".toList ++ ' ' :: "+'open".toList) =
      tokens "né = 1.5e".toList ++ tokens "+'open".toList ∧
    spans ("né = 1.5e".toList ++ ' ' :: "+'open".toList) =
      [⟨0, 3⟩, ⟨4, 5⟩, ⟨6, 9⟩, ⟨9, 10⟩, ⟨11, 12⟩, ⟨12, 17⟩] ∧
    tokens ("né = 1.5e".toList ++ ' ' :: " (2)".toList) ≠
      tokens "né = 1.5e".toList ++ tokens " (2)".toList := by
  have hclosed : QuotesClosed "né = 1.5e".toList := by decide
  have hname : EndsInName "né = 1.5e".toList := by decide +kernel
  have hsign : opensCall "+'open".toList = false := by decide
  have hnot : ¬ (EndsInName "né = 1.5e".toList ∧ opensCall "+'open".toList = true) :=
    fun h => Bool.false_ne_true (hsign.symm.trans h.2)
  obtain ⟨hspans, htokens⟩ := tokens_append_space hclosed "+'open".toList
  refine ⟨hclosed, hnot, htokens.mpr hnot, hspans.trans (by decide +kernel), fun heq => ?_⟩
  exact (tokens_append_space hclosed " (2)".toList).2.mp heq ⟨hname, by decide⟩

end SqlFragments
