import SqlFragments.Proofs.Token.Bare
import SqlFragments.Proofs.Token.Quotes

/-!
# The characters outside quoted spans

Callers that look for a character outside quotes go by the spans of the quoted runs and by byte
offsets.  The characters that no span holds are those in front of which no quote is open, the quotes
themselves aside, and two texts one behind the other show what each of them shows.

* `outsideSpans` — the characters of a text that no span holds, with their offsets.
* `unquoted`, `unquotedFrom` — those that no quoted run holds, in a text that starts at an offset.
* `unquotedFrom_plain`, `unquotedFrom_run` — one character, and one quoted run.
* **`map_unquotedFrom`** — the characters themselves are the bare ones.
* **`unquotedFrom_append`** — two texts one behind the other.
-/

namespace SqlFragments

/-- The characters of a text that none of some spans holds, each with its byte offset, the first
character of the text standing at `offset`. -/
def outsideSpans (spans : List Span) (offset : Nat) : Text → List (Nat × Char)
  | [] => []
  | c :: rest =>
    if ∃ span ∈ spans, span.covers offset then outsideSpans spans (offset + c.utf8Size) rest
    else (offset, c) :: outsideSpans spans (offset + c.utf8Size) rest

/-- The characters of a text outside its quoted runs, with their byte offsets. -/
def unquoted (s : Text) : List (Nat × Char) :=
  outsideSpans (quotedSpans s) 0 s

/-- The same for a text that starts at an offset. -/
def unquotedFrom (offset : Nat) (s : Text) : List (Nat × Char) :=
  outsideSpans (quotedFrom offset s) offset s

variable {a m s : Text} {c q : Char} {span : Span} {spans : List Span}

/-! ## Spans and offsets -/

lemma outsideSpans_append (a b : Text) : ∀ offset : Nat, outsideSpans spans offset (a ++ b) =
    outsideSpans spans offset a ++ outsideSpans spans (offset + a.bytes) b := by
  induction a with
  | nil => exact fun offset => rfl
  | cons c rest ih =>
      intro offset
      rw [List.cons_append, outsideSpans, outsideSpans, ih, Text.bytes_cons, Nat.add_assoc]
      split_ifs
      · rfl
      · rfl

/-- Nothing of a text within a span is outside. -/
lemma outsideSpans_of_mem (hmem : span ∈ spans) (a : Text) : ∀ offset : Nat,
    span.start ≤ offset → offset + a.bytes ≤ span.stop → outsideSpans spans offset a = [] := by
  induction a with
  | nil => exact fun _ _ _ => rfl
  | cons c rest ih =>
      intro offset hstart hstop
      have hpos := c.utf8Size_pos
      rw [Text.bytes_cons] at hstop
      have hcovers : span.covers offset := ⟨hstart, by omega⟩
      rw [outsideSpans, if_pos ⟨span, hmem, hcovers⟩]
      exact ih _ (by omega) (by omega)

/-- A span in front of a text holds none of it. -/
lemma outsideSpans_cons_of_le (a : Text) : ∀ offset : Nat, span.stop ≤ offset →
    outsideSpans (span :: spans) offset a = outsideSpans spans offset a := by
  induction a with
  | nil => exact fun _ _ => rfl
  | cons c rest ih =>
      intro offset hstop
      have hnot : ¬ span.covers offset := fun h => Nat.not_lt.mpr hstop h.2
      have hiff : (∃ p ∈ span :: spans, p.covers offset) ↔ ∃ p ∈ spans, p.covers offset := by
        simp [hnot]
      rw [outsideSpans, outsideSpans, ih _ (by omega)]
      simp only [hiff]

/-- The quoted runs of a text start in it. -/
lemma le_start_of_mem_quotedSpansFrom : ∀ (ps : List Piece) (offset : Nat),
    span ∈ quotedSpansFrom offset ps → offset ≤ span.start
  | [], _, h => by cases h
  | .plain text :: rest, offset, h => by
      have hle := le_start_of_mem_quotedSpansFrom rest _ h
      omega
  | .quoted text :: rest, offset, h => by
      rcases List.mem_cons.mp h with rfl | h
      · exact Nat.le_refl _
      · have hle := le_start_of_mem_quotedSpansFrom rest _ h
        omega

/-! ## One step -/

/-- **A character that is no quote** is outside. -/
lemma unquotedFrom_plain (hc : isQuote c = false) (rest : Text) (offset : Nat) :
    unquotedFrom offset (c :: rest) = (offset, c) :: unquotedFrom (offset + c.utf8Size) rest := by
  have hruns : quotedFrom offset (c :: rest) = quotedFrom (offset + c.utf8Size) rest :=
    quotedFrom_quoteless (List.forall_mem_singleton.mpr hc) rest offset
  have hnone : ¬ ∃ span ∈ quotedFrom (offset + c.utf8Size) rest, span.covers offset := by
    rintro ⟨span, hspan, hstart, -⟩
    have hpos := c.utf8Size_pos
    have hle := le_start_of_mem_quotedSpansFrom _ _ hspan
    omega
  rw [unquotedFrom, hruns, outsideSpans, if_neg hnone, unquotedFrom]

/-- **A quoted run** is passed over. -/
lemma unquotedFrom_run (hq : isQuote q = true) (s : Text) (offset : Nat) :
    unquotedFrom offset (q :: s) =
      unquotedFrom (offset + Text.bytes (q :: (takeQuoted q s).1)) (takeQuoted q s).2 := by
  rw [unquotedFrom, quotedFrom_run hq]
  conv_lhs => rw [← cons_takeQuoted_append q s]
  rw [outsideSpans_append, outsideSpans_of_mem List.mem_cons_self _ _ le_rfl le_rfl,
    outsideSpans_cons_of_le _ _ le_rfl, List.nil_append, unquotedFrom]

/-! ## Whole texts -/

/-- **The characters outside quoted runs** are the bare ones, but for the quotes. -/
lemma map_unquotedFrom (s : Text) : ∀ offset : Nat,
    (unquotedFrom offset s).map Prod.snd = (bareChars none s).filter (!isQuote ·) := by
  fun_induction pieces s with
  | case1 => exact fun offset => rfl
  | case2 q rest hq ih =>
      intro offset
      -- outside its run there is nothing but the quotes
      have hrun : (bareChars none (q :: (takeQuoted q rest).1)).filter (!isQuote ·) = [] := by
        rw [List.filter_eq_nil_iff]
        intro d hd
        have hquote : d = q := by
          rcases takeQuoted_run q rest with hclosed | ⟨hopen, -⟩
          · exact hclosed.bareChars hq d hd
          · exact hopen.bareChars hq d hd
        rw [hquote, hq]
        exact Bool.false_ne_true
      have hbare : bareChars none (q :: rest) = bareChars none (q :: (takeQuoted q rest).1) ++
          bareChars none (takeQuoted q rest).2 := by
        conv_lhs => rw [← cons_takeQuoted_append q rest]
        by_cases hrest : (takeQuoted q rest).2 = []
        · rw [hrest, List.append_nil, bareChars, List.append_nil]
        · exact ((isClosedRun_takeQuoted hrest).quotesClosed hq).bareChars_append _
      rw [unquotedFrom_run hq, ih, hbare, List.filter_append, hrun, List.nil_append]
  | case3 c rest hc ih =>
      intro offset
      have hplain : isQuote c = false := Bool.eq_false_of_not_eq_true hc
      have hbare : bareChars none (c :: rest) = c :: bareChars none rest := by
        rw [bareChars, quoteAfter, hplain]
        rfl
      rw [unquotedFrom_plain hplain, List.map_cons, ih, hbare, List.filter_cons_of_pos]
      rw [hplain]
      rfl

/-- **Two texts one behind the other** show what each of them shows, if the first one closes its
quotes and the second one does not start with one. -/
lemma unquotedFrom_append (hm : Separates m) (a : Text) : QuotesClosed a → ∀ offset : Nat,
    unquotedFrom offset (a ++ m) = unquotedFrom offset a ++ unquotedFrom (offset + a.bytes) m := by
  fun_induction pieces a with
  | case1 => exact fun _ offset => rfl
  | case2 q rest hq ih =>
      intro hclosed offset
      have hread := takeQuoted_append_of_closed hq (hclosed.isClosedRun hq) (hm.head_ne_quote hq)
      have hbytes : Text.bytes (q :: rest) =
          Text.bytes (q :: (takeQuoted q rest).1) + Text.bytes (takeQuoted q rest).2 := by
        rw [← Text.bytes_append, cons_takeQuoted_append]
      rw [List.cons_append, unquotedFrom_run hq, hread, unquotedFrom_run hq,
        ih (hclosed.takeQuoted hq), hbytes, Nat.add_assoc]
  | case3 c rest hc ih =>
      intro hclosed offset
      have hplain : isQuote c = false := Bool.eq_false_of_not_eq_true hc
      have hrest : QuotesClosed rest := by
        rw [QuotesClosed, List.foldl_cons, quoteAfter, if_neg hc] at hclosed
        exact hclosed
      rw [List.cons_append, unquotedFrom_plain hplain, unquotedFrom_plain hplain, ih hrest,
        List.cons_append, Text.bytes_cons, Nat.add_assoc]

end SqlFragments
