import SqlFragments.Proofs.Text.Blank
import SqlFragments.Proofs.Text.Case
import SqlFragments.Proofs.Text.Quoted
import SqlFragments.Proofs.Text.Trim
import SqlFragments.Proofs.Token.Scan

/-!
# Texts whose quotes are closed

From left to right, a quote opens a run and the next quote of the same kind closes it.  A quote
written twice closes a run and opens the next one at once, so one character at a time is enough to
tell whether a quote is open.  That is all a fragment has to say about its quotes before something
is written behind it.

* `QuotesClosed` — no quote is open at the end of a text.
* `QuotesClosed.append`, `QuotesClosed.join` — closed texts written one behind the other.
* **`takeQuoted_append_of_closed`** — a run that is closed ends where it ends, whatever follows.
-/

namespace SqlFragments

/-- The quote that is open behind one more character. -/
def quoteAfter (quote : Option Char) (c : Char) : Option Char :=
  match quote with
  | some q => if c = q then none else some q
  | none => if isQuote c then some c else none

/-- No quote is open at the end of a text. -/
def QuotesClosed (s : Text) : Prop :=
  s.foldl quoteAfter none = none

instance : DecidablePred QuotesClosed := fun s =>
  inferInstanceAs (Decidable (s.foldl quoteAfter none = none))

variable {a b s : Text}

lemma QuotesClosed.append_iff (ha : QuotesClosed a) : QuotesClosed (a ++ b) ↔ QuotesClosed b := by
  rw [QuotesClosed, List.foldl_append, ha, QuotesClosed]

lemma QuotesClosed.append (ha : QuotesClosed a) (hb : QuotesClosed b) : QuotesClosed (a ++ b) :=
  ha.append_iff.mpr hb

lemma quoteAfter_of_not_isQuote {quote : Option Char} {c : Char}
    (hquote : ∀ q, quote = some q → isQuote q = true) (hc : isQuote c = false) :
    quoteAfter quote c = quote := by
  cases quote with
  | none => rw [quoteAfter, hc, if_neg Bool.false_ne_true]
  | some q =>
      have hne : c ≠ q := by
        intro heq
        rw [heq, hquote q rfl] at hc
        cases hc
      rw [quoteAfter, if_neg hne]

/-- Characters that are no quotes change nothing. -/
lemma foldl_of_quoteless {quote : Option Char} (hquote : ∀ q, quote = some q → isQuote q = true)
    (h : ∀ c ∈ s, isQuote c = false) : s.foldl quoteAfter quote = quote := by
  induction s with
  | nil => rfl
  | cons c rest ih =>
      obtain ⟨hc, hrest⟩ := List.forall_mem_cons.mp h
      rw [List.foldl_cons, quoteAfter_of_not_isQuote hquote hc, ih hrest]

lemma quotesClosed_of_quoteless (h : ∀ c ∈ s, isQuote c = false) : QuotesClosed s :=
  foldl_of_quoteless (fun _ hq => by cases hq) h

/-- No character of a class without quotes is a quote. -/
lemma quoteless_of_class {p : Char → Bool}
    (hp : p '\'' = false ∧ p '"' = false ∧ p '\x60' = false) (h : ∀ c ∈ s, p c = true) :
    ∀ c ∈ s, isQuote c = false := by
  refine fun c hc => Bool.eq_false_of_not_eq_true fun hquote => ?_
  have hnot : p c = false := apply_quote (P := fun c => p c = false) hp hquote
  rw [h c hc] at hnot
  cases hnot

lemma quoteless_of_isBlank (h : s.isBlank = true) : ∀ c ∈ s, isQuote c = false :=
  quoteless_of_class (by decide) (List.all_eq_true.mp h)

/-- Every character of a plain name continues an identifier. -/
lemma continues_of_isPlainName (h : isPlainName s = true) :
    ∀ c ∈ s, continuesIdentifier c = true := by
  cases s with
  | nil => exact List.forall_mem_nil _
  | cons c rest =>
      rw [isPlainName, Bool.and_eq_true, List.all_eq_true] at h
      exact List.forall_mem_cons.mpr ⟨continuesIdentifier_of_starts h.1, h.2⟩

lemma quoteless_of_isPlainName (h : isPlainName s = true) : ∀ c ∈ s, isQuote c = false :=
  quoteless_of_class (by decide) (continues_of_isPlainName h)

/-- What is open behind a text is a quote. -/
lemma isQuote_of_open (s : Text) : ∀ {quote : Option Char} {q : Char},
    (∀ q, quote = some q → isQuote q = true) → s.foldl quoteAfter quote = some q →
      isQuote q = true := by
  induction s with
  | nil => exact fun hquote h => hquote _ h
  | cons c rest ih =>
      intro quote q hquote h
      refine ih (fun r hr => ?_) h
      cases hc : isQuote c with
      | false =>
          rw [quoteAfter_of_not_isQuote hquote hc] at hr
          exact hquote r hr
      | true =>
          cases quote with
          | none =>
              rw [quoteAfter, hc, if_pos rfl] at hr
              exact Option.some.inj hr ▸ hc
          | some p =>
              rw [quoteAfter] at hr
              split_ifs at hr
              exact Option.some.inj hr ▸ hquote p rfl

/-- No quote is closed by characters that are none. -/
lemma QuotesClosed.of_append (h : QuotesClosed (a ++ b)) (hb : ∀ c ∈ b, isQuote c = false) :
    QuotesClosed a := by
  have hopen : ∀ q, a.foldl quoteAfter none = some q → isQuote q = true := fun q hq =>
    isQuote_of_open a (fun _ hnone => by cases hnone) hq
  rw [QuotesClosed, List.foldl_append, foldl_of_quoteless hopen hb] at h
  exact h

lemma QuotesClosed.join {separator : Text} (hseparator : QuotesClosed separator) :
    ∀ {parts : List Text}, (∀ p ∈ parts, QuotesClosed p) → QuotesClosed (Text.join separator parts)
  | [], _ => rfl
  | [p], h => by
      rw [Text.join_singleton]
      exact h p List.mem_cons_self
  | p :: q :: rest, h => by
      obtain ⟨hp, hrest⟩ := List.forall_mem_cons.mp h
      rw [Text.join_cons_cons]
      exact (hp.append hseparator).append (hseparator.join hrest)

lemma quotesClosed_of_isBlank (h : s.isBlank = true) : QuotesClosed s :=
  quotesClosed_of_quoteless (quoteless_of_isBlank h)

lemma quotesClosed_of_isPlainName (h : isPlainName s = true) : QuotesClosed s :=
  quotesClosed_of_quoteless (quoteless_of_isPlainName h)

/-- White space in front of a text neither opens nor closes a quote. -/
lemma QuotesClosed.dropWhile_isBlank (h : QuotesClosed s) :
    QuotesClosed (s.dropWhile isBlank) := by
  rw [← List.takeWhile_append_dropWhile (p := isBlank) (l := s)] at h
  exact (quotesClosed_of_isBlank List.all_takeWhile).append_iff.mp h

/-- Trimming a text neither opens nor closes a quote. -/
lemma QuotesClosed.trim (h : QuotesClosed s) : QuotesClosed s.trim := by
  obtain ⟨a, b, ha, hb, hs⟩ := Text.exists_trim s
  rw [hs] at h
  exact ((quotesClosed_of_isBlank ha).append_iff.mp h).of_append (quoteless_of_isBlank hb)

/-! ## Runs -/

lemma quoteAfter_open {q : Char} (hq : isQuote q = true) : quoteAfter none q = some q :=
  if_pos hq

lemma quoteAfter_close (q : Char) : quoteAfter (some q) q = none :=
  if_pos rfl

variable {q : Char}

/-- Quotes that are written twice leave the run open. -/
lemma foldl_of_quotesDoubled (hq : isQuote q = true) (s : Text) : quotesDoubled q s = true →
    s.foldl quoteAfter (some q) = some q := by
  fun_induction quotesDoubled q s with
  | case1 => intro _; rfl
  | case2 c =>
      intro hc
      exact if_neg (bne_iff_ne.mp hc)
  | case3 d more ih =>
      intro h
      rw [Bool.and_eq_true, beq_iff_eq] at h
      obtain ⟨rfl, hmore⟩ := h
      rw [List.foldl_cons, List.foldl_cons, quoteAfter_close, quoteAfter_open hq]
      exact ih hmore
  | case4 c d more hc ih =>
      intro h
      rw [List.foldl_cons, quoteAfter, if_neg hc]
      exact ih h

lemma IsClosedRun.quotesClosed (hq : isQuote q = true) (h : IsClosedRun q s) :
    QuotesClosed s := by
  obtain ⟨inner, rfl, hinner⟩ := h
  rw [QuotesClosed, List.foldl_cons, quoteAfter_open hq, List.foldl_append,
    foldl_of_quotesDoubled hq inner hinner, List.foldl_cons, quoteAfter_close, List.foldl_nil]

/-- What is left behind a piece that is closed, or is all of the text, is closed. -/
lemma quotesClosed_rest {piece rest s : Text} (happ : piece ++ rest = s) (hs : QuotesClosed s)
    (hpiece : rest ≠ [] → QuotesClosed piece) : QuotesClosed rest := by
  by_cases hnil : rest = []
  · rw [hnil]
    rfl
  · rw [← happ] at hs
    exact (hpiece hnil).append_iff.mp hs

/-- What follows a run in a closed text is closed. -/
lemma QuotesClosed.takeQuoted (hs : QuotesClosed (q :: s)) (hq : isQuote q = true) :
    QuotesClosed (takeQuoted q s).2 :=
  quotesClosed_rest (cons_takeQuoted_append q s) hs fun hrest =>
    (isClosedRun_takeQuoted hrest).quotesClosed hq

/-- The first run of a closed text is closed. -/
lemma QuotesClosed.isClosedRun (hs : QuotesClosed (q :: s)) (hq : isQuote q = true) :
    IsClosedRun q (q :: (SqlFragments.takeQuoted q s).1) := by
  refine (takeQuoted_run q s).resolve_right ?_
  rintro ⟨⟨inner, heq, hinner⟩, hrest⟩
  have happ := takeQuoted_append q s
  rw [hrest, List.append_nil, (List.cons.inj heq).2] at happ
  rw [← happ, QuotesClosed, List.foldl_cons, quoteAfter_open hq,
    foldl_of_quotesDoubled hq inner hinner] at hs
  cases hs

/-- **A closed run ends where it ends**, whatever but its quote stands behind the text. -/
lemma takeQuoted_append_of_closed (hq : isQuote q = true)
    (hrun : IsClosedRun q (q :: (takeQuoted q s).1)) {m : Text} (hm : m.head? ≠ some q) :
    takeQuoted q (s ++ m) = ((takeQuoted q s).1, (takeQuoted q s).2 ++ m) := by
  rcases closed_or_open q s with ⟨inner, rest, rfl, hinner, hrest⟩ | hopen
  · have hnext : (rest ++ m).head? ≠ some q := by
      cases rest with
      | nil => exact hm
      | cons c more => exact hrest
    rw [takeQuoted_closed hrest inner hinner, List.append_assoc, List.cons_append,
      takeQuoted_closed hnext inner hinner]
  · have hclosed := hrun.quotesClosed hq
    rw [takeQuoted_open s hopen, QuotesClosed, List.foldl_cons, quoteAfter_open hq,
      foldl_of_quotesDoubled hq s hopen] at hclosed
    cases hclosed

end SqlFragments
