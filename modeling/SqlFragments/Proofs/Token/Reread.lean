import SqlFragments.Proofs.Text.Blank
import SqlFragments.Proofs.Token.Shape

/-!
# Tokens are read back from their texts

A literal, a chain, a number or a parameter is read back from its text, whatever stands behind it
within reason: a space, a closing parenthesis, a comma or a cast.

* `Closes`, `Stops` — no segment goes on, or no token does.
* **`ChainFits.readChain`** — the segments of an identifier, one after the other.
* `ReadsAs` — the token at the start of a text, and the rest.
* `ChainFits.readsAs`, `literal_readsAs`, `number_readsAs`, `parameter_readsAs` — one token of
  each kind.
-/

namespace SqlFragments

/-! ## Where tokens end -/

/-- Neither an identifier character nor a quote comes next. -/
def Closes (rest : Text) : Prop :=
  rest.head?.any (fun c => continuesIdentifier c || isQuote c) = false

/-- The text ends, or a space, `)`, `,` or `:` comes next. -/
def Stops (rest : Text) : Prop :=
  ∀ c, rest.head? = some c → c ∈ [' ', ')', ',', ':']

lemma Stops.head_any {p : Char → Bool} {rest : Text} (h : Stops rest)
    (hp : [' ', ')', ',', ':'].all (fun c => !p c) = true) : rest.head?.any p = false := by
  cases rest with
  | nil => rfl
  | cons c more =>
      have hc := List.all_eq_true.mp hp c (h c rfl)
      rw [Bool.not_eq_true'] at hc
      exact hc

lemma Stops.closes {rest : Text} (h : Stops rest) : Closes rest :=
  h.head_any (by decide)

lemma Closes.continues {rest : Text} (h : Closes rest) :
    rest.head?.any continuesIdentifier = false := by
  cases rest with
  | nil => rfl
  | cons c more => exact (Bool.or_eq_false_iff.mp h).1

lemma Closes.quote {rest : Text} (h : Closes rest) {q : Char} (hq : isQuote q = true) :
    rest.head? ≠ some q := by
  intro hhead
  rw [Closes, hhead, Option.any_some, hq, Bool.or_true] at h
  cases h

/-! ## Chains -/

lemma SegmentFits.head {final : Prop} {a : Text} (h : SegmentFits final a) :
    a.head?.any startsSegment = true := by
  rcases h.plain_or_quoted with hplain | ⟨q, t, rfl, hq⟩
  · cases a with
    | nil => cases hplain
    | cons c t =>
        rw [isPlainName, Bool.and_eq_true] at hplain
        rw [List.head?_cons, Option.any_some, startsSegment, hplain.1, Bool.true_or]
  · rw [List.head?_cons, Option.any_some, startsSegment, hq, Bool.or_true]

lemma ChainFits.head {final : Prop} {first : Text} {more : List Text}
    (h : ChainFits final (first :: more)) : first.head?.any startsSegment = true := by
  cases h with
  | last hfirst => exact hfirst.head
  | star hname => exact SegmentFits.head (Or.inl hname : SegmentFits False first)
  | cons hname _ => exact SegmentFits.head (Or.inl hname : SegmentFits False first)

/-- **A segment is read back** where none goes on. -/
lemma IsName.readSegment {a rest : Text} (h : IsName a) (hrest : Closes rest) :
    readSegment (a ++ rest) = (a, rest) := by
  rcases h with hplain | ⟨q, hq, hclosed⟩
  · cases a with
    | nil => cases hplain
    | cons c t =>
        rw [isPlainName, Bool.and_eq_true, List.all_eq_true] at hplain
        obtain ⟨hc, ht⟩ := hplain
        have hquote : isIdentifierQuote c = false := by
          rw [← Bool.not_eq_true]
          intro hq
          rw [startsIdentifier_of_isQuote (isQuote_of_isIdentifierQuote hq)] at hc
          cases hc
        have hall : ∀ d ∈ c :: t, continuesIdentifier d = true :=
          List.forall_mem_cons.mpr ⟨continuesIdentifier_of_starts hc, ht⟩
        obtain ⟨htake, hdrop⟩ := takeWhile_append_of_head hall hrest.continues
        rw [readSegment_plain (by rw [List.cons_append, List.head?_cons]; exact hquote), htake,
          hdrop]
  · obtain ⟨inner, rfl, _⟩ := id hclosed
    rw [List.cons_append, readSegment_quoted hq,
      hclosed.takeQuoted (hrest.quote (isQuote_of_isIdentifierQuote hq))]

/-- Further segments, each behind a dot. -/
def dotted : List Text → Text
  | [] => []
  | a :: more => '.' :: (a ++ dotted more)

lemma join_eq_dotted (first : Text) (more : List Text) :
    Text.join ['.'] (first :: more) = first ++ dotted more := by
  induction more generalizing first with
  | nil => rw [Text.join_singleton, dotted, List.append_nil]
  | cons a more ih =>
      rw [Text.join_cons_cons, ih, dotted, List.append_assoc, List.singleton_append]

/-- **A chain is read back** in front of a text that does not take it further. -/
lemma ChainFits.readChain {final : Prop} {segments : List Text} {rest : Text}
    (h : ChainFits final segments) (hrest : Closes rest) (hdot : opensSegment rest = false)
    (hend : final → rest = []) : ∀ first more, segments = first :: more →
      readSegment (first ++ (dotted more ++ rest)) = (first, dotted more ++ rest) ∧
        readChain (dotted more ++ rest) = (more, rest) := by
  induction h with
  | @last a ha =>
      rintro first more ⟨⟩
      refine ⟨?_, readChain_stop hdot⟩
      rcases ha with hname | ⟨hfinal, q, hq, hopen⟩
      · exact hname.readSegment hrest
      · obtain ⟨inner, rfl, _⟩ := id hopen
        rw [hend hfinal, dotted, List.append_nil, List.append_nil, readSegment_quoted hq,
          hopen.takeQuoted]
  | @star a ha =>
      rintro first more ⟨⟩
      have hdots : dotted [['*']] ++ rest = '.' :: '*' :: rest := rfl
      rw [hdots, readChain_star]
      exact ⟨ha.readSegment rfl, rfl⟩
  | @cons a more ha hmore ih =>
      rintro first more' ⟨⟩
      cases more with
      | nil => cases hmore
      | cons b more =>
          obtain ⟨hsegment, hchain⟩ := ih b more rfl
          have hdots : dotted (b :: more) ++ rest = '.' :: (b ++ (dotted more ++ rest)) := by
            rw [dotted, List.cons_append, List.append_assoc]
          rw [hdots, readChain_segment (head_any_append hmore.head _), hsegment, hchain]
          exact ⟨ha.readSegment rfl, rfl⟩

/-! ## One token -/

/-- The first token of a text that starts with no white space, and the rest. -/
def ReadsAs (s : Text) (t : Token) (rest : Text) : Prop :=
  ∃ c more, s = c :: more ∧ isBlank c = false ∧ readToken c more = (t, rest)

lemma tokens_of_readsAs {s : Text} {t : Token} {rest : Text} (h : ReadsAs s t rest) :
    tokens s = t :: tokens rest := by
  obtain ⟨c, more, rfl, hblank, hread⟩ := h
  have hdrop : (c :: more).dropWhile isBlank = c :: more := by
    rw [List.dropWhile_cons, hblank, if_neg Bool.false_ne_true]
  rw [tokens_of_token hdrop, hread]

lemma isBlank_of_startsSegment {c : Char} (h : startsSegment c = true) : isBlank c = false := by
  rw [← Bool.not_eq_true]
  intro hblank
  rw [startsSegment, startsIdentifier_of_isBlank hblank, Bool.false_or] at h
  have hquote := isQuote_of_isIdentifierQuote h
  rw [isQuote_of_isBlank hblank] at hquote
  cases hquote

lemma ChainFits.readsAs {final : Prop} {segments : List Text} {rest : Text}
    (h : ChainFits final segments) (hrest : Closes rest) (hdot : opensSegment rest = false)
    (hend : final → rest = []) :
    ReadsAs (Text.join ['.'] segments ++ rest) (chainToken segments rest) rest := by
  cases segments with
  | nil => cases h
  | cons first more =>
      obtain ⟨hsegment, hchain⟩ := h.readChain hrest hdot hend first more rfl
      have hfirst := h.head
      rw [join_eq_dotted, List.append_assoc]
      cases first with
      | nil => cases hfirst
      | cons c t =>
          refine ⟨c, t ++ (dotted more ++ rest), rfl, isBlank_of_startsSegment hfirst, ?_⟩
          rw [readToken_segment hfirst]
          simp only [readIdentifier]
          rw [← List.cons_append, hsegment, hchain]

lemma ChainFits.ne_star {final : Prop} {segments : List Text} (h : ChainFits final segments) :
    segments ≠ [['*']] := by
  rintro rfl
  exact absurd (show startsSegment '*' = true from h.head) (by decide)

lemma isPlainName_of_isKeyword {w : Text} (h : isKeyword w = true) : isPlainName w = true := by
  have hall : keywords.all (fun k => !k.isEmpty && k.all startsIdentifier) = true := by decide
  have hlower := List.all_eq_true.mp hall _ (List.contains_iff_mem.mp h)
  rw [Text.toAsciiLower, Bool.and_eq_true, List.all_map, List.all_eq_true] at hlower
  obtain ⟨hne, hletters⟩ := hlower
  have hstarts : ∀ c ∈ w, startsIdentifier c = true := fun c hc => by
    rw [← startsIdentifier_toLower]
    exact hletters c hc
  cases w with
  | nil => cases hne
  | cons c rest =>
      rw [isPlainName, hstarts c List.mem_cons_self, Bool.true_and, List.all_eq_true]
      exact fun d hd => continuesIdentifier_of_starts (hstarts d (List.mem_cons_of_mem _ hd))

lemma isQuotedSegment_of_isPlainName {a : Text} (h : isPlainName a = true) :
    isQuotedSegment a = false := by
  cases a with
  | nil => rfl
  | cons c rest =>
      rw [isQuotedSegment, ← Bool.not_eq_true]
      intro hq
      rw [isPlainName, startsIdentifier_of_isQuote (isQuote_of_isIdentifierQuote hq)] at h
      cases h

/-- A literal is read back, if no further quote follows it. -/
lemma literal_readsAs {t rest : Text} (hfit : IsClosedRun '\'' t ∨ IsOpenRun '\'' t ∧ rest = [])
    (hrest : Closes rest) : ReadsAs (t ++ rest) (.literal t) rest := by
  rcases hfit with hclosed | ⟨hopen, rfl⟩
  · obtain ⟨inner, rfl, _⟩ := id hclosed
    refine ⟨'\'', inner ++ ['\''] ++ rest, rfl, by decide, ?_⟩
    rw [readToken_literal, hclosed.takeQuoted (hrest.quote (by decide))]
  · obtain ⟨inner, rfl, _⟩ := id hopen
    refine ⟨'\'', inner ++ [], rfl, by decide, ?_⟩
    rw [readToken_literal, List.append_nil, hopen.takeQuoted]

lemma not_startsSegment_of_digit {c : Char} (h : (c.isDigit || c == '.') = true) :
    isBlank c = false ∧ c ≠ '\'' ∧ startsSegment c = false := by
  rcases Bool.or_eq_true_iff.mp h with hdigit | hdot
  · have hascii : c.toNat < 128 := by
      have hnine : c.toNat ≤ 57 :=
        UInt32.le_iff_toNat_le.mp (of_decide_eq_true (Bool.and_eq_true_iff.mp hdigit).2)
      omega
    obtain ⟨n, rfl⟩ := exists_fin_of_ascii hascii
    revert n
    decide
  · obtain rfl := eq_of_beq hdot
    decide

lemma readExponent_append_of_stops {exponent rest : Text} (h : IsExponent exponent)
    (hrest : Stops rest) :
    (exponent ++ rest).head?.any (fun c => c.isDigit || c == '.') = false ∧
      readExponent (exponent ++ rest) = (exponent, rest) := by
  rcases h with rfl | ⟨hopens, hdigits⟩
  · refine ⟨hrest.head_any (by decide), readExponent_stop ?_⟩
    rw [List.nil_append, opensExponent, hrest.head_any (by decide), Bool.false_and]
  · obtain ⟨e, x, ds, rfl⟩ := exists_of_opensExponent hopens
    have hmore : opensExponent (e :: x :: (ds ++ rest)) = true := by
      rw [opensExponent, Bool.and_eq_true, Bool.or_eq_true, Bool.and_eq_true] at hopens ⊢
      exact hopens.imp_right fun h => h.imp_right fun hsign => hsign.imp_right fun hdigit =>
        head_any_append hdigit rest
    have hds : ∀ d ∈ ds, d.isDigit = true := hdigits
    obtain ⟨htake, hdrop⟩ := takeWhile_append_of_head hds (hrest.head_any (by decide))
    rw [List.cons_append, List.cons_append, readExponent_digits hmore, htake, hdrop]
    refine ⟨?_, rfl⟩
    have he : (e == 'e' || e == 'E') = true := (Bool.and_eq_true_iff.mp hopens).1
    rw [List.head?_cons, Option.any_some]
    rcases Bool.or_eq_true_iff.mp he with he | he <;>
      · obtain rfl := eq_of_beq he
        decide

/-- **A number is read back** where no token goes on. -/
lemma number_readsAs {t rest : Text} (h : IsNumber t) (hrest : Stops rest) :
    ReadsAs (t ++ rest) (.number t) rest := by
  obtain ⟨c, mantissa, exponent, rfl, hfirst, hmantissa, hexponent⟩ := h
  have hc := isDigit_or_dot hfirst
  obtain ⟨hblank, hliteral, hsegment⟩ := not_startsSegment_of_digit hc
  have hcond :
      (c.isDigit || c == '.' && startsWithDigit (mantissa ++ exponent ++ rest)) = true := by
    simp only [Bool.or_eq_true, Bool.and_eq_true] at hfirst ⊢
    rw [List.append_assoc]
    exact hfirst.imp_right fun hdot => hdot.imp_right fun hdigit => head_any_append hdigit _
  obtain ⟨hhead, hread⟩ := readExponent_append_of_stops hexponent hrest
  obtain ⟨htake, hdrop⟩ := takeWhile_append_of_head (p := fun c => c.isDigit || c == '.')
    (List.forall_mem_cons.mpr ⟨hc, hmantissa⟩) hhead
  refine ⟨c, mantissa ++ exponent ++ rest, rfl, hblank, ?_⟩
  rw [readToken_number hliteral hsegment hcond]
  simp only [readNumber]
  rw [List.append_assoc, ← List.cons_append, htake, hdrop, hread, List.cons_append]

/-- **A parameter is read back** where no digit follows. -/
lemma parameter_readsAs {t rest : Text} (h : IsParameter t) (hrest : Stops rest) :
    ReadsAs (t ++ rest) (.parameter t) rest := by
  obtain ⟨c, digits, rfl, hfirst, hdigits⟩ := h
  have hcond : (c == '?' || c == '$' && startsWithDigit (digits ++ rest)) = true := by
    simp only [Bool.or_eq_true, Bool.and_eq_true] at hfirst ⊢
    exact hfirst.imp_right fun hdollar => hdollar.imp_right fun hdigit =>
      head_any_append hdigit rest
  have hclass : isBlank c = false ∧ c ≠ '\'' ∧ startsSegment c = false ∧ c.isDigit = false ∧
      (c == '.') = false := by
    rcases eq_question_or_dollar hfirst with rfl | rfl <;> decide
  obtain ⟨hblank, hliteral, hsegment, hdigit, hdot⟩ := hclass
  obtain ⟨htake, hdrop⟩ := takeWhile_append_of_head hdigits (hrest.head_any (by decide))
  refine ⟨c, digits ++ rest, rfl, hblank, ?_⟩
  have hnumber : (c.isDigit || c == '.' && startsWithDigit (digits ++ rest)) = false := by
    rw [hdigit, hdot, Bool.false_and, Bool.or_false]
  rw [readToken_parameter hliteral hsegment hnumber hcond, htake, hdrop]

end SqlFragments
