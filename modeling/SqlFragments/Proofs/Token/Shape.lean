import SqlFragments.Proofs.Text.Case
import SqlFragments.Proofs.Token.Parts
import SqlFragments.Token.Render

/-!
# The shape of tokens

What a token is made of depends on its kind, and a little on the token behind it: a quote that is
never closed is the end of the text, and a name in front of a parenthesis is a function.  This
file states the shapes and shows that reading gives no others.

* `ChainFits` — the segments of an identifier.
* `IsNumber`, `IsParameter`, `isMark` — the characters of the other tokens.
* `Token.Fits`, `Fitting` — a token in front of the next one, and all tokens of a list.
* **`tokens_fitting`** — the tokens of every text are of that shape.
-/

namespace SqlFragments

/-! ## Chains -/

/-- A segment that ends by itself, or an open one at the end of the text. -/
def SegmentFits (final : Prop) (a : Text) : Prop :=
  IsName a ∨ final ∧ ∃ q, isIdentifierQuote q = true ∧ IsOpenRun q a

/-- The segments of an identifier: all but the last end by themselves, and the last one may be
`*` behind a dot, or open at the end of the text. -/
inductive ChainFits (final : Prop) : List Text → Prop
  | last {a : Text} : SegmentFits final a → ChainFits final [a]
  | star {a : Text} : IsName a → ChainFits final [a, ['*']]
  | cons {a : Text} {more : List Text} : IsName a → ChainFits final more →
      ChainFits final (a :: more)

lemma readSegment_fits {final : Prop} {s : Text} (hs : s.head?.any startsSegment = true)
    (hrest : (readSegment s).2 = [] → final) : SegmentFits final (readSegment s).1 :=
  (readSegment_run hs).imp_right fun hopen => ⟨hrest hopen.1, hopen.2⟩

lemma SegmentFits.plain_or_quoted {final : Prop} {a : Text} (h : SegmentFits final a) :
    isPlainName a = true ∨ ∃ q t, a = q :: t ∧ isIdentifierQuote q = true := by
  rcases h with (hplain | ⟨q, hq, inner, rfl, _⟩) | ⟨_, q, hq, inner, rfl, _⟩
  · exact Or.inl hplain
  · exact Or.inr ⟨q, _, rfl, hq⟩
  · exact Or.inr ⟨q, _, rfl, hq⟩

/-- Every segment of a chain fits, but for the `*` at the end. -/
lemma ChainFits.mem {final : Prop} {segments : List Text} (h : ChainFits final segments) :
    ∀ a ∈ segments, SegmentFits final a ∨ a = ['*'] := by
  induction h with
  | last ha => exact List.forall_mem_singleton.mpr (Or.inl ha)
  | star ha =>
      exact List.forall_mem_cons.mpr
        ⟨Or.inl (Or.inl ha), List.forall_mem_singleton.mpr (Or.inr rfl)⟩
  | cons ha _ ih => exact List.forall_mem_cons.mpr ⟨Or.inl (Or.inl ha), ih⟩

/-- A first segment and the chain behind it fit. -/
lemma readChain_fits {final : Prop} (s : Text) : ((readChain s).2 = [] → final) →
    ∀ first, (s ≠ [] → IsName first) → (s = [] → SegmentFits final first) →
      ChainFits final (first :: (readChain s).1) := by
  induction s using chain_induction with
  | stop s hs =>
      intro _ first hname hopen
      rw [readChain_stop hs]
      by_cases hnil : s = []
      · exact ChainFits.last (hopen hnil)
      · exact ChainFits.last (Or.inl (hname hnil))
  | star rest =>
      intro _ first hname _
      rw [readChain_star]
      exact ChainFits.star (hname (List.cons_ne_nil _ _))
  | segment s hs ih =>
      intro hend first hname _
      -- `s` is not empty, so the segment in front of it ends by itself
      rw [readChain_segment hs] at hend ⊢
      refine ChainFits.cons (hname (List.cons_ne_nil _ _)) (ih hend _ (readSegment_isName hs) ?_)
      intro hnil
      refine readSegment_fits hs fun _ => hend ?_
      rw [hnil, readChain_stop rfl]

/-! ## Numbers and parameters -/

/-- Nothing, or an exponent with all its digits. -/
def IsExponent (s : Text) : Prop :=
  s = [] ∨ opensExponent s = true ∧ ∀ c ∈ s.drop 2, c.isDigit = true

/-- Digits and dots that a number starts with, and an exponent. -/
def IsNumber (s : Text) : Prop :=
  ∃ c mantissa exponent, s = c :: (mantissa ++ exponent) ∧
    (c.isDigit || c == '.' && startsWithDigit mantissa) = true ∧
    (∀ d ∈ mantissa, (d.isDigit || d == '.') = true) ∧ IsExponent exponent

/-- The first character of a number, whatever a dot may need behind it. -/
lemma isDigit_or_dot {c : Char} {more : Bool} (h : (c.isDigit || c == '.' && more) = true) :
    (c.isDigit || c == '.') = true := by
  rw [Bool.or_eq_true, Bool.and_eq_true] at h
  rw [Bool.or_eq_true]
  exact h.imp_right And.left

/-- The characters of numbers. -/
lemma IsNumber.mem {s : Text} (h : IsNumber s) {d : Char} (hd : d ∈ s) :
    d.isDigit = true ∨ d ∈ ['.', 'e', 'E', '+', '-'] := by
  have hdot : ∀ {d : Char}, (d.isDigit || d == '.') = true →
      d.isDigit = true ∨ d ∈ ['.', 'e', 'E', '+', '-'] := by
    intro d hd
    rw [Bool.or_eq_true, beq_iff_eq] at hd
    exact hd.imp_right fun h => by rw [h]; exact List.mem_cons_self
  obtain ⟨c, mantissa, exponent, rfl, hfirst, hmantissa, hexponent⟩ := h
  rw [List.mem_cons, List.mem_append] at hd
  rcases hd with rfl | hd | hd
  · exact hdot (isDigit_or_dot hfirst)
  · exact hdot (hmantissa d hd)
  · rcases hexponent with rfl | ⟨hopens, hdigits⟩
    · cases hd
    · obtain ⟨e, x, digits, rfl⟩ := exists_of_opensExponent hopens
      rw [opensExponent, Bool.and_eq_true, Bool.or_eq_true, Bool.and_eq_true] at hopens
      obtain ⟨he, hx⟩ := hopens
      simp only [List.head?_cons, List.tail_cons, Option.any_some, Bool.or_eq_true,
        beq_iff_eq] at he hx
      rcases List.mem_cons.mp hd with rfl | hd
      · rcases he with rfl | rfl
        · exact Or.inr (by decide)
        · exact Or.inr (by decide)
      · rcases List.mem_cons.mp hd with rfl | hd
        · rcases hx with hx | ⟨rfl | rfl, -⟩
          · exact Or.inl hx
          · exact Or.inr (by decide)
          · exact Or.inr (by decide)
        · exact Or.inl (hdigits d hd)

/-- `?` or `$`, and digits; `$` alone is no parameter. -/
def IsParameter (s : Text) : Prop :=
  ∃ c digits, s = c :: digits ∧ (c == '?' || c == '$' && startsWithDigit digits) = true ∧
    ∀ d ∈ digits, d.isDigit = true

lemma eq_question_or_dollar {c : Char} {more : Bool} (h : (c == '?' || c == '$' && more) = true) :
    c = '?' ∨ c = '$' := by
  rw [Bool.or_eq_true, Bool.and_eq_true, beq_iff_eq, beq_iff_eq] at h
  exact h.imp_right And.left

lemma head_takeWhile (p : Char → Bool) (s : Text) :
    (s.takeWhile p).head?.any p = s.head?.any p := by
  cases s with
  | nil => rfl
  | cons c rest =>
      rw [List.takeWhile_cons]
      split_ifs with hc
      · rfl
      · rw [List.head?_cons, Option.any_some, Bool.eq_false_of_not_eq_true hc]
        rfl

lemma readExponent_shape (s : Text) : IsExponent (readExponent s).1 := by
  cases hs : opensExponent s with
  | false =>
      rw [readExponent_stop hs]
      exact Or.inl rfl
  | true =>
      obtain ⟨e, x, rest, rfl⟩ := exists_of_opensExponent hs
      rw [readExponent_digits hs]
      refine Or.inr ⟨?_, fun c hc => List.mem_takeWhile_imp hc⟩
      simp only [opensExponent, List.head?_cons, List.tail_cons, Option.any_some,
        head_takeWhile] at hs ⊢
      exact hs

lemma readNumber_shape {c : Char} {rest : Text}
    (hc : (c.isDigit || c == '.' && startsWithDigit rest) = true) :
    ∃ t, (readNumber (c :: rest)).1 = .number t ∧ IsNumber t := by
  have hfirst := isDigit_or_dot hc
  refine ⟨_, rfl, c, rest.takeWhile (fun c => c.isDigit || c == '.'),
    (readExponent ((c :: rest).dropWhile fun c => c.isDigit || c == '.')).1, ?_, ?_, ?_,
    readExponent_shape _⟩
  · rw [List.takeWhile_cons, if_pos hfirst, List.cons_append]
  · have hdigit : startsWithDigit (rest.takeWhile fun c => c.isDigit || c == '.')
        = startsWithDigit rest := by
      cases rest with
      | nil => rfl
      | cons d more =>
          rw [List.takeWhile_cons]
          split_ifs with hd
          · rfl
          · rw [Bool.or_eq_true, not_or] at hd
            rw [startsWithDigit, startsWithDigit, List.head?_cons, Option.any_some,
              Bool.eq_false_of_not_eq_true hd.1]
            rfl
    rw [hdigit]
    exact hc
  · exact fun d hd => List.mem_takeWhile_imp (p := fun c => c.isDigit || c == '.') hd

/-! ## Marks -/

/-- A character that neither opens a word, a number or a parameter nor is a parenthesis or a
comma. -/
def isMark (c : Char) : Bool :=
  !isBlank c && !startsSegment c && c != '\'' && !c.isDigit && c != '?' && c != '(' && c != ')' &&
    c != ','

lemma isMark_iff {c : Char} : isMark c = true ↔
    isBlank c = false ∧ startsSegment c = false ∧ c ≠ '\'' ∧ c.isDigit = false ∧ c ≠ '?' ∧
      c ≠ '(' ∧ c ≠ ')' ∧ c ≠ ',' := by
  simp only [isMark, Bool.and_eq_true, Bool.not_eq_true', bne_iff_ne, and_assoc]

/-- A character of operators; the other marks are tokens of their own. -/
def isOperatorChar (c : Char) : Bool :=
  isMark c && c != '.' && c != '$'

lemma isOperatorChar_of_longOperator {op : Text} (hop : op ∈ longOperators) :
    ∀ x ∈ op, isOperatorChar x = true := by
  have hall : longOperators.all (·.all isOperatorChar) = true := by decide
  exact List.all_eq_true.mp (List.all_eq_true.mp hall op hop)

lemma isOperatorChar_of_shortOperator {c : Char} (hc : c ∈ shortOperators) :
    isOperatorChar c = true := by
  have hall : shortOperators.all isOperatorChar = true := by decide
  exact List.all_eq_true.mp hall c hc

/-! ## Tokens -/

/-- A token as it is read in front of `next`. -/
inductive Token.Fits (next : Option Token) : Token → Prop
  | literal {t : Text} : IsClosedRun '\'' t → Fits next (.literal t)
  | openLiteral {t : Text} : next = none → IsOpenRun '\'' t → Fits next (.literal t)
  | identifier {segments : List Text} : ChainFits (next = none) segments →
      (next = some .leftParen → endsPlain segments = false) → Fits next (.identifier segments)
  | function {segments : List Text} : segments ≠ [] → (∀ a ∈ segments, IsName a) →
      endsPlain segments = true → isLoneKeyword segments = false → next = some .leftParen →
      Fits next (.function (Text.join ['.'] segments))
  | keyword {w : Text} : SqlFragments.isKeyword w = true → Fits next (.keyword w)
  | number {t : Text} : IsNumber t → Fits next (.number t)
  | parameter {t : Text} : IsParameter t → Fits next (.parameter t)
  | leftParen : Fits next .leftParen
  | rightParen : Fits next .rightParen
  | comma : Fits next .comma
  | operator {op : Text} : op ≠ [] → (∀ x ∈ op, isOperatorChar x = true) →
      Fits next (.operator op)
  | other {c : Char} : isMark c = true → Fits next (.other c)

/-- Every token of a list fits in front of the one behind it. -/
def Fitting : List Token → Prop
  | [] => True
  | t :: rest => t.Fits rest.head? ∧ Fitting rest

lemma Fitting.exists_fits : ∀ {ts : List Token}, Fitting ts → ∀ t ∈ ts, ∃ next, t.Fits next
  | [], _, _, ht => by cases ht
  | u :: rest, h, t, ht => by
      rcases List.mem_cons.mp ht with rfl | ht
      · exact ⟨_, h.1⟩
      · exact h.2.exists_fits t ht

/-! ## Reading gives these shapes -/

/-- A text starts with an opening parenthesis, white space aside, when its first token is one. -/
lemma head_tokens_leftParen (s : Text) :
    (tokens s).head? = some .leftParen ↔ opensCall s = true := by
  cases hs : s.dropWhile isBlank with
  | nil =>
      rw [tokens_of_blank hs, opensCall, hs]
      constructor <;>
        · intro h
          cases h
  | cons c rest =>
      rw [tokens_of_token hs, opensCall, hs, List.head?_cons, List.head?_cons, beq_iff_eq,
        Option.some.injEq, Option.some.injEq]
      constructor
      · intro h
        have happ := readToken_append c rest
        rw [h] at happ
        exact (List.cons.inj happ).1.symm
      · rintro rfl
        rfl

lemma readIdentifier_fits {next : Option Token} {s : Text}
    (hs : s.head?.any startsSegment = true) (hend : (readIdentifier s).2 = [] → next = none)
    (hcall : next = some .leftParen ↔ opensCall (readIdentifier s).2 = true) :
    (readIdentifier s).1.Fits next := by
  simp only [readIdentifier] at hend hcall ⊢
  rw [chainToken_eq (readSegment_cons_ne_star hs _)]
  split_ifs with hkeyword hplain
  · obtain ⟨word, hword⟩ := isLoneKeyword_eq hkeyword
    rw [hword] at hkeyword ⊢
    rw [Text.join_singleton]
    exact Token.Fits.keyword (Bool.and_eq_true_iff.mp hkeyword).2
  · rw [Bool.and_eq_true] at hplain
    exact Token.Fits.function (List.cons_ne_nil _ _) (isName_of_call hs hplain.1 hplain.2)
      hplain.1 (Bool.eq_false_of_not_eq_true hkeyword) (hcall.mpr hplain.2)
  · refine Token.Fits.identifier ?_ fun hnext => ?_
    · refine readChain_fits _ hend _ (readSegment_isName hs) fun hnil => ?_
      refine readSegment_fits hs fun _ => hend ?_
      rw [hnil, readChain_stop rfl]
    · rw [hcall.mp hnext, Bool.and_true] at hplain
      exact Bool.eq_false_of_not_eq_true hplain

lemma readPunctuation_fits {next : Option Token} {c : Char} {rest : Text}
    (hc : c ≠ '(' → c ≠ ')' → c ≠ ',' → isMark c = true) :
    (readPunctuation c rest).1.Fits next := by
  rcases readPunctuation_cases c rest with
    ⟨_, h⟩ | ⟨_, h⟩ | ⟨_, h⟩ | ⟨⟨h1, h2, h3⟩, ⟨op, more, hmem, _, h⟩ | ⟨hshort, h⟩ | h⟩
  · rw [h]
    exact Token.Fits.leftParen
  · rw [h]
    exact Token.Fits.rightParen
  · rw [h]
    exact Token.Fits.comma
  · rw [h]
    exact Token.Fits.operator (List.ne_nil_of_length_pos (length_pos_of_longOperator hmem))
      (isOperatorChar_of_longOperator hmem)
  · rw [h]
    exact Token.Fits.operator (List.cons_ne_nil _ _)
      (List.forall_mem_singleton.mpr (isOperatorChar_of_shortOperator hshort))
  · rw [h]
    exact Token.Fits.other (hc h1 h2 h3)

/-- **A token that is read fits** in front of what follows. -/
lemma readToken_fits {next : Option Token} {c : Char} {rest : Text} (hblank : isBlank c = false)
    (hend : (readToken c rest).2 = [] → next = none)
    (hcall : next = some .leftParen ↔ opensCall (readToken c rest).2 = true) :
    (readToken c rest).1.Fits next := by
  by_cases hliteral : c = '\''
  · subst hliteral
    rw [readToken_literal] at hend ⊢
    rcases takeQuoted_run '\'' rest with hclosed | ⟨hopen, hnil⟩
    · exact Token.Fits.literal hclosed
    · exact Token.Fits.openLiteral (hend hnil) hopen
  cases hsegment : startsSegment c with
  | true =>
      rw [readToken_segment hsegment] at hend hcall ⊢
      exact readIdentifier_fits hsegment hend hcall
  | false =>
      cases hnumber : c.isDigit || c == '.' && startsWithDigit rest with
      | true =>
          rw [readToken_number hliteral hsegment hnumber]
          obtain ⟨t, ht, hshape⟩ := readNumber_shape hnumber
          rw [ht]
          exact Token.Fits.number hshape
      | false =>
          cases hparameter : c == '?' || c == '$' && startsWithDigit rest with
          | true =>
              rw [readToken_parameter hliteral hsegment hnumber hparameter]
              refine Token.Fits.parameter ⟨c, _, rfl, ?_, fun d hd => List.mem_takeWhile_imp hd⟩
              rw [startsWithDigit, head_takeWhile]
              exact hparameter
          | false =>
              rw [readToken_punctuation hliteral hsegment hnumber hparameter]
              refine readPunctuation_fits fun h1 h2 h3 => ?_
              rw [Bool.or_eq_false_iff] at hnumber hparameter
              exact isMark_iff.mpr ⟨hblank, hsegment, hliteral, hnumber.1,
                beq_eq_false_iff_ne.mp hparameter.1, h1, h2, h3⟩

/-- **The tokens of every text fit.** -/
lemma tokens_fitting (s : Text) : Fitting (tokens s) := by
  induction s using scan_induction with
  | blank s hs =>
      rw [tokens_of_blank hs]
      trivial
  | token s c rest hs ih =>
      rw [tokens_of_token hs]
      refine ⟨readToken_fits (isBlank_of_dropWhile hs) (fun hnil => ?_)
        (head_tokens_leftParen _), ih⟩
      rw [hnil, tokens_of_blank rfl]
      rfl

end SqlFragments
