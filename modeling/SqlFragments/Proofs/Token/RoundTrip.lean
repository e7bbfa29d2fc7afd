import Mathlib.Data.List.Chain
import SqlFragments.Proofs.Token.Written

/-!
# Writing tokens and reading them again

Operators are read longest first, so two marks may be read as one when no space stands between
them.  `render` leaves out the space behind a sign and around `::` only, and there are just two
pairs that run together: a `-` in front of `>`, and a `:` in front of `::`.  Without such a pair
all tokens are read back, marks included.

* `Token.Exact` — an operator is one of those that are read, and an identifier is no keyword.
* **`tokens_exact`** — the tokens of every text are of that kind.
* `runsTogether`, `Apart` — two tokens that are read as others, and lists without such pairs.
* **`readPunctuation_operator`** — an operator is read where no longer one starts with it and what
  follows.
* `tokens_render` — tokens that fit and stand apart are read back from their writing.
* **`tokens_render_tokens`** — so are the tokens of a text, and a text that was written once is
  written the same way again.
-/

namespace SqlFragments

/-! ## Tokens as they are read -/

/-- The operators that are read. -/
def IsOperator (op : Text) : Prop :=
  op ∈ longOperators ∨ ∃ c ∈ shortOperators, op = [c]

/-- A token that reading may give, as far as its own text decides. -/
def Token.Exact : Token → Prop
  | operator op => IsOperator op
  | other c => c ∉ shortOperators
  | identifier segments => isLoneKeyword segments = false
  | _ => True

lemma readIdentifier_exact {s : Text} (hs : s.head?.any startsSegment = true) :
    (readIdentifier s).1.Exact := by
  simp only [readIdentifier]
  rw [chainToken_eq (readSegment_cons_ne_star hs _)]
  split_ifs with hkeyword hcall
  · trivial
  · trivial
  · exact Bool.eq_false_of_not_eq_true hkeyword

lemma readPunctuation_exact (c : Char) (rest : Text) : (readPunctuation c rest).1.Exact := by
  unfold readPunctuation
  split
  · trivial
  split
  · trivial
  split
  · trivial
  split
  · rename_i op hop
    exact Or.inl (List.mem_of_find?_eq_some hop)
  · split_ifs with hshort
    · exact Or.inr ⟨c, List.contains_iff_mem.mp hshort, rfl⟩
    · exact fun hmem => hshort (List.contains_iff_mem.mpr hmem)

lemma readToken_exact (c : Char) (rest : Text) : (readToken c rest).1.Exact := by
  unfold readToken
  split_ifs with hliteral hsegment
  · trivial
  · exact readIdentifier_exact hsegment
  · trivial
  · trivial
  · exact readPunctuation_exact c rest

/-- **The tokens of every text are exact.** -/
lemma tokens_exact (s : Text) : ∀ t ∈ tokens s, t.Exact := by
  induction s using scan_induction with
  | blank s hs =>
      rw [tokens_of_blank hs]
      exact fun t ht => absurd ht List.not_mem_nil
  | token s c rest hs ih =>
      rw [tokens_of_token hs]
      exact List.forall_mem_cons.mpr ⟨readToken_exact c rest, ih⟩

lemma Token.Exact.reread {t : Token} (h : t.Exact) : t.reread = t := by
  cases t with
  | identifier segments => exact if_neg (by rw [show isLoneKeyword segments = false from h]; decide)
  | _ => rfl

/-! ## Pairs that run together -/

/-- A `-` and an operator that starts with `>`, or a `:` and the operator `::`. -/
def runsTogether (t u : Token) : Bool :=
  match t, u with
  | .operator ['-'], .operator ('>' :: _) => true
  | .other ':', .operator [':', ':'] => true
  | _, _ => false

/-- No two neighbours run together. -/
def Apart (ts : List Token) : Prop :=
  ts.IsChain fun t u => runsTogether t u = false

instance (ts : List Token) : Decidable (Apart ts) :=
  inferInstanceAs (Decidable (ts.IsChain fun t u => runsTogether t u = false))

lemma runsTogether_iff {t u : Token} : runsTogether t u = true ↔
    (t = .operator ['-'] ∧ ∃ more, u = .operator ('>' :: more)) ∨
      (t = .other ':' ∧ u = .operator [':', ':']) := by
  constructor
  · intro h
    unfold runsTogether at h
    split at h
    · exact Or.inl ⟨rfl, _, rfl⟩
    · exact Or.inr ⟨rfl, rfl⟩
    · cases h
  · rintro (⟨rfl, more, rfl⟩ | ⟨rfl, rfl⟩)
    · rfl
    · rfl

/-! ## Operators are read longest first -/

/-- An operator does not come before a longer one that it starts. -/
lemma longOperators_pairwise : longOperators.Pairwise fun a b => ¬ a <+: b := by
  decide

lemma IsOperator.isOperatorChar {op : Text} (h : IsOperator op) :
    ∀ x ∈ op, isOperatorChar x = true := by
  rcases h with hlong | ⟨c, hshort, rfl⟩
  · exact isOperatorChar_of_longOperator hlong
  · exact List.forall_mem_singleton.mpr (isOperatorChar_of_shortOperator hshort)

/-- Of two different prefixes of a text, one starts the other and goes on as the text does. -/
lemma prefix_of_prefix_append {a b rest : Text} (ha : a <+: b ++ rest) (hab : ¬ a <+: b) :
    ∃ c, rest.head? = some c ∧ b ++ [c] <+: a := by
  rcases List.prefix_or_prefix_of_prefix ha (List.prefix_append b rest) with h | ⟨more, rfl⟩
  · exact absurd h hab
  · rw [List.prefix_append_right_inj] at ha
    cases more with
    | nil => exact absurd (by rw [List.append_nil]) hab
    | cons c more =>
        obtain ⟨tail, rfl⟩ := ha
        exact ⟨c, rfl, by
          rw [List.prefix_append_right_inj]
          exact List.prefix_append [c] more⟩

/-- No operator of several characters starts with `op` and the character that comes next. -/
def NotLonger (op rest : Text) : Prop :=
  ∀ c, rest.head? = some c → ∀ long ∈ longOperators, ¬ op ++ [c] <+: long

lemma find_longOperator {op rest : Text} (hop : op ∈ longOperators) (hnext : NotLonger op rest) :
    longOperators.find? (·.isPrefixOf (op ++ rest)) = some op := by
  cases hfound : longOperators.find? (·.isPrefixOf (op ++ rest)) with
  | none =>
      have hnot := List.find?_eq_none.mp hfound op hop
      exact absurd (List.isPrefixOf_iff_prefix.mpr (List.prefix_append op rest)) hnot
  | some long =>
      obtain ⟨hstart, before, after, hsplit, hbefore⟩ := List.find?_eq_some_iff_append.mp hfound
      have hlong : long <+: op ++ rest := List.isPrefixOf_iff_prefix.mp hstart
      have hmem : long ∈ longOperators := List.mem_of_find?_eq_some hfound
      -- `op` is not passed over on the way to `long`, so it is `long` or comes behind it
      have hnotBefore : op ∉ before := by
        intro hin
        have hskipped := hbefore op hin
        rw [List.isPrefixOf_iff_prefix.mpr (List.prefix_append op rest)] at hskipped
        cases hskipped
      have hpairs := longOperators_pairwise
      rw [hsplit, List.pairwise_append, List.pairwise_cons] at hpairs
      rw [hsplit, List.mem_append, or_iff_right hnotBefore, List.mem_cons] at hop
      rcases hop with rfl | hafter
      · rfl
      · obtain ⟨c, hc, hlonger⟩ := prefix_of_prefix_append hlong (hpairs.2.1.1 op hafter)
        exact absurd hlonger (hnext c hc long hmem)

lemma find_longOperator_none {c : Char} {rest : Text} (hnext : NotLonger [c] rest) :
    longOperators.find? (·.isPrefixOf (c :: rest)) = none := by
  rw [List.find?_eq_none]
  intro long hmem hstart
  have hlong : long <+: [c] ++ rest := List.isPrefixOf_iff_prefix.mp hstart
  have hshort : ¬ long <+: [c] := by
    have hlength : ∀ op ∈ longOperators, 1 < op.length := by decide
    intro hle
    exact absurd (hlength long hmem) (Nat.not_lt.mpr hle.length_le)
  obtain ⟨d, hd, hlonger⟩ := prefix_of_prefix_append hlong hshort
  exact hnext d hd long hmem hlonger

/-- **An operator is read** where no longer one starts with it and what follows. -/
lemma readPunctuation_operator {c : Char} {op rest : Text} (hop : IsOperator (c :: op))
    (hnext : NotLonger (c :: op) rest) :
    readPunctuation c (op ++ rest) = (.operator (c :: op), rest) := by
  have hc := hop.isOperatorChar c List.mem_cons_self
  rw [isOperatorChar, Bool.and_eq_true, Bool.and_eq_true] at hc
  obtain ⟨_, _, _, _, _, h1, h2, h3⟩ := isMark_iff.mp hc.1.1
  rw [readPunctuation, if_neg h1, if_neg h2, if_neg h3]
  rcases hop with hmem | ⟨d, hmem, heq⟩
  · rw [← List.cons_append, find_longOperator hmem hnext]
    exact Prod.ext rfl (List.drop_left)
  · obtain ⟨rfl, rfl⟩ := List.cons.inj heq
    rw [List.nil_append, find_longOperator_none hnext]
    exact if_pos (List.contains_iff_mem.mpr hmem)

lemma readPunctuation_other {c : Char} {rest : Text} (hc : isMark c = true)
    (hshort : c ∉ shortOperators) (hnext : NotLonger [c] rest) :
    readPunctuation c rest = (.other c, rest) := by
  obtain ⟨_, _, _, _, _, h1, h2, h3⟩ := isMark_iff.mp hc
  rw [readPunctuation, if_neg h1, if_neg h2, if_neg h3, find_longOperator_none hnext]
  exact if_neg fun hmem => hshort (List.contains_iff_mem.mp hmem)

/-! ## No longer operator behind a written mark -/

lemma notLonger_of_stops {op rest : Text} (hop : IsOperator op) (hrest : Stops rest) :
    NotLonger op rest := by
  have hall : (longOperators ++ shortOperators.map ([·])).all (fun op =>
      [' ', ')', ',', ':'].all fun c => longOperators.all fun long =>
        !(op ++ [c]).isPrefixOf long) = true := by decide
  have hmem : op ∈ longOperators ++ shortOperators.map ([·]) := by
    rw [List.mem_append, List.mem_map]
    exact hop.imp_right fun ⟨c, hc, heq⟩ => ⟨c, hc, heq.symm⟩
  intro c hc long hlong hstart
  have hnot := List.all_eq_true.mp (List.all_eq_true.mp (List.all_eq_true.mp hall op hmem) c
    (hrest c hc)) long hlong
  rw [List.isPrefixOf_iff_prefix.mpr hstart] at hnot
  cases hnot

lemma notLonger_cast (rest : Text) : NotLonger [':', ':'] rest := by
  have hall : ∀ long ∈ longOperators, long.length ≤ 2 ∨ long.head? ≠ some ':' := by decide
  rintro c - long hmem ⟨more, rfl⟩
  rcases hall _ hmem with hlength | hhead
  · simp only [List.length_append, List.length_cons, List.length_nil] at hlength
    omega
  · exact hhead rfl

/-- Behind a sign, only `>` makes a longer operator. -/
lemma notLonger_sign {op rest : Text} (hop : op = ['-'] ∨ op = ['+'])
    (hrest : op = ['-'] → rest.head? ≠ some '>') : NotLonger op rest := by
  have hall : ∀ long ∈ longOperators, long.head? ≠ some '+' ∧
      (long.head? = some '-' → long.tail.head? = some '>') := by decide
  rintro c hc long hmem ⟨more, rfl⟩
  obtain ⟨hplus, hminus⟩ := hall _ hmem
  rcases hop with rfl | rfl
  · have hgreater : some c = some '>' := hminus rfl
    exact hrest rfl (hc.trans hgreater)
  · exact hplus rfl

/-- Of the marks that are no operators, only `:` starts an operator. -/
lemma notLonger_other {c : Char} {rest : Text} (hshort : c ∉ shortOperators)
    (hrest : c = ':' → rest.head? ≠ some ':') : NotLonger [c] rest := by
  have hall : longOperators.all (fun long => long.head?.any shortOperators.contains ||
      long == [':', ':']) = true := by decide
  rintro d hd long hmem ⟨more, hmore⟩
  rcases Bool.or_eq_true_iff.mp (List.all_eq_true.mp hall long hmem) with hhead | hcast
  · rw [← hmore] at hhead
    exact hshort (List.contains_iff_mem.mp hhead)
  · obtain rfl := eq_of_beq hcast
    simp only [List.cons_append, List.nil_append, List.cons.injEq] at hmore
    exact hrest hmore.1 (by rw [hd, hmore.2.1])

/-! ## Marks are read back -/

/-- A token that starts with `>` is an operator. -/
lemma Token.Fits.head_greater {next : Option Token} {t : Token} (h : t.Fits next)
    (hexact : t.Exact) (hhead : t.text.head? = some '>') :
    ∃ more, t = .operator ('>' :: more) := by
  have hsegments : ∀ {final : Prop} {segments : List Text}, ChainFits final segments →
      (Text.join ['.'] segments).head? ≠ some '>' := by
    intro final segments hchain heq
    obtain ⟨c, more, htext, hc⟩ := hchain.text_head
    rw [htext] at heq
    exact startsSegment_ne hc (by decide) (Option.some.inj heq)
  cases h with
  | literal hclosed =>
      obtain ⟨inner, rfl, _⟩ := hclosed
      cases hhead
  | openLiteral _ hopen =>
      obtain ⟨inner, rfl, _⟩ := hopen
      cases hhead
  | identifier hchain _ => exact absurd hhead (hsegments hchain)
  | function hne hnames _ _ _ =>
      exact absurd hhead (hsegments (chainFits_of_names hne hnames : ChainFits True _))
  | @keyword w hw =>
      have hword := hsegments (chainFits_of_isKeyword hw : ChainFits True _)
      rw [Text.join_singleton] at hword
      exact absurd hhead hword
  | number ht =>
      obtain ⟨c, mantissa, exponent, rfl, hfirst, _⟩ := ht
      obtain rfl : c = '>' := Option.some.inj hhead
      exact absurd (isDigit_or_dot hfirst) (by decide)
  | parameter ht =>
      obtain ⟨c, digits, rfl, hfirst, _⟩ := ht
      obtain rfl : c = '>' := Option.some.inj hhead
      rcases eq_question_or_dollar hfirst with h | h <;> exact absurd h (by decide)
  | leftParen => cases hhead
  | rightParen => cases hhead
  | comma => cases hhead
  | @operator op hne _ =>
      cases op with
      | nil => exact absurd rfl hne
      | cons c more =>
          obtain rfl : c = '>' := Option.some.inj hhead
          exact ⟨more, rfl⟩
  | other hc =>
      obtain rfl := Option.some.inj hhead
      exact absurd (show '>' ∈ shortOperators by decide) hexact

/-- What stands in front of others leads them: the characters that it shows are its own, and a
`>` in front is that of an operator. -/
structure Token.Leads (t : Token) : Prop where
  shows : t.Shows
  greater : t.text.head? = some '>' → ∃ more, t = .operator ('>' :: more)

lemma Token.Fits.leads {next : Option Token} {t : Token} (h : t.Fits next) (hexact : t.Exact) :
    t.Leads :=
  ⟨h.shows, h.head_greater hexact⟩

lemma Fitting.head_leads {rest : List Token} (h : Fitting rest) (hexact : ∀ u ∈ rest, u.Exact) :
    ∀ u, rest.head? = some u → u.Leads := by
  cases rest with
  | nil => exact fun u hu => by cases hu
  | cons u more =>
      rintro _ ⟨⟩
      exact h.1.leads (hexact u List.mem_cons_self)

/-- What a `-` is written in front of starts with `>` only where the two run together. -/
lemma head_renderAfter_greater {t : Token} {rest : List Token}
    (hrest : ∀ u, rest.head? = some u → u.Leads) (sign : Bool)
    (hhead : (renderAfter t sign rest).head? = some '>') :
    ∃ more, rest.head? = some (.operator ('>' :: more)) := by
  cases rest with
  | nil => cases hhead
  | cons u more =>
      obtain ⟨⟨c, tail, htext, -, -⟩, hgreater⟩ := hrest u rfl
      rw [renderAfter] at hhead
      split_ifs at hhead
      · cases hhead
      · have hu : u.text.head? = some '>' := by
          rw [htext] at hhead ⊢
          exact hhead
        obtain ⟨op, rfl⟩ := hgreater hu
        exact ⟨op, rfl⟩

/-- Behind `:`, a further `:` belongs to a cast. -/
lemma head_renderAfter_colon {rest : List Token}
    (hhead : (renderAfter (.other ':') false rest).head? = some ':') :
    rest.head? = some (.operator [':', ':']) := by
  cases rest with
  | nil => cases hhead
  | cons u more =>
      rw [renderAfter, Bool.not_false, Bool.true_and] at hhead
      cases hspace : needsSpace (.other ':') u with
      | true =>
          rw [hspace] at hhead
          cases hhead
      | false =>
          rcases needsSpace_eq_false hspace with rfl | rfl | ht | ⟨name, ht, -⟩ | ht | hu
          · cases hhead
          · cases hhead
          · cases ht
          · cases ht
          · cases ht
          · rw [eq_of_isCast hu, List.head?_cons]

lemma eq_sign_of_isSign {previous : Option Token} {op : Text}
    (h : isSign previous (.operator op) = true) : op = ['-'] ∨ op = ['+'] := by
  have hop : (op == ['-'] || op == ['+']) = true := (Bool.and_eq_true_iff.mp h).1
  rw [Bool.or_eq_true, beq_iff_eq, beq_iff_eq] at hop
  exact hop

variable {t : Token} {rest : List Token}

/-- **No longer operator is read** where an operator was written. -/
lemma notLonger_renderAfter {op : Text} (hop : IsOperator op)
    (hrest : ∀ u, rest.head? = some u → u.Leads)
    (happart : ∀ u, rest.head? = some u → runsTogether (.operator op) u = false)
    (previous : Option Token) :
    NotLonger op (renderAfter (.operator op) (isSign previous (.operator op)) rest) := by
  cases hsign : isSign previous (.operator op) with
  | true =>
      refine notLonger_sign (eq_sign_of_isSign hsign) fun hminus hhead => ?_
      obtain ⟨more, hmore⟩ := head_renderAfter_greater hrest true hhead
      subst hminus
      cases happart _ hmore
  | false =>
      cases hcast : Token.isCast (.operator op) with
      | true =>
          obtain rfl := Token.operator.inj (eq_of_isCast hcast)
          exact notLonger_cast _
      | false => exact notLonger_of_stops hop (stops_renderAfter (by simp) (by simp) hcast rest)

/-- **One token is read back** from a writing, if it does not run together with the next one. -/
lemma Token.Fits.readsAs_exact (h : t.Fits rest.head?) (ht : t.Exact)
    (hrest : ∀ u, rest.head? = some u → u.Leads)
    (happart : ∀ u, rest.head? = some u → runsTogether t u = false) (previous : Option Token) :
    ReadsAs (t.text ++ renderAfter t (isSign previous t) rest) t
      (renderAfter t (isSign previous t) rest) := by
  cases hmark : t.isMark with
  | false =>
      have hreads := h.readsAs (fun u hu => (hrest u hu).shows) hmark previous
      rw [ht.reread] at hreads
      exact hreads
  | true =>
      cases h with
      | @operator op hne hop =>
          cases op with
          | nil => exact absurd rfl hne
          | cons c op =>
              have hc := hop c List.mem_cons_self
              rw [isOperatorChar, Bool.and_eq_true, Bool.and_eq_true, bne_iff_ne,
                bne_iff_ne] at hc
              obtain ⟨⟨hcmark, hdot⟩, hdollar⟩ := hc
              refine ⟨c, _, rfl, (isMark_iff.mp hcmark).1, ?_⟩
              rw [readToken_mark hcmark fun h => absurd h (not_or.mpr ⟨hdot, hdollar⟩)]
              exact readPunctuation_operator ht
                (notLonger_renderAfter ht hrest happart previous)
      | @other c hc =>
          have hstop : Stops (renderAfter (.other c) false rest) :=
            stops_renderAfter (by simp) (by simp) rfl rest
          refine ⟨c, _, rfl, (isMark_iff.mp hc).1, ?_⟩
          refine (readToken_mark hc fun _ => hstop.head_any (by decide)).trans ?_
          refine readPunctuation_other hc ht (notLonger_other ht fun hcolon hhead => ?_)
          subst hcolon
          cases happart _ (head_renderAfter_colon hhead)
      | _ => cases hmark

/-! ## Whole writings -/

lemma tokens_renderAfter : ∀ (ts : List Token) (t : Token) (sign : Bool), Fitting ts →
    (∀ u ∈ ts, u.Exact) → Apart ts → tokens (renderAfter t sign ts) = ts
  | [], _, _, _, _, _ => tokens_of_blank rfl
  | u :: rest, t, sign, hfits, hexact, happart => by
      obtain ⟨hu, hrestExact⟩ := List.forall_mem_cons.mp hexact
      obtain ⟨hnext, hrestApart⟩ := List.isChain_cons.mp happart
      rw [tokens_renderAfter_cons, tokens_of_readsAs (hfits.1.readsAs_exact hu
        (hfits.2.head_leads hrestExact) (fun v hv => hnext v hv) (some t)),
        tokens_renderAfter rest u _ hfits.2 hrestExact hrestApart]

/-- **Tokens are read back from their writing**, if no two of them run together. -/
lemma tokens_render {ts : List Token} (hfits : Fitting ts) (hexact : ∀ t ∈ ts, t.Exact)
    (happart : Apart ts) : tokens (render ts) = ts := by
  cases ts with
  | nil => exact tokens_of_blank rfl
  | cons t rest =>
      obtain ⟨ht, hrestExact⟩ := List.forall_mem_cons.mp hexact
      obtain ⟨hnext, hrestApart⟩ := List.isChain_cons.mp happart
      rw [render, tokens_of_readsAs (hfits.1.readsAs_exact ht (hfits.2.head_leads hrestExact)
        (fun v hv => hnext v hv) none),
        tokens_renderAfter rest t _ hfits.2 hrestExact hrestApart]

/-- **Writing and reading are inverse on the tokens of a text**, if no two of them run together.
So a written text does not change when it is read and written once more. -/
theorem tokens_render_tokens {s : Text} (happart : Apart (tokens s)) :
    tokens (render (tokens s)) = tokens s ∧
      render (tokens (render (tokens s))) = render (tokens s) := by
  have hread := tokens_render (tokens_fitting s) (tokens_exact s) happart
  exact ⟨hread, by rw [hread]⟩

/-- Signs behind signs, casts, a keyword in front of a parenthesis, an exponent without digits and
an open quote. -/
def mixedFragment : Text :=
  "a-  - -1e+5 * f ( x::\"t\" :: int ,1e ) in('o''k') ->>$1 . 5 and b : 'open".toList

theorem tokens_render_tokens_mixed : Apart (tokens mixedFragment) ∧
    tokens (render (tokens mixedFragment)) = tokens mixedFragment ∧
      render (tokens (render (tokens mixedFragment))) = render (tokens mixedFragment) := by
  have happart : Apart (tokens mixedFragment) := by decide +kernel
  exact ⟨happart, tokens_render_tokens happart⟩

/-- A sign in front of `>` runs together with it. -/
example : tokens (render (tokens "(- >b)".toList)) ≠ tokens "(- >b)".toList := by
  decide +kernel

end SqlFragments
