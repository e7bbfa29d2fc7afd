import SqlFragments.Proofs.Condition.Binding
import SqlFragments.Proofs.Text.Comment
import SqlFragments.Proofs.Token.Bare

/-!
# Signs in front of operators

A condition is written with spaces between its tokens, so two hyphens do not meet, except behind a
sign: it is written right in front of what follows.  That should be a number, but it may be another
hyphen or an arrow, and then the two start a comment.

* `Token.Hyphens` — where hyphens stand in the text of a token.
* `Reformed.hyphens` — every token that a condition is written from is of that kind.
* `Token.startsDash`, `SignsDash` — an operator that starts with a hyphen, and a sign in front of
  one.
* `holdsComment_render` — the comments in the writing of such tokens.
* **`usePlaceholder_holdsComment_iff`** — a condition is written with a comment exactly then.
* **`not_keeps_free_of_comments`** — two signs in a row.
-/

namespace SqlFragments

variable {t u v : Token} {ts us : List Token} {next previous : Option Token}

/-! ## Hyphens in one token -/

/-- An operator that starts with a hyphen. -/
def Token.startsDash : Token → Bool
  | operator op => op.head? == some '-'
  | _ => false

/-- A token holds no comment, and a hyphen at its start or its end is that of an operator; at the
end it is the whole of it. -/
structure Token.Hyphens (t : Token) : Prop where
  written : t.text ≠ []
  noComment : ¬ HoldsComment t.text
  head : t.text.head? = some '-' → t.startsDash = true
  last : QuotesClosed t.text → t.text.getLast? = some '-' → t = .operator ['-']

/-- A token without a bare hyphen is of that kind. -/
lemma Token.hyphens_of_not_bareIn (hwritten : t.text ≠ []) (h : ¬ BareIn ['-'] t.text) :
    t.Hyphens where
  written := hwritten
  noComment := fun hcomment => h hcomment.bareIn
  head := fun hhead => absurd (bareIn_of_head hhead) h
  last := fun hclosed hlast => absurd (bareIn_of_getLast hclosed rfl hlast) h

lemma isDigit_ne_hyphen {c : Char} (h : c.isDigit = true) : c ≠ '-' := by
  rintro rfl
  cases h

/-- The sign of an exponent has a digit behind it, and there is no second one. -/
lemma IsExponent.hyphens {s : Text} (h : IsExponent s) :
    s.count '-' ≤ 1 ∧ s.getLast? ≠ some '-' := by
  rcases h with rfl | ⟨hopens, hdigits⟩
  · exact ⟨Nat.zero_le _, by simp⟩
  · obtain ⟨e, x, digits, rfl⟩ := exists_of_opensExponent hopens
    have hnone : '-' ∉ digits := fun hmem => isDigit_ne_hyphen (hdigits _ hmem) rfl
    simp only [opensExponent, List.head?_cons, List.tail_cons, Option.any_some, Bool.and_eq_true,
      Bool.or_eq_true, beq_iff_eq] at hopens
    obtain ⟨he, hx⟩ := hopens
    have hne : e ≠ '-' := by
      rcases he with rfl | rfl <;> decide
    constructor
    · have hrest : digits.count '-' = 0 := List.count_eq_zero_of_not_mem hnone
      rw [List.count_cons_of_ne hne, List.count_cons, hrest]
      split_ifs <;> decide
    · intro hlast
      cases digits with
      | nil =>
          -- without a digit behind it, `x` is a digit itself
          have hdigit : x.isDigit = true := by simpa using hx
          exact isDigit_ne_hyphen hdigit (Option.some.inj hlast)
      | cons d digits =>
          rw [List.getLast?_cons_cons, List.getLast?_cons_cons] at hlast
          exact hnone (List.mem_of_getLast? hlast)

/-- A hyphen is neither the first nor the last character of a number. -/
lemma IsNumber.hyphens {s : Text} (h : IsNumber s) :
    s.count '-' ≤ 1 ∧ s.head? ≠ some '-' ∧ s.getLast? ≠ some '-' := by
  obtain ⟨c, mantissa, exponent, rfl, hfirst, hmantissa, hexponent⟩ := h
  obtain ⟨hcount, hend⟩ := hexponent.hyphens
  have hfront : '-' ∉ c :: mantissa := by
    rw [List.mem_cons, not_or]
    constructor
    · rintro rfl
      exact absurd (isDigit_or_dot hfirst) (by decide)
    · exact fun hmem => absurd (hmantissa _ hmem) (by decide)
  rw [← List.cons_append]
  refine ⟨?_, fun hhead => ?_, fun hlast => ?_⟩
  · rw [List.count_append, List.count_eq_zero_of_not_mem hfront, Nat.zero_add]
    exact hcount
  · exact hfront (List.mem_of_head? hhead)
  · rw [List.getLast?_append] at hlast
    cases hexp : exponent.getLast? with
    | none =>
        rw [hexp, Option.none_or] at hlast
        exact hfront (List.mem_of_getLast? hlast)
    | some d =>
        rw [hexp, Option.some_or] at hlast
        exact hend (hexp.trans hlast)

lemma IsOperator.hyphens {op : Text} (h : IsOperator op) : op ≠ [] ∧ ¬ "--".toList <:+: op ∧
    (op.getLast? = some '-' → op = ['-']) := by
  have hlong : ∀ op ∈ longOperators, op ≠ [] ∧ ¬ "--".toList <:+: op ∧
      (op.getLast? = some '-' → op = ['-']) := by decide
  rcases h with hmem | ⟨c, -, rfl⟩
  · exact hlong op hmem
  · refine ⟨List.cons_ne_nil _ _, fun hshort => ?_, fun hlast => ?_⟩
    · exact absurd hshort.length_le (by simp)
    · rw [List.getLast?_singleton, Option.some.injEq] at hlast
      rw [hlast]

lemma Token.Fits.text_ne_nil (h : t.Fits next) : t.text ≠ [] := by
  obtain ⟨c, rest, htext, -⟩ := h.shows
  rw [htext]
  exact List.cons_ne_nil c rest

/-- **The hyphens of a token that is read.** -/
lemma Token.Fits.hyphens (h : t.Fits next) (hexact : t.Exact) : t.Hyphens := by
  have hbare : ¬ BareIn ['-'] t.text → t.Hyphens := Token.hyphens_of_not_bareIn h.text_ne_nil
  have hname : t.isQuotable = true → t.Hyphens := fun ht =>
    hbare (not_bareIn_of_standsInNames (by decide) (h.standsInNames ht))
  cases h with
  | literal _ => exact hname rfl
  | openLiteral _ _ => exact hname rfl
  | identifier _ _ => exact hname rfl
  | function _ _ _ _ _ => exact hname rfl
  | keyword hw =>
      exact hbare (not_bareIn_of_standsInNames (by decide)
        (standsInNames_of_isPlainName (isPlainName_of_isKeyword hw)))
  | number hnumber =>
      obtain ⟨hcount, hhead, hlast⟩ := hnumber.hyphens
      refine ⟨?_, fun hcomment => ?_, fun h => absurd h hhead, fun _ h => absurd h hlast⟩
      · obtain ⟨c, mantissa, exponent, rfl, -⟩ := hnumber
        exact List.cons_ne_nil _ _
      · have htwo := hcomment.isInfix.sublist.count_le '-'
        exact absurd (htwo.trans hcount) (by decide)
  | parameter hparameter =>
      obtain ⟨c, digits, rfl, hc, hdigits⟩ := hparameter
      refine hbare (not_bareIn_of_not_mem ?_)
      rw [Token.text, List.mem_cons, not_or]
      constructor
      · rintro rfl
        cases hc
      · exact fun hmem => isDigit_ne_hyphen (hdigits _ hmem) rfl
  | leftParen => exact hbare (not_bareIn_of_not_mem (by decide))
  | rightParen => exact hbare (not_bareIn_of_not_mem (by decide))
  | comma => exact hbare (not_bareIn_of_not_mem (by decide))
  | operator _ _ =>
      obtain ⟨hne, hcomment, hlast⟩ := IsOperator.hyphens hexact
      refine ⟨hne, fun h => hcomment h.isInfix, fun h => ?_, fun _ h => ?_⟩
      · exact beq_iff_eq.mpr h
      · rw [hlast h]
  | @other c hc =>
      refine hbare (not_bareIn_of_not_mem fun hmem => ?_)
      rw [← List.mem_singleton.mp hmem] at hexact
      exact hexact (by decide)

/-! ## Hyphens in what becomes of a token -/

/-- **The hyphens of a token that a condition is written from.** -/
lemma Reformed.hyphens (h : Reformed t u) (hfits : t.Fits next) (hexact : t.Exact) :
    u.Hyphens := by
  cases h with
  | same t => exact hfits.hyphens hexact
  | @connector w w' hw =>
      cases hfits with
      | keyword hkeyword =>
          have hw' := (isKeyword_of_sameLetters hw).trans hkeyword
          exact (Token.Fits.keyword hw' : Token.Fits none (.keyword w')).hyphens trivial
  | @inside qualifier column hstar =>
      cases hfits with
      | identifier hchain _ =>
          have hcolumn := ChainFits.last (segmentFits_of_chainFits hchain hstar)
          obtain ⟨c, rest, htext, -⟩ := hcolumn.text_head
          refine Token.hyphens_of_not_bareIn ?_
            (not_bareIn_of_standsInNames (by decide) hcolumn.standsInNames)
          rw [Token.text, htext]
          exact List.cons_ne_nil c rest
  | @outside qualifier column hstar =>
      cases hfits with
      | identifier hchain _ =>
          have hcolumn := segmentFits_of_chainFits hchain hstar
          have hclosed : QuotesClosed (placeholder ++ ['.']) := rfl
          refine Token.hyphens_of_not_bareIn (List.cons_ne_nil _ _) ?_
          rw [Token.text, Text.join_cons_cons, Text.join_singleton, bareIn_append_of_one hclosed,
            or_iff_right (not_bareIn_of_not_mem (by decide))]
          exact not_bareIn_of_standsInNames (by decide) hcolumn.standsInNames

/-- Every token holds its hyphens as one that is read, and closes its quotes in front of
another one. -/
structure Hyphenated (ts : List Token) : Prop where
  hyphens : ∀ t ∈ ts, t.Hyphens
  closed : ts.IsChain fun t _ => QuotesClosed t.text

lemma hyphens_of_reformed (h : List.Forall₂ Reformed ts us) : Fitting ts →
    (∀ t ∈ ts, t.Exact) → ∀ u ∈ us, u.Hyphens := by
  induction h with
  | nil => exact fun _ _ _ ht => absurd ht List.not_mem_nil
  | cons ht _ ih =>
      intro hfits hexact
      obtain ⟨hexactT, hexactRest⟩ := List.forall_mem_cons.mp hexact
      exact List.forall_mem_cons.mpr ⟨ht.hyphens hfits.1 hexactT, ih hfits.2 hexactRest⟩

lemma hyphenated_of_reformed (h : List.Forall₂ Reformed ts us) (hfits : Fitting ts)
    (hexact : ∀ t ∈ ts, t.Exact) : Hyphenated us :=
  ⟨hyphens_of_reformed h hfits hexact, (fittingRewritten_of_reformed h hfits).closed⟩

/-! ## Signs -/

/-- A sign stands directly in front of an operator that starts with a hyphen, `previous` standing
in front of the tokens. -/
inductive SignsDash : Option Token → List Token → Prop
  | here {previous : Option Token} {t : Token} {rest : List Token} :
      isSign previous (.operator ['-']) = true → t.startsDash = true →
      SignsDash previous (.operator ['-'] :: t :: rest)
  | later {previous : Option Token} {t : Token} {rest : List Token} :
      SignsDash (some t) rest → SignsDash previous (t :: rest)

lemma signsDash_cons_iff : SignsDash previous (t :: ts) ↔
    (t = .operator ['-'] ∧ isSign previous t = true ∧ ts.head?.any Token.startsDash = true) ∨
      SignsDash (some t) ts := by
  constructor
  · rintro (⟨hsign, hdash⟩ | hlater)
    · exact Or.inl ⟨rfl, hsign, hdash⟩
    · exact Or.inr hlater
  · rintro (⟨rfl, hsign, hdash⟩ | hlater)
    · cases ts with
      | nil => cases hdash
      | cons u rest => exact SignsDash.here hsign hdash
    · exact SignsDash.later hlater

instance decidableSignsDash : ∀ (previous : Option Token) (ts : List Token),
    Decidable (SignsDash previous ts)
  | _, [] => isFalse (fun h => by cases h)
  | _, t :: rest =>
    have := decidableSignsDash (some t) rest
    decidable_of_iff' _ signsDash_cons_iff

/-- Without the sign, a space would stand in front of the hyphen. -/
lemma needsSpace_of_startsDash (h : u.startsDash = true) :
    needsSpace (.operator ['-']) u = true := by
  cases u with
  | operator op =>
      have hcast : (op == [':', ':']) = false := by
        rw [beq_eq_false_iff_ne]
        rintro rfl
        cases h
      simp [needsSpace, Token.isCast, hcast]
  | _ => cases h

/-- **A comment in the writing** comes about behind a sign only. -/
lemma holdsComment_renderAfter (rest : List Token) : ∀ (t : Token) (previous : Option Token),
    Hyphenated (t :: rest) →
      (HoldsComment (t.text ++ renderAfter t (isSign previous t) rest) ↔
        SignsDash previous (t :: rest)) := by
  induction rest with
  | nil =>
      intro t previous h
      have hnone := (h.hyphens t List.mem_cons_self).noComment
      rw [renderAfter, List.append_nil, signsDash_cons_iff]
      refine iff_of_false hnone ?_
      rintro (⟨-, -, hdash⟩ | hlater)
      · cases hdash
      · cases hlater
  | cons u rest ih =>
      intro t previous h
      have ht := h.hyphens t List.mem_cons_self
      obtain ⟨hclosed, hchain⟩ := List.isChain_cons_cons.mp h.closed
      have hu := h.hyphens u (List.mem_cons_of_mem _ List.mem_cons_self)
      have hmore : Hyphenated (u :: rest) :=
        ⟨fun v hv => h.hyphens v (List.mem_cons_of_mem _ hv), hchain⟩
      rw [signsDash_cons_iff, ← ih u (some t) hmore, renderAfter, List.append_assoc,
        holdsComment_append hclosed, or_iff_right ht.noComment]
      have hhead : (u.text ++ renderAfter u (isSign (some t) u) rest).head? = u.text.head? :=
        List.head?_append_of_ne_nil _ hu.written
      split_ifs with hspace
      · -- a space keeps the hyphens apart, and it is no sign that it stands behind
        rw [Bool.and_eq_true, Bool.not_eq_true'] at hspace
        have hspaceClosed : QuotesClosed [' '] := rfl
        have hnone : ¬ HoldsComment [' '] := fun h => absurd h.isInfix (by decide)
        rw [holdsComment_append hspaceClosed, hspace.1]
        simp [hnone]
      · rw [List.nil_append, hhead, or_comm]
        refine or_congr_left ?_
        constructor
        · rintro ⟨hlast, hfirst⟩
          have hdash := hu.head hfirst
          obtain rfl := ht.last hclosed hlast
          rw [needsSpace_of_startsDash hdash, Bool.and_true, Bool.not_eq_true',
            Bool.not_eq_false] at hspace
          exact ⟨rfl, hspace, hdash⟩
        · rintro ⟨rfl, -, hdash⟩
          cases u with
          | operator op => exact ⟨rfl, beq_iff_eq.mp hdash⟩
          | _ => cases hdash

lemma holdsComment_render (h : Hyphenated ts) : HoldsComment (render ts) ↔ SignsDash none ts := by
  cases ts with
  | nil => exact iff_of_false (fun h => absurd h.isInfix (by decide)) (fun h => by cases h)
  | cons t rest => exact holdsComment_renderAfter rest t none h

/-! ## The condition -/

lemma Reformed.operator_iff (h : Reformed t u) (op : Text) :
    t = .operator op ↔ u = .operator op := by
  cases h with
  | same t => exact Iff.rfl
  | _ => exact iff_of_false Token.noConfusion Token.noConfusion

/-- Whether what follows is a sign does not depend on what became of a token. -/
lemma Reformed.isSign_eq (h : Reformed t u) (v : Token) :
    isSign (some t) v = isSign (some u) v := by
  cases h <;> rfl

lemma Reformed.startsDash_eq (h : Reformed t u) : t.startsDash = u.startsDash := by
  cases h <;> rfl

/-- The signs of a condition are those of what it is written from. -/
lemma signsDash_of_reformed (h : List.Forall₂ Reformed ts us) : ∀ {p q : Option Token},
    (∀ v, isSign p v = isSign q v) → (SignsDash p ts ↔ SignsDash q us) := by
  induction h with
  | nil => exact fun _ => iff_of_false (fun h => by cases h) (fun h => by cases h)
  | @cons t u ts us ht hrest ih =>
      intro p q hsign
      rw [signsDash_cons_iff, signsDash_cons_iff, ih ht.isSign_eq, ht.operator_iff]
      refine or_congr_left (and_congr_right fun hu => and_congr ?_ ?_)
      · rw [(ht.operator_iff _).mpr hu, hu, hsign]
      · cases hrest with
        | nil => exact Iff.rfl
        | cons hnext _ => simp [hnext.startsDash_eq]

/-- **Comments in a written condition.**  Whatever columns are known, a condition is written with
the start of a comment exactly when a sign stands directly in front of an operator that starts with
a hyphen. -/
theorem usePlaceholder_holdsComment_iff {columns : List Text} (hcolumns : columns ≠ [])
    (condition : Text) : HoldsComment (usePlaceholder columns condition) ↔
      SignsDash none (tokens condition) := by
  have hreformed := anchoredTokens_reformed columns condition
  rw [usePlaceholder_eq hcolumns]
  split_ifs with hblank
  · rw [(tokens_eq_nil_iff condition).mpr hblank]
    refine iff_of_false (fun h => ?_) (fun h => by cases h)
    have hmem : '-' ∈ condition := h.isInfix.subset List.mem_cons_self
    exact absurd (List.all_eq_true.mp hblank _ hmem) (by decide)
  · rw [holdsComment_render (hyphenated_of_reformed hreformed (tokens_fitting condition)
      (tokens_exact condition)), signsDash_of_reformed hreformed fun _ => rfl]

/-- Signs in front of numbers, in places where hyphens come close to each other. -/
def signsOfNumbers : Text :=
  "x - -1 > (-2) and '--' = y::text or -x -> 'a--b' = 1e-3".toList

theorem usePlaceholder_holdsComment_signs : ["x".toList] ≠ [] ∧
    ¬ SignsDash none (tokens signsOfNumbers) ∧
    ¬ HoldsComment (usePlaceholder ["x".toList] signsOfNumbers) := by
  have hnone : ¬ SignsDash none (tokens signsOfNumbers) := by decide +kernel
  have hcolumns : ["x".toList] ≠ [] := by decide
  exact ⟨hcolumns, hnone, (usePlaceholder_holdsComment_iff hcolumns signsOfNumbers).not.mpr hnone⟩

/-- **Two signs in a row** become a comment: a condition without one is written with one. -/
theorem not_keeps_free_of_comments : ¬ HoldsComment "x > - - 1".toList ∧
    usePlaceholder ["x".toList] "x > - - 1".toList = "%s.x > --1".toList ∧
    HoldsComment (usePlaceholder ["x".toList] "x > - - 1".toList) := by
  decide +kernel

end SqlFragments
