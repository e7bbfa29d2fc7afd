import SqlFragments.Proofs.Token.Seam

/-!
# A text cut at one of its tokens

A reading function takes as much as it can, so it may depend on everything behind what it takes.
But if it stops in front of some end of the text, it was not the end that stopped it from taking
less, and it takes the same without the end.  So a text cut in front of one of its tokens is read
as it was up to there, unless that token is the parenthesis that makes a name a function.

* `Spares` — a reading function leaves the end of a text alone.
* `takeQuoted_of_spares`, `readChain_of_spares`, … — the functions, one after the other.
* **`readToken_of_spares`** — a token is read without an end that it does not reach into.
* `quotesClosed_front` — the first part of a text that is cut leaves no quote open.
* `scan_behind`, **`scan_in_front`** — the scans of both parts.
* `Lexeme.RunsOn`, **`scan_append_blank`** — white space at the end of a text changes its last token
  only, if anything.
-/

namespace SqlFragments

/-- A reading function leaves `m` alone when it stands behind the text. -/
def Spares {α : Type} (m : Text) (read : Text → α × Text) (s : Text) : Prop :=
  m.length ≤ (read (s ++ m)).2.length

variable {m s : Text}

/-! ## Runs -/

lemma takeWhile_of_spares {p : Char → Bool} (h : m.length ≤ ((s ++ m).dropWhile p).length) :
    (s ++ m).takeWhile p = s.takeWhile p ∧ (s ++ m).dropWhile p = s.dropWhile p ++ m := by
  induction s with
  | nil =>
      have hdrop : m.dropWhile p = m := (List.dropWhile_suffix p).eq_of_length_le h
      have happ := List.takeWhile_append_dropWhile (p := p) (l := m)
      rw [hdrop, List.append_left_eq_self] at happ
      exact ⟨happ, hdrop⟩
  | cons c rest ih =>
      rw [List.cons_append, List.takeWhile_cons, List.takeWhile_cons, List.dropWhile_cons,
        List.dropWhile_cons]
      rw [List.cons_append, List.dropWhile_cons] at h
      split_ifs at h ⊢ with hc
      · exact ⟨congrArg _ (ih h).1, (ih h).2⟩
      · exact ⟨rfl, rfl⟩

lemma takeQuoted_length_lt (q c : Char) (s : Text) :
    (takeQuoted q (c :: s)).2.length < (c :: s).length := by
  have happ := congrArg List.length (takeQuoted_append q (c :: s))
  have hne : (takeQuoted q (c :: s)).1 ≠ [] := by
    cases s with
    | nil => exact List.cons_ne_nil _ _
    | cons d rest =>
        rw [takeQuoted]
        split_ifs <;> exact List.cons_ne_nil _ _
  have hpos := List.length_pos_iff.mpr hne
  rw [List.length_append] at happ
  omega

lemma takeQuoted_of_spares {q : Char} (s : Text) :
    Spares m (takeQuoted q) s → StopsBefore m (takeQuoted q) s := by
  fun_induction takeQuoted q s with
  | case1 =>
      intro h
      cases m with
      | nil => rfl
      | cons c rest => exact absurd h (Nat.not_le.mpr (takeQuoted_length_lt q c rest))
  | case2 c =>
      intro h
      cases m with
      | nil => rfl
      | cons d rest =>
          -- a run of more than one character would reach into the end
          rw [Spares, List.singleton_append, takeQuoted] at h
          rw [StopsBefore, List.singleton_append, takeQuoted, takeQuoted]
          split_ifs at h ⊢ with hc hd
          · have hle := takeQuoted_length_le q rest
            rw [List.length_cons] at h
            exact absurd h (by dsimp only; omega)
          · rfl
          · exact absurd h (Nat.not_le.mpr (takeQuoted_length_lt q d rest))
  | case3 rest ih =>
      intro h
      rw [Spares, List.cons_append, List.cons_append, takeQuoted, if_pos rfl, if_pos rfl] at h
      rw [StopsBefore, List.cons_append, List.cons_append, takeQuoted, if_pos rfl, if_pos rfl,
        ih h, takeQuoted, if_pos rfl, if_pos rfl]
  | case4 d rest hd =>
      intro _
      rw [StopsBefore, List.cons_append, List.cons_append, takeQuoted, if_pos rfl, if_neg hd,
        takeQuoted, if_pos rfl, if_neg hd]
      rfl
  | case5 c d rest hc ih =>
      intro h
      rw [Spares, List.cons_append, List.cons_append, takeQuoted, if_neg hc] at h
      rw [StopsBefore, List.cons_append, List.cons_append, takeQuoted, if_neg hc,
        ← List.cons_append, ih h, takeQuoted, if_neg hc]

/-! ## Chains -/

lemma readSegment_of_spares (h : Spares m readSegment s) : StopsBefore m readSegment s := by
  cases s with
  | nil =>
      have happ := readSegment_append m
      have hrest : (readSegment m).2 = m := by
        have hsuffix : (readSegment m).2 <:+ m := ⟨_, happ⟩
        exact hsuffix.eq_of_length_le h
      rw [hrest, List.append_left_eq_self] at happ
      exact Prod.ext happ hrest
  | cons c rest =>
      cases hq : isIdentifierQuote c with
      | true =>
          rw [Spares, List.cons_append, readSegment_quoted hq] at h
          rw [StopsBefore, List.cons_append, readSegment_quoted hq, readSegment_quoted hq,
            takeQuoted_of_spares rest h]
      | false =>
          have hplain : ∀ {more : Text}, readSegment (c :: more) =
              ((c :: more).takeWhile continuesIdentifier,
                (c :: more).dropWhile continuesIdentifier) := readSegment_plain hq
          rw [Spares, List.cons_append, hplain, ← List.cons_append] at h
          obtain ⟨htake, hdrop⟩ := takeWhile_of_spares h
          rw [StopsBefore, List.cons_append, hplain, ← List.cons_append, htake, hdrop, hplain]

/-- A further segment takes a dot and what opens it. -/
lemma readChain_length_lt (h : opensSegment s = true) :
    (readChain s).2.length + 2 ≤ s.length := by
  rw [opensSegment, Bool.and_eq_true] at h
  obtain ⟨hdot, hnext⟩ := h
  rcases s with - | ⟨d, - | ⟨c, rest⟩⟩
  · cases hdot
  · cases hnext
  · obtain rfl : d = '.' := by simpa using hdot
    rcases Bool.or_eq_true_iff.mp hnext with hc | hc
    · obtain rfl : c = '*' := by simpa using hc
      rw [readChain_star]
      exact le_rfl
    · have hsegment := readSegment_length_lt rest hc
      have hchain := readChain_length_le (readSegment (c :: rest)).2
      rw [readChain_segment (s := c :: rest) hc]
      simp only [List.length_cons] at hsegment ⊢
      omega

lemma readChain_of_spares (s : Text) : Spares m readChain s → StopsBefore m readChain s := by
  induction s using chain_induction with
  | stop s hs =>
      intro h
      have hstop : opensSegment (s ++ m) = false := by
        refine Bool.eq_false_of_not_eq_true fun hopens => ?_
        -- a segment that is opened by `s ++ m` only would reach into the end
        have hlength := readChain_length_lt hopens
        rw [List.length_append] at hlength
        have hle : m.length ≤ (readChain (s ++ m)).2.length := h
        match s, hs, hlength with
        | d :: c :: rest, hs, _ => exact Bool.false_ne_true (hs.symm.trans hopens)
        | [d], _, hlength => rw [List.length_singleton] at hlength; omega
        | [], _, hlength => rw [List.length_nil] at hlength; omega
      rw [StopsBefore, readChain_stop hstop, readChain_stop hs]
  | star rest =>
      intro _
      rw [StopsBefore, List.cons_append, List.cons_append, readChain_star, readChain_star]
  | segment s hs ih =>
      intro h
      have hopens : (s ++ m).head?.any startsSegment = true := head_any_append hs m
      rw [Spares, List.cons_append, readChain_segment hopens] at h
      have hsegment : StopsBefore m readSegment s :=
        readSegment_of_spares (le_trans h (readChain_length_le _))
      rw [StopsBefore] at hsegment
      rw [hsegment] at h
      rw [StopsBefore, List.cons_append, readChain_segment hopens, readChain_segment hs, hsegment,
        ih h]

/-- **An identifier is read without the end**, unless a parenthesis in it makes the identifier a
function. -/
lemma readIdentifier_of_spares (hcall : opensCall m = false) (h : Spares m readIdentifier s) :
    StopsBefore m readIdentifier s := by
  simp only [Spares, readIdentifier] at h
  have hsegment : StopsBefore m readSegment s :=
    readSegment_of_spares (le_trans h (readChain_length_le _))
  rw [StopsBefore] at hsegment
  rw [hsegment] at h
  have hchain : StopsBefore m readChain (readSegment s).2 := readChain_of_spares _ h
  rw [StopsBefore] at hchain
  simp only [StopsBefore, readIdentifier, hsegment, hchain, chainToken,
    opensCall_append_of_not_call hcall]

/-! ## Numbers, parameters and punctuation -/

/-- A class that nothing in front of the end is dropped for is not met at the end. -/
lemma head_any_of_spares {p : Char → Bool} (h : m.length ≤ ((s ++ m).dropWhile p).length) :
    (s ++ m).head?.any p = s.head?.any p := by
  cases s with
  | cons c rest => rfl
  | nil =>
      have hdrop := (takeWhile_of_spares (s := []) h).2
      have hhead := head_any_dropWhile p m
      rw [List.nil_append] at hdrop
      rw [hdrop] at hhead
      exact hhead

lemma opensExponent_append_of_opens (h : opensExponent s = true) (m : Text) :
    opensExponent (s ++ m) = true := by
  obtain ⟨e, x, rest, rfl⟩ := exists_of_opensExponent h
  rw [opensExponent, Bool.and_eq_true, Bool.or_eq_true, Bool.and_eq_true] at h ⊢
  exact h.imp_right fun h => h.imp_right fun hsign => hsign.imp_right fun hdigit =>
    head_any_append hdigit m

lemma readExponent_of_spares (h : Spares m readExponent s) : StopsBefore m readExponent s := by
  cases hopens : opensExponent (s ++ m) with
  | false =>
      have hs : opensExponent s = false := by
        refine Bool.eq_false_of_not_eq_true fun hs => ?_
        rw [opensExponent_append_of_opens hs m] at hopens
        cases hopens
      rw [StopsBefore, readExponent_stop hopens, readExponent_stop hs]
  | true =>
      obtain ⟨e, x, more, htext⟩ := exists_of_opensExponent hopens
      rw [Spares, htext] at h
      rw [htext] at hopens
      rw [readExponent_digits hopens] at h
      have hmore := length_dropWhile_le Char.isDigit more
      have hlength := congrArg List.length htext
      rw [List.length_append, List.length_cons, List.length_cons] at hlength
      -- `e` and what follows it are in front of the end
      rcases s with - | ⟨d, - | ⟨y, rest⟩⟩
      · rw [List.length_nil] at hlength
        dsimp only at h
        omega
      · rw [List.length_singleton] at hlength
        dsimp only at h
        omega
      · simp only [List.cons_append, List.cons.injEq] at htext
        obtain ⟨rfl, rfl, rfl⟩ := htext
        obtain ⟨htake, hdrop⟩ := takeWhile_of_spares h
        have hs : opensExponent (d :: y :: rest) = true := by
          rw [opensExponent, List.tail_cons, List.tail_cons, head_any_of_spares h] at hopens
          exact hopens
        rw [StopsBefore, List.cons_append, List.cons_append, readExponent_digits hopens, htake,
          hdrop, readExponent_digits hs]

lemma readNumber_of_spares (h : Spares m readNumber s) : StopsBefore m readNumber s := by
  simp only [Spares, readNumber] at h
  obtain ⟨htake, hdrop⟩ := takeWhile_of_spares (le_trans h (readExponent_length_le _))
  rw [hdrop] at h
  have hexponent := readExponent_of_spares h
  rw [StopsBefore] at hexponent
  simp only [StopsBefore, readNumber, htake, hdrop, hexponent]

/-- The operator that a text starts with is found without an end that it does not reach into. -/
lemma find_longOperator_of_spares (h : ∀ op, longOperators.find? (·.isPrefixOf (s ++ m)) = some op →
    op.length ≤ s.length) :
    longOperators.find? (·.isPrefixOf (s ++ m)) = longOperators.find? (·.isPrefixOf s) := by
  have hlonger : ∀ {op : Text}, op.isPrefixOf s = true → op.isPrefixOf (s ++ m) = true := by
    intro op hop
    rw [List.isPrefixOf_iff_prefix] at hop ⊢
    exact hop.trans (List.prefix_append s m)
  cases hfound : longOperators.find? (·.isPrefixOf (s ++ m)) with
  | none =>
      rw [List.find?_eq_none] at hfound
      exact (List.find?_eq_none.mpr fun op hop hprefix => hfound op hop (hlonger hprefix)).symm
  | some op =>
      obtain ⟨hop, before, after, hsplit, hbefore⟩ := List.find?_eq_some_iff_append.mp hfound
      refine (List.find?_eq_some_iff_append.mpr ⟨?_, before, after, hsplit, fun a ha => ?_⟩).symm
      · rw [List.isPrefixOf_iff_prefix] at hop ⊢
        exact List.prefix_of_prefix_length_le hop (List.prefix_append s m) (h op hfound)
      · have hnot := hbefore a ha
        rw [Bool.not_eq_true', ← Bool.not_eq_true] at hnot ⊢
        exact fun hprefix => hnot (hlonger hprefix)

/-- **Punctuation is read without the end.** -/
lemma readPunctuation_of_spares {c : Char} {rest : Text}
    (h : m.length ≤ (readPunctuation c (rest ++ m)).2.length) :
    readPunctuation c (rest ++ m) =
      ((readPunctuation c rest).1, (readPunctuation c rest).2 ++ m) := by
  by_cases h1 : c = '('
  · rw [readPunctuation, readPunctuation, if_pos h1, if_pos h1]
  by_cases h2 : c = ')'
  · rw [readPunctuation, readPunctuation, if_neg h1, if_pos h2, if_neg h1, if_pos h2]
  by_cases h3 : c = ','
  · rw [readPunctuation, readPunctuation, if_neg h1, if_neg h2, if_pos h3, if_neg h1, if_neg h2,
      if_pos h3]
  rw [readPunctuation, if_neg h1, if_neg h2, if_neg h3] at h
  have hlength : ∀ op, longOperators.find? (·.isPrefixOf ((c :: rest) ++ m)) = some op →
      op.length ≤ (c :: rest).length := by
    intro op hop
    have hop' : longOperators.find? (·.isPrefixOf (c :: (rest ++ m))) = some op := hop
    have hprefix : op <+: c :: (rest ++ m) := by simpa using List.find?_some hop'
    have hle := hprefix.length_le
    rw [hop'] at h
    simp only [List.length_drop, List.length_cons, List.length_append] at h hle ⊢
    omega
  have hfind := find_longOperator_of_spares hlength
  rw [List.cons_append] at hfind
  rw [readPunctuation, readPunctuation, if_neg h1, if_neg h2, if_neg h3, if_neg h1, if_neg h2,
    if_neg h3, hfind]
  cases hfound : longOperators.find? (·.isPrefixOf (c :: rest)) with
  | none =>
      simp only
      split_ifs <;> rfl
  | some op =>
      have hstart : op <+: c :: rest := by simpa using List.find?_some hfound
      exact Prod.ext rfl (List.drop_append_of_le_length hstart.length_le)

/-! ## Tokens -/

/-- What a digit opens at the start of a text, it opens with an end behind the text as well. -/
lemma not_digits_of_append {a b : Bool} {rest : Text}
    (h : (a || b && startsWithDigit (rest ++ m)) = false) :
    (a || b && startsWithDigit rest) = false := by
  cases hdigit : startsWithDigit rest with
  | true =>
      have hlonger : startsWithDigit (rest ++ m) = true := head_any_append hdigit m
      rwa [hlonger] at h
  | false => rw [(Bool.or_eq_false_iff.mp h).1, Bool.and_false, Bool.false_or]

/-- A digit behind the dot of a number stands in front of the end. -/
lemma startsWithDigit_of_spares {rest : Text}
    (h : m.length ≤ ((rest ++ m).dropWhile fun c => c.isDigit || c == '.').length) :
    startsWithDigit (rest ++ m) = startsWithDigit rest := by
  cases rest with
  | cons c rest => rfl
  | nil =>
      have hnone := head_any_of_spares (s := []) h
      rw [List.nil_append] at hnone ⊢
      cases m with
      | nil => rfl
      | cons d more => exact (Bool.or_eq_false_iff.mp hnone).1

/-- **A token is read without an end that it does not reach into**, unless the end starts with the
parenthesis that makes the token a function. -/
lemma readToken_of_spares {c : Char} {rest : Text} (hcall : opensCall m = false)
    (h : m.length ≤ (readToken c (rest ++ m)).2.length) :
    readToken c (rest ++ m) = ((readToken c rest).1, (readToken c rest).2 ++ m) := by
  by_cases hliteral : c = '\''
  · subst hliteral
    rw [readToken_literal] at h
    have hrun : StopsBefore m (takeQuoted '\'') rest := takeQuoted_of_spares rest h
    rw [StopsBefore] at hrun
    rw [readToken_literal, readToken_literal, hrun]
  cases hsegment : startsSegment c with
  | true =>
      rw [readToken_segment hsegment] at h
      rw [readToken_segment hsegment, readToken_segment hsegment]
      exact readIdentifier_of_spares (s := c :: rest) hcall h
  | false =>
      cases hnumber : c.isDigit || c == '.' && startsWithDigit (rest ++ m) with
      | true =>
          rw [readToken_number hliteral hsegment hnumber] at h ⊢
          have hdigit : startsWithDigit (rest ++ m) = startsWithDigit rest := by
            have hmantissa := le_trans h (readExponent_length_le _)
            rw [List.dropWhile_cons, if_pos] at hmantissa
            · exact startsWithDigit_of_spares hmantissa
            · rw [Bool.or_eq_true, Bool.and_eq_true] at hnumber
              exact Bool.or_eq_true_iff.mpr (hnumber.imp_right And.left)
          rw [hdigit] at hnumber
          rw [readToken_number hliteral hsegment hnumber]
          exact readNumber_of_spares (s := c :: rest) h
      | false =>
          have hnumber' := not_digits_of_append hnumber
          cases hparameter : c == '?' || c == '$' && startsWithDigit (rest ++ m) with
          | true =>
              rw [readToken_parameter hliteral hsegment hnumber hparameter] at h ⊢
              obtain ⟨htake, hdrop⟩ := takeWhile_of_spares h
              have hdigit : startsWithDigit (rest ++ m) = startsWithDigit rest :=
                head_any_of_spares h
              rw [hdigit] at hparameter
              rw [readToken_parameter hliteral hsegment hnumber' hparameter, htake, hdrop]
          | false =>
              rw [readToken_punctuation hliteral hsegment hnumber hparameter] at h ⊢
              rw [readToken_punctuation hliteral hsegment hnumber'
                (not_digits_of_append hparameter)]
              exact readPunctuation_of_spares h

/-! ## Whole texts -/

/-- **Behind a lexeme** a text is scanned as it was. -/
lemma scan_behind (s : Text) : ∀ {front more : List Lexeme}, (scan s).lexemes = front ++ more →
    ∃ rest, s = front.flatMap Lexeme.text ++ rest ∧ scan rest = ⟨more, (scan s).trailing⟩ := by
  induction s using scan_induction with
  | blank s hs =>
      intro front more h
      rw [scan_of_blank hs] at h
      obtain ⟨rfl, rfl⟩ := List.append_eq_nil_iff.mp h.symm
      exact ⟨s, rfl, by rw [scan_of_blank hs]⟩
  | token s c rest hs ih =>
      intro front more h
      cases front with
      | nil =>
          obtain rfl : (scan s).lexemes = more := h
          exact ⟨s, rfl, rfl⟩
      | cons first front =>
          have htext := scan_append s
          rw [scan_of_token hs, List.cons_append] at h
          obtain ⟨hfirst, hmore⟩ := List.cons.inj h
          obtain ⟨behind, hbehind, hscan⟩ := ih hmore
          refine ⟨behind, ?_, ?_⟩
          · rw [scan_of_token hs, List.flatMap_cons, hfirst, List.append_assoc, scan_append,
              hbehind] at htext
            rw [← htext, List.flatMap_cons, List.append_assoc]
          · rw [hscan, scan_of_token hs]

/-- A token with `a` and then `m` behind it is read from its text and `a` alone. -/
lemma readToken_in_front {c : Char} {rest a : Text} (hcall : opensCall m = false)
    (h : (readToken c rest).2 = a ++ m) : ∃ inner, (readToken c rest).1.text = c :: inner ∧
      readToken c (inner ++ a) = ((readToken c rest).1, a) := by
  have htext := readToken_append c rest
  obtain ⟨d, inner, hinner⟩ := List.exists_cons_of_ne_nil (readToken_text_ne_nil c rest)
  rw [h, hinner, List.cons_append, ← List.append_assoc] at htext
  obtain ⟨rfl, hrest⟩ := List.cons.inj htext
  refine ⟨inner, hinner, ?_⟩
  have hspare : m.length ≤ (readToken d (inner ++ a ++ m)).2.length := by
    rw [hrest, h, List.length_append]
    exact Nat.le_add_left _ _
  have hread := readToken_of_spares hcall hspare
  rw [hrest] at hread
  have hbehind := congrArg Prod.snd hread
  rw [h] at hbehind
  exact Prod.ext (congrArg Prod.fst hread).symm (List.append_cancel_right hbehind).symm

lemma scan_of_blank_append {b rest : Text} (hb : b.isBlank = true) {c : Char}
    (hc : isBlank c = false) : scan (b ++ c :: rest) =
      ⟨⟨b, (readToken c rest).1.text, (readToken c rest).1⟩ ::
        (scan (readToken c rest).2).lexemes, (scan (readToken c rest).2).trailing⟩ := by
  have hhead : (c :: rest).head?.any isBlank = false := hc
  obtain ⟨htake, hdrop⟩ := takeWhile_append_of_head (List.all_eq_true.mp hb) hhead
  rw [scan_of_token hdrop, htake]

/-- Lexemes in front of another one leave no quote open. -/
lemma quotesClosed_front (s : Text) : ∀ {front more : List Lexeme} {l : Lexeme},
    (scan s).lexemes = front ++ l :: more → QuotesClosed (front.flatMap Lexeme.text) := by
  induction s using scan_induction with
  | blank s hs =>
      intro front more l h
      rw [scan_of_blank hs] at h
      cases front <;> cases h
  | token s c rest hs ih =>
      intro front more l h
      cases front with
      | nil => rfl
      | cons first front =>
          rw [scan_of_token hs, List.cons_append] at h
          obtain ⟨rfl, hmore⟩ := List.cons.inj h
          have hne : (readToken c rest).2 ≠ [] := fun hnil => by
            rw [hnil, scan_of_blank rfl] at hmore
            cases front <;> cases hmore
          have htoken := readToken_text_closed (isBlank_of_dropWhile hs) hne
          rw [List.flatMap_cons, Lexeme.text]
          exact ((quotesClosed_of_isBlank List.all_takeWhile).append htoken).append (ih hmore)

/-- A text cut behind a lexeme is scanned as it was, unless the next one is the parenthesis that
makes a name a function. -/
lemma scan_flatMap_text (s : Text) : ∀ {front more : List Lexeme} {l : Lexeme},
    (scan s).lexemes = front ++ l :: more → l.token ≠ .leftParen →
      scan (front.flatMap Lexeme.text) = ⟨front, []⟩ := by
  induction s using scan_induction with
  | blank s hs =>
      intro front more l h
      rw [scan_of_blank hs] at h
      cases front <;> cases h
  | token s c rest hs ih =>
      intro front more l h hl
      cases front with
      | nil => exact scan_of_blank rfl
      | cons first front =>
          rw [scan_of_token hs, List.cons_append] at h
          obtain ⟨rfl, hmore⟩ := List.cons.inj h
          obtain ⟨m, hm, hscan⟩ := scan_behind _ hmore
          have hcall : opensCall m = false := by
            refine Bool.eq_false_of_not_eq_true fun hopens => hl ?_
            rw [← head_tokens_leftParen, tokens, hscan] at hopens
            exact Option.some.inj hopens
          obtain ⟨inner, hinner, hread⟩ := readToken_in_front hcall hm
          have hfirst : Text.isBlank (s.takeWhile isBlank) = true := List.all_takeWhile
          rw [List.flatMap_cons, Lexeme.text, hinner, List.append_assoc, List.cons_append,
            scan_of_blank_append hfirst (isBlank_of_dropWhile hs), hread, ih hmore hl, hinner]

/-- **In front of a lexeme** a text closes its quotes and is scanned as it was, white space
included, unless the lexeme is the parenthesis that makes a name a function. -/
theorem scan_in_front {front more : List Lexeme} {l : Lexeme}
    (h : (scan s).lexemes = front ++ l :: more) (hl : l.token ≠ .leftParen) :
    QuotesClosed (front.flatMap Lexeme.text ++ l.blank) ∧
      scan (front.flatMap Lexeme.text ++ l.blank) = ⟨front, l.blank⟩ := by
  have hfront := quotesClosed_front s h
  have hblank : l.blank.isBlank = true := by
    refine blank_isBlank s l ?_
    rw [h]
    exact List.mem_append_right _ List.mem_cons_self
  refine ⟨hfront.append (quotesClosed_of_isBlank hblank), ?_⟩
  rw [scan_append_separates (separates_of_isBlank hblank) hfront
      (by rw [opensCall_of_isBlank hblank, Bool.and_false]), scan_flatMap_text s h hl,
    scan_of_blank (dropWhile_of_isBlank hblank)]
  rfl

/-! ## White space behind a text -/

/-- The last lexeme of a text, and what becomes of it in front of white space, which an open quote
takes up. -/
structure Lexeme.RunsOn (l l' : Lexeme) : Prop where
  blank : l'.blank = l.blank
  token : l' = l ∨ l.token.isQuotable = true ∧ l'.token.isQuotable = true

lemma isQuotable_of_open {c : Char} {rest : Text} (hblank : isBlank c = false)
    (hopen : ¬ QuotesClosed (readToken c rest).1.text) :
    (readToken c rest).1.isQuotable = true := by
  obtain ⟨next, hfits, -⟩ := exists_readToken_fits hblank
  refine Bool.eq_true_of_not_eq_false fun hquotable => hopen ?_
  exact quotesClosed_of_quoteless (hfits.quoteless hquotable)

/-- A token that a quote leaves open at the end of the text is open in front of white space. -/
lemma not_quotesClosed_in_front {c : Char} {rest b : Text} (hb : b.isBlank = true)
    (hopen : ¬ QuotesClosed (c :: rest)) (hend : (readToken c rest).2 = []) :
    ¬ QuotesClosed (readToken c (rest ++ b)).1.text := by
  intro hclosed
  have htext := readToken_append c rest
  rw [hend, List.append_nil] at htext
  have happ : (readToken c (rest ++ b)).1.text ++ (readToken c (rest ++ b)).2 = (c :: rest) ++ b :=
    readToken_append c (rest ++ b)
  rcases List.append_eq_append_iff.mp happ with ⟨a, -, hrest⟩ | ⟨a, hlonger, hrest⟩
  · have hspare : b.length ≤ (readToken c (rest ++ b)).2.length := by
      rw [hrest, List.length_append]
      exact Nat.le_add_left _ _
    rw [readToken_of_spares (opensCall_of_isBlank hb) hspare, htext] at hclosed
    exact hopen hclosed
  · rw [hlonger] at hclosed
    refine hopen (hclosed.of_append fun x hx => isQuote_of_isBlank (List.all_eq_true.mp hb x ?_))
    rw [hrest]
    exact List.mem_append_left _ hx

/-- **White space behind a text** changes nothing but the last token, and that one only if a quote
is open in it. -/
theorem scan_append_blank {b : Text} (hb : b.isBlank = true) {s : Text} : s.isBlank = false →
    ∃ front l l', (scan s).lexemes = front ++ [l] ∧ (scan (s ++ b)).lexemes = front ++ [l'] ∧
      Lexeme.RunsOn l l' := by
  induction s using scan_induction with
  | blank s hs =>
      intro hblank
      rw [(tokens_eq_nil_iff s).mp (tokens_of_blank hs)] at hblank
      cases hblank
  | token s c rest hs ih =>
      intro _
      have hblank : isBlank c = false := isBlank_of_dropWhile hs
      rw [scan_of_token hs, scan_of_token (dropWhile_append_of_cons hs),
        takeWhile_append_of_cons hs]
      by_cases hends : QuotesClosed (c :: rest) ∨ (readToken c rest).2 ≠ []
      · rw [readToken_append_separates (separates_of_isBlank hb) hblank hends
          fun _ => by rw [opensCall_of_isBlank hb, Bool.and_false]]
        cases hmore : (readToken c rest).2.isBlank with
        | true =>
            have hall : Text.isBlank ((readToken c rest).2 ++ b) = true := by
              rw [Text.isBlank_append, hmore, hb, Bool.and_true]
            rw [scan_of_blank (dropWhile_of_isBlank hmore),
              scan_of_blank (dropWhile_of_isBlank hall)]
            exact ⟨[], _, _, rfl, rfl, rfl, Or.inl rfl⟩
        | false =>
            obtain ⟨front, l, l', hfront, hfront', hruns⟩ := ih hmore
            exact ⟨_ :: front, l, l', congrArg (List.cons _) hfront,
              congrArg (List.cons _) hfront', hruns⟩
      · obtain ⟨hopen, hend⟩ := not_or.mp hends
        rw [not_not] at hend
        have htext := readToken_append c rest
        rw [hend, List.append_nil] at htext
        have hopen' := not_quotesClosed_in_front hb hopen hend
        have hend' : (readToken c (rest ++ b)).2 = [] :=
          not_not.mp (mt (readToken_text_closed hblank) hopen')
        rw [hend, hend', scan_of_blank rfl]
        exact ⟨[], _, _, rfl, rfl, rfl, Or.inr
          ⟨isQuotable_of_open hblank (by rwa [htext]), isQuotable_of_open hblank hopen'⟩⟩

end SqlFragments
