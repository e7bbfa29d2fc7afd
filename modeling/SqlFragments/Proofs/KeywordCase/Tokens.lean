import Mathlib.Data.List.Find
import SqlFragments.Proofs.KeywordCase.Reading

/-!
# Lower-casing keywords keeps the tokens

The words that `lowerKeywords` changes are found by a rule of their own, and what the changed
text means is decided by reading it as tokens.  The two agree: the new text has the same tokens up
to the case of their letters, with the same white space between them but inside pairs of words.

* `Token.Recased` — a token and what may become of it.
* `readToken_lowered` — one token is read up to the same place.
* `Relexed` — lexemes of two texts, one by one.
* **`lowerKeywords_keeps_tokens`** — the tokens of a text and of its lower-cased form.
-/

namespace SqlFragments

/-! ## What may become of a token -/

/-- A token and what may become of it.  Literals and quoted segments stay as they are; a name in
front of a parenthesis is a chain of segments like any other. -/
inductive Token.Recased : Token → Token → Prop
  | literal (t : Text) : Recased (.literal t) (.literal t)
  | identifier {segments segments' : List Text} : List.Forall₂ SegmentRecased segments segments' →
      Recased (.identifier segments) (.identifier segments')
  | function {segments segments' : List Text} : (∀ a ∈ segments, IsName a) →
      List.Forall₂ SegmentRecased segments segments' →
      Recased (.function (Text.join ['.'] segments)) (.function (Text.join ['.'] segments'))
  | keyword {w w' : Text} : w'.sameLetters w = true → Recased (.keyword w) (.keyword w')
  | number {t t' : Text} : t'.sameLetters t = true → Recased (.number t) (.number t')
  | parameter (t : Text) : Recased (.parameter t) (.parameter t)
  | leftParen : Recased .leftParen .leftParen
  | rightParen : Recased .rightParen .rightParen
  | comma : Recased .comma .comma
  | operator (op : Text) : Recased (.operator op) (.operator op)
  | other (c : Char) : Recased (.other c) (.other c)

variable {whole s s' rest : Text}

/-! ## Chains -/

lemma SegmentRecased.letters {a a' : Text} (h : SegmentRecased a a') :
    a'.toAsciiLower = a.toAsciiLower :=
  Text.sameLetters_iff.mp h.1

lemma isQuotedSegment_recased {a a' : Text} (h : SegmentRecased a a') :
    isQuotedSegment a' = isQuotedSegment a := by
  have hletters := h.letters
  match a, a', hletters with
  | [], [], _ => rfl
  | c :: rest, c' :: rest', hletters =>
      have hc : c'.toLower = c.toLower := (List.cons.inj hletters).1
      rw [isQuotedSegment, isQuotedSegment, ← caseBlind_isIdentifierQuote.lower c', hc,
        caseBlind_isIdentifierQuote.lower]

lemma eq_star_iff_recased {a a' : Text} (h : SegmentRecased a a') : a' = ['*'] ↔ a = ['*'] := by
  have hstar : ∀ {t : Text}, t.toAsciiLower = ['*'] ↔ t = ['*'] := by
    intro t
    constructor
    · intro ht
      obtain ⟨c, rfl, hc⟩ := List.map_eq_singleton_iff.mp ht
      have hlower := caseBlind_star.lower c
      rw [hc, beq_self_eq_true] at hlower
      rw [eq_of_beq hlower.symm]
    · rintro rfl
      decide
  rw [← hstar, ← hstar (t := a), h.letters]

lemma isLoneKeyword_recased {a a' : List Text} (h : List.Forall₂ SegmentRecased a a') :
    isLoneKeyword a' = isLoneKeyword a := by
  match a, a', h with
  | [], [], _ => rfl
  | [w], [w'], .cons hw _ =>
      rw [isLoneKeyword, isLoneKeyword, isQuotedSegment_recased hw, isKeyword_of_sameLetters hw.1]
  | _ :: _ :: _, _ :: _ :: _, _ => rfl

lemma endsPlain_recased {a a' : List Text} (h : List.Forall₂ SegmentRecased a a') :
    endsPlain a' = endsPlain a := by
  induction h with
  | nil => rfl
  | @cons w w' more more' hw hmore ih =>
      cases hmore with
      | nil =>
          rw [endsPlain, endsPlain, List.getLast?_singleton, List.getLast?_singleton,
            Option.any_some, Option.any_some, isQuotedSegment_recased hw]
          congr 1
          rw [Bool.eq_iff_iff, bne_iff_ne, bne_iff_ne, Ne, Ne, eq_star_iff_recased hw]
      | cons h1 h2 =>
          rw [endsPlain, endsPlain] at ih ⊢
          rw [List.getLast?_cons_cons, List.getLast?_cons_cons]
          exact ih

lemma opensCall_lowered (h : Lowered whole s s') : opensCall s' = opensCall s := by
  have hparen : CaseBlind (· == '(') := caseBlind_beq (by decide) (by decide)
  have hhead := (skipBlank_lowered h).1.head_any hparen
  have hany : ∀ t : Text, (t.head? == some '(') = t.head?.any (· == '(') := by
    intro t
    cases t <;> rfl
  rw [opensCall, opensCall, hany, hany, hhead]

lemma join_recased {a a' : List Text} (h : List.Forall₂ SegmentRecased a a') :
    (Text.join ['.'] a').toAsciiLower = (Text.join ['.'] a).toAsciiLower := by
  induction h with
  | nil => rfl
  | @cons w w' more more' hw hmore ih =>
      cases hmore with
      | nil => rw [Text.join_singleton, Text.join_singleton, hw.letters]
      | cons h1 h2 =>
          rw [Text.join_cons_cons, Text.join_cons_cons, Text.toAsciiLower_append,
            Text.toAsciiLower_append, Text.toAsciiLower_append, Text.toAsciiLower_append, ih,
            hw.letters]

/-- **A chain is taken for the same.** -/
lemma readIdentifier_lowered (hs : s.head?.any startsSegment = true) (h : Lowered whole s s') :
    Token.Recased (readIdentifier s).1 (readIdentifier s').1 ∧
      Lowered whole (readIdentifier s).2 (readIdentifier s').2 := by
  have hs' := h.head_any caseBlind_startsSegment
  rw [hs] at hs'
  obtain ⟨hfirst, hmore⟩ := readSegment_lowered h
  obtain ⟨hchain, hrest⟩ := readChain_lowered _ hmore
  have hsegments := List.Forall₂.cons hfirst hchain
  refine ⟨?_, hrest⟩
  simp only [readIdentifier]
  rw [chainToken_eq (readSegment_cons_ne_star hs _), chainToken_eq (readSegment_cons_ne_star hs' _),
    isLoneKeyword_recased hsegments, endsPlain_recased hsegments, opensCall_lowered hrest]
  split_ifs with hkeyword hcall
  · exact Token.Recased.keyword (Text.sameLetters_iff.mpr (join_recased hsegments))
  · rw [Bool.and_eq_true] at hcall
    exact Token.Recased.function (isName_of_call hs hcall.1 hcall.2) hsegments
  · exact Token.Recased.identifier hsegments

/-! ## Numbers -/

/-- A first character of a class without white space and quotes, and what follows it. -/
lemma Lowered.cons_class {p : Char → Bool} {c : Char} (hp : WordLike p) (hc : p c = true)
    (h : Lowered whole (c :: rest) s') :
    ∃ c' rest', s' = c' :: rest' ∧ c'.toLower = c.toLower ∧ Lowered whole rest rest' := by
  have htail := h.tail hp hc
  have hletters := (h.takeWhile hp).1
  have hhead := h.head_any hp.toCaseBlind
  rw [List.head?_cons, Option.any_some, hc] at hhead
  cases s' with
  | nil => cases hhead
  | cons c' rest' =>
      have hc' : p c' = true := hhead
      rw [List.takeWhile_cons, List.takeWhile_cons, if_pos hc, if_pos hc'] at hletters
      exact ⟨c', rest', rfl, (List.cons.inj hletters).1, htail⟩

lemma wordLike_exponentSign : WordLike fun c => c == '+' || c == '-' :=
  (wordLike_beq (by decide) (by decide) (by decide)).or
    (wordLike_beq (by decide) (by decide) (by decide))

lemma wordLike_exponentLetter : WordLike fun c => c == 'e' || c == 'E' where
  lower := apply_toLower (f := fun c => c == 'e' || c == 'E') (by decide)
  blank := fun c hc => apply_blank
    (P := fun c => (c == 'e' || c == 'E') = (' ' == 'e' || ' ' == 'E')) (by decide) hc
  space := by decide
  quote := fun c hc => apply_quote (P := fun c => (c == 'e' || c == 'E') = false) (by decide) hc

lemma opensExponent_lowered (h : Lowered whole s s') : opensExponent s' = opensExponent s := by
  rw [opensExponent, opensExponent, h.head_any wordLike_exponentLetter.toCaseBlind]
  cases hs : s.head?.any (fun c => c == 'e' || c == 'E') with
  | false => rfl
  | true =>
      have htail := h.tail wordLike_exponentLetter hs
      rw [htail.head_any wordLike_isDigit.toCaseBlind,
        htail.head_any wordLike_exponentSign.toCaseBlind]
      cases ht : s.tail.head?.any (fun c => c == '+' || c == '-') with
      | false => rfl
      | true =>
          rw [(htail.tail wordLike_exponentSign ht).head_any wordLike_isDigit.toCaseBlind]

lemma readExponent_lowered (h : Lowered whole s s') :
    (readExponent s').1.toAsciiLower = (readExponent s).1.toAsciiLower ∧
      Lowered whole (readExponent s).2 (readExponent s').2 := by
  have hopens := opensExponent_lowered h
  cases hs : opensExponent s with
  | false =>
      rw [hs] at hopens
      rw [readExponent_stop hs, readExponent_stop hopens]
      exact ⟨rfl, h⟩
  | true =>
      rw [hs] at hopens
      obtain ⟨e, x, rest, rfl⟩ := exists_of_opensExponent hs
      have he : (e == 'e' || e == 'E') = true := (Bool.and_eq_true_iff.mp hs).1
      have hx : (x.isDigit || (x == '+' || x == '-')) = true := by
        have hmore := (Bool.and_eq_true_iff.mp hs).2
        simp only [List.tail_cons, List.head?_cons, Option.any_some, Bool.or_eq_true,
          Bool.and_eq_true] at hmore ⊢
        exact hmore.imp_right And.left
      obtain ⟨e', t, rfl, hee, ht⟩ := h.cons_class wordLike_exponentLetter he
      obtain ⟨x', rest', rfl, hxx, hrest⟩ :=
        ht.cons_class (wordLike_isDigit.or wordLike_exponentSign) hx
      obtain ⟨hletters, hmore⟩ := hrest.takeWhile wordLike_isDigit
      rw [readExponent_digits hs, readExponent_digits hopens]
      refine ⟨?_, hmore⟩
      simp only [Text.toAsciiLower, List.map_cons] at hletters ⊢
      rw [hee, hxx, hletters]

/-- **A number is read up to the same place.** -/
lemma readNumber_lowered (h : Lowered whole s s') :
    Token.Recased (readNumber s).1 (readNumber s').1 ∧
      Lowered whole (readNumber s).2 (readNumber s').2 := by
  obtain ⟨hmantissa, hrest⟩ := h.takeWhile (wordLike_isDigit.or wordLike_dot)
  obtain ⟨hexponent, hmore⟩ := readExponent_lowered hrest
  refine ⟨Token.Recased.number (Text.sameLetters_iff.mpr ?_), hmore⟩
  rw [Text.toAsciiLower_append, Text.toAsciiLower_append, hmantissa, hexponent]

/-! ## Punctuation -/

/-- A character outside words, quotes and white space stays as it is. -/
lemma Lowered.cons_sign {c : Char} (hquote : isQuote c = false) (hblank : isBlank c = false)
    (hletter : startsIdentifier c = false) (h : Lowered whole (c :: rest) s') :
    ∃ rest', s' = c :: rest' ∧ Lowered whole rest rest' := by
  cases h with
  | quoted hq _ =>
      rw [hquote] at hq
      cases hq
  | @char _ c' _ rest' _ hc hrest =>
      rw [toLower_of_not_startsIdentifier hletter, or_self] at hc
      exact ⟨rest', by rw [hc], hrest⟩
  | gap _ hb _ _ _ =>
      rw [hblank] at hb
      cases hb

/-- An operator stands in front of both texts or of none. -/
lemma isPrefixOf_lowered : ∀ {op s s' : Text}, (∀ x ∈ op, WordLike (· == x)) →
    Lowered whole s s' → op.isPrefixOf s' = op.isPrefixOf s ∧
      (op.isPrefixOf s = true → Lowered whole (s.drop op.length) (s'.drop op.length))
  | [], _, _, _, h => ⟨rfl, fun _ => h⟩
  | x :: op, [], _, _, h => by
      obtain rfl := h.nil_inv
      exact ⟨rfl, fun hop => by cases hop⟩
  | x :: op, c :: rest, s', hop, h => by
      have hx := hop x List.mem_cons_self
      cases hc : c == x with
      | false =>
          have hhead := h.head_any hx.toCaseBlind
          rw [List.head?_cons, Option.any_some, hc] at hhead
          have hfront : (x :: op).isPrefixOf (c :: rest) = false := by
            rw [List.isPrefixOf, BEq.comm, hc, Bool.false_and]
          refine ⟨?_, fun htrue => by rw [hfront] at htrue; cases htrue⟩
          rw [hfront]
          cases s' with
          | nil => rfl
          | cons c' rest' =>
              have hc' : (c' == x) = false := hhead
              rw [List.isPrefixOf, BEq.comm, hc', Bool.false_and]
      | true =>
          obtain rfl := eq_of_beq hc
          obtain ⟨rest', rfl, hrest⟩ := h.cons_inv hx
          have ih := isPrefixOf_lowered (fun y hy => hop y (List.mem_cons_of_mem _ hy)) hrest
          rw [List.isPrefixOf, List.isPrefixOf, beq_self_eq_true, Bool.true_and, Bool.true_and]
          exact ih

/-- The characters of operators are neither letters, nor white space, nor quotes. -/
lemma wordLike_longOperators : ∀ op ∈ longOperators, ∀ x ∈ op, WordLike (· == x) := by
  have hclass : longOperators.all (·.all fun x =>
      !startsIdentifier x && !isBlank x && !isQuote x) = true := by decide
  intro op hop x hx
  have hsign := List.all_eq_true.mp (List.all_eq_true.mp hclass op hop) x hx
  simp only [Bool.and_eq_true, Bool.not_eq_true'] at hsign
  obtain ⟨⟨hstart, hblank⟩, hquote⟩ := hsign
  exact wordLike_beq hstart hblank hquote

/-- **Punctuation is read up to the same place.** -/
lemma readPunctuation_lowered {c : Char} {rest' : Text} (hc : Lowered whole (c :: rest) (c :: rest'))
    (hrest : Lowered whole rest rest') :
    Token.Recased (readPunctuation c rest).1 (readPunctuation c rest').1 ∧
      Lowered whole (readPunctuation c rest).2 (readPunctuation c rest').2 := by
  have hfind : longOperators.find? (·.isPrefixOf (c :: rest'))
      = longOperators.find? (·.isPrefixOf (c :: rest)) :=
    List.find?_congr fun op hop => (isPrefixOf_lowered (wordLike_longOperators op hop) hc).1
  unfold readPunctuation
  by_cases h1 : c = '('
  · rw [if_pos h1, if_pos h1]
    exact ⟨Token.Recased.leftParen, hrest⟩
  by_cases h2 : c = ')'
  · rw [if_neg h1, if_neg h1, if_pos h2, if_pos h2]
    exact ⟨Token.Recased.rightParen, hrest⟩
  by_cases h3 : c = ','
  · rw [if_neg h1, if_neg h1, if_neg h2, if_neg h2, if_pos h3, if_pos h3]
    exact ⟨Token.Recased.comma, hrest⟩
  rw [if_neg h1, if_neg h1, if_neg h2, if_neg h2, if_neg h3, if_neg h3, hfind]
  cases hop : longOperators.find? (·.isPrefixOf (c :: rest)) with
  | some op =>
      have hfront : op.isPrefixOf (c :: rest) = true := by
        have hfound := List.find?_some hop
        exact hfound
      exact ⟨Token.Recased.operator op,
        (isPrefixOf_lowered (wordLike_longOperators op (List.mem_of_find?_eq_some hop)) hc).2
          hfront⟩
  | none =>
      simp only
      split_ifs
      · exact ⟨Token.Recased.operator [c], hrest⟩
      · exact ⟨Token.Recased.other c, hrest⟩

/-! ## One token -/

lemma takeWhile_isDigit_lowered (h : Lowered whole s s') :
    s'.takeWhile Char.isDigit = s.takeWhile Char.isDigit := by
  have hdigits : ∀ t : Text, Text.toAsciiLower (t.takeWhile Char.isDigit)
      = t.takeWhile Char.isDigit := by
    intro t
    refine (List.map_congr_left fun c hc => ?_).trans (List.map_id _)
    exact toLower_of_not_startsIdentifier
      (startsIdentifier_of_isDigit (List.mem_takeWhile_imp hc))
  rw [← hdigits, (h.takeWhile wordLike_isDigit).1, hdigits]

/-- **A token is read up to the same place**, and it is the same up to the case of its letters. -/
lemma readToken_lowered {c c' : Char} {rest' : Text} (hblank : isBlank c = false)
    (h : Lowered whole (c :: rest) (c' :: rest')) :
    Token.Recased (readToken c rest).1 (readToken c' rest').1 ∧
      Lowered whole (readToken c rest).2 (readToken c' rest').2 := by
  have hstarts : startsSegment c' = startsSegment c := h.head_any caseBlind_startsSegment
  by_cases hliteral : c = '\''
  · subst hliteral
    obtain ⟨t, ht, hrun, hrest⟩ := h.quoted_inv (by decide)
    obtain ⟨rfl, rfl⟩ := List.cons.inj ht
    rw [readToken_literal, readToken_literal, hrun]
    exact ⟨Token.Recased.literal _, hrest⟩
  cases hsegment : startsSegment c with
  | true =>
      rw [hsegment] at hstarts
      rw [readToken_segment hsegment, readToken_segment hstarts]
      exact readIdentifier_lowered hsegment h
  | false =>
      obtain ⟨hletter, hsign⟩ := Bool.or_eq_false_iff.mp hsegment
      have hquote : isQuote c = false := by
        rw [isIdentifierQuote] at hsign
        rw [isQuote, Bool.or_assoc, hsign, Bool.or_false, beq_eq_false_iff_ne]
        exact hliteral
      obtain ⟨t, ht, hrest⟩ := h.cons_sign hquote hblank hletter
      obtain ⟨rfl, rfl⟩ := List.cons.inj ht
      have hdigit : startsWithDigit rest' = startsWithDigit rest :=
        hrest.head_any wordLike_isDigit.toCaseBlind
      rw [readToken_of_not_segment hliteral hsegment, readToken_of_not_segment hliteral hsegment,
        hdigit]
      split_ifs
      · exact readNumber_lowered h
      · rw [takeWhile_isDigit_lowered hrest]
        exact ⟨Token.Recased.parameter _, (hrest.takeWhile wordLike_isDigit).2⟩
      · exact readPunctuation_lowered h hrest

/-! ## Whole texts -/

/-- Two scans behind `before`: lexeme by lexeme the tokens are the same up to the case of their
letters, and the white space is the same but inside pairs of words. -/
inductive Relexed : Text → Scan → Scan → Prop
  | nil (before trailing : Text) : Relexed before ⟨[], trailing⟩ ⟨[], trailing⟩
  | cons {before : Text} {l l' : Lexeme} {more more' : Scan} :
      Respaced before l.blank l'.blank (l.source ++ (more.lexemes.flatMap Lexeme.text ++
        more.trailing)) →
      Token.Recased l.token l'.token →
      Relexed (before ++ l.text) more more' →
      Relexed before ⟨l :: more.lexemes, more.trailing⟩ ⟨l' :: more'.lexemes, more'.trailing⟩

lemma relexed_blank {before : Text} (hwhole : whole = before ++ s) (h : Lowered whole s s')
    (hs : s.dropWhile isBlank = []) : Relexed before (scan s) (scan s') := by
  obtain ⟨hrest, hspace⟩ := skipBlank_lowered h
  rw [hs] at hrest
  have hs' := hrest.nil_inv
  rw [scan_of_blank hs, scan_of_blank hs']
  have hall : ∀ t : Text, t.dropWhile isBlank = [] → t.takeWhile isBlank = t := by
    intro t ht
    have happ := List.takeWhile_append_dropWhile (p := isBlank) (l := t)
    rw [ht, List.append_nil] at happ
    exact happ
  have hsame := hspace before hwhole
  rw [hall s hs, hall s' hs', hs] at hsame
  rcases hsame with rfl | ⟨_, _, hpair⟩
  · exact Relexed.nil _ _
  · cases hpair.head_word

/-- **Related texts are scanned in step.** -/
lemma relexed_of_lowered (s : Text) : ∀ {s' before : Text}, whole = before ++ s →
    Lowered whole s s' → Relexed before (scan s) (scan s') := by
  induction s using scan_induction with
  | blank s hs => exact fun hwhole h => relexed_blank hwhole h hs
  | token s c rest hs ih =>
      intro s' before hwhole h
      obtain ⟨hrest, hspace⟩ := skipBlank_lowered h
      have hspaced := hspace before hwhole
      rw [hs] at hrest hspaced
      obtain ⟨c', rest', hs'⟩ := hrest.ne_nil
      rw [hs'] at hrest
      obtain ⟨htoken, hmore⟩ := readToken_lowered (isBlank_of_dropWhile hs) hrest
      have hread := readToken_append c rest
      rw [scan_of_token hs, scan_of_token hs']
      refine Relexed.cons ?_ htoken (ih ?_ hmore)
      · simp only
        rw [scan_append, hread]
        exact hspaced
      · rw [hwhole, Lexeme.text, List.append_assoc, List.append_assoc, hread, ← hs,
          List.takeWhile_append_dropWhile]

lemma Relexed.tokens {before : Text} {a b : Scan} (h : Relexed before a b) :
    List.Forall₂ Token.Recased (a.lexemes.map Lexeme.token) (b.lexemes.map Lexeme.token) := by
  induction h with
  | nil => exact List.Forall₂.nil
  | cons _ htoken _ ih => exact List.Forall₂.cons htoken ih

lemma Token.Recased.sameLetters {t t' : Token} (h : Token.Recased t t') :
    t'.text.sameLetters t.text = true := by
  cases h with
  | identifier hsegments => exact Text.sameLetters_iff.mpr (join_recased hsegments)
  | function _ hsegments => exact Text.sameLetters_iff.mpr (join_recased hsegments)
  | keyword hw => exact hw
  | number ht => exact ht
  | _ => exact Text.sameLetters_refl _

/-- **Lower-casing keywords keeps the tokens.**  Token by token, the kind is the same and so are
all letters up to their case, literals and quoted segments stay as they are, and between the
tokens nothing changes but the white space inside pairs of words. -/
theorem lowerKeywords_keeps_tokens (s : Text) :
    List.Forall₂ (fun t t' => t.Recased t' ∧ t'.text.sameLetters t.text = true)
      (tokens s) (tokens (lowerKeywords s)) ∧
    Relexed [] (scan s) (scan (lowerKeywords s)) := by
  have h : Relexed [] (scan s) (scan (lowerKeywords s)) :=
    relexed_of_lowered s rfl (lowerKeywords_lowered s)
  refine ⟨?_, h⟩
  exact h.tokens.imp fun t t' htoken => ⟨htoken, htoken.sameLetters⟩

end SqlFragments
