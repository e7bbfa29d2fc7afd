import SqlFragments.Proofs.KeywordCase.Relation
import SqlFragments.Proofs.Text.Case
import SqlFragments.Proofs.Token.Parts

/-!
# Reading a lower-cased text

Whatever cuts a text by classes of characters that do not see case cuts its lower-cased form at
the same places.  This file shows so for every function that reads part of a token: what is taken
has the same letters, and what is left is related again.

* `CaseBlind`, `WordLike` — such classes, and those without white space and quotes.
* `Lowered.head_any`, `Lowered.tail`, `Lowered.takeWhile` — what they see of related texts.
* `Lowered.quoted_inv` — a quoted run is taken as a whole.
* `SegmentRecased`, **`readSegment_lowered`**, **`readChain_lowered`** — segments and chains.
* **`skipBlank_lowered`** — the white space in front of a token.
-/

namespace SqlFragments

/-! ## Classes of characters -/

/-- A class of characters that does not see the case of ASCII letters and treats all white space
alike. -/
structure CaseBlind (p : Char → Bool) : Prop where
  lower : ∀ c, p c.toLower = p c
  blank : ∀ c, isBlank c = true → p c = p ' '

/-- Such a class without white space and quotes. -/
structure WordLike (p : Char → Bool) : Prop extends CaseBlind p where
  space : p ' ' = false
  quote : ∀ c, isQuote c = true → p c = false

/-- Such a class does not tell a character from what becomes of it. -/
lemma CaseBlind.recased {p : Char → Bool} (hp : CaseBlind p) {c c' : Char}
    (hc : c' = c ∨ c' = c.toLower) : p c' = p c := by
  rcases hc with rfl | rfl
  · rfl
  · exact hp.lower c

lemma CaseBlind.or {p r : Char → Bool} (hp : CaseBlind p) (hr : CaseBlind r) :
    CaseBlind fun c => p c || r c where
  lower := fun c => by rw [hp.lower, hr.lower]
  blank := fun c hc => by rw [hp.blank c hc, hr.blank c hc]

lemma WordLike.or {p r : Char → Bool} (hp : WordLike p) (hr : WordLike r) :
    WordLike fun c => p c || r c where
  toCaseBlind := hp.toCaseBlind.or hr.toCaseBlind
  space := by rw [hp.space, hr.space]; rfl
  quote := fun c hc => by rw [hp.quote c hc, hr.quote c hc]; rfl

/-- A single character that no identifier starts with. -/
lemma caseBlind_beq {x : Char} (hstart : startsIdentifier x = false) (hx : isBlank x = false) :
    CaseBlind (· == x) where
  lower := fun c => by
    rw [Bool.eq_iff_iff, beq_iff_eq, beq_iff_eq]
    constructor
    · rintro rfl
      rw [startsIdentifier_toLower] at hstart
      rw [toLower_of_not_startsIdentifier hstart]
    · rintro rfl
      exact toLower_of_not_startsIdentifier hstart
  blank := fun c hc => by
    have hspace : isBlank ' ' = true := by decide
    have hne : ∀ {b}, isBlank b = true → (b == x) = false := by
      intro b hb
      rw [beq_eq_false_iff_ne]
      rintro rfl
      rw [hx] at hb
      cases hb
    rw [hne hc, hne hspace]

lemma wordLike_beq {x : Char} (hstart : startsIdentifier x = false) (hx : isBlank x = false)
    (hq : isQuote x = false) : WordLike (· == x) where
  toCaseBlind := caseBlind_beq hstart hx
  space := by
    rw [beq_eq_false_iff_ne]
    rintro rfl
    exact absurd hx (by decide)
  quote := fun c hc => by
    rw [beq_eq_false_iff_ne]
    rintro rfl
    rw [hq] at hc
    cases hc

lemma wordLike_dot : WordLike (· == '.') :=
  wordLike_beq (by decide) (by decide) (by decide)

lemma caseBlind_star : CaseBlind (· == '*') :=
  caseBlind_beq (by decide) (by decide)

lemma caseBlind_quote {q : Char} (hq : isQuote q = true) : CaseBlind (· == q) :=
  caseBlind_beq (apply_quote (P := fun q => startsIdentifier q = false) (by decide) hq)
    (apply_quote (P := fun q => isBlank q = false) (by decide) hq)

lemma caseBlind_isBlank : CaseBlind isBlank where
  lower := isBlank_toLower
  blank := fun c hc => by rw [hc]; decide

lemma caseBlind_isIdentifierQuote : CaseBlind isIdentifierQuote :=
  (caseBlind_beq (by decide) (by decide)).or (caseBlind_beq (by decide) (by decide))

lemma wordLike_isDigit : WordLike Char.isDigit where
  lower := isDigit_toLower
  blank := fun c hc => by rw [isDigit_of_isBlank hc]; decide
  space := by decide
  quote := fun c hc => apply_quote (P := fun c => c.isDigit = false) (by decide) hc

lemma wordLike_startsIdentifier : WordLike startsIdentifier where
  lower := startsIdentifier_toLower
  blank := fun c hc => by rw [startsIdentifier_of_isBlank hc]; decide
  space := by decide
  quote := fun c hc => startsIdentifier_of_isQuote hc

lemma wordLike_continuesIdentifier : WordLike continuesIdentifier where
  lower := continuesIdentifier_toLower
  blank := fun c hc => by rw [continuesIdentifier_of_isBlank hc]; decide
  space := by decide
  quote := fun c hc => continuesIdentifier_of_isQuote hc

lemma caseBlind_startsSegment : CaseBlind startsSegment :=
  wordLike_startsIdentifier.toCaseBlind.or caseBlind_isIdentifierQuote

/-! ## Related texts -/

variable {whole s s' : Text}

/-- The first characters of related texts are of the same classes. -/
lemma Lowered.head_any {p : Char → Bool} (hp : CaseBlind p) (h : Lowered whole s s') :
    s'.head?.any p = s.head?.any p := by
  cases h with
  | nil => rfl
  | quoted _ _ => rfl
  | @char c c' rest rest' _ hc _ =>
      rw [List.head?_cons, List.head?_cons, Option.any_some, Option.any_some]
      exact hp.recased hc
  | @gap _ _ b rest rest' _ hb _ _ _ => exact (hp.blank b hb).symm

/-- What follows a first character that is neither white space nor a quote is related. -/
lemma Lowered.tail {p : Char → Bool} (hp : WordLike p) (h : Lowered whole s s')
    (hs : s.head?.any p = true) : Lowered whole s.tail s'.tail := by
  cases h with
  | nil => cases hs
  | @quoted q rest rest' hq _ =>
      rw [List.head?_cons, Option.any_some, hp.quote q hq] at hs
      cases hs
  | char _ _ hrest => exact hrest
  | @gap _ _ b rest rest' _ hb _ _ _ =>
      rw [List.head?_cons, Option.any_some, hp.blank b hb, hp.space] at hs
      cases hs

/-- A run of such characters has the same letters in both, and the rests are related. -/
lemma Lowered.takeWhile {p : Char → Bool} (hp : WordLike p) (h : Lowered whole s s') :
    Text.toAsciiLower (s'.takeWhile p) = Text.toAsciiLower (s.takeWhile p) ∧
      Lowered whole (s.dropWhile p) (s'.dropWhile p) := by
  induction h with
  | nil => exact ⟨rfl, Lowered.nil⟩
  | quoted hq hrest _ =>
      rw [List.takeWhile_cons, List.takeWhile_cons, List.dropWhile_cons, List.dropWhile_cons,
        hp.quote _ hq]
      exact ⟨rfl, Lowered.quoted hq hrest⟩
  | @char c c' rest rest' hq hc hrest ih =>
      have hcc : p c' = p c := hp.recased hc
      have hletter : c'.toLower = c.toLower := by
        rcases hc with rfl | rfl
        · rfl
        · exact Char.toLower_toLower_eq_toLower c
      rw [List.takeWhile_cons, List.takeWhile_cons, List.dropWhile_cons, List.dropWhile_cons, hcc]
      cases p c with
      | true =>
          refine ⟨?_, ih.2⟩
          rw [if_pos rfl, if_pos rfl, Text.toAsciiLower, Text.toAsciiLower, List.map_cons,
            List.map_cons, hletter]
          exact congrArg (List.cons _) ih.1
      | false => exact ⟨rfl, Lowered.char hq hc hrest⟩
  | @gap before gap b rest rest' hwhole hb hgap hpair hrest _ =>
      rw [List.takeWhile_cons, List.takeWhile_cons, List.dropWhile_cons, List.dropWhile_cons,
        hp.blank b hb, hp.space]
      exact ⟨rfl, Lowered.gap hwhole hb hgap hpair hrest⟩

lemma Lowered.nil_inv (h : Lowered whole [] s') : s' = [] := by
  cases h
  rfl

lemma Lowered.ne_nil {c : Char} {rest : Text} (h : Lowered whole (c :: rest) s') :
    ∃ c' rest', s' = c' :: rest' := by
  cases h <;> exact ⟨_, _, rfl⟩

/-- A quoted run is the same in both, and so is its end. -/
lemma Lowered.quoted_inv {q : Char} {rest : Text} (hq : isQuote q = true)
    (h : Lowered whole (q :: rest) s') :
    ∃ rest', s' = q :: rest' ∧ (takeQuoted q rest').1 = (takeQuoted q rest).1 ∧
      Lowered whole (takeQuoted q rest).2 (takeQuoted q rest').2 := by
  cases h with
  | @quoted _ _ rest' _ hrest =>
      refine ⟨_, rfl, ?_⟩
      rcases closed_or_open q rest with ⟨inner, more, rfl, hin, hmore⟩ | hopen
      · rw [takeQuoted_closed hmore inner hin] at hrest ⊢
        have hhead : rest'.head? ≠ some q := by
          have hany := hrest.head_any (caseBlind_quote hq)
          intro heq
          rw [heq, Option.any_some, beq_self_eq_true] at hany
          cases more with
          | nil => cases hany
          | cons d more =>
              rw [List.head?_cons, Option.any_some] at hany
              exact hmore (by rw [List.head?_cons, eq_of_beq hany.symm])
        rw [List.append_assoc, List.singleton_append, takeQuoted_closed hhead inner hin]
        exact ⟨rfl, hrest⟩
      · rw [takeQuoted_open rest hopen] at hrest ⊢
        obtain rfl := hrest.nil_inv
        rw [List.append_nil, takeQuoted_open rest hopen]
        exact ⟨rfl, Lowered.nil⟩
  | char hc _ _ =>
      rw [hq] at hc
      cases hc
  | gap _ hb _ _ _ =>
      rw [isQuote_of_isBlank hb] at hq
      cases hq

lemma Lowered.cons_inv {x : Char} {rest : Text} (hx : WordLike (· == x))
    (h : Lowered whole (x :: rest) s') : ∃ rest', s' = x :: rest' ∧ Lowered whole rest rest' := by
  have htail := h.tail hx (by rw [List.head?_cons, Option.any_some, beq_self_eq_true])
  have hhead := h.head_any hx.toCaseBlind
  rw [List.head?_cons, Option.any_some, beq_self_eq_true] at hhead
  cases s' with
  | nil => cases hhead
  | cons c rest' => exact ⟨rest', by rw [eq_of_beq hhead], htail⟩

/-! ## Segments and chains -/

/-- A segment and what becomes of it: its letters are kept, and all of it if it is quoted. -/
def SegmentRecased (a a' : Text) : Prop :=
  a'.sameLetters a = true ∧ (isQuotedSegment a = true → a' = a)

lemma isQuotedSegment_takeWhile (s : Text) :
    isQuotedSegment (s.takeWhile continuesIdentifier) = false := by
  cases s with
  | nil => rfl
  | cons c rest =>
      rw [List.takeWhile_cons]
      split_ifs with hc
      · rw [isQuotedSegment, ← Bool.not_eq_true]
        intro hq
        rw [wordLike_continuesIdentifier.quote c (isQuote_of_isIdentifierQuote hq)] at hc
        cases hc
      · rfl

/-- **A segment is read up to the same place.** -/
lemma readSegment_lowered (h : Lowered whole s s') :
    SegmentRecased (readSegment s).1 (readSegment s').1 ∧
      Lowered whole (readSegment s).2 (readSegment s').2 := by
  cases hq : s.head?.any isIdentifierQuote with
  | true =>
      cases s with
      | nil => cases hq
      | cons q rest =>
          obtain ⟨rest', rfl, hrun, hrest⟩ := h.quoted_inv (isQuote_of_isIdentifierQuote hq)
          rw [readSegment_quoted hq, readSegment_quoted hq, hrun]
          exact ⟨⟨Text.sameLetters_refl _, fun _ => rfl⟩, hrest⟩
  | false =>
      have hq' := h.head_any caseBlind_isIdentifierQuote
      rw [hq] at hq'
      obtain ⟨hletters, hrest⟩ := h.takeWhile wordLike_continuesIdentifier
      rw [readSegment_plain hq, readSegment_plain hq']
      refine ⟨⟨Text.sameLetters_iff.mpr hletters, fun hquoted => ?_⟩, hrest⟩
      rw [isQuotedSegment_takeWhile] at hquoted
      cases hquoted

lemma opensSegment_lowered (h : Lowered whole s s') : opensSegment s' = opensSegment s := by
  rw [opensSegment, opensSegment, h.head_any wordLike_dot.toCaseBlind]
  cases hs : s.head?.any (· == '.') with
  | false => rfl
  | true => rw [(h.tail wordLike_dot hs).head_any (caseBlind_star.or caseBlind_startsSegment)]

/-- **A chain is read up to the same place**, segment by segment. -/
lemma readChain_lowered (s : Text) : ∀ {s' : Text}, Lowered whole s s' →
    List.Forall₂ SegmentRecased (readChain s).1 (readChain s').1 ∧
      Lowered whole (readChain s).2 (readChain s').2 := by
  induction s using chain_induction with
  | stop s hs =>
      intro s' h
      rw [readChain_stop hs, readChain_stop (by rw [opensSegment_lowered h, hs])]
      exact ⟨List.Forall₂.nil, h⟩
  | star rest =>
      intro s' h
      obtain ⟨t, rfl, ht⟩ := h.cons_inv wordLike_dot
      obtain ⟨rest', rfl, hrest⟩ :=
        ht.cons_inv (wordLike_beq (by decide) (by decide) (by decide))
      rw [readChain_star, readChain_star]
      exact ⟨List.Forall₂.cons ⟨Text.sameLetters_refl _, fun _ => rfl⟩ List.Forall₂.nil, hrest⟩
  | segment s hs ih =>
      intro s' h
      obtain ⟨t, rfl, ht⟩ := h.cons_inv wordLike_dot
      have hopens := ht.head_any caseBlind_startsSegment
      rw [hs] at hopens
      obtain ⟨hsegment, hmore⟩ := readSegment_lowered ht
      obtain ⟨hsegments, hrest⟩ := ih hmore
      rw [readChain_segment hs, readChain_segment hopens]
      exact ⟨List.Forall₂.cons hsegment hsegments, hrest⟩

/-! ## White space -/

/-- White space is changed to one space at most, and only inside a pair of words. -/
def Respaced (before blank blank' ahead : Text) : Prop :=
  blank' = blank ∨ blank ≠ [] ∧ blank' = [' '] ∧ JoinsPair before ahead

lemma not_joinsPair_of_blank {before ahead : Text} {b : Char} (hb : isBlank b = true) :
    ¬ JoinsPair (before ++ [b]) ahead := by
  rw [JoinsPair, List.reverse_append, List.reverse_singleton, List.singleton_append,
    List.takeWhile_cons, isWordChar_of_isBlank hb, if_neg Bool.false_ne_true]
  intro h
  have hall : ∀ p ∈ casePairs, p.1 ≠ [] := by decide
  exact hall _ h rfl

lemma JoinsPair.head_word {before ahead : Text} (h : JoinsPair before ahead) :
    ahead.head?.any isWordChar = true := by
  by_contra hnot
  rw [Bool.not_eq_true] at hnot
  rw [JoinsPair, (takeWhile_of_head hnot).1] at h
  have hall : ∀ p ∈ casePairs, p.2 ≠ [] := by decide
  exact hall _ h rfl

lemma JoinsPair.head_blank {before ahead : Text} (h : JoinsPair before ahead) :
    ahead.head?.any isBlank = false := by
  have hword := h.head_word
  cases ahead with
  | nil => rfl
  | cons c rest =>
      rw [List.head?_cons, Option.any_some] at hword ⊢
      rw [← Bool.not_eq_true]
      intro hblank
      rw [isWordChar_of_isBlank hblank] at hword
      cases hword

/-- **White space is skipped up to the same place.** -/
lemma skipBlank_lowered (h : Lowered whole s s') :
    Lowered whole (s.dropWhile isBlank) (s'.dropWhile isBlank) ∧
      ∀ before, whole = before ++ s →
        Respaced before (s.takeWhile isBlank) (s'.takeWhile isBlank) (s.dropWhile isBlank) := by
  induction h with
  | nil => exact ⟨Lowered.nil, fun _ _ => Or.inl rfl⟩
  | @quoted q _ _ hq hrest _ =>
      have hblank : isBlank q = false :=
        apply_quote (P := fun q => isBlank q = false) (by decide) hq
      rw [List.takeWhile_cons, List.takeWhile_cons, List.dropWhile_cons, List.dropWhile_cons,
        hblank]
      exact ⟨Lowered.quoted hq hrest, fun _ _ => Or.inl rfl⟩
  | @char c c' rest rest' hq hc hrest ih =>
      have hcc : isBlank c' = isBlank c := caseBlind_isBlank.recased hc
      rw [List.takeWhile_cons, List.takeWhile_cons, List.dropWhile_cons, List.dropWhile_cons, hcc]
      cases hblank : isBlank c with
      | false => exact ⟨Lowered.char hq hc hrest, fun _ _ => Or.inl rfl⟩
      | true =>
          have hsame : c' = c := by
            rcases hc with rfl | rfl
            · rfl
            · exact apply_blank (P := fun c => c.toLower = c) (by decide) hblank
          refine ⟨ih.1, fun before hwhole => ?_⟩
          have hnext : whole = (before ++ [c]) ++ rest := by
            rw [hwhole, List.append_assoc, List.singleton_append]
          rcases ih.2 _ hnext with heq | ⟨_, _, hpair⟩
          · exact Or.inl (by rw [if_pos rfl, if_pos rfl, heq, hsame])
          · -- the gap of a pair starts directly behind a word, not behind `c`
            exact absurd hpair (not_joinsPair_of_blank hblank)
  | @gap front gap b rest rest' hwhole' hb hgap hpair hrest _ =>
      have hhead := hpair.head_blank
      have hhead' := hrest.head_any caseBlind_isBlank
      rw [hhead] at hhead'
      obtain ⟨htake, hdrop⟩ := takeWhile_of_head hhead
      obtain ⟨htake', hdrop'⟩ := takeWhile_of_head hhead'
      have hall : ∀ c ∈ b :: gap, isBlank c = true :=
        List.forall_mem_cons.mpr ⟨hb, List.all_eq_true.mp hgap⟩
      have hspace : isBlank ' ' = true := by decide
      rw [← List.cons_append, List.takeWhile_append_of_pos hall,
        List.dropWhile_append_of_pos hall, htake, hdrop, List.append_nil, List.takeWhile_cons,
        List.dropWhile_cons, if_pos hspace, if_pos hspace, htake', hdrop']
      refine ⟨hrest, fun before hwhole => ?_⟩
      obtain rfl : before = front := List.append_cancel_right (hwhole.symm.trans hwhole')
      exact Or.inr ⟨List.cons_ne_nil _ _, rfl, hpair⟩

end SqlFragments
