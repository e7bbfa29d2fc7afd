import SqlFragments.Proofs.KeywordCase.Seam

/-!
# Where a word stands in a lower-cased text

Lower-casing changes white space between the words of a pair, so a place of a text is found again by
the characters in front of it that are not white space.  This file follows one word: a whole word
outside quotes is lower-cased exactly if it is a keyword or half of one, and it stays at its place.

* `SameVisible` — the same text up to white space and the case of letters.
* `StandsBetween` — a text stands in another one at the place where a word stood.
* `wordBehind`, `IsCased` — the word in front of a place, and the words that are lower-cased.
* **`IsWholeWord.lowerKeywords`** — what becomes of a whole word.
-/

namespace SqlFragments

/-! ## Texts up to white space and case -/

/-- A text without its white space. -/
def Text.visible (s : Text) : Text :=
  s.filter fun c => !SqlFragments.isBlank c

/-- Two texts that differ at most in white space and in the case of ASCII letters. -/
def SameVisible (a b : Text) : Prop :=
  Text.toAsciiLower a.visible = Text.toAsciiLower b.visible

variable {a a' b b' s s' w w' r before after : Text}

@[simp] lemma visible_append (a b : Text) :
    Text.visible (a ++ b) = Text.visible a ++ Text.visible b :=
  List.filter_append a b

lemma visible_of_isBlank (h : s.isBlank = true) : s.visible = [] := by
  rw [Text.visible, List.filter_eq_nil_iff]
  intro c hc
  rw [List.all_eq_true.mp h c hc]
  exact Bool.false_ne_true

lemma isBlank_of_visible (h : s.visible = []) : s.isBlank = true := by
  rw [Text.visible, List.filter_eq_nil_iff] at h
  refine List.all_eq_true.mpr fun c hc => ?_
  simpa using h c hc

lemma SameVisible.append (ha : SameVisible a' a) (hb : SameVisible b' b) :
    SameVisible (a' ++ b') (a ++ b) := by
  rw [SameVisible, visible_append, visible_append, Text.toAsciiLower_append,
    Text.toAsciiLower_append, ha, hb]

lemma SameVisible.length_eq (h : SameVisible a b) : a.visible.length = b.visible.length := by
  have hlength := congrArg List.length h
  rw [Text.toAsciiLower, Text.toAsciiLower, List.length_map, List.length_map] at hlength
  exact hlength

lemma sameVisible_of_isBlank (ha : a.isBlank = true) (hb : b.isBlank = true) : SameVisible a b := by
  rw [SameVisible, visible_of_isBlank ha, visible_of_isBlank hb]

lemma sameVisible_char {c c' : Char} (h : c' = c ∨ c' = c.toLower) : SameVisible [c'] [c] := by
  rcases h with rfl | rfl
  · rfl
  · rw [SameVisible, Text.visible, Text.visible, List.filter_singleton, List.filter_singleton,
      isBlank_toLower]
    cases isBlank c
    · exact congrArg (· :: []) (apply_toLower (f := Char.toLower) (by decide) c)
    · rfl

lemma sameVisible_toAsciiLower (s : Text) : SameVisible s.toAsciiLower s := by
  induction s with
  | nil => rfl
  | cons c rest ih => exact (sameVisible_char (Or.inr rfl)).append ih

lemma sameVisible_lowerWord (w : Text) : SameVisible (lowerWord w) w := by
  rw [lowerWord]
  split_ifs
  · exact sameVisible_toAsciiLower w
  · rfl

/-- Related texts differ in no more. -/
lemma Lowered.sameVisible {whole : Text} (h : Lowered whole s s') : SameVisible s' s := by
  induction h with
  | nil => rfl
  | @quoted q rest rest' _ _ ih =>
      rw [← cons_takeQuoted_append q rest, ← List.cons_append]
      exact SameVisible.append rfl ih
  | char _ hc _ ih => exact (sameVisible_char hc).append ih
  | @gap _ gap b rest rest' _ hb hgap _ _ ih =>
      have hspace : Text.isBlank [' '] = true := by decide
      have hblank : Text.isBlank (b :: gap) = true := by
        rw [Text.isBlank, List.all_cons, hb]
        exact hgap
      exact (sameVisible_of_isBlank hspace hblank).append ih

lemma sameVisible_lowerKeywords (s : Text) : SameVisible (lowerKeywords s) s :=
  (lowerKeywords_lowered s).sameVisible

/-- **A place is found again** by what is not white space in front of it. -/
lemma append_eq_of_visible {x y : Text} (h : a ++ x = b ++ y)
    (hlength : a.visible.length = b.visible.length) (hx : x ≠ []) (hy : y ≠ [])
    (hxhead : x.head?.any isBlank = false) (hyhead : y.head?.any isBlank = false) :
    a = b ∧ x = y := by
  -- white space alone cannot stand in front of `x` or of `y`
  have hempty : ∀ {m t : Text}, m.visible.length = 0 → (m ++ t).head?.any isBlank = false →
      m = [] := by
    intro m t hm hhead
    cases m with
    | nil => rfl
    | cons c rest =>
        have hblank := isBlank_of_visible (List.length_eq_zero_iff.mp hm)
        rw [Text.isBlank, List.all_cons, Bool.and_eq_true] at hblank
        rw [List.cons_append, List.head?_cons, Option.any_some, hblank.1] at hhead
        cases hhead
  rcases List.append_eq_append_iff.mp h with ⟨m, rfl, rfl⟩ | ⟨m, rfl, rfl⟩
  all_goals
    rw [visible_append, List.length_append] at hlength
    obtain rfl : m = [] := hempty (by omega) ‹_›
    simp

/-! ## Texts in their place -/

/-- The text `s'`, whose beginning and whose end are those of another text up to white space and
case, has `w` between them. -/
def StandsBetween (s' before w after : Text) : Prop :=
  ∃ before' after', s' = before' ++ (w ++ after') ∧ SameVisible before' before ∧
    SameVisible after' after

lemma StandsBetween.prepend (ha : SameVisible a' a) (h : StandsBetween s' before w after) :
    StandsBetween (a' ++ s') (a ++ before) w after := by
  obtain ⟨before', after', rfl, hbefore, hafter⟩ := h
  exact ⟨a' ++ before', after', by rw [List.append_assoc], ha.append hbefore, hafter⟩

lemma standsBetween_head (h : SameVisible s' after) : StandsBetween (w ++ s') [] w after :=
  ⟨[], s', rfl, rfl, h⟩

/-- Only one text of its length stands at a place. -/
lemma StandsBetween.unique (h : StandsBetween s' before w after)
    (h' : StandsBetween s' before w' after) (hlength : w.length = w'.length) (hne : w ≠ [])
    (hw : w.head?.any isBlank = false) (hw' : w'.head?.any isBlank = false) : w = w' := by
  obtain ⟨b₁, a₁, hs₁, hb₁, -⟩ := h
  obtain ⟨b₂, a₂, hs₂, hb₂, -⟩ := h'
  have hne' : w' ≠ [] := fun hnil => hne (List.length_eq_zero_iff.mp (by rw [hlength, hnil]; rfl))
  have hhead : (w ++ a₁).head?.any isBlank = false := by
    rwa [List.head?_append_of_ne_nil _ hne]
  have hhead' : (w' ++ a₂).head?.any isBlank = false := by
    rwa [List.head?_append_of_ne_nil _ hne']
  have heq := append_eq_of_visible (hs₁.symm.trans hs₂) (hb₁.length_eq.trans hb₂.length_eq.symm)
    (List.append_ne_nil_of_left_ne_nil hne _) (List.append_ne_nil_of_left_ne_nil hne' _) hhead
    hhead'
  exact (List.append_inj heq.2 hlength).1

/-- A part of a text that stands in its place stands in its own. -/
lemma StandsBetween.part {p p' q q' : Text} (h : StandsBetween s' before (p' ++ (w ++ q')) after)
    (hp : SameVisible p' p) (hq : SameVisible q' q) :
    StandsBetween s' (before ++ p) w (q ++ after) := by
  obtain ⟨b', a', rfl, hb, ha⟩ := h
  exact ⟨b' ++ p', q' ++ a', by simp only [List.append_assoc], hb.append hp, hq.append ha⟩

/-! ## The words around a place -/

/-- The word in front of the white space that a text ends in. -/
def wordBehind (s : Text) : Text :=
  (wordAhead s.reverse).reverse

/-- Nothing of a class stands at the end of a text whose last character is of another one. -/
lemma eq_nil_of_last {p : Char → Bool} (hw : ∀ c ∈ w, p c = true)
    (h : (a ++ w).getLast?.any p = false) : w = [] := by
  rcases List.eq_nil_or_concat w with rfl | ⟨front, c, rfl⟩
  · rfl
  · rw [List.concat_eq_append, ← List.append_assoc, List.getLast?_concat, Option.any_some,
      hw c (by simp)] at h
    cases h

lemma eq_nil_of_head {p : Char → Bool} (hw : ∀ c ∈ w, p c = true)
    (h : (w ++ b).head?.any p = false) : w = [] := by
  cases w with
  | nil => rfl
  | cons c rest =>
      rw [List.cons_append, List.head?_cons, Option.any_some, hw c List.mem_cons_self] at h
      cases h

/-- A text that ends in a character of another class is cut within itself. -/
lemma takeWhile_append_of_last {p : Char → Bool} (hne : s ≠ [])
    (hs : s.getLast?.any p = false) (m : Text) :
    (s ++ m).takeWhile p = s.takeWhile p ∧ (s ++ m).dropWhile p = s.dropWhile p ++ m ∧
      (s.dropWhile p).getLast? = s.getLast? := by
  obtain ⟨front, c, rfl⟩ := (List.eq_nil_or_concat s).resolve_left hne
  rw [List.concat_eq_append] at hs ⊢
  rw [List.getLast?_concat, Option.any_some] at hs
  have hstop (rest : Text) : (c :: rest).head?.any p = false := hs
  obtain ⟨htake, hdrop⟩ := takeWhile_append_of_stop (hstop []) front
  obtain ⟨htake', hdrop'⟩ := takeWhile_append_of_stop (hstop m) front
  rw [List.append_assoc, List.singleton_append, htake', hdrop', htake, hdrop]
  exact ⟨rfl, by rw [List.append_assoc, List.singleton_append],
    by rw [List.getLast?_concat, List.getLast?_concat]⟩

/-- White space in front of a text that is not blank is skipped within it. -/
lemma dropWhile_append_of_visible (h : s.isBlank = false) (m : Text) :
    (s ++ m).dropWhile isBlank = s.dropWhile isBlank ++ m ∧ s.dropWhile isBlank ≠ [] := by
  have hne : s.dropWhile isBlank ≠ [] := fun hnil => by
    rw [Text.isBlank, List.all_eq_true.mpr (List.dropWhile_eq_nil_iff.mp hnil)] at h
    cases h
  exact ⟨by rw [List.dropWhile_append, if_neg (by rwa [List.isEmpty_iff])], hne⟩

lemma getLast?_dropWhile {p : Char → Bool} (hne : s.dropWhile p ≠ []) :
    (s.dropWhile p).getLast? = s.getLast? := by
  conv_rhs => rw [← List.takeWhile_append_dropWhile (p := p) (l := s)]
  rw [List.getLast?_append_of_ne_nil _ hne]

/-- The word ahead is read within a text that does not end in it. -/
lemma wordAhead_append_of_last (hblank : s.isBlank = false)
    (hs : s.getLast?.any isWordChar = false) (m : Text) :
    wordAhead (s ++ m) = wordAhead s ∧ behindWord (s ++ m) = behindWord s ++ m ∧
      (behindWord s).getLast? = s.getLast? := by
  obtain ⟨hdrop, hne⟩ := dropWhile_append_of_visible hblank m
  have hlast := getLast?_dropWhile hne
  rw [wordAhead, wordAhead, behindWord, behindWord, hdrop, ← hlast]
  exact takeWhile_append_of_last hne (by rw [hlast, hs]) m

/-- Without a word ahead, what a text starts with is not looked behind. -/
lemma wordAhead_append_of_none {m : Text} (hm : m.head?.any isWordChar = false)
    (hnone : wordAhead m = []) (s : Text) : wordAhead (s ++ m) = wordAhead s := by
  cases hblank : s.isBlank with
  | true =>
      rw [wordAhead, dropWhile_append_of_isBlank hblank, ← wordAhead, hnone, wordAhead,
        dropWhile_of_isBlank hblank]
      rfl
  | false => exact (wordAhead_append_of_word hm (dropWhile_append_of_visible hblank m).1).1

/-- The word behind is read within a text that does not start in it. -/
lemma wordBehind_append (hblank : s.isBlank = false) (hs : s.head?.any isWordChar = false)
    (a : Text) : wordBehind (a ++ s) = wordBehind s := by
  rw [wordBehind, wordBehind, List.reverse_append, (wordAhead_append_of_last
    (by rwa [Text.isBlank_reverse]) (by rwa [List.getLast?_reverse]) a.reverse).1]

/-- A text that ends in no word says nothing about the word behind. -/
lemma wordBehind_append_of_none (ha : a.getLast?.any isWordChar = false)
    (hnone : wordBehind a = []) (s : Text) : wordBehind (a ++ s) = wordBehind s := by
  rw [wordBehind, List.reverse_eq_nil_iff] at hnone
  rw [wordBehind, wordBehind, List.reverse_append,
    wordAhead_append_of_none (by rwa [List.head?_reverse]) hnone]

/-- A character between words is not part of the word behind. -/
lemma wordBehind_cons {c : Char} (hc : isWordChar c = false) (s : Text) :
    wordBehind (c :: s) = wordBehind s := by
  have hhead : [c].head?.any isWordChar = false := hc
  refine wordBehind_append_of_none (a := [c]) hhead ?_ s
  rw [wordBehind, List.reverse_singleton, wordAhead, List.dropWhile_cons]
  split_ifs
  · rfl
  · rw [(takeWhile_of_head hhead).1]
    rfl

/-- Neither is a quoted run. -/
lemma IsClosedRun.wordBehind_append {q : Char} (hq : isQuote q = true) (h : IsClosedRun q a)
    (s : Text) : wordBehind (a ++ s) = wordBehind s := by
  obtain ⟨inner, rfl, -⟩ := h
  have hword : isWordChar q = false := not_isWordChar_of_isQuote hq
  have hblank : ¬ isBlank q = true := by
    rw [apply_quote (P := fun q => isBlank q = false) (by decide) hq]
    exact Bool.false_ne_true
  rw [← List.cons_append]
  refine wordBehind_append_of_none (by rwa [List.getLast?_concat]) ?_ s
  rw [wordBehind, List.reverse_append, List.reverse_singleton, List.singleton_append, wordAhead,
    List.dropWhile_cons_of_neg hblank, (takeWhile_of_head (by rwa [List.head?_cons])).1]
  rfl

lemma wordBehind_of_isBlank (h : s.isBlank = true) : wordBehind s = [] := by
  have hreverse : Text.isBlank s.reverse = true := by rwa [Text.isBlank_reverse]
  rw [wordBehind, wordAhead, dropWhile_of_isBlank hreverse]
  rfl

/-- A whole word with white space behind it is the word behind. -/
lemma wordBehind_of_word (ha : a.getLast?.any isWordChar = false) (hne : w ≠ [])
    (hw : ∀ c ∈ w, isWordChar c = true) (hs : s.isBlank = true) :
    wordBehind (a ++ (w ++ s)) = w := by
  have hahead : wordAhead (s.reverse ++ (w.reverse ++ a.reverse)) = w.reverse :=
    wordAhead_of_word (by rwa [Text.isBlank_reverse]) (by rwa [Ne, List.reverse_eq_nil_iff])
      (fun c hc => hw c (List.mem_reverse.mp hc)) (by rwa [List.head?_reverse])
  rw [wordBehind, List.reverse_append, List.reverse_append, List.append_assoc, hahead,
    List.reverse_reverse]

lemma behindWord_of_word (hs : s.isBlank = true) (hw : ∀ c ∈ w, isWordChar c = true) (hne : w ≠ [])
    (hafter : after.head?.any isWordChar = false) : behindWord (s ++ (w ++ after)) = after := by
  obtain ⟨c, rest, rfl⟩ := List.exists_cons_of_ne_nil hne
  have hc : ¬ isBlank c = true := by
    rw [isBlank_of_isWordChar (hw c List.mem_cons_self)]
    exact Bool.false_ne_true
  rw [behindWord, dropWhile_append_of_isBlank hs, List.cons_append, List.dropWhile_cons_of_neg hc,
    ← List.cons_append]
  exact (takeWhile_append_of_head hw hafter).2

/-! ## Whole words -/

/-- A text is a whole word between two others. -/
structure IsWholeWord (before w after : Text) : Prop where
  nonempty : w ≠ []
  word : ∀ c ∈ w, isWordChar c = true
  left : before.getLast?.any isWordChar = false
  right : after.head?.any isWordChar = false

/-- A whole word that is lower-cased: a keyword, the first half of one, or the second half. -/
def IsCased (before w after : Text) : Prop :=
  w.folded ∈ caseWords ∨ (w.folded, (wordAhead after).folded) ∈ casePairs ∨
    ((wordBehind before).folded, w.folded) ∈ casePairs

instance (before w after : Text) : Decidable (IsCased before w after) :=
  inferInstanceAs (Decidable (_ ∨ _ ∨ _))

/-- What becomes of a whole word. -/
def casedWord (before w after : Text) : Text :=
  if IsCased before w after then w.toAsciiLower else w

/-- The second word of a pair is not the first word of one. -/
lemma not_pair_of_second {x y : Text} (h : (x, y) ∈ casePairs) (z : Text) :
    (y, z) ∉ casePairs := by
  have hall : ∀ p ∈ casePairs, ∀ q ∈ casePairs, q.1 ≠ p.2 := by decide
  exact fun h' => hall _ h _ h' rfl

lemma not_nil_pair (second : Text) : (Text.folded [], second) ∉ casePairs := by
  have hall : ∀ p ∈ casePairs, p.1 ≠ [] := by decide
  exact fun hmem => hall _ hmem rfl

/-- Only the word behind decides what the text in front does to a word. -/
lemma casedWord_congr (h : ((wordBehind a).folded, w.folded) ∈ casePairs ↔
    ((wordBehind b).folded, w.folded) ∈ casePairs) : casedWord a w after = casedWord b w after :=
  if_congr (or_congr_right (or_congr_right h)) rfl rfl

/-- Behind a pair, the second word of it is no word behind that matters. -/
lemma casedWord_behindWord {first : Text} (hpair : (first, (wordAhead s).folded) ∈ casePairs) :
    casedWord s w after = casedWord (behindWord s) w after := by
  have htext := wordAhead_append s
  cases hblank : (behindWord s).isBlank with
  | true =>
      have hne : wordAhead s ≠ [] := fun hnil => by
        rw [hnil] at hpair
        exact not_pair_nil _ hpair
      have hgap : (s.takeWhile isBlank).getLast?.any isWordChar = false := by
        rw [← Bool.not_eq_true, Option.any_eq_true]
        rintro ⟨c, hc, hword⟩
        have hc' := List.mem_takeWhile_imp (List.mem_of_getLast? hc)
        rw [isBlank_of_isWordChar hword] at hc'
        cases hc'
      have hbehind := wordBehind_of_word hgap hne (word_wordAhead s) hblank
      rw [htext] at hbehind
      refine casedWord_congr ?_
      rw [hbehind, wordBehind_of_isBlank hblank]
      exact iff_of_false (not_pair_of_second hpair _) (not_nil_pair _)
  | false =>
      have hhead : (behindWord s).head?.any isWordChar = false := head_any_dropWhile _ _
      have hbehind := wordBehind_append hblank hhead (s.takeWhile isBlank ++ wordAhead s)
      rw [List.append_assoc, htext] at hbehind
      exact casedWord_congr (by rw [hbehind])

/-- A whole word at the start of a text. -/
lemma lowerKeywords_wholeWord_nil (h : IsWholeWord [] w after) :
    StandsBetween (lowerKeywords (w ++ after)) [] (casedWord [] w after) after := by
  rw [lowerKeywords_word h.nonempty h.word h.right, casedWord]
  by_cases hpair : (w.folded, (wordAhead after).folded) ∈ casePairs
  · have hcased : IsCased [] w after := Or.inr (Or.inl hpair)
    rw [if_pos hpair, if_pos hcased]
    refine standsBetween_head ?_
    have hgap : SameVisible [' '] (after.takeWhile isBlank) :=
      sameVisible_of_isBlank (by decide) List.all_takeWhile
    conv => arg 2; rw [← wordAhead_append after]
    exact hgap.append ((sameVisible_toAsciiLower _).append (sameVisible_lowerKeywords _))
  · have hcased : IsCased [] w after ↔ caseWords.contains w.folded = true := by
      rw [List.contains_iff_mem]
      exact or_iff_left fun h => h.elim hpair (not_nil_pair _)
    rw [if_neg hpair, if_congr hcased rfl rfl, ← lowerWord]
    exact standsBetween_head (sameVisible_lowerKeywords after)

/-- A whole word is one behind the end of what stands in front of it. -/
lemma IsWholeWord.of_append (h : IsWholeWord (a ++ s) w after) : IsWholeWord s w after where
  nonempty := h.nonempty
  word := h.word
  left := by
    cases s with
    | nil => rfl
    | cons c rest =>
        rw [← List.getLast?_append_of_ne_nil a (List.cons_ne_nil c rest)]
        exact h.left
  right := h.right

/-- A whole word does not start in white space or with a quote. -/
lemma IsWholeWord.exists_cons (h : IsWholeWord before w after) :
    ∃ c rest, w = c :: rest ∧ isWordChar c = true := by
  obtain ⟨c, rest, rfl⟩ := List.exists_cons_of_ne_nil h.nonempty
  exact ⟨c, rest, rfl, h.word c List.mem_cons_self⟩

/-- A whole word with only white space between it and the word in front of it. -/
lemma lowerKeywords_wholeWord_ahead {v : Text} (hne : v ≠ []) (hv : ∀ c ∈ v, isWordChar c = true)
    (hblank : s.isBlank = true) (hnext : (s ++ (w ++ after)).head?.any isWordChar = false)
    (h : IsWholeWord s w after)
    (ih : StandsBetween (lowerKeywords (s ++ (w ++ after))) s (casedWord s w after) after) :
    StandsBetween (lowerKeywords (v ++ (s ++ (w ++ after)))) (v ++ s) (casedWord (v ++ s) w after)
      after := by
  have hbehind : wordBehind (v ++ s) = v := wordBehind_of_word (a := []) rfl hne hv hblank
  rw [lowerKeywords_word hne hv hnext, wordAhead_of_word hblank h.nonempty h.word h.right,
    behindWord_of_word hblank h.word h.nonempty h.right]
  by_cases hpair : (v.folded, w.folded) ∈ casePairs
  · have hcased : IsCased (v ++ s) w after := Or.inr (Or.inr (by rwa [hbehind]))
    have hgap : SameVisible [' '] s := sameVisible_of_isBlank (by decide) hblank
    rw [if_pos hpair, casedWord, if_pos hcased]
    exact ⟨v.toAsciiLower ++ [' '], _, by rw [List.append_assoc]; rfl,
      (sameVisible_toAsciiLower v).append hgap, sameVisible_lowerKeywords after⟩
  · have hcased : casedWord (v ++ s) w after = casedWord s w after := by
      refine casedWord_congr ?_
      rw [hbehind, wordBehind_of_isBlank hblank]
      exact iff_of_false hpair (not_nil_pair _)
    rw [if_neg hpair, hcased]
    exact ih.prepend (sameVisible_lowerWord v)

/-- A whole word with more than white space between it and another word in front of it. -/
lemma lowerKeywords_wholeWord_apart {v : Text} (hne : v ≠ []) (hv : ∀ c ∈ v, isWordChar c = true)
    (hblank : s.isBlank = false) (hs : s.head?.any isWordChar = false)
    (hnext : (s ++ (w ++ after)).head?.any isWordChar = false) (h : IsWholeWord s w after)
    (ih : StandsBetween (lowerKeywords (s ++ (w ++ after))) s (casedWord s w after) after)
    (ihbehind : IsWholeWord (behindWord s) w after →
      StandsBetween (lowerKeywords (behindWord s ++ (w ++ after))) (behindWord s)
        (casedWord (behindWord s) w after) after) :
    StandsBetween (lowerKeywords (v ++ (s ++ (w ++ after)))) (v ++ s) (casedWord (v ++ s) w after)
      after := by
  have hcased : casedWord (v ++ s) w after = casedWord s w after :=
    casedWord_congr (by rw [wordBehind_append hblank hs])
  obtain ⟨hahead, hbehind, hlast⟩ := wordAhead_append_of_last hblank h.left (w ++ after)
  rw [lowerKeywords_word hne hv hnext, hahead, hbehind, hcased]
  split_ifs with hpair
  · -- `v` and the word ahead of it are lower-cased together
    have hgap : SameVisible [' '] (s.takeWhile isBlank) :=
      sameVisible_of_isBlank (by decide) List.all_takeWhile
    have hfront : SameVisible (v.toAsciiLower ++ ' ' :: (wordAhead s).toAsciiLower)
        (v ++ (s.takeWhile isBlank ++ wordAhead s)) :=
      (sameVisible_toAsciiLower v).append (hgap.append (sameVisible_toAsciiLower _))
    have hstands := (ihbehind ⟨h.nonempty, h.word, by rw [hlast, h.left], h.right⟩).prepend hfront
    rw [← casedWord_behindWord hpair] at hstands
    simp only [List.append_assoc, List.cons_append, wordAhead_append] at hstands
    exact hstands
  · exact ih.prepend (sameVisible_lowerWord v)

/-- **A whole word outside quotes** stays at its place, and is lower-cased exactly if it is a
keyword. -/
theorem IsWholeWord.lowerKeywords (h : IsWholeWord before w after) (hclosed : QuotesClosed before) :
    StandsBetween (lowerKeywords (before ++ (w ++ after))) before (casedWord before w after)
      after := by
  induction before using stretch_induction with
  | nil => exact lowerKeywords_wholeWord_nil h
  | quoted q s hq ih =>
      obtain ⟨c, rest, rfl, hc⟩ := h.exists_cons
      have hhead : (c :: rest ++ after).head? ≠ some q := by
        rw [List.cons_append, List.head?_cons, Ne, Option.some.injEq]
        rintro rfl
        rw [isQuote_of_isWordChar hc] at hq
        cases hq
      have hcased : casedWord (q :: s) (c :: rest) after
          = casedWord (takeQuoted q s).2 (c :: rest) after := by
        refine casedWord_congr ?_
        rw [← cons_takeQuoted_append q s, (hclosed.isClosedRun hq).wordBehind_append hq]
      rw [List.cons_append, lowerKeywords_quoted hq,
        takeQuoted_append_of_closed hq (hclosed.isClosedRun hq) hhead, hcased]
      rw [← cons_takeQuoted_append q s] at h ⊢
      exact (ih h.of_append (hclosed.takeQuoted hq)).prepend (a := q :: (takeQuoted q s).1) rfl
  | gap c s hquote hword ih =>
      have hc : QuotesClosed [c] := quotesClosed_of_quoteless (List.forall_mem_singleton.mpr hquote)
      have hcased : casedWord (c :: s) w after = casedWord s w after :=
        casedWord_congr (by rw [wordBehind_cons hword])
      rw [List.cons_append, lowerKeywords_gap hquote hword, hcased]
      exact (ih (h.of_append (a := [c])) (hc.append_iff.mp hclosed)).prepend (a := [c]) rfl
  | word v s hne hv hs ih ihbehind =>
      have hrest : QuotesClosed s := (quotesClosed_of_quoteless fun c hc =>
        isQuote_of_isWordChar (hv c hc)).append_iff.mp hclosed
      have hsne : s ≠ [] := by
        -- `v` ends before `w` starts
        rintro rfl
        have hlast := h.left
        rw [List.append_nil] at hlast
        exact hne (eq_nil_of_last (a := []) hv hlast)
      have hnext : (s ++ (w ++ after)).head?.any isWordChar = false := by
        rwa [List.head?_append_of_ne_nil _ hsne]
      have hstands := ih h.of_append hrest
      rw [List.append_assoc]
      cases hblank : s.isBlank with
      | true => exact lowerKeywords_wholeWord_ahead hne hv hblank hnext h.of_append hstands
      | false =>
          exact lowerKeywords_wholeWord_apart hne hv hblank hs hnext h.of_append hstands
            fun hbehind => ihbehind hbehind hrest.behindWord

end SqlFragments
