import SqlFragments.Proofs.KeywordCase.Kept
import SqlFragments.Proofs.KeywordCase.Place
import SqlFragments.Proofs.Token.Quotes

/-!
# Lower-casing twice

A lower-cased text is shorter than the text it came from, its words are spelled differently, and
the words of a pair have moved together.  Reading it again finds the same quoted runs and the same
words all the same, since neither lower case nor the width of a gap is seen by what is read; and
there is nothing left to do.

* `Lowered.takeQuoted` — a quoted run is found again.
* `wordAhead_lowerKeywords` — so is the word ahead, up to the case of its letters.
* **`lowerKeywords_lowerKeywords`** — a second reading changes nothing.
* `HoldsQuoted`, `Lowered.holdsQuoted` — the texts of the quoted runs, in their order.
* **`lowerKeywords_idempotent`** — both together.
-/

namespace SqlFragments

variable {whole s s' w : Text}

/-! ## The second reading -/

lemma caseBlind_isWordChar : CaseBlind isWordChar where
  lower := isWordChar_toLower
  blank := fun c hc => by rw [isWordChar_of_isBlank hc]; decide

lemma wordLike_isWordChar : WordLike isWordChar where
  toCaseBlind := caseBlind_isWordChar
  space := by decide
  quote := fun _ => not_isWordChar_of_isQuote

lemma head_isWordChar_lowerKeywords (s : Text) :
    (lowerKeywords s).head?.any isWordChar = s.head?.any isWordChar :=
  (lowerKeywords_lowered s).head_any caseBlind_isWordChar

/-- **A quoted run is found again**, in front of what became of the rest. -/
lemma Lowered.takeQuoted {q : Char} {rest' : Text} (hq : isQuote q = true)
    (h : Lowered whole (takeQuoted q s).2 rest') :
    SqlFragments.takeQuoted q ((SqlFragments.takeQuoted q s).1 ++ rest') =
      ((SqlFragments.takeQuoted q s).1, rest') := by
  obtain ⟨_, heq, hrun, -⟩ := (Lowered.quoted hq h).quoted_inv hq
  obtain rfl := (List.cons.inj heq).2
  have happ := takeQuoted_append q ((SqlFragments.takeQuoted q s).1 ++ rest')
  rw [hrun] at happ
  exact Prod.ext hrun (List.append_cancel_left happ)

/-- **The word ahead is found again**, up to the case of its letters. -/
lemma wordAhead_lowerKeywords (s : Text) :
    (wordAhead (lowerKeywords s)).folded = (wordAhead s).folded := by
  have hword := ((skipBlank_lowered (lowerKeywords_lowered s)).1.takeWhile wordLike_isWordChar).1
  rw [← wordAhead, ← wordAhead] at hword
  rw [← folded_toAsciiLower, hword, folded_toAsciiLower]

lemma toAsciiLower_toAsciiLower (w : Text) :
    Text.toAsciiLower w.toAsciiLower = w.toAsciiLower := by
  rw [Text.toAsciiLower, Text.toAsciiLower, List.map_map]
  exact List.map_congr_left fun c _ => Char.toLower_toLower_eq_toLower c

lemma lowerWord_lowerWord (w : Text) : lowerWord (lowerWord w) = lowerWord w := by
  by_cases hcase : caseWords.contains (Text.folded w) = true
  · have hlower : lowerWord w = w.toAsciiLower := if_pos hcase
    rw [hlower, lowerWord, folded_toAsciiLower, if_pos hcase, toAsciiLower_toAsciiLower]
  · have hkept : lowerWord w = w := if_neg hcase
    rw [hkept, hkept]

lemma folded_lowerWord (w : Text) : Text.folded (lowerWord w) = w.folded := by
  rw [lowerWord]
  split_ifs
  · exact folded_toAsciiLower w
  · rfl

lemma word_toAsciiLower (hw : ∀ c ∈ w, isWordChar c = true) :
    ∀ c ∈ Text.toAsciiLower w, isWordChar c = true :=
  List.forall_mem_map.mpr fun c hc => (isWordChar_toLower c).trans (hw c hc)

lemma toAsciiLower_ne_nil (hne : w ≠ []) : Text.toAsciiLower w ≠ [] :=
  fun hnil => hne (List.map_eq_nil_iff.mp hnil)

/-- **The words of a pair are a pair again**, one space apart. -/
lemma lowerKeywords_pair {v rest : Text} (hw : ∀ c ∈ w, isWordChar c = true)
    (hv : ∀ c ∈ v, isWordChar c = true) (hne : w ≠ []) (hvne : v ≠ [])
    (hrest : rest.head?.any isWordChar = false)
    (hpair : (Text.folded w, Text.folded v) ∈ casePairs) :
    lowerKeywords (Text.toAsciiLower w ++ ' ' :: (Text.toAsciiLower v ++ rest)) =
      Text.toAsciiLower w ++ ' ' :: (Text.toAsciiLower v ++ lowerKeywords rest) := by
  have hspace : Text.isBlank [' '] = true := by decide
  have hword := word_toAsciiLower hv
  have hahead : wordAhead (' ' :: (Text.toAsciiLower v ++ rest)) = Text.toAsciiLower v :=
    wordAhead_of_word hspace (toAsciiLower_ne_nil hvne) hword hrest
  have hbehind : behindWord (' ' :: (Text.toAsciiLower v ++ rest)) = rest :=
    behindWord_of_word hspace hword (toAsciiLower_ne_nil hvne) hrest
  rw [lowerKeywords_word (toAsciiLower_ne_nil hne) (word_toAsciiLower hw) rfl, hahead, hbehind,
    folded_toAsciiLower, folded_toAsciiLower, if_pos hpair, toAsciiLower_toAsciiLower,
    toAsciiLower_toAsciiLower]

/-- **Lower-casing a lower-cased text changes nothing.** -/
lemma lowerKeywords_lowerKeywords (s : Text) :
    lowerKeywords (lowerKeywords s) = lowerKeywords s := by
  induction s using stretch_induction with
  | nil => rw [lowerKeywords_nil, lowerKeywords_nil]
  | quoted q s hq ih =>
      rw [lowerKeywords_quoted hq, lowerKeywords_quoted hq,
        (lowerKeywords_lowered (takeQuoted q s).2).takeQuoted hq, ih]
  | gap c s hquote hword ih =>
      rw [lowerKeywords_gap hquote hword, lowerKeywords_gap hquote hword, ih]
  | word w s hne hw hs ih ihbehind =>
      rw [lowerKeywords_word hne hw hs]
      by_cases hpair : (Text.folded w, Text.folded (wordAhead s)) ∈ casePairs
      · have hahead : wordAhead s ≠ [] := fun hnil => by
          rw [hnil] at hpair
          exact not_pair_nil _ hpair
        have hbehind : (lowerKeywords (behindWord s)).head?.any isWordChar = false := by
          rw [head_isWordChar_lowerKeywords, behindWord]
          exact head_any_dropWhile _ _
        rw [if_pos hpair, lowerKeywords_pair hw (word_wordAhead s) hne hahead hbehind hpair,
          ihbehind]
      · have hlower : lowerWord w ≠ [] ∧ ∀ c ∈ lowerWord w, isWordChar c = true := by
          rw [lowerWord]
          split_ifs
          · exact ⟨toAsciiLower_ne_nil hne, word_toAsciiLower hw⟩
          · exact ⟨hne, hw⟩
        rw [if_neg hpair, lowerKeywords_word hlower.1 hlower.2
            ((head_isWordChar_lowerKeywords s).trans hs), folded_lowerWord, wordAhead_lowerKeywords,
          if_neg hpair, lowerWord_lowerWord, ih]

/-! ## The texts of quoted runs -/

/-- The quoted runs of a text hold these texts, whatever the text stands behind. -/
def HoldsQuoted (s : Text) (texts : List Text) : Prop :=
  ∀ before : Text, (quotedFrom before.bytes s).map (before ++ s).slice = texts.map some

variable {texts : List Text}

lemma holdsQuoted_nil : HoldsQuoted [] [] := by
  intro before
  rw [quotedFrom, pieces]
  rfl

/-- Characters that are no quotes only move the runs behind them. -/
lemma HoldsQuoted.quoteless {a : Text} (ha : ∀ c ∈ a, isQuote c = false)
    (h : HoldsQuoted s texts) : HoldsQuoted (a ++ s) texts := by
  intro before
  rw [quotedFrom_quoteless ha, ← Text.bytes_append, ← List.append_assoc]
  exact h (before ++ a)

/-- A run comes before those behind it. -/
lemma HoldsQuoted.run {q : Char} (hq : isQuote q = true)
    (h : HoldsQuoted (takeQuoted q s).2 texts) :
    HoldsQuoted (q :: s) ((q :: (takeQuoted q s).1) :: texts) := by
  intro before
  have htext : before ++ q :: s =
      before ++ ((q :: (takeQuoted q s).1) ++ (takeQuoted q s).2) := by
    rw [cons_takeQuoted_append]
  have hrest := h (before ++ q :: (takeQuoted q s).1)
  rw [quotedFrom_run hq, htext, List.map_cons, List.map_cons, Text.slice_append,
    ← Text.bytes_append, ← List.append_assoc, hrest]

/-- **Related texts hold the same quoted runs**, in the same order. -/
lemma Lowered.holdsQuoted (h : Lowered whole s s') :
    ∃ texts, HoldsQuoted s texts ∧ HoldsQuoted s' texts := by
  induction h with
  | nil => exact ⟨[], holdsQuoted_nil, holdsQuoted_nil⟩
  | @quoted q rest rest' hq hrest ih =>
      obtain ⟨texts, htexts, htexts'⟩ := ih
      have hagain := hrest.takeQuoted hq
      refine ⟨_, htexts.run hq, ?_⟩
      have hrest' : HoldsQuoted
          (SqlFragments.takeQuoted q ((SqlFragments.takeQuoted q rest).1 ++ rest')).2 texts := by
        rwa [hagain]
      have hrun := hrest'.run hq
      rwa [hagain] at hrun
  | @char c c' rest rest' hc hc' _ ih =>
      obtain ⟨texts, htexts, htexts'⟩ := ih
      have hquote' : isQuote c' = false := (isQuote_recased hc').trans hc
      exact ⟨texts, htexts.quoteless (List.forall_mem_singleton.mpr hc),
        htexts'.quoteless (List.forall_mem_singleton.mpr hquote')⟩
  | @gap before gap b rest rest' _ hb hgap _ _ ih =>
      obtain ⟨texts, htexts, htexts'⟩ := ih
      have hblank : ∀ c ∈ b :: gap, isBlank c = true :=
        List.forall_mem_cons.mpr ⟨hb, List.all_eq_true.mp hgap⟩
      exact ⟨texts, htexts.quoteless fun c hc => isQuote_of_isBlank (hblank c hc),
        htexts'.quoteless (List.forall_mem_singleton.mpr (by decide))⟩

/-- **Lower-casing is done once.**  A lower-cased text is not changed by lower-casing it again, and
its quoted spans hold the same texts as those of the text that it came from, in the same order. -/
theorem lowerKeywords_idempotent (s : Text) :
    lowerKeywords (lowerKeywords s) = lowerKeywords s ∧
      ∃ texts : List Text, (quotedSpans s).map s.slice = texts.map some ∧
        (quotedSpans (lowerKeywords s)).map (lowerKeywords s).slice = texts.map some := by
  obtain ⟨texts, htexts, htexts'⟩ := (lowerKeywords_lowered s).holdsQuoted
  exact ⟨lowerKeywords_lowerKeywords s, texts, htexts [], htexts' []⟩

end SqlFragments
