import SqlFragments.Proofs.KeywordCase.Relation
import SqlFragments.Proofs.Text.Closed

/-!
# Lower-casing fragments that stand one behind the other

Lower-casing reads a text from left to right: a quoted run is passed over, a character between words
is kept, and a word is looked at together with the next one.  So it can be done for each of two
fragments alone, unless a quote of the first one is open or a keyword of two words begins in the
first and ends in the second.

* `wordAhead`, `behindWord`, `lowerRuns_word` — the next word, and a word that is looked at with it.
* `lowerKeywords_quoted`, `lowerKeywords_gap`, `lowerKeywords_word` — one step of the reading.
* `stretch_induction` — induction along these steps.
* `Detached` — a text that no keyword in front of it goes on in.
* **`lowerKeywords_append`** — two fragments one behind the other.
* `IsLoneWord`, **`IsLoneWord.lowerKeywords_join`** — fragments with a word between them.
-/

namespace SqlFragments

/-! ## Plain stretches -/

lemma lowerKeywords_nil : lowerKeywords [] = [] := by
  rw [lowerKeywords, pieces]
  rfl

/-- A plain stretch up to a quote, or up to the end, is one piece. -/
lemma pieces_plain_append {m : Text} (hm : ∀ c, m.head? = some c → isQuote c = true) :
    ∀ {t : Text}, t ≠ [] → (∀ c ∈ t, isQuote c = false) →
      pieces (t ++ m) = .plain t :: pieces m
  | [], hne, _ => absurd rfl hne
  | [c], _, hquote => by
      have hc : isQuote c = false := hquote c List.mem_cons_self
      rw [List.singleton_append, pieces, hc, if_neg Bool.false_ne_true]
      cases m with
      | nil =>
          rw [pieces]
          rfl
      | cons q rest =>
          rw [pieces, if_pos (hm q rfl)]
          rfl
  | c :: d :: t, _, hquote => by
      obtain ⟨hc, hrest⟩ := List.forall_mem_cons.mp hquote
      rw [List.cons_append, pieces, hc, if_neg Bool.false_ne_true,
        pieces_plain_append hm (List.cons_ne_nil d t) hrest]
      rfl

lemma lowerKeywords_plain_append {t m : Text} (hm : ∀ c, m.head? = some c → isQuote c = true)
    (ht : ∀ c ∈ t, isQuote c = false) :
    lowerKeywords (t ++ m) = lowerRuns (runs t) ++ lowerKeywords m := by
  cases t with
  | nil => rfl
  | cons c rest =>
      rw [lowerKeywords, pieces_plain_append hm (List.cons_ne_nil c rest) ht]
      rfl

/-- A text is a plain stretch and what follows it, which starts with a quote if there is any. -/
lemma exists_plain (s : Text) : ∃ t m : Text, s = t ++ m ∧ (∀ c ∈ t, isQuote c = false) ∧
    ∀ c, m.head? = some c → isQuote c = true := by
  refine ⟨s.takeWhile fun c => !isQuote c, s.dropWhile fun c => !isQuote c,
    List.takeWhile_append_dropWhile.symm, fun c hc => ?_, fun c hc => ?_⟩
  · simpa using List.mem_takeWhile_imp hc
  · have hnot := head_any_dropWhile (fun c => !isQuote c) s
    rw [hc] at hnot
    simpa using hnot

lemma isQuote_of_isWordChar {c : Char} (h : isWordChar c = true) : isQuote c = false := by
  refine Bool.eq_false_of_not_eq_true fun hq => ?_
  rw [not_isWordChar_of_isQuote hq] at h
  cases h

lemma isBlank_of_isWordChar {c : Char} (h : isWordChar c = true) : isBlank c = false := by
  refine Bool.eq_false_of_not_eq_true fun hblank => ?_
  rw [isWordChar_of_isBlank hblank] at h
  cases h

/-- A class without quotes does not come next. -/
lemma head_any_of_quote {p : Char → Bool} (hp : p '\'' = false ∧ p '"' = false ∧ p '\x60' = false)
    {m : Text} (hm : ∀ c, m.head? = some c → isQuote c = true) : m.head?.any p = false := by
  cases m with
  | nil => rfl
  | cons c rest => exact apply_quote (P := fun c => p c = false) hp (hm c rfl)

/-! ## Runs in a row -/

/-- The run that characters of one kind make. -/
def Run.ofKind (isWord : Bool) (t : Text) : Run :=
  if isWord then .word t else .gap t

/-- Characters of one kind in front of one of the other kind are one run. -/
lemma runs_append (isWord : Bool) {rest : Text}
    (hrest : ∀ c, rest.head? = some c → isWordChar c = !isWord) :
    ∀ {t : Text}, t ≠ [] → (∀ c ∈ t, isWordChar c = isWord) →
      runs (t ++ rest) = Run.ofKind isWord t :: runs rest
  | [], hne, _ => absurd rfl hne
  | [c], _, ht => by
      have hc := ht c List.mem_cons_self
      rw [List.singleton_append, runs]
      cases rest with
      | nil => cases isWord <;> simp [consRun, Run.ofKind, runs, hc]
      | cons d more =>
          have hd := hrest d rfl
          cases isWord <;>
            · rw [runs, consRun.eq_def d]
              simp only [hd, Bool.not_true, Bool.not_false, if_true, Bool.false_eq_true, if_false]
              split <;> simp [consRun, Run.ofKind, hc]
  | c :: d :: t, _, ht => by
      obtain ⟨hc, hmore⟩ := List.forall_mem_cons.mp ht
      rw [List.cons_append, runs, runs_append isWord hrest (List.cons_ne_nil d t) hmore]
      cases isWord <;> simp [consRun, Run.ofKind, hc]

/-! ## The word ahead -/

/-- The word behind the white space that a text starts with. -/
def wordAhead (s : Text) : Text :=
  (s.dropWhile isBlank).takeWhile isWordChar

/-- What follows that word. -/
def behindWord (s : Text) : Text :=
  (s.dropWhile isBlank).dropWhile isWordChar

variable {g b w s : Text}

/-- White space, the word behind it and what follows are the text. -/
lemma wordAhead_append (s : Text) :
    s.takeWhile isBlank ++ (wordAhead s ++ behindWord s) = s := by
  rw [wordAhead, behindWord, List.takeWhile_append_dropWhile, List.takeWhile_append_dropWhile]

lemma word_wordAhead (s : Text) : ∀ c ∈ wordAhead s, isWordChar c = true :=
  fun _ hc => List.mem_takeWhile_imp hc

lemma wordAhead_of_word {rest : Text} (hg : g.isBlank = true) (hne : b ≠ [])
    (hb : ∀ c ∈ b, isWordChar c = true) (hrest : rest.head?.any isWordChar = false) :
    wordAhead (g ++ (b ++ rest)) = b := by
  obtain ⟨c, b, rfl⟩ := List.exists_cons_of_ne_nil hne
  have hc : ¬ isBlank c = true := by
    rw [isBlank_of_isWordChar (hb c List.mem_cons_self)]
    exact Bool.false_ne_true
  rw [wordAhead, dropWhile_append_of_isBlank hg, List.cons_append, List.dropWhile_cons_of_neg hc,
    ← List.cons_append]
  exact (takeWhile_append_of_head hb hrest).1

/-- A word behind a blank gap is the word ahead. -/
lemma wordAhead_of_runs {more : List Run} (hruns : runs s = .gap g :: .word b :: more)
    (hg : g.isBlank = true) : wordAhead s = b := by
  have hcut := wellCut_runs s
  have htext := flatMap_text_runs s
  rw [hruns] at hcut htext
  obtain ⟨-, -, hne, hb, hnext, hmore⟩ := hcut
  have hrest : (more.flatMap Run.text ++ []).head?.any isWordChar = false :=
    head_after_word hmore hnext rfl
  rw [List.append_nil] at hrest
  rw [← htext]
  exact wordAhead_of_word hg hne hb hrest

/-- A text that starts between words is a gap, the word ahead and what follows, if there is a word
ahead. -/
lemma runs_of_wordAhead (hs : s.head?.any isWordChar = false) (hne : wordAhead s ≠ []) :
    runs s = .gap (s.takeWhile isBlank) :: .word (wordAhead s) :: runs (behindWord s) := by
  have htext := wordAhead_append s
  obtain ⟨c, b, hcons⟩ := List.exists_cons_of_ne_nil hne
  have hc : isWordChar c = true := word_wordAhead s c (by rw [hcons]; exact List.mem_cons_self)
  have hgap : s.takeWhile isBlank ≠ [] := by
    intro hnil
    rw [hnil, hcons] at htext
    rw [← htext] at hs
    rw [show isWordChar c = false from hs] at hc
    cases hc
  have hfirst : ∀ d, (wordAhead s ++ behindWord s).head? = some d → isWordChar d = !false := by
    intro d hd
    rw [hcons, List.cons_append, List.head?_cons, Option.some.injEq] at hd
    exact hd ▸ hc
  have hbehind : ∀ d, (behindWord s).head? = some d → isWordChar d = !true := by
    intro d hd
    have hnot := head_any_dropWhile isWordChar (s.dropWhile isBlank)
    rw [← behindWord, hd] at hnot
    exact hnot
  have hblank : ∀ d ∈ s.takeWhile isBlank, isWordChar d = false := fun d hd =>
    isWordChar_of_isBlank (List.mem_takeWhile_imp hd)
  have hcut := runs_append false hfirst hgap hblank
  rw [htext, runs_append true hbehind hne (word_wordAhead s)] at hcut
  exact hcut

lemma lowerRuns_consRun {c : Char} (hc : isWordChar c = false) (rs : List Run) :
    lowerRuns (consRun c rs) = c :: lowerRuns rs := by
  unfold consRun
  rw [hc, if_neg Bool.false_ne_true]
  split
  · rw [lowerRuns, lowerRuns, List.cons_append]
  · rw [lowerRuns]
    rfl

/-- A word that is not the first of a pair is lower-cased or kept on its own. -/
lemma lowerRuns_of_not_pair {rs : List Run}
    (h : ∀ g b more, rs = .gap g :: .word b :: more → isCasePair w g b = false) :
    lowerRuns (.word w :: rs) = lowerWord w ++ lowerRuns rs := by
  match rs with
  | [] | [.gap _] | .word _ :: _ | .gap _ :: .gap _ :: _ => rfl
  | .gap g :: .word b :: more =>
      have hpair : ¬ isCasePair w g b = true := by
        rw [h g b more rfl]
        exact Bool.false_ne_true
      exact (if_neg hpair).trans (List.append_assoc _ _ _)

/-- Without a word ahead there is no pair. -/
lemma not_pair_nil (first : Text) : (first, Text.folded []) ∉ casePairs := by
  have hall : ∀ p ∈ casePairs, p.2 ≠ [] := by decide
  exact fun hmem => hall _ hmem rfl

/-- **A word is looked at together with the next one.** -/
lemma lowerRuns_word (w : Text) (hs : s.head?.any isWordChar = false) :
    lowerRuns (.word w :: runs s) =
      if (w.folded, (wordAhead s).folded) ∈ casePairs then
        w.toAsciiLower ++ ' ' :: ((wordAhead s).toAsciiLower ++ lowerRuns (runs (behindWord s)))
      else lowerWord w ++ lowerRuns (runs s) := by
  by_cases hpair : (w.folded, (wordAhead s).folded) ∈ casePairs
  · have hne : wordAhead s ≠ [] := fun hnil => by
      rw [hnil] at hpair
      exact not_pair_nil _ hpair
    have hcase : isCasePair w (s.takeWhile isBlank) (wordAhead s) = true := by
      rw [isCasePair, Bool.and_eq_true, List.contains_iff_mem]
      exact ⟨List.all_takeWhile, hpair⟩
    rw [if_pos hpair, runs_of_wordAhead hs hne]
    exact (if_pos hcase).trans (List.append_assoc _ _ _)
  · rw [if_neg hpair]
    refine lowerRuns_of_not_pair fun g b more hruns => Bool.eq_false_of_not_eq_true fun hcase => ?_
    rw [isCasePair, Bool.and_eq_true, List.contains_iff_mem] at hcase
    rw [wordAhead_of_runs hruns hcase.1] at hpair
    exact hpair hcase.2

/-! ## One step -/

/-- A quoted run is passed over. -/
lemma lowerKeywords_quoted {q : Char} (hq : isQuote q = true) (s : Text) :
    lowerKeywords (q :: s) = q :: ((takeQuoted q s).1 ++ lowerKeywords (takeQuoted q s).2) := by
  rw [lowerKeywords, pieces, if_pos hq]
  rfl

/-- A character between words is kept. -/
lemma lowerKeywords_gap {c : Char} (hquote : isQuote c = false) (hword : isWordChar c = false)
    (s : Text) : lowerKeywords (c :: s) = c :: lowerKeywords s := by
  obtain ⟨t, m, rfl, ht, hm⟩ := exists_plain s
  have hcons : ∀ d ∈ c :: t, isQuote d = false := List.forall_mem_cons.mpr ⟨hquote, ht⟩
  rw [← List.cons_append, lowerKeywords_plain_append hm hcons, runs, lowerRuns_consRun hword,
    lowerKeywords_plain_append hm ht, List.cons_append]

/-- The word ahead ends where it ends, whatever but a word stands behind the text. -/
lemma wordAhead_append_of_word {m : Text} (hm : m.head?.any isWordChar = false)
    (hdrop : (s ++ m).dropWhile isBlank = s.dropWhile isBlank ++ m) :
    wordAhead (s ++ m) = wordAhead s ∧ behindWord (s ++ m) = behindWord s ++ m := by
  rw [wordAhead, behindWord, hdrop]
  exact takeWhile_append_of_stop hm _

/-- **A whole word** makes a pair with the word ahead, or is lower-cased or kept on its own. -/
lemma lowerKeywords_word (hne : w ≠ []) (hw : ∀ c ∈ w, isWordChar c = true)
    (hs : s.head?.any isWordChar = false) :
    lowerKeywords (w ++ s) =
      if (w.folded, (wordAhead s).folded) ∈ casePairs then
        w.toAsciiLower ++ ' ' :: ((wordAhead s).toAsciiLower ++ lowerKeywords (behindWord s))
      else lowerWord w ++ lowerKeywords s := by
  obtain ⟨t, m, rfl, ht, hm⟩ := exists_plain s
  have htword : t.head?.any isWordChar = false := by
    cases t with
    | nil => rfl
    | cons c rest => exact hs
  have hnext : ∀ c, t.head? = some c → isWordChar c = false := by
    intro c hc
    rw [hc] at htword
    exact htword
  have hquote : ∀ c ∈ w ++ t, isQuote c = false :=
    List.forall_mem_append.mpr ⟨fun c hc => isQuote_of_isWordChar (hw c hc), ht⟩
  have hbehind : ∀ c ∈ behindWord t, isQuote c = false := fun c hc =>
    ht c ((List.dropWhile_suffix _).subset ((List.dropWhile_suffix _).subset hc))
  have hdrop := (takeWhile_append_of_stop (p := isBlank) (head_any_of_quote (by decide) hm) t).2
  obtain ⟨hahead, hrest⟩ := wordAhead_append_of_word (head_any_of_quote (by decide) hm) hdrop
  rw [← List.append_assoc, lowerKeywords_plain_append hm hquote,
    runs_append true hnext hne hw, Run.ofKind, if_pos rfl, lowerRuns_word w htword,
    hahead, hrest, lowerKeywords_plain_append hm hbehind, lowerKeywords_plain_append hm ht]
  split_ifs <;> simp only [List.append_assoc, List.cons_append]

/-! ## Induction along the steps -/

/-- **Induction along the reading**: over what a quoted run, a character between words, or a word
with anything that is read together with it leaves behind. -/
@[elab_as_elim]
lemma stretch_induction {P : Text → Prop} (nil : P [])
    (quoted : ∀ q s, isQuote q = true → P (takeQuoted q s).2 → P (q :: s))
    (gap : ∀ c s, isQuote c = false → isWordChar c = false → P s → P (c :: s))
    (word : ∀ w s, w ≠ [] → (∀ c ∈ w, isWordChar c = true) → s.head?.any isWordChar = false →
      P s → P (behindWord s) → P (w ++ s))
    (s : Text) : P s := by
  induction hn : s.length using Nat.strongRecOn generalizing s with
  | _ n ih =>
      cases s with
      | nil => exact nil
      | cons c rest =>
          have hlength : (c :: rest).length = rest.length + 1 := List.length_cons
          cases hquote : isQuote c with
          | true =>
              have hrest := takeQuoted_length_le c rest
              exact quoted c rest hquote (ih _ (by omega) _ rfl)
          | false =>
              cases hword : isWordChar c with
              | false => exact gap c rest hquote hword (ih _ (by omega) _ rfl)
              | true =>
                  have hsplit : c :: rest =
                      (c :: rest.takeWhile isWordChar) ++ rest.dropWhile isWordChar := by
                    rw [List.cons_append, List.takeWhile_append_dropWhile]
                  have hnext := length_dropWhile_le isWordChar rest
                  have hbehind : (behindWord (rest.dropWhile isWordChar)).length ≤
                      (rest.dropWhile isWordChar).length :=
                    (length_dropWhile_le _ _).trans (length_dropWhile_le _ _)
                  rw [hsplit]
                  exact word _ _ (List.cons_ne_nil _ _)
                    (List.forall_mem_cons.mpr ⟨hword, fun d hd => List.mem_takeWhile_imp hd⟩)
                    (head_any_dropWhile _ _) (ih _ (by omega) _ rfl) (ih _ (by omega) _ rfl)

/-! ## Seams -/

/-- A text that no keyword in front of it goes on in: it starts neither with a word nor with a
quote, and the word ahead is the second of no pair. -/
structure Detached (m : Text) : Prop where
  word : m.head?.any isWordChar = false
  quote : m.head?.any isQuote = false
  alone : ∀ first : Text, (first, (wordAhead m).folded) ∉ casePairs

lemma QuotesClosed.behindWord (h : QuotesClosed s) : QuotesClosed (behindWord s) := by
  rw [← wordAhead_append s] at h
  have hword : QuotesClosed (wordAhead s) := quotesClosed_of_quoteless fun c hc =>
    isQuote_of_isWordChar (word_wordAhead s c hc)
  exact hword.append_iff.mp ((quotesClosed_of_isBlank List.all_takeWhile).append_iff.mp h)

/-- **Two fragments are lower-cased one by one**, if no quote of the first one is open and no
keyword goes on from one to the other. -/
theorem lowerKeywords_append {m : Text} (hm : Detached m) (a : Text) :
    QuotesClosed a → lowerKeywords (a ++ m) = lowerKeywords a ++ lowerKeywords m := by
  induction a using stretch_induction with
  | nil =>
      intro _
      rw [lowerKeywords_nil, List.nil_append, List.nil_append]
  | quoted q s hq ih =>
      intro hclosed
      have hhead : m.head? ≠ some q := by
        intro hhead
        have hquote := hm.quote
        rw [hhead, Option.any_some, hq] at hquote
        cases hquote
      rw [List.cons_append, lowerKeywords_quoted hq, lowerKeywords_quoted hq,
        takeQuoted_append_of_closed hq (hclosed.isClosedRun hq) hhead, ih (hclosed.takeQuoted hq),
        List.cons_append, List.append_assoc]
  | gap c s hquote hword ih =>
      intro hclosed
      have hc : QuotesClosed [c] := quotesClosed_of_quoteless (List.forall_mem_singleton.mpr hquote)
      rw [List.cons_append, lowerKeywords_gap hquote hword, lowerKeywords_gap hquote hword,
        ih (hc.append_iff.mp hclosed), List.cons_append]
  | word w s hne hw hs ih ihbehind =>
      intro hclosed
      have hrest : QuotesClosed s := (quotesClosed_of_quoteless fun c hc =>
        isQuote_of_isWordChar (hw c hc)).append_iff.mp hclosed
      have hnext : (s ++ m).head?.any isWordChar = false := by
        cases s with
        | nil => exact hm.word
        | cons c rest => exact hs
      rw [List.append_assoc, lowerKeywords_word hne hw hnext, lowerKeywords_word hne hw hs]
      cases hblank : s.isBlank with
      | true =>
          -- the word ahead stands behind the seam
          have hnone : wordAhead s = [] := by
            rw [wordAhead, dropWhile_of_isBlank hblank]
            rfl
          have hahead : wordAhead (s ++ m) = wordAhead m := by
            rw [wordAhead, dropWhile_append_of_isBlank hblank, ← wordAhead]
          rw [hahead, hnone, if_neg (hm.alone _), if_neg (not_pair_nil _), ih hrest,
            List.append_assoc]
      | false =>
          have hdrop : (s ++ m).dropWhile isBlank = s.dropWhile isBlank ++ m := by
            have hne : s.dropWhile isBlank ≠ [] := fun hnil => by
              rw [Text.isBlank, List.all_eq_true.mpr (List.dropWhile_eq_nil_iff.mp hnil)] at hblank
              cases hblank
            rw [List.dropWhile_append, if_neg (by rwa [List.isEmpty_iff])]
          obtain ⟨hahead, hbehind⟩ := wordAhead_append_of_word hm.word hdrop
          rw [hahead, hbehind, ihbehind hrest.behindWord, ih hrest]
          split_ifs <;> simp only [List.append_assoc, List.cons_append]

/-! ## Words between fragments -/

/-- A word that lower-casing keeps, and that is part of no pair. -/
structure IsLoneWord (w : Text) : Prop where
  nonempty : w ≠ []
  word : ∀ c ∈ w, isWordChar c = true
  unpaired : ∀ p ∈ casePairs, p.1 ≠ w.folded ∧ p.2 ≠ w.folded
  kept : lowerWord w = w

/-- A lone word in front of a fragment. -/
lemma IsLoneWord.lowerKeywords_append (hw : IsLoneWord w) (s : Text) :
    lowerKeywords (w ++ ' ' :: s) = w ++ ' ' :: lowerKeywords s := by
  rw [lowerKeywords_word hw.nonempty hw.word rfl, if_neg fun hpair => (hw.unpaired _ hpair).1 rfl,
    hw.kept, lowerKeywords_gap (by decide) (by decide)]

lemma IsLoneWord.detached (hw : IsLoneWord w) (s : Text) : Detached (' ' :: (w ++ ' ' :: s)) where
  word := rfl
  quote := rfl
  alone := by
    have hspace : Text.isBlank [' '] = true := by decide
    have hahead : wordAhead (' ' :: (w ++ ' ' :: s)) = w :=
      wordAhead_of_word hspace hw.nonempty hw.word rfl
    intro first hpair
    rw [hahead] at hpair
    exact (hw.unpaired _ hpair).2 rfl

/-- **Fragments with a lone word between them** are lower-cased one by one. -/
theorem IsLoneWord.lowerKeywords_join (hw : IsLoneWord w) : ∀ {parts : List Text},
    (∀ p ∈ parts, QuotesClosed p) → lowerKeywords (Text.join (' ' :: (w ++ [' '])) parts) =
      Text.join (' ' :: (w ++ [' '])) (parts.map lowerKeywords)
  | [], _ => by
      rw [show Text.join _ [] = [] from rfl, lowerKeywords_nil]
      rfl
  | [p], _ => by rw [List.map_singleton, Text.join_singleton, Text.join_singleton]
  | p :: q :: rest, h => by
      obtain ⟨hp, hrest⟩ := List.forall_mem_cons.mp h
      have hspace (s : Text) : ' ' :: (w ++ [' ']) ++ s = ' ' :: (w ++ ' ' :: s) := by simp
      rw [List.map_cons, List.map_cons, Text.join_cons_cons, Text.join_cons_cons, List.append_assoc,
        List.append_assoc, hspace, hspace, SqlFragments.lowerKeywords_append (hw.detached _) _ hp,
        lowerKeywords_gap (by decide) (by decide), hw.lowerKeywords_append,
        hw.lowerKeywords_join hrest, List.map_cons]

end SqlFragments
