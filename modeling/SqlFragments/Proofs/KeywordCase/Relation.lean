import SqlFragments.KeywordCase
import SqlFragments.Proofs.Text.Blank
import SqlFragments.Proofs.Text.Quoted

/-!
# What lower-casing does to a text, character by character

`lowerKeywords` cuts a text into quoted pieces, runs and pairs of words.  Whoever reads the
result from left to right sees less: a quoted run is unchanged, any other character is the same
or in lower case, and white space inside a pair of words is one space.  This file states that as
a relation and shows that it holds.

* `JoinsPair` — the words on both sides of a place form one keyword.
* `Lowered` — the relation between what is left of a text and what it becomes.
* **`lowerKeywords_lowered`** — a text and its lower-cased form are related.
-/

namespace SqlFragments

/-! ## The relation -/

/-- The whole word before a place and the whole word behind it are one keyword together. -/
def JoinsPair (before ahead : Text) : Prop :=
  (Text.folded (before.reverse.takeWhile isWordChar).reverse,
    Text.folded (ahead.takeWhile isWordChar)) ∈ casePairs

/-- The end of the text `whole` and what it becomes. -/
inductive Lowered (whole : Text) : Text → Text → Prop
  | nil : Lowered whole [] []
  | quoted {q : Char} {rest rest' : Text} : isQuote q = true →
      Lowered whole (takeQuoted q rest).2 rest' →
      Lowered whole (q :: rest) (q :: ((takeQuoted q rest).1 ++ rest'))
  | char {c c' : Char} {rest rest' : Text} : isQuote c = false → c' = c ∨ c' = c.toLower →
      Lowered whole rest rest' → Lowered whole (c :: rest) (c' :: rest')
  | gap {before gap : Text} {b : Char} {rest rest' : Text} :
      whole = before ++ b :: (gap ++ rest) → isBlank b = true → gap.isBlank = true →
      JoinsPair before rest → Lowered whole rest rest' →
      Lowered whole (b :: (gap ++ rest)) (' ' :: rest')

variable {whole : Text}

/-- Characters outside quotes may be kept or lower-cased. -/
lemma Lowered.map {f : Char → Char} (hf : ∀ c, f c = c ∨ f c = c.toLower) {rest rest' : Text}
    (h : Lowered whole rest rest') : ∀ {t : Text}, (∀ c ∈ t, isQuote c = false) →
      Lowered whole (t ++ rest) (t.map f ++ rest')
  | [], _ => h
  | c :: _, hq => Lowered.char (hq c List.mem_cons_self) (hf c)
      (Lowered.map hf h fun d hd => hq d (List.mem_cons_of_mem _ hd))

lemma Lowered.keep {t rest rest' : Text} (hq : ∀ c ∈ t, isQuote c = false)
    (h : Lowered whole rest rest') : Lowered whole (t ++ rest) (t ++ rest') := by
  have hmap := Lowered.map (f := id) (fun _ => Or.inl rfl) h hq
  rw [List.map_id] at hmap
  exact hmap

lemma Lowered.lower {t rest rest' : Text} (hq : ∀ c ∈ t, isQuote c = false)
    (h : Lowered whole rest rest') : Lowered whole (t ++ rest) (t.toAsciiLower ++ rest') :=
  Lowered.map (fun _ => Or.inr rfl) h hq

/-- A word is kept or lower-cased as a whole. -/
lemma lowerWord_lowered {w rest rest' : Text} (hq : ∀ c ∈ w, isQuote c = false)
    (h : Lowered whole rest rest') : Lowered whole (w ++ rest) (lowerWord w ++ rest') := by
  rw [lowerWord]
  split_ifs
  · exact Lowered.lower hq h
  · exact Lowered.keep hq h

/-! ## Runs -/

/-- Runs as a text is cut into them: none is empty, each has characters of its kind only, and no
word stands directly behind another. -/
def WellCut : List Run → Prop
  | [] => True
  | .word a :: rest => a ≠ [] ∧ (∀ c ∈ a, isWordChar c = true) ∧
      (∀ b more, rest ≠ .word b :: more) ∧ WellCut rest
  | .gap g :: rest => g ≠ [] ∧ (∀ c ∈ g, isWordChar c = false) ∧ WellCut rest

lemma wellCut_consRun (c : Char) (rs : List Run) (h : WellCut rs) : WellCut (consRun c rs) := by
  unfold consRun
  split_ifs with hc
  · split
    · obtain ⟨_, ha, hnext, hrest⟩ := h
      exact ⟨List.cons_ne_nil _ _, List.forall_mem_cons.mpr ⟨hc, ha⟩, hnext, hrest⟩
    · rename_i hne
      exact ⟨List.cons_ne_nil _ _, List.forall_mem_singleton.mpr hc, hne, h⟩
  · rw [Bool.not_eq_true] at hc
    split
    · obtain ⟨_, hg, hrest⟩ := h
      exact ⟨List.cons_ne_nil _ _, List.forall_mem_cons.mpr ⟨hc, hg⟩, hrest⟩
    · exact ⟨List.cons_ne_nil _ _, List.forall_mem_singleton.mpr hc, h⟩

lemma wellCut_runs (s : Text) : WellCut (runs s) := by
  induction s with
  | nil => trivial
  | cons c rest ih => exact wellCut_consRun c _ ih

lemma flatMap_text_consRun (c : Char) (rs : List Run) :
    (consRun c rs).flatMap Run.text = c :: rs.flatMap Run.text := by
  unfold consRun
  repeat' split
  all_goals rfl

lemma flatMap_text_runs (s : Text) : (runs s).flatMap Run.text = s := by
  induction s with
  | nil => rfl
  | cons c rest ih => rw [runs, flatMap_text_consRun, ih]

lemma head_after_word {rs : List Run} {rest : Text} (hcut : WellCut rs)
    (hnext : ∀ b more, rs ≠ .word b :: more) (hrest : rest.head?.any isWordChar = false) :
    (rs.flatMap Run.text ++ rest).head?.any isWordChar = false := by
  cases rs with
  | nil => exact hrest
  | cons r more =>
      cases r with
      | word b => exact absurd rfl (hnext b more)
      | gap g =>
          obtain ⟨hne, hg, _⟩ := hcut
          obtain ⟨d, g, rfl⟩ := List.exists_cons_of_ne_nil hne
          exact hg d List.mem_cons_self

lemma getLast_gap {before g : Text} (hne : g ≠ []) (hg : ∀ c ∈ g, isWordChar c = false) :
    (before ++ g).getLast?.any isWordChar = false := by
  rcases List.eq_nil_or_concat g with rfl | ⟨front, d, rfl⟩
  · exact absurd rfl hne
  · rw [List.concat_eq_append, ← List.append_assoc, List.getLast?_concat]
    exact hg d (by simp)

/-- **Runs become what the relation allows**, in front of related texts. -/
lemma lowerRuns_lowered {rest rest' : Text} (hrest : rest.head?.any isWordChar = false)
    (h : Lowered whole rest rest') (rs : List Run) : ∀ {before : Text},
      whole = before ++ (rs.flatMap Run.text ++ rest) → WellCut rs →
      (∀ c ∈ rs.flatMap Run.text, isQuote c = false) →
      (∀ a more, rs = .word a :: more → before.getLast?.any isWordChar = false) →
      Lowered whole (rs.flatMap Run.text ++ rest) (lowerRuns rs ++ rest') := by
  fun_induction lowerRuns rs with
  | case1 => intro before _ _ _ _; exact h
  | case2 g more ih =>
      intro before hwhole hcut hq _
      obtain ⟨hne, hg, hmore⟩ := hcut
      simp only [List.flatMap_cons, Run.text, List.forall_mem_append,
        List.append_assoc] at hq hwhole ⊢
      rw [← List.append_assoc before] at hwhole
      exact Lowered.keep hq.1 (ih hwhole hmore hq.2 fun _ _ _ => getLast_gap hne hg)
  | case3 a g b more hpair ih =>
      intro before hwhole hcut hq hbefore
      obtain ⟨_, ha, _, hgne, _, _, hb, hnext, hmore⟩ := hcut
      rw [isCasePair, Bool.and_eq_true, List.contains_iff_mem] at hpair
      obtain ⟨hblank, hpair⟩ := hpair
      simp only [List.flatMap_cons, Run.text, List.forall_mem_append, List.append_assoc,
        List.cons_append] at hq hwhole ⊢
      obtain ⟨hqa, _, hqb, hqmore⟩ := hq
      obtain ⟨d, gap, rfl⟩ := List.exists_cons_of_ne_nil hgne
      rw [Text.isBlank, List.all_cons, Bool.and_eq_true] at hblank
      have hgap : whole
          = (before ++ a) ++ d :: (gap ++ (b ++ (more.flatMap Run.text ++ rest))) := by
        rw [hwhole, List.append_assoc, List.cons_append]
      have hmoreWhole : whole
          = (before ++ a ++ d :: gap ++ b) ++ (more.flatMap Run.text ++ rest) := by
        rw [hwhole]
        simp only [List.append_assoc, List.cons_append]
      have hrec := ih hmoreWhole hmore hqmore fun c more' heq => absurd heq (hnext c more')
      refine Lowered.lower hqa (Lowered.gap hgap hblank.1 hblank.2 ?_ (Lowered.lower hqb hrec))
      -- `a` and `b` are whole words: none goes on in front of `a` or behind `b`
      have hfirst : (before ++ a).reverse.takeWhile isWordChar = a.reverse := by
        rw [List.reverse_append]
        refine (takeWhile_append_of_head (fun c hc => ha c (List.mem_reverse.mp hc)) ?_).1
        rw [List.head?_reverse]
        exact hbefore _ _ rfl
      have hsecond : (b ++ (more.flatMap Run.text ++ rest)).takeWhile isWordChar = b :=
        (takeWhile_append_of_head hb (head_after_word hmore hnext hrest)).1
      rw [JoinsPair, hfirst, hsecond, List.reverse_reverse]
      exact hpair
  | case4 a g b more hpair ih =>
      intro before hwhole hcut hq _
      obtain ⟨_, _, _, hgne, hg, hword⟩ := hcut
      simp only [List.flatMap_cons, Run.text, List.forall_mem_append,
        List.append_assoc] at hq hwhole ih ⊢
      obtain ⟨hqa, hqg, hqb, hqmore⟩ := hq
      rw [← List.append_assoc before, ← List.append_assoc (before ++ a)] at hwhole
      exact lowerWord_lowered hqa (Lowered.keep hqg
        (ih hwhole hword ⟨hqb, hqmore⟩ fun _ _ _ => getLast_gap hgne hg))
  | case5 a more _ ih =>
      intro before hwhole hcut hq _
      obtain ⟨_, _, hnext, hmore⟩ := hcut
      simp only [List.flatMap_cons, Run.text, List.forall_mem_append,
        List.append_assoc] at hq hwhole ⊢
      rw [← List.append_assoc before] at hwhole
      exact lowerWord_lowered hq.1
        (ih hwhole hmore hq.2 fun c more' heq => absurd heq (hnext c more'))

/-! ## Pieces -/

/-- Pieces as a text is cut into them: a plain piece is not empty, holds no quote and is not
followed by another one; a quoted piece is a run that ends where the next piece starts. -/
def PiecesCut : List Piece → Prop
  | [] => True
  | .plain t :: rest => t ≠ [] ∧ (∀ c ∈ t, isQuote c = false) ∧
      (∀ u more, rest ≠ .plain u :: more) ∧ PiecesCut rest
  | .quoted t :: rest => (∃ q s, isQuote q = true ∧ t = q :: (takeQuoted q s).1 ∧
      rest.flatMap Piece.text = (takeQuoted q s).2) ∧ PiecesCut rest

lemma flatMap_text_consPlain (c : Char) (ps : List Piece) :
    (consPlain c ps).flatMap Piece.text = c :: ps.flatMap Piece.text := by
  unfold consPlain
  split <;> rfl

lemma piecesCut_consPlain {c : Char} (hc : isQuote c = false) {ps : List Piece}
    (h : PiecesCut ps) : PiecesCut (consPlain c ps) := by
  unfold consPlain
  split
  · obtain ⟨_, ht, hnext, hrest⟩ := h
    exact ⟨List.cons_ne_nil _ _, List.forall_mem_cons.mpr ⟨hc, ht⟩, hnext, hrest⟩
  · rename_i hne
    exact ⟨List.cons_ne_nil _ _, List.forall_mem_singleton.mpr hc, hne, h⟩

/-- **Pieces make up the text**, cut where the rule says. -/
lemma piecesCut_pieces (s : Text) :
    PiecesCut (pieces s) ∧ (pieces s).flatMap Piece.text = s := by
  fun_induction pieces s with
  | case1 => exact ⟨trivial, rfl⟩
  | case2 c rest hc ih =>
      obtain ⟨hcut, htext⟩ := ih
      refine ⟨⟨⟨c, rest, hc, rfl, htext⟩, hcut⟩, ?_⟩
      rw [List.flatMap_cons, Piece.text, htext, cons_takeQuoted_append]
  | case3 c rest hc ih =>
      obtain ⟨hcut, htext⟩ := ih
      rw [Bool.not_eq_true] at hc
      exact ⟨piecesCut_consPlain hc hcut, by rw [flatMap_text_consPlain, htext]⟩

lemma not_isWordChar_of_isQuote {c : Char} (h : isQuote c = true) : isWordChar c = false := by
  simp only [isQuote, Bool.or_eq_true, beq_iff_eq] at h
  rcases h with (rfl | rfl) | rfl <;> decide

lemma head_after_plain {ps : List Piece} (hcut : PiecesCut ps)
    (hnext : ∀ u more, ps ≠ .plain u :: more) :
    (ps.flatMap Piece.text).head?.any isWordChar = false := by
  cases ps with
  | nil => rfl
  | cons p more =>
      cases p with
      | plain u => exact absurd rfl (hnext u more)
      | quoted t =>
          obtain ⟨⟨q, s, hq, rfl, _⟩, _⟩ := hcut
          exact not_isWordChar_of_isQuote hq

lemma lowerPieces_lowered : ∀ (ps : List Piece) (before : Text),
    whole = before ++ ps.flatMap Piece.text → PiecesCut ps →
    (∀ t more, ps = .plain t :: more → before.getLast?.any isWordChar = false) →
    Lowered whole (ps.flatMap Piece.text) (ps.flatMap lowerPiece)
  | [], _, _, _, _ => Lowered.nil
  | .plain t :: rest, before, hwhole, hcut, hbefore => by
      obtain ⟨_, ht, hnext, hrest⟩ := hcut
      rw [List.flatMap_cons, Piece.text] at hwhole
      have hrec : Lowered whole (rest.flatMap Piece.text) (rest.flatMap lowerPiece) :=
        lowerPieces_lowered rest (before ++ t) (by rw [hwhole, List.append_assoc]) hrest
          fun u more heq => absurd heq (hnext u more)
      have hruns : Lowered whole ((runs t).flatMap Run.text ++ rest.flatMap Piece.text)
          (lowerRuns (runs t) ++ rest.flatMap lowerPiece) := by
        refine lowerRuns_lowered (head_after_plain hrest hnext) hrec (runs t)
          (?_ : whole = before ++ _) (wellCut_runs t) ?_ fun _ _ _ => hbefore t rest rfl
        · rw [flatMap_text_runs]
          exact hwhole
        · rw [flatMap_text_runs]
          exact ht
      rw [flatMap_text_runs] at hruns
      exact hruns
  | .quoted t :: rest, before, hwhole, hcut, _ => by
      obtain ⟨⟨q, s, hq, rfl, htext⟩, hrest⟩ := hcut
      rw [List.flatMap_cons, Piece.text] at hwhole
      have hrec : Lowered whole (rest.flatMap Piece.text) (rest.flatMap lowerPiece) := by
        refine lowerPieces_lowered rest (before ++ q :: (takeQuoted q s).1)
          (by rw [hwhole, List.append_assoc]) hrest fun u more heq => ?_
        -- a plain piece follows, so the run is closed
        have hne : (takeQuoted q s).2 ≠ [] := by
          subst heq
          rw [← htext, List.flatMap_cons, Piece.text]
          exact List.append_ne_nil_of_left_ne_nil hrest.1 _
        obtain ⟨inner, hinner, _⟩ := isClosedRun_takeQuoted hne
        have hlast : before ++ q :: (takeQuoted q s).1 = (before ++ q :: inner) ++ [q] := by
          rw [hinner, List.append_assoc, List.cons_append]
        rw [hlast, List.getLast?_concat]
        exact not_isWordChar_of_isQuote hq
      rw [List.flatMap_cons, List.flatMap_cons, Piece.text, lowerPiece, htext,
        cons_takeQuoted_append, List.cons_append]
      rw [htext] at hrec
      exact Lowered.quoted hq hrec

/-- **A text and its lower-cased form are related.** -/
theorem lowerKeywords_lowered (s : Text) : Lowered s s (lowerKeywords s) := by
  obtain ⟨hcut, htext⟩ := piecesCut_pieces s
  have h := lowerPieces_lowered (pieces s) [] htext.symm hcut fun _ _ _ => rfl
  rw [htext] at h
  exact h

end SqlFragments
