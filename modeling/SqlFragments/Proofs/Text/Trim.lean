import Mathlib.Data.List.DropRight
import SqlFragments.Proofs.Text.Blank

/-!
# White space around a text, and words

Fragments are trimmed before they are looked at, and the suffixes of orderings are words behind
white space.  This file says what trimming leaves and how words are cut.

* `Text.Trimmed` — a text with no white space at either end.
* `Text.exists_trim`, `Text.trimmed_trim` — a text is a trimmed one with white space around it.
* **`Text.trim_append`**, `Text.trim_surrounded` — white space around a text is what trimming takes
  away.
* **`Text.words_append_blank`** — words are cut at white space.
-/

namespace SqlFragments

namespace Text

/-! ## Trimming -/

/-- A text that neither starts nor ends with white space. -/
structure Trimmed (s : Text) : Prop where
  first : s.head?.any SqlFragments.isBlank = false
  last : s.getLast?.any SqlFragments.isBlank = false

variable {a b s : Text}

@[simp] lemma isBlank_append : (a ++ b).isBlank = (a.isBlank && b.isBlank) :=
  List.all_append

lemma isBlank_reverse : Text.isBlank s.reverse = s.isBlank :=
  List.all_reverse

lemma trimStart_append (ha : a.isBlank = true) (hs : s.head?.any SqlFragments.isBlank = false) :
    trimStart (a ++ s) = s :=
  (takeWhile_append_of_head (List.all_eq_true.mp ha) hs).2

lemma trimEnd_append (hb : b.isBlank = true) (hs : s.getLast?.any SqlFragments.isBlank = false) :
    trimEnd (s ++ b) = s := by
  rw [← List.head?_reverse] at hs
  have hrev : Text.isBlank b.reverse = true := by rw [isBlank_reverse, hb]
  rw [trimEnd, List.reverse_append]
  exact (congrArg List.reverse (trimStart_append hrev hs)).trans (List.reverse_reverse s)

/-- **White space around a trimmed text** is what trimming takes away. -/
lemma trim_append (ha : a.isBlank = true) (hb : b.isBlank = true) (hs : Trimmed s) :
    trim (a ++ (s ++ b)) = s := by
  cases s with
  | nil =>
      have hall : Text.isBlank (a ++ ([] ++ b)) = true := by simp [ha, hb]
      exact List.isEmpty_iff.mp ((isEmpty_trim_iff _).mpr hall)
  | cons c rest =>
      have hstart : trimStart (a ++ (c :: rest ++ b)) = c :: rest ++ b :=
        trimStart_append ha hs.first
      rw [trim, hstart, trimEnd_append hb hs.last]

lemma Trimmed.trim_eq (hs : Trimmed s) : s.trim = s := by
  have h := trim_append (a := []) (b := []) rfl rfl hs
  rwa [List.nil_append, List.append_nil] at h

lemma exists_trimEnd (s : Text) : ∃ b, Text.isBlank b = true ∧ s = s.trimEnd ++ b := by
  refine ⟨(s.reverse.takeWhile SqlFragments.isBlank).reverse, ?_, ?_⟩
  · rw [isBlank_reverse]
    exact List.all_takeWhile
  · rw [trimEnd, ← List.reverse_append, List.takeWhile_append_dropWhile, List.reverse_reverse]

/-- A text is what is left of it without white space, and white space around that. -/
lemma exists_trim (s : Text) :
    ∃ a b, Text.isBlank a = true ∧ Text.isBlank b = true ∧ s = a ++ (s.trim ++ b) := by
  obtain ⟨b, hb, hs⟩ := exists_trimEnd s.trimStart
  refine ⟨s.takeWhile SqlFragments.isBlank, b, List.all_takeWhile, hb, ?_⟩
  rw [trim, ← hs]
  exact List.takeWhile_append_dropWhile.symm

lemma getLast_trimEnd (s : Text) : (trimEnd s).getLast?.any SqlFragments.isBlank = false := by
  rw [trimEnd, List.getLast?_reverse]
  exact head_any_dropWhile _ _

lemma trimEnd_isPrefix (s : Text) : trimEnd s <+: s :=
  List.rdropWhile_prefix SqlFragments.isBlank s

lemma Trimmed.trimEnd_eq (hs : Trimmed s) : s.trimEnd = s := by
  have h := trimEnd_append (s := s) (b := []) rfl hs.last
  rwa [List.append_nil] at h

/-- No white space comes first in a part of a text that reaches to its front. -/
lemma head_of_isPrefix (hstart : a <+: s) (hs : s.head?.any SqlFragments.isBlank = false) :
    a.head?.any SqlFragments.isBlank = false := by
  obtain ⟨b, rfl⟩ := hstart
  cases a with
  | nil => rfl
  | cons c rest => exact hs

lemma trimmed_trim (s : Text) : Trimmed s.trim where
  first := head_of_isPrefix (trimEnd_isPrefix _) (head_any_dropWhile _ _)
  last := getLast_trimEnd _

/-- White space around a text is trimmed with what the text has of its own. -/
lemma trim_surrounded (ha : a.isBlank = true) (hb : b.isBlank = true) (s : Text) :
    trim (a ++ (s ++ b)) = s.trim := by
  obtain ⟨a', b', ha', hb', hs⟩ := exists_trim s
  have haa : Text.isBlank (a ++ a') = true := by rw [isBlank_append, ha, ha', Bool.true_and]
  have hbb : Text.isBlank (b' ++ b) = true := by rw [isBlank_append, hb, hb', Bool.true_and]
  have hall := trim_append haa hbb (trimmed_trim s)
  conv_lhs => rw [hs]
  simp only [List.append_assoc] at hall ⊢
  exact hall

lemma isBlank_trim (s : Text) : s.trim.isBlank = s.isBlank := by
  obtain ⟨a, b, ha, hb, hs⟩ := exists_trim s
  conv_rhs => rw [hs, isBlank_append, isBlank_append, ha, hb, Bool.true_and, Bool.and_true]

/-- A trimmed text is blank only if it is empty. -/
lemma Trimmed.isBlank_eq (hs : Trimmed s) : s.isBlank = s.isEmpty := by
  rw [Bool.eq_iff_iff, ← isEmpty_trim_iff, hs.trim_eq]

/-- Nothing but white space at the end of a trimmed text is nothing. -/
lemma Trimmed.eq_nil_of_append (hs : Trimmed (a ++ b)) (hb : b.isBlank = true) : b = [] := by
  by_contra hne
  have hlast := hs.last
  rw [List.getLast?_append_of_ne_nil _ hne, List.getLast?_eq_some_getLast hne, Option.any_some,
    List.all_eq_true.mp hb _ (List.getLast_mem hne)] at hlast
  cases hlast

lemma trim_ne_nil (hs : s.isBlank = false) : s.trim ≠ [] := by
  intro h
  rw [(isEmpty_trim_iff s).mp (List.isEmpty_iff.mpr h)] at hs
  cases hs

/-! ## Words -/

lemma wordsFrom_of_blank (word : Text) {c : Char} (hc : SqlFragments.isBlank c = true)
    (rest : Text) : wordsFrom word (c :: rest) = wordsFrom word [] ++ words rest := by
  rw [wordsFrom, wordsFrom, if_pos hc, words]
  split_ifs <;> rfl

lemma wordsFrom_append (a : Text) {c : Char} (hc : SqlFragments.isBlank c = true) (rest : Text) :
    ∀ word : Text, wordsFrom word (a ++ c :: rest) = wordsFrom word a ++ words rest := by
  induction a with
  | nil => exact fun word => wordsFrom_of_blank word hc rest
  | cons d a ih =>
      intro word
      rw [List.cons_append, wordsFrom, wordsFrom, ih, ih]
      split_ifs <;> simp

/-- **Words are cut at white space.** -/
lemma words_append_blank (a : Text) {c : Char} (hc : SqlFragments.isBlank c = true)
    (rest : Text) : words (a ++ c :: rest) = words a ++ words rest :=
  wordsFrom_append a hc rest []

lemma words_of_isBlank (hb : b.isBlank = true) : words b = [] := by
  induction b with
  | nil => rfl
  | cons c rest ih =>
      obtain ⟨hc, hrest⟩ := List.forall_mem_cons.mp (List.all_eq_true.mp hb)
      have happ := words_append_blank [] hc rest
      rw [List.nil_append] at happ
      rw [happ, ih (List.all_eq_true.mpr hrest)]
      rfl

lemma wordsFrom_of_letters (hs : ∀ c ∈ s, SqlFragments.isBlank c = false) :
    ∀ word : Text, wordsFrom word s = wordsFrom (s.reverse ++ word) [] := by
  induction s with
  | nil => exact fun word => rfl
  | cons c rest ih =>
      obtain ⟨hc, hrest⟩ := List.forall_mem_cons.mp hs
      intro word
      have hstep : wordsFrom word (c :: rest) = wordsFrom (c :: word) rest := by
        rw [wordsFrom, hc, if_neg Bool.false_ne_true]
      rw [hstep, ih hrest, List.reverse_cons, List.append_assoc, List.singleton_append]

/-- A text without white space is one word. -/
lemma words_of_letters (hne : s ≠ []) (hs : ∀ c ∈ s, SqlFragments.isBlank c = false) :
    words s = [s] := by
  rw [words, wordsFrom_of_letters hs, List.append_nil, wordsFrom]
  simp [hne]

/-- White space in front of a text belongs to no word. -/
lemma words_blank_append (ha : a.isBlank = true) (s : Text) : words (a ++ s) = words s := by
  induction a with
  | nil => rfl
  | cons c rest ih =>
      obtain ⟨hc, hrest⟩ := List.forall_mem_cons.mp (List.all_eq_true.mp ha)
      have happ := words_append_blank [] hc (rest ++ s)
      rw [List.nil_append] at happ
      rw [List.cons_append, happ, ih (List.all_eq_true.mpr hrest)]
      rfl

/-- Nor does white space behind it. -/
lemma words_append_of_isBlank (s : Text) (hb : b.isBlank = true) : words (s ++ b) = words s := by
  cases b with
  | nil => rw [List.append_nil]
  | cons c rest =>
      obtain ⟨hc, hrest⟩ := List.forall_mem_cons.mp (List.all_eq_true.mp hb)
      rw [words_append_blank s hc rest, words_of_isBlank (List.all_eq_true.mpr hrest),
        List.append_nil]

lemma words_trim (s : Text) : words s.trim = words s := by
  obtain ⟨a, b, ha, hb, hs⟩ := exists_trim s
  conv_rhs => rw [hs, words_blank_append ha, words_append_of_isBlank _ hb]

lemma isBlank_of_wordsFrom (s : Text) : ∀ word : Text, wordsFrom word s = [] →
    word = [] ∧ s.isBlank = true := by
  induction s with
  | nil =>
      intro word h
      rw [wordsFrom] at h
      split_ifs at h with hword
      exact ⟨List.isEmpty_iff.mp hword, rfl⟩
  | cons c rest ih =>
      intro word h
      cases hc : SqlFragments.isBlank c with
      | true =>
          rw [wordsFrom, hc, if_pos rfl] at h
          split_ifs at h with hword
          refine ⟨List.isEmpty_iff.mp hword, ?_⟩
          rw [isBlank, List.all_cons, hc, Bool.true_and]
          exact (ih [] h).2
      | false =>
          rw [wordsFrom, hc, if_neg Bool.false_ne_true] at h
          cases (ih _ h).1

/-- A text without words is blank. -/
lemma isBlank_of_words (h : words s = []) : s.isBlank = true :=
  (isBlank_of_wordsFrom s [] h).2

lemma mem_of_mem_wordsFrom {w : Text} {c : Char} (hc : c ∈ w) (s : Text) : ∀ word : Text,
    w ∈ wordsFrom word s → c ∈ word ∨ c ∈ s := by
  induction s with
  | nil =>
      intro word h
      rw [wordsFrom] at h
      split_ifs at h
      · cases h
      · rw [List.mem_singleton.mp h, List.mem_reverse] at hc
        exact Or.inl hc
  | cons d rest ih =>
      intro word h
      have hrest : w ∈ wordsFrom [] rest → c ∈ word ∨ c ∈ d :: rest := fun hmem =>
        Or.inr (List.mem_cons_of_mem d ((ih [] hmem).resolve_left List.not_mem_nil))
      rw [wordsFrom] at h
      split_ifs at h
      · exact hrest h
      · rcases List.mem_cons.mp h with rfl | hmem
        · exact Or.inl (List.mem_reverse.mp hc)
        · exact hrest hmem
      · rcases ih _ h with hword | hmem
        · rcases List.mem_cons.mp hword with rfl | hword
          · exact Or.inr List.mem_cons_self
          · exact Or.inl hword
        · exact Or.inr (List.mem_cons_of_mem d hmem)

/-- Words are made of the characters of the text. -/
lemma mem_of_mem_words {w : Text} {c : Char} (hw : w ∈ words s) (hc : c ∈ w) : c ∈ s :=
  (mem_of_mem_wordsFrom hc s [] hw).resolve_left List.not_mem_nil

end Text

end SqlFragments
