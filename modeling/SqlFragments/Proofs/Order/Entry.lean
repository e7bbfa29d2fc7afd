import SqlFragments.Order.Item
import SqlFragments.Proofs.Text.Case
import SqlFragments.Proofs.Text.Trim

/-!
# The suffixes of an entry

A direction and a place of nulls are looked for at the end of an entry, word by word.  What was
written there is found and taken away again.  A column that does not itself end in such words is
left as it is.

* `cutLastWord_append`, **`words_cutLastWord`** — the last word of a text, and what stands in front
  of it.
* `endsInDirection`, `endsInNulls` — the words of a text end in a setting.
* `cutDirection_of_column`, `cutNulls_of_column` — a column without settings is kept.
* `cutDirection_toText`, `cutNulls_toText` — a setting that was written is read.
* **`OrderItem.parse_suffixes`** — an entry is read as its column and its settings.
-/

namespace SqlFragments

variable {s column before word : Text}

/-! ## The last word -/

/-- A text that ends in a word: it is not empty, and there is no white space at its end. -/
structure EndsInWord (s : Text) : Prop where
  ne_nil : s ≠ []
  last : s.getLast?.any isBlank = false

lemma EndsInWord.append (hword : EndsInWord word) (s : Text) : EndsInWord (s ++ word) where
  ne_nil := List.append_ne_nil_of_right_ne_nil s hword.ne_nil
  last := by rw [List.getLast?_append_of_ne_nil s hword.ne_nil, hword.last]

/-- A text is cut in front of its last run without white space. -/
lemma exists_lastWord (s : Text) : ∃ front word, s = front ++ word ∧
    (∀ c ∈ word, isBlank c = false) ∧ front.getLast?.any (fun c => !isBlank c) = false := by
  refine ⟨(s.reverse.dropWhile fun c => !isBlank c).reverse,
    (s.reverse.takeWhile fun c => !isBlank c).reverse, ?_, fun c hc => ?_, ?_⟩
  · rw [← List.reverse_append, List.takeWhile_append_dropWhile, List.reverse_reverse]
  · have hletter := List.mem_takeWhile_imp (List.mem_reverse.mp hc)
    rwa [Bool.not_eq_true'] at hletter
  · rw [List.getLast?_reverse]
    exact head_any_dropWhile (fun c => !isBlank c) s.reverse

lemma cutLastWord_append (hword : ∀ c ∈ word, isBlank c = false)
    (hfront : before.getLast?.any (fun c => !isBlank c) = false) :
    cutLastWord (before ++ word) =
      if before.isEmpty then none else some (Text.trimEnd before, word) := by
  have hletters : ∀ c ∈ word.reverse, (!isBlank c) = true := fun c hc => by
    rw [hword c (List.mem_reverse.mp hc), Bool.not_false]
  have htake : (before ++ word).reverse.takeWhile (fun c => !isBlank c) = word.reverse := by
    rw [List.reverse_append]
    refine (takeWhile_append_of_head hletters ?_).1
    rw [List.head?_reverse, hfront]
  have hlength : (before ++ word).length - word.length = before.length := by simp
  simp only [cutLastWord, htake, List.reverse_reverse, hlength, List.take_left]

/-- A word behind a space is the last one. -/
lemma cutLastWord_space (h : EndsInWord column) (hword : word.any isBlank = false) :
    cutLastWord (column ++ ' ' :: word) = some (column, word) := by
  have hletters : ∀ c ∈ word, isBlank c = false := fun c hc =>
    Bool.eq_false_of_not_eq_true (List.any_eq_false.mp hword c hc)
  have hspace : Text.isBlank [' '] = true := by decide
  have hfront : (column ++ [' ']).getLast?.any (fun c => !isBlank c) = false := by
    rw [List.getLast?_concat]
    decide
  have hcut := cutLastWord_append hletters hfront
  rw [List.append_assoc, List.singleton_append, Text.trimEnd_append hspace h.last] at hcut
  rw [hcut]
  simp

/-- **The words of a text** are its last one, and those of what stands in front of it. -/
lemma words_cutLastWord (hs : Text.Trimmed s) (h : cutLastWord s = some (before, word)) :
    s.words = before.words ++ [word] ∧ before.words ≠ [] ∧ Text.Trimmed before := by
  obtain ⟨front, word', rfl, hword, hfront⟩ := exists_lastWord s
  rw [cutLastWord_append hword hfront] at h
  split_ifs at h with hempty
  obtain ⟨rfl, rfl⟩ := Prod.mk.inj (Option.some.inj h)
  obtain ⟨gap, hgap, heq⟩ := Text.exists_trimEnd front
  -- the character in front of the word is white space
  rcases List.eq_nil_or_concat front with rfl | ⟨start, b, hstart⟩
  · exact absurd rfl hempty
  rw [List.concat_eq_append] at hstart
  have hb : isBlank b = true := by
    rw [hstart, List.getLast?_concat, Option.any_some, Bool.not_eq_false'] at hfront
    exact hfront
  have hne : word' ≠ [] := by
    rintro rfl
    have hlast := hs.last
    rw [List.append_nil, hstart, List.getLast?_concat, Option.any_some, hb] at hlast
    cases hlast
  have hfirst : front.head?.any isBlank = false := by
    have hhead := hs.first
    rw [hstart] at hhead ⊢
    cases start with
    | nil => exact hhead
    | cons c start => exact hhead
  have hwords : Text.words front = Text.words (Text.trimEnd front) := by
    conv_lhs => rw [heq, Text.words_append_of_isBlank _ hgap]
  refine ⟨?_, fun hnil => ?_, ?_, Text.getLast_trimEnd front⟩
  · have hblank : Text.isBlank [b] = true := by simp [Text.isBlank, hb]
    rw [← hwords, hstart, List.append_assoc, List.singleton_append,
      Text.words_append_blank start hb, Text.words_of_letters hne hword,
      Text.words_append_of_isBlank start hblank]
  · rw [← hwords] at hnil
    have hblank := Text.isBlank_of_words hnil
    obtain ⟨c, rest, rfl⟩ := List.exists_cons_of_ne_nil (List.isEmpty_iff.not.mp hempty)
    rw [List.head?_cons, Option.any_some,
      List.all_eq_true.mp hblank c List.mem_cons_self] at hfirst
    cases hfirst
  · rw [heq] at hfirst
    cases htrim : Text.trimEnd front with
    | nil => rfl
    | cons c rest =>
        rw [htrim] at hfirst
        exact hfirst

/-! ## Columns without settings -/

/-- The words of a text, folded, the last one first. -/
def Text.lastWords (s : Text) : List Text :=
  (s.words.map Text.folded).reverse

/-- Whether a text ends in a direction behind white space. -/
def endsInDirection (s : Text) : Bool :=
  match s.lastWords with
  | direction :: _ :: _ => ["asc".toList, "desc".toList].contains direction
  | _ => false

/-- Whether a text ends in a place of nulls behind white space. -/
def endsInNulls (s : Text) : Bool :=
  match s.lastWords with
  | place :: nulls :: _ :: _ =>
    nulls == "nulls".toList && ["first".toList, "last".toList].contains place
  | _ => false

lemma lastWords_eq (hs : Text.Trimmed s) (h : cutLastWord s = some (before, word)) :
    s.lastWords = word.folded :: before.lastWords ∧ before.lastWords ≠ [] ∧
      Text.Trimmed before := by
  obtain ⟨hwords, hne, hbefore⟩ := words_cutLastWord hs h
  refine ⟨?_, ?_, hbefore⟩
  · rw [Text.lastWords, hwords, List.map_append, List.reverse_append]
    rfl
  · rw [Text.lastWords, Ne, List.reverse_eq_nil_iff, List.map_eq_nil_iff]
    exact hne

lemma folded_of_lower {t : Text} (ht : t.folded = t) (h : word.toAsciiLower = t) :
    word.folded = t := by
  rw [← folded_toAsciiLower, h, ht]

/-- **A column that does not end in a direction** is kept. -/
lemma cutDirection_of_column (hs : Text.Trimmed s) (h : endsInDirection s = false) :
    cutDirection s = (s, .unspecified) := by
  cases hcut : cutLastWord s with
  | none => rw [cutDirection, hcut]
  | some cut =>
      obtain ⟨before, word⟩ := cut
      obtain ⟨hlast, hne, -⟩ := lastWords_eq hs hcut
      obtain ⟨second, more, hmore⟩ := List.exists_cons_of_ne_nil hne
      rw [endsInDirection, hlast, hmore] at h
      simp only [List.contains_cons, List.contains_nil, Bool.or_false, Bool.or_eq_false_iff,
        beq_eq_false_iff_ne] at h
      simp only [cutDirection, hcut]
      split_ifs with hlower hfolded
      · exact absurd (folded_of_lower (by decide) hlower) h.1
      · rw [Bool.or_eq_true, decide_eq_true_eq, decide_eq_true_eq] at hfolded
        exact absurd hfolded (not_or.mpr h)
      · rfl

/-- **A column that does not end in a place of nulls** is kept. -/
lemma cutNulls_of_column (hs : Text.Trimmed s) (h : endsInNulls s = false) :
    cutNulls s = (s, .unspecified) := by
  cases hcut : cutLastWord s with
  | none => rw [cutNulls, hcut]
  | some cut =>
      obtain ⟨before, place⟩ := cut
      obtain ⟨hlast, -, hbefore⟩ := lastWords_eq hs hcut
      cases hcut' : cutLastWord before with
      | none => simp only [cutNulls, hcut, hcut']
      | some cut' =>
          obtain ⟨column, nulls⟩ := cut'
          obtain ⟨hlast', hne, -⟩ := lastWords_eq hbefore hcut'
          obtain ⟨third, more, hmore⟩ := List.exists_cons_of_ne_nil hne
          rw [endsInNulls, hlast, hlast', hmore] at h
          simp only [cutNulls, hcut, hcut']
          split_ifs with hnulls hfirst hplace
          · have hfolded := folded_of_lower (by decide) hfirst
            rw [hnulls, hfolded] at h
            cases h
          · rw [Bool.or_eq_true, decide_eq_true_eq, decide_eq_true_eq] at hplace
            rw [hnulls] at h
            rcases hplace with hplace | hplace
            · rw [hplace] at h
              cases h
            · rw [hplace] at h
              cases h
          · rfl
          · rfl

/-! ## Settings that were written -/

lemma Direction.endsInWord {d : Direction} (hd : d ≠ .unspecified) : EndsInWord d.toText := by
  cases d with
  | asc => exact ⟨by decide, by decide⟩
  | desc => exact ⟨by decide, by decide⟩
  | unspecified => exact absurd rfl hd

/-- **A direction that was written is read.** -/
lemma cutDirection_toText (hcolumn : Text.Trimmed column) (hne : column ≠ []) {d : Direction}
    (h : d = .unspecified → endsInDirection column = false) :
    cutDirection (column ++ d.toText) = (column, d) := by
  have hends : EndsInWord column := ⟨hne, hcolumn.last⟩
  cases d with
  | asc =>
      have hcut : cutLastWord (column ++ Direction.asc.toText) = some (column, "asc".toList) :=
        cutLastWord_space hends (by decide)
      rw [cutDirection, hcut]
      rfl
  | desc =>
      have hcut : cutLastWord (column ++ Direction.desc.toText) = some (column, "desc".toList) :=
        cutLastWord_space hends (by decide)
      rw [cutDirection, hcut]
      rfl
  | unspecified =>
      rw [show Direction.unspecified.toText = [] from rfl, List.append_nil]
      exact cutDirection_of_column hcolumn (h rfl)

/-- A direction is no place of nulls. -/
lemma cutNulls_direction (hends : EndsInWord column) {d : Direction} (hd : d ≠ .unspecified) :
    cutNulls (column ++ d.toText) = (column ++ d.toText, .unspecified) := by
  have hplace : ∀ place : Text, cutLastWord (column ++ d.toText) = some (column, place) →
      place.toAsciiLower ≠ "first".toList → place.folded ≠ "first".toList →
      place.folded ≠ "last".toList →
      cutNulls (column ++ d.toText) = (column ++ d.toText, .unspecified) := by
    intro place hcut h1 h2 h3
    cases hcut' : cutLastWord column with
    | none => simp only [cutNulls, hcut, hcut']
    | some cut =>
        simp only [cutNulls, hcut, hcut', if_neg h1, decide_eq_false h2, decide_eq_false h3,
          Bool.or_false, Bool.false_eq_true, if_false, ite_self]
  cases d with
  | asc => exact hplace _ (cutLastWord_space hends (by decide)) (by decide) (by decide) (by decide)
  | desc => exact hplace _ (cutLastWord_space hends (by decide)) (by decide) (by decide) (by decide)
  | unspecified => exact absurd rfl hd

/-- **A place of nulls that was written is read.** -/
lemma cutNulls_toText (hends : EndsInWord column) {n : NullPlace}
    (h : n = .unspecified → cutNulls column = (column, .unspecified)) :
    cutNulls (column ++ n.toText) = (column, n) := by
  have hnulls : cutLastWord (column ++ " nulls".toList) = some (column, "nulls".toList) :=
    cutLastWord_space hends (by decide)
  have hword : EndsInWord (column ++ " nulls".toList) :=
    EndsInWord.append ⟨by decide, by decide⟩ column
  cases n with
  | first =>
      have hcut : cutLastWord (column ++ NullPlace.first.toText) =
          some (column ++ " nulls".toList, "first".toList) := by
        rw [show NullPlace.first.toText = " nulls".toList ++ ' ' :: "first".toList from rfl,
          ← List.append_assoc]
        exact cutLastWord_space hword (by decide)
      simp only [cutNulls, hcut, hnulls]
      rfl
  | last =>
      have hcut : cutLastWord (column ++ NullPlace.last.toText) =
          some (column ++ " nulls".toList, "last".toList) := by
        rw [show NullPlace.last.toText = " nulls".toList ++ ' ' :: "last".toList from rfl,
          ← List.append_assoc]
        exact cutLastWord_space hword (by decide)
      simp only [cutNulls, hcut, hnulls]
      rfl
  | unspecified =>
      rw [show NullPlace.unspecified.toText = [] from rfl, List.append_nil]
      exact h rfl

/-! ## Entries -/

lemma NullPlace.endsInWord {n : NullPlace} (hn : n ≠ .unspecified) : EndsInWord n.toText := by
  cases n with
  | first => exact ⟨by decide, by decide⟩
  | last => exact ⟨by decide, by decide⟩
  | unspecified => exact absurd rfl hn

/-- An entry as it is written has no white space at its ends, if its column has none. -/
lemma trimmed_suffixes (hcolumn : Text.Trimmed column) (hne : column ≠ []) (d : Direction)
    (n : NullPlace) : EndsInWord (column ++ d.toText) ∧
      Text.Trimmed (column ++ d.toText ++ n.toText) := by
  have hdirection : EndsInWord (column ++ d.toText) := by
    by_cases hd : d = .unspecified
    · rw [hd, show Direction.unspecified.toText = [] from rfl, List.append_nil]
      exact ⟨hne, hcolumn.last⟩
    · exact (Direction.endsInWord hd).append column
  have hentry : EndsInWord (column ++ d.toText ++ n.toText) := by
    by_cases hn : n = .unspecified
    · rw [hn, show NullPlace.unspecified.toText = [] from rfl, List.append_nil]
      exact hdirection
    · exact (NullPlace.endsInWord hn).append _
  refine ⟨hdirection, ?_, hentry.last⟩
  obtain ⟨c, rest, rfl⟩ := List.exists_cons_of_ne_nil hne
  exact hcolumn.first

/-- **An entry is read as its column and its settings.** -/
lemma OrderItem.parse_suffixes (hcolumn : Text.Trimmed column) (hne : column ≠ [])
    {d : Direction} {n : NullPlace} (hd : d = .unspecified → endsInDirection column = false)
    (hn : d = .unspecified → n = .unspecified → endsInNulls column = false) :
    OrderItem.parse (' ' :: (column ++ d.toText ++ n.toText)) = some ⟨column, d, n⟩ := by
  obtain ⟨hends, htrimmed⟩ := trimmed_suffixes hcolumn hne d n
  have hspace : Text.isBlank [' '] = true := by decide
  have htrim : Text.trim (' ' :: (column ++ d.toText ++ n.toText)) =
      column ++ d.toText ++ n.toText := by
    have h := Text.trim_append hspace (show Text.isBlank [] = true from rfl) htrimmed
    rwa [List.append_nil] at h
  have hnulls : cutNulls (column ++ d.toText ++ n.toText) = (column ++ d.toText, n) := by
    refine cutNulls_toText hends fun hunspecified => ?_
    by_cases h : d = .unspecified
    · rw [h, show Direction.unspecified.toText = [] from rfl, List.append_nil]
      exact cutNulls_of_column hcolumn (hn h hunspecified)
    · exact cutNulls_direction ⟨hne, hcolumn.last⟩ h
  simp only [OrderItem.parse, htrim, hnulls, cutDirection_toText hcolumn hne hd,
    List.isEmpty_iff, if_neg hne]

/-- What a place of nulls is taken from has no white space at its ends, and the same holds of a
direction. -/
lemma trimmed_cutNulls (hs : Text.Trimmed s) : Text.Trimmed (cutNulls s).1 := by
  rw [cutNulls]
  split
  case h_1 before place hcut =>
    obtain ⟨-, -, hbefore⟩ := words_cutLastWord hs hcut
    split
    case h_1 column nulls hcut' =>
      obtain ⟨-, -, hcolumn⟩ := words_cutLastWord hbefore hcut'
      split_ifs <;> assumption
    case h_2 => exact hs
  case h_2 => exact hs

lemma trimmed_cutDirection (hs : Text.Trimmed s) : Text.Trimmed (cutDirection s).1 := by
  rw [cutDirection]
  split
  case h_1 column direction hcut =>
    obtain ⟨-, -, hcolumn⟩ := words_cutLastWord hs hcut
    split_ifs <;> assumption
  case h_2 => exact hs

/-- **The column of an entry that is read** is not blank. -/
lemma OrderItem.column_of_parse {segment : Text} {item : OrderItem}
    (h : OrderItem.parse segment = some item) : item.column.isBlank = false := by
  have htrimmed := trimmed_cutDirection (trimmed_cutNulls (Text.trimmed_trim segment))
  simp only [OrderItem.parse] at h
  split_ifs at h with hempty
  rw [← Option.some.inj h, htrimmed.isBlank_eq]
  exact Bool.eq_false_of_not_eq_true hempty

end SqlFragments
