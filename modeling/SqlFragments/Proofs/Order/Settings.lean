import SqlFragments.Proofs.Column.Recognition
import SqlFragments.Proofs.Order.Entry

/-!
# The settings of an entry

A direction and a place of nulls are taken off the end of an entry, word by word, and the words are
compared twice: once up to the letters that they fold to, and once in ASCII only.  A word that only
the first comparison knows as `asc` is read as `desc`, and likewise `first` as `last`.  Whatever is
read, the entry is its column and the words of its settings, and so are its tokens.

* `Tail` — the words at the end of a text, and what stands in front of them.
* `DirectionWords`, `NullWords` — the words that a setting is read from.
* `Reads`, **`parse_reads`** — an entry is its column and its settings, and a blank one is none.
* `Misread`, **`Reads.misread_iff`** — the entries with a setting that is read as the opposite one.
* `Misread.long_s_mem` — there is a long s in such a setting.
-/

namespace SqlFragments

variable {s p before word : Text}

/-! ## Words at the end of a text -/

/-- The words `ws` at the end of the text `s`, and the text in front of them. -/
structure Tail (s front : Text) (ws : List Text) : Prop where
  words : s.words = front.words ++ ws
  tokens : tokens s = SqlFragments.tokens front ++ ws.flatMap SqlFragments.tokens
  closed : QuotesClosed front
  trimmed : Text.Trimmed front
  nonempty : s.words ≠ [] → front.words ≠ []

lemma Tail.refl (hclosed : QuotesClosed s) (hs : Text.Trimmed s) : Tail s s [] where
  words := (List.append_nil _).symm
  tokens := (List.append_nil _).symm
  closed := hclosed
  trimmed := hs
  nonempty := id

lemma Tail.trans {front first : Text} {ws vs : List Text} (h : Tail s front ws)
    (h' : Tail front first vs) : Tail s first (vs ++ ws) where
  words := by rw [h.words, h'.words, List.append_assoc]
  tokens := by rw [h.tokens, h'.tokens, List.flatMap_append, List.append_assoc]
  closed := h'.closed
  trimmed := h'.trimmed
  nonempty := fun hne => h'.nonempty (h.nonempty hne)

lemma isPlainName_folded (w : Text) : isPlainName w.folded = isPlainName w := by
  cases w with
  | nil => rfl
  | cons c rest =>
      rw [Text.folded, List.map_cons, isPlainName, isPlainName, startsIdentifier_foldChar,
        List.all_map]
      exact congrArg _ (List.all_congr rfl continuesIdentifier_foldChar)

/-- A name is one token, which is that name. -/
lemma tokens_of_isPlainName (h : isPlainName word = true) :
    ∃ t, tokens word = [t] ∧ t.text = word := by
  have hsegment : ∀ a ∈ [word], isSegment a = true :=
    List.forall_mem_singleton.mpr (isSegment_iff.mpr (Or.inl h))
  have href := refersTo_join (a := []) (b := []) rfl rfl (List.cons_ne_nil word []) hsegment
  obtain ⟨t, htokens, ht⟩ := href.text
  rw [Text.join_singleton] at htokens ht
  rw [List.nil_append, List.append_nil] at htokens
  exact ⟨t, htokens, ht⟩

lemma opensCall_of_isPlainName (h : isPlainName word = true) : opensCall word = false := by
  cases word with
  | nil => cases h
  | cons c rest =>
      rw [isPlainName, Bool.and_eq_true] at h
      have hblank : ¬ isBlank c = true := fun hb => by
        rw [startsIdentifier_of_isBlank hb] at h
        exact Bool.false_ne_true h.1
      rw [opensCall, List.dropWhile_cons_of_neg hblank, List.head?_cons, Option.some_beq_some,
        beq_eq_false_iff_ne]
      rintro rfl
      exact absurd h.1 (by decide)

/-- A last word stands behind white space. -/
lemma exists_gap (h : cutLastWord s = some (before, word)) : ∃ gap, s = before ++ (gap ++ word) ∧
    gap.isBlank = true ∧ gap ≠ [] := by
  obtain ⟨front, word', rfl, hword, hfront⟩ := exists_lastWord s
  rw [cutLastWord_append hword hfront] at h
  split_ifs at h with hempty
  obtain ⟨rfl, rfl⟩ := Prod.mk.inj (Option.some.inj h)
  obtain ⟨gap, hgap, heq⟩ := Text.exists_trimEnd front
  refine ⟨gap, ?_, hgap, ?_⟩
  · conv_lhs => rw [heq, List.append_assoc]
  · rintro rfl
    rw [List.append_nil] at heq
    obtain ⟨start, b, rfl⟩ := (List.eq_nil_or_concat front).resolve_left
      (List.isEmpty_iff.not.mp hempty)
    have hlast := Text.getLast_trimEnd (start.concat b)
    rw [← heq, List.concat_eq_append, List.getLast?_concat, Option.any_some] at hlast
    rw [List.concat_eq_append, List.getLast?_concat, Option.any_some, hlast] at hfront
    cases hfront

/-- **A last word that is a name** is a word at the end of a text. -/
lemma tail_cutLastWord (hclosed : QuotesClosed s) (hs : Text.Trimmed s)
    (h : cutLastWord s = some (before, word)) (hword : isPlainName word = true) :
    Tail s before [word] := by
  obtain ⟨hwords, hne, htrimmed⟩ := words_cutLastWord hs h
  obtain ⟨gap, rfl, hgap, hgapne⟩ := exists_gap h
  have hbefore : QuotesClosed before := hclosed.of_append (List.forall_mem_append.mpr
    ⟨quoteless_of_isBlank hgap, quoteless_of_isPlainName hword⟩)
  have hseparates : Separates (gap ++ word) := by
    obtain ⟨b, gap, rfl⟩ := List.exists_cons_of_ne_nil hgapne
    rintro c ⟨⟩
    exact Or.inl (List.all_eq_true.mp hgap b List.mem_cons_self)
  have hcall : opensCall (gap ++ word) = false := by
    rw [opensCall_append_of_isBlank hgap, opensCall_of_isPlainName hword]
  refine ⟨hwords, ?_, hbefore, htrimmed, fun _ => hne⟩
  rw [tokens_append_of_not_call hseparates hbefore hcall, tokens_append_of_isBlank hgap,
    List.flatMap_singleton]

/-! ## The words of a setting -/

/-- The words of a direction, and how it is read. -/
inductive DirectionWords : List Text → Direction → Prop
  | none : DirectionWords [] .unspecified
  | asc {w : Text} : w.toAsciiLower = "asc".toList → DirectionWords [w] .asc
  | desc {w : Text} : w.toAsciiLower ≠ "asc".toList →
      w.folded = "asc".toList ∨ w.folded = "desc".toList → DirectionWords [w] .desc

/-- The words of a place of nulls, and how it is read. -/
inductive NullWords : List Text → NullPlace → Prop
  | none : NullWords [] .unspecified
  | first {n w : Text} : n.folded = "nulls".toList → w.toAsciiLower = "first".toList →
      NullWords [n, w] .first
  | last {n w : Text} : n.folded = "nulls".toList → w.toAsciiLower ≠ "first".toList →
      w.folded = "first".toList ∨ w.folded = "last".toList → NullWords [n, w] .last

lemma isPlainName_of_folded {t : Text} (h : word.folded = t) (ht : isPlainName t = true) :
    isPlainName word = true := by
  rw [← isPlainName_folded, h, ht]

lemma isPlainName_of_folded_or {t u : Text} (h : word.folded = t ∨ word.folded = u)
    (ht : isPlainName t = true) (hu : isPlainName u = true) : isPlainName word = true :=
  h.elim (isPlainName_of_folded · ht) (isPlainName_of_folded · hu)

/-- A text without a last word behind white space has one word at most. -/
lemma lastWords_of_none (h : cutLastWord s = none) : s.lastWords = [] ∨ ∃ w, s.lastWords = [w] := by
  obtain ⟨front, word, rfl, hword, hfront⟩ := exists_lastWord s
  rw [cutLastWord_append hword hfront] at h
  split_ifs at h with hempty
  rw [List.isEmpty_iff.mp hempty, List.nil_append, Text.lastWords]
  by_cases hne : word = []
  · exact Or.inl (by rw [hne]; rfl)
  · exact Or.inr ⟨word.folded, by rw [Text.words_of_letters hne hword]; rfl⟩

/-- **A direction is taken off**, or there is none. -/
lemma cutDirection_tail (hclosed : QuotesClosed s) (hs : Text.Trimmed s) : ∃ ds,
    DirectionWords ds (cutDirection s).2 ∧ Tail s (cutDirection s).1 ds ∧
      (ds = [] → (cutDirection s).1 = s ∧ endsInDirection s = false) := by
  cases hcut : cutLastWord s with
  | none =>
      have hcolumn : cutDirection s = (s, .unspecified) := by rw [cutDirection, hcut]
      rw [hcolumn]
      refine ⟨[], .none, Tail.refl hclosed hs, fun _ => ⟨rfl, ?_⟩⟩
      rcases lastWords_of_none hcut with hlast | ⟨w, hlast⟩
      · rw [endsInDirection, hlast]
      · rw [endsInDirection, hlast]
  | some cut =>
      obtain ⟨before, word⟩ := cut
      simp only [cutDirection, hcut]
      split_ifs with hlower hfolded
      · have hplain := isPlainName_of_folded (folded_of_lower (by decide) hlower) (by decide)
        exact ⟨[word], .asc hlower, tail_cutLastWord hclosed hs hcut hplain,
          (absurd · (List.cons_ne_nil _ _))⟩
      · rw [Bool.or_eq_true, decide_eq_true_eq, decide_eq_true_eq] at hfolded
        have hplain := isPlainName_of_folded_or hfolded (by decide) (by decide)
        exact ⟨[word], .desc hlower hfolded, tail_cutLastWord hclosed hs hcut hplain,
          (absurd · (List.cons_ne_nil _ _))⟩
      · refine ⟨[], .none, Tail.refl hclosed hs, fun _ => ⟨rfl, ?_⟩⟩
        obtain ⟨hlast, hne, -⟩ := lastWords_eq hs hcut
        obtain ⟨second, more, hmore⟩ := List.exists_cons_of_ne_nil hne
        rw [endsInDirection, hlast, hmore]
        simpa using hfolded

/-- **A place of nulls is taken off**, or there is none. -/
lemma cutNulls_tail (hclosed : QuotesClosed s) (hs : Text.Trimmed s) : ∃ ns,
    NullWords ns (cutNulls s).2 ∧ Tail s (cutNulls s).1 ns ∧
      (ns = [] → (cutNulls s).1 = s ∧ endsInNulls s = false) := by
  have hkept : ∀ {cut : Text × NullPlace}, cut = (s, .unspecified) → endsInNulls s = false →
      ∃ ns, NullWords ns cut.2 ∧ Tail s cut.1 ns ∧
        (ns = [] → cut.1 = s ∧ endsInNulls s = false) := by
    rintro _ rfl hends
    exact ⟨[], .none, Tail.refl hclosed hs, fun _ => ⟨rfl, hends⟩⟩
  cases hcut : cutLastWord s with
  | none =>
      refine hkept (by rw [cutNulls, hcut]) ?_
      rcases lastWords_of_none hcut with hlast | ⟨w, hlast⟩
      · rw [endsInNulls, hlast]
      · rw [endsInNulls, hlast]
  | some cut =>
      obtain ⟨before, place⟩ := cut
      obtain ⟨hlast, -, hbefore⟩ := lastWords_eq hs hcut
      cases hcut' : cutLastWord before with
      | none =>
          refine hkept (by simp only [cutNulls, hcut, hcut']) ?_
          rcases lastWords_of_none hcut' with hlast' | ⟨w, hlast'⟩
          · rw [endsInNulls, hlast, hlast']
          · rw [endsInNulls, hlast, hlast']
      | some cut' =>
          obtain ⟨column, nulls⟩ := cut'
          obtain ⟨hlast', hne, -⟩ := lastWords_eq hbefore hcut'
          obtain ⟨third, more, hmore⟩ := List.exists_cons_of_ne_nil hne
          have hends : endsInNulls s = (nulls.folded == "nulls".toList &&
              ["first".toList, "last".toList].contains place.folded) := by
            rw [endsInNulls, hlast, hlast', hmore]
          have htail (hnulls : nulls.folded = "nulls".toList) (hplain : isPlainName place = true) :
              Tail s column [nulls, place] := by
            have hplace := tail_cutLastWord hclosed hs hcut hplain
            exact hplace.trans (tail_cutLastWord hplace.closed hbefore hcut'
              (isPlainName_of_folded hnulls (by decide)))
          simp only [cutNulls, hcut, hcut']
          split_ifs with hnulls hfirst hfolded
          · have hplain := isPlainName_of_folded (folded_of_lower (by decide) hfirst) (by decide)
            exact ⟨_, .first hnulls hfirst, htail hnulls hplain,
              (absurd · (List.cons_ne_nil _ _))⟩
          · rw [Bool.or_eq_true, decide_eq_true_eq, decide_eq_true_eq] at hfolded
            have hplain := isPlainName_of_folded_or hfolded (by decide) (by decide)
            exact ⟨_, .last hnulls hfirst hfolded, htail hnulls hplain,
              (absurd · (List.cons_ne_nil _ _))⟩
          · exact hkept rfl (by rw [hends]; simpa [hnulls] using hfolded)
          · exact hkept rfl (by rw [hends, beq_eq_false_iff_ne.mpr hnulls, Bool.false_and])

/-! ## Entries -/

/-- An entry is its column and the words of its settings, and the column does not end in words that
would be a setting of their own. -/
structure Reads (p : Text) (item : OrderItem) (ds ns : List Text) : Prop where
  tail : Tail p.trim item.column (ds ++ ns)
  direction : DirectionWords ds item.direction
  nulls : NullWords ns item.nulls
  noDirection : ds = [] → endsInDirection item.column = false
  noNulls : ds = [] → ns = [] → endsInNulls item.column = false

/-- **An entry is read as its column and its settings.** -/
lemma parse_reads (hp : QuotesClosed p) (hblank : p.isBlank = false) :
    ∃ item ds ns, OrderItem.parse p = some item ∧ Reads p item ds ns := by
  obtain ⟨ns, hnulls, htail, hnone⟩ := cutNulls_tail hp.trim (Text.trimmed_trim p)
  obtain ⟨ds, hdirection, htail', hnone'⟩ := cutDirection_tail htail.closed htail.trimmed
  have hboth := htail.trans htail'
  have hne : (cutDirection (cutNulls p.trim).1).1.isEmpty = false := by
    rw [← htail'.trimmed.isBlank_eq, ← Bool.not_eq_true]
    intro hcolumn
    refine hboth.nonempty (fun hnil => ?_) (Text.words_of_isBlank hcolumn)
    rw [← Text.isBlank_trim, Text.isBlank_of_words hnil] at hblank
    cases hblank
  refine ⟨⟨(cutDirection (cutNulls p.trim).1).1, (cutDirection (cutNulls p.trim).1).2,
    (cutNulls p.trim).2⟩, ds, ns, ?_, hboth, hdirection, hnulls, fun hds => ?_, fun hds hns => ?_⟩
  · simp only [OrderItem.parse, hne, Bool.false_eq_true, if_false]
  · obtain ⟨hcolumn, hends⟩ := hnone' hds
    rw [hcolumn]
    exact hends
  · obtain ⟨hcolumn, -⟩ := hnone' hds
    obtain ⟨hfront, hends⟩ := hnone hns
    rw [hcolumn, hfront]
    exact hends

/-- A blank entry is none. -/
lemma parse_of_isBlank (hblank : p.isBlank = true) : OrderItem.parse p = none := by
  have htrim : p.trim = [] := List.isEmpty_iff.mp ((Text.isEmpty_trim_iff p).mpr hblank)
  rw [OrderItem.parse, htrim]
  rfl

/-! ## Misread settings -/

/-- The words of a place of nulls, however they are read. -/
def IsNullPair (n w : Text) : Prop :=
  n.folded = "nulls".toList ∧ (w.folded = "first".toList ∨ w.folded = "last".toList)

/-- The words of an entry with a setting that is `asc` or `first` up to folding, but not in
ASCII. -/
inductive Misread : List Text → Prop
  | direction {front : List Text} {w : Text} : front ≠ [] → w.folded = "asc".toList →
      w.toAsciiLower ≠ "asc".toList → Misread (front ++ [w])
  | directionNulls {front : List Text} {w n place : Text} : front ≠ [] →
      w.folded = "asc".toList → w.toAsciiLower ≠ "asc".toList → IsNullPair n place →
      Misread (front ++ [w, n, place])
  | nulls {front : List Text} {n place : Text} : front ≠ [] → n.folded = "nulls".toList →
      place.folded = "first".toList → place.toAsciiLower ≠ "first".toList →
      Misread (front ++ [n, place])

lemma Misread.ne_nil {ws : List Text} (h : Misread ws) : ws ≠ [] := by
  cases h with
  | direction hne _ _ => exact List.append_ne_nil_of_left_ne_nil hne _
  | directionNulls hne _ _ _ => exact List.append_ne_nil_of_left_ne_nil hne _
  | nulls hne _ _ _ => exact List.append_ne_nil_of_left_ne_nil hne _

/-- Only a long s makes the two comparisons of a word differ, if there is no `k` in it. -/
lemma long_s_mem {w t : Text} (h : w.folded = t) (hk : 'k' ∉ t) (hne : w.toAsciiLower ≠ t) :
    Char.ofNat 0x17F ∈ w := by
  by_contra hlong
  refine hne (Eq.trans ?_ h)
  refine List.map_congr_left fun c hc => ?_
  have hs : ¬ c.toNat = 0x17F := fun heq => hlong (by rwa [← heq, Char.ofNat_toNat])
  have hkelvin : ¬ c.toNat = 0x212A := fun heq => hk <| by
    have hmem : foldChar c ∈ w.folded := List.mem_map_of_mem hc
    rw [foldChar, if_neg hs, if_pos heq, h] at hmem
    exact hmem
  rw [foldChar, if_neg hs, if_neg hkelvin]

/-- **Without a long s no setting is misread.** -/
lemma Misread.long_s_mem {ws : List Text} (h : Misread ws) : ∃ w ∈ ws, Char.ofNat 0x17F ∈ w := by
  cases h with
  | direction _ hw hlower =>
      exact ⟨_, by simp, SqlFragments.long_s_mem hw (by decide) hlower⟩
  | directionNulls _ hw hlower _ =>
      exact ⟨_, by simp, SqlFragments.long_s_mem hw (by decide) hlower⟩
  | @nulls front n place _ _ hplace hlower =>
      exact ⟨place, by simp, SqlFragments.long_s_mem hplace (by decide) hlower⟩

variable {column : Text} {front ds ns : List Text} {d : Direction} {n : NullPlace}
  {item : OrderItem}

lemma NullWords.cases_pair (h : NullWords ns n) :
    ns = [] ∨ ∃ a b, ns = [a, b] ∧ IsNullPair a b := by
  cases h with
  | none => exact Or.inl rfl
  | first hn hw => exact Or.inr ⟨_, _, rfl, hn, Or.inl (folded_of_lower (by decide) hw)⟩
  | last hn _ hw => exact Or.inr ⟨_, _, rfl, hn, hw⟩

/-- The last word of a place of nulls is no direction. -/
lemma IsNullPair.not_direction {a b : Text} (h : IsNullPair a b) :
    ¬ (b.folded = "asc".toList ∨ b.folded = "desc".toList) := by
  rcases h.2 with hb | hb
  · rw [hb]
    decide
  · rw [hb]
    decide

lemma DirectionWords.cases_word (h : DirectionWords ds d) :
    ds = [] ∨ ∃ w, ds = [w] ∧ (w.folded = "asc".toList ∨ w.folded = "desc".toList) := by
  cases h with
  | none => exact Or.inl rfl
  | asc hw => exact Or.inr ⟨_, rfl, Or.inl (folded_of_lower (by decide) hw)⟩
  | desc _ hw => exact Or.inr ⟨_, rfl, hw⟩

lemma endsInDirection_of_words {w : Text} (hne : front ≠ [])
    (hw : w.folded = "asc".toList ∨ w.folded = "desc".toList)
    (hwords : column.words = front ++ [w]) : endsInDirection column = true := by
  obtain ⟨front, x, rfl⟩ := (List.eq_nil_or_concat front).resolve_left hne
  have hlast : column.lastWords = w.folded :: x.folded :: (front.map Text.folded).reverse := by
    simp [Text.lastWords, hwords]
  rw [endsInDirection, hlast]
  simpa using hw

lemma endsInNulls_of_words {a b : Text} (hne : front ≠ []) (hpair : IsNullPair a b)
    (hwords : column.words = front ++ [a, b]) : endsInNulls column = true := by
  obtain ⟨front, x, rfl⟩ := (List.eq_nil_or_concat front).resolve_left hne
  have hlast : column.lastWords =
      b.folded :: a.folded :: x.folded :: (front.map Text.folded).reverse := by
    simp [Text.lastWords, hwords]
  rw [endsInNulls, hlast, hpair.1]
  simpa using hpair.2

/-- A direction that is `asc` only up to folding is read as `desc`. -/
lemma DirectionWords.misread (h : DirectionWords ds d)
    (hends : ds = [] → endsInDirection column = false) {w : Text} (hne : front ≠ [])
    (hw : w.folded = "asc".toList) (hlower : w.toAsciiLower ≠ "asc".toList)
    (hwords : column.words ++ ds = front ++ [w]) : d = .desc ∧ ds = [w] := by
  cases h with
  | none =>
      rw [List.append_nil] at hwords
      have htrue := endsInDirection_of_words hne (Or.inl hw) hwords
      rw [hends rfl] at htrue
      cases htrue
  | asc hasc =>
      obtain ⟨-, hlast⟩ := List.append_inj' hwords rfl
      rw [(List.cons.inj hlast).1] at hasc
      exact absurd hasc hlower
  | desc _ _ =>
      obtain ⟨-, hlast⟩ := List.append_inj' hwords rfl
      exact ⟨rfl, hlast⟩

lemma Reads.words (h : Reads p item ds ns) : p.words = item.column.words ++ (ds ++ ns) := by
  rw [← Text.words_trim, h.tail.words]

/-- The column of an entry has words in front of those of a setting. -/
lemma Reads.column_ne_nil (h : Reads p item ds ns) (hne : ds ++ ns ≠ []) :
    item.column.words ≠ [] := by
  refine h.tail.nonempty ?_
  rw [h.tail.words]
  exact List.append_ne_nil_of_right_ne_nil _ hne

/-- The words of a place of nulls at the end of an entry are read as one. -/
lemma Reads.nulls_of_words (h : Reads p item ds ns) {a b : Text} (hne : front ≠ [])
    (hpair : IsNullPair a b) (hwords : p.words = front ++ [a, b]) :
    ns = [a, b] ∧ item.column.words ++ ds = front := by
  rw [h.words] at hwords
  rcases h.nulls.cases_pair with hns | ⟨a', b', hns, -⟩
  · exfalso
    rw [hns, List.append_nil] at hwords
    rcases h.direction.cases_word with hds | ⟨w, hds, hw⟩
    · rw [hds, List.append_nil] at hwords
      have htrue := endsInNulls_of_words hne hpair hwords
      rw [h.noNulls hds hns] at htrue
      cases htrue
    · -- a direction is no place of nulls
      rw [hds, show front ++ [a, b] = (front ++ [a]) ++ [b] by simp] at hwords
      obtain ⟨-, hlast⟩ := List.append_inj' hwords rfl
      rw [(List.cons.inj hlast).1] at hw
      exact hpair.not_direction hw
  · rw [hns, ← List.append_assoc] at hwords
    obtain ⟨hfront, hlast⟩ := List.append_inj' hwords rfl
    exact ⟨hns.trans hlast, hfront⟩

/-- A direction that is misread. -/
lemma Reads.misread_direction {w : Text} (h : Reads p item ds ns) (hd : item.direction = .desc)
    (hds : ds = [w]) (hw : w.folded = "asc".toList) : Misread p.words := by
  have hdirection := h.direction
  rw [hd, hds] at hdirection
  have hne := h.column_ne_nil (by rw [hds]; exact List.cons_ne_nil _ _)
  rw [h.words, hds]
  cases hdirection with
  | desc hlower _ =>
      rcases h.nulls.cases_pair with hns | ⟨a, b, hns, hpair⟩
      · rw [hns]
        exact .direction hne hw hlower
      · rw [hns]
        exact .directionNulls hne hw hlower hpair

/-- A place of nulls that is misread. -/
lemma Reads.misread_nulls {a b : Text} (h : Reads p item ds ns) (hn : item.nulls = .last)
    (hns : ns = [a, b]) (hb : b.folded = "first".toList) : Misread p.words := by
  have hnulls := h.nulls
  rw [hn, hns] at hnulls
  have hne := h.column_ne_nil (by rw [hns]; simp)
  rw [h.words, hns, ← List.append_assoc]
  cases hnulls with
  | last ha hlower _ => exact .nulls (List.append_ne_nil_of_left_ne_nil hne _) ha hb hlower

/-- **Which settings are misread** can be told from the words of an entry. -/
lemma Reads.misread_iff (h : Reads p item ds ns) : Misread p.words ↔
    (item.direction = .desc ∧ ∃ w, ds = [w] ∧ w.folded = "asc".toList) ∨
      (item.nulls = .last ∧ ∃ a b, ns = [a, b] ∧ b.folded = "first".toList) := by
  constructor
  · intro hmisread
    generalize hwords : p.words = ws at hmisread
    cases hmisread with
    | @direction front w hne hw hlower =>
        refine Or.inl ?_
        rw [h.words] at hwords
        rcases h.nulls.cases_pair with hns | ⟨a, b, hns, hpair⟩
        · rw [hns, List.append_nil] at hwords
          obtain ⟨hd, hds⟩ := h.direction.misread h.noDirection hne hw hlower hwords
          exact ⟨hd, w, hds, hw⟩
        · rw [hns, show [a, b] = [a] ++ [b] from rfl, ← List.append_assoc, ← List.append_assoc]
            at hwords
          obtain ⟨-, hlast⟩ := List.append_inj' hwords rfl
          rw [← (List.cons.inj hlast).1] at hw
          exact absurd (Or.inl hw) hpair.not_direction
    | @directionNulls front w a b hne hw hlower hpair =>
        refine Or.inl ?_
        rw [show front ++ [w, a, b] = (front ++ [w]) ++ [a, b] by simp] at hwords
        obtain ⟨-, hfront⟩ := h.nulls_of_words (by simp) hpair hwords
        obtain ⟨hd, hds⟩ := h.direction.misread h.noDirection hne hw hlower hfront
        exact ⟨hd, w, hds, hw⟩
    | @nulls front a b hne ha hb hlower =>
        refine Or.inr ?_
        obtain ⟨hns, -⟩ := h.nulls_of_words hne ⟨ha, Or.inl hb⟩ hwords
        have hnulls := h.nulls
        rw [hns] at hnulls
        generalize item.nulls = place at hnulls
        cases hnulls with
        | first _ hfirst => exact absurd hfirst hlower
        | last _ _ _ => exact ⟨rfl, a, b, hns, hb⟩
  · rintro (⟨hd, w, hds, hw⟩ | ⟨hn, a, b, hns, hb⟩)
    · exact h.misread_direction hd hds hw
    · exact h.misread_nulls hn hns hb

end SqlFragments
