import Mathlib
import SqlFragments.Token.Lexer
import SqlFragments.Text.Fold

/-!
# Texts up to the case of ASCII letters

Keywords are compared and rewritten in ASCII only.  This file holds what that leaves alone: the
relation `Text.sameLetters`, and every class of characters that tokens and words are made of.
-/

namespace SqlFragments

/-! ## The same letters -/

namespace Text

lemma sameLetters_iff {a b : Text} :
    a.sameLetters b = true ↔ a.toAsciiLower = b.toAsciiLower := by
  rw [sameLetters, beq_iff_eq]

lemma sameLetters_refl (a : Text) : a.sameLetters a = true :=
  sameLetters_iff.mpr rfl

@[simp] lemma toAsciiLower_append (a b : Text) :
    (a ++ b).toAsciiLower = a.toAsciiLower ++ b.toAsciiLower :=
  List.map_append

@[simp] lemma toAsciiLower_toAsciiUpper (a : Text) :
    a.toAsciiUpper.toAsciiLower = a.toAsciiLower := by
  rw [toAsciiLower, toAsciiUpper, toAsciiLower, List.map_map]
  exact List.map_congr_left fun c _ => Char.toLower_toUpper_eq_toLower c

lemma sameLetters_toAsciiUpper (a : Text) : a.toAsciiUpper.sameLetters a = true :=
  sameLetters_iff.mpr (toAsciiLower_toAsciiUpper a)

/-- The same letters are the same text in capitals. -/
lemma toAsciiUpper_of_sameLetters {a b : Text} (h : a.sameLetters b = true) :
    a.toAsciiUpper = b.toAsciiUpper := by
  have hlower (s : Text) : s.toAsciiLower.toAsciiUpper = s.toAsciiUpper := by
    rw [toAsciiUpper, toAsciiLower, toAsciiUpper, List.map_map]
    exact List.map_congr_left fun c _ => Char.toUpper_toLower_eq_toUpper c
  rw [← hlower a, sameLetters_iff.mp h, hlower]

end Text

lemma isKeyword_of_sameLetters {w w' : Text} (h : w'.sameLetters w = true) :
    isKeyword w' = isKeyword w := by
  rw [isKeyword, isKeyword, Text.sameLetters_iff.mp h]

/-! ## Classes of characters -/

lemma exists_fin_of_ascii {c : Char} (h : c.toNat < 128) : ∃ n : Fin 128, c = Char.ofNat n :=
  ⟨⟨c.toNat, h⟩, (Char.ofNat_toNat c).symm⟩

lemma toLower_of_not_ascii {c : Char} (h : ¬ c.toNat < 128) : c.toLower = c := by
  refine Char.toLower_eq_of_not_isUpper fun hup => h ?_
  have hz : c.toNat ≤ 90 := UInt32.le_iff_toNat_le.mp (of_decide_eq_true hup).2
  omega

/-- A function of characters does not see the case of ASCII letters if it does not within
ASCII. -/
lemma apply_toLower {α : Type} {f : Char → α}
    (h : ∀ n : Fin 128, f (Char.ofNat n).toLower = f (Char.ofNat n)) (c : Char) :
    f c.toLower = f c := by
  by_cases hc : c.toNat < 128
  · obtain ⟨n, rfl⟩ := exists_fin_of_ascii hc
    exact h n
  · rw [toLower_of_not_ascii hc]

lemma startsIdentifier_toLower (c : Char) : startsIdentifier c.toLower = startsIdentifier c :=
  apply_toLower (by decide) c

lemma continuesIdentifier_toLower (c : Char) :
    continuesIdentifier c.toLower = continuesIdentifier c :=
  apply_toLower (by decide) c

lemma isDigit_toLower (c : Char) : c.toLower.isDigit = c.isDigit :=
  apply_toLower (f := Char.isDigit) (by decide) c

lemma isBlank_toLower (c : Char) : isBlank c.toLower = isBlank c :=
  apply_toLower (by decide) c

lemma isQuote_toLower (c : Char) : isQuote c.toLower = isQuote c :=
  apply_toLower (by decide) c

lemma foldChar_toLower (c : Char) : foldChar c.toLower = foldChar c :=
  apply_toLower (by decide) c

lemma isWordChar_toLower (c : Char) : isWordChar c.toLower = isWordChar c :=
  apply_toLower (by decide) c

/-- A function of characters that does not see the case of ASCII letters does not see folding
either, if it takes the long s and the Kelvin sign for the letters that they fold to. -/
lemma apply_foldChar {α : Type} {f : Char → α} (hlower : ∀ c, f c.toLower = f c)
    (hs : f (Char.ofNat 0x17F) = f 's') (hk : f (Char.ofNat 0x212A) = f 'k') (c : Char) :
    f (foldChar c) = f c := by
  rw [foldChar]
  split_ifs with hlong hkelvin
  · rw [← hs, ← hlong, Char.ofNat_toNat]
  · rw [← hk, ← hkelvin, Char.ofNat_toNat]
  · exact hlower c

/-- The Kelvin sign is in the classes of word characters, as `k` is. -/
lemma wordClasses_kelvin : startsIdentifier (Char.ofNat 0x212A) = startsIdentifier 'k' ∧
    continuesIdentifier (Char.ofNat 0x212A) = continuesIdentifier 'k' ∧
    isWordChar (Char.ofNat 0x212A) = isWordChar 'k' := by
  decide +kernel

lemma startsIdentifier_foldChar (c : Char) : startsIdentifier (foldChar c) = startsIdentifier c :=
  apply_foldChar startsIdentifier_toLower (by decide) wordClasses_kelvin.1 c

lemma continuesIdentifier_foldChar (c : Char) :
    continuesIdentifier (foldChar c) = continuesIdentifier c :=
  apply_foldChar continuesIdentifier_toLower (by decide) wordClasses_kelvin.2.1 c

lemma isWordChar_foldChar (c : Char) : isWordChar (foldChar c) = isWordChar c :=
  apply_foldChar isWordChar_toLower (by decide) wordClasses_kelvin.2.2 c

/-- A class that does not see folding holds of a text if it holds of the folded text. -/
lemma forall_mem_of_folded {p : Char → Bool} (hfold : ∀ c, p (foldChar c) = p c) {w : Text}
    (h : w.folded.all p = true) : ∀ c ∈ w, p c = true := by
  intro c hc
  rw [← hfold]
  exact List.all_eq_true.mp h _ (List.mem_map_of_mem hc)

/-- A character that no identifier starts with has no case. -/
lemma toLower_of_not_startsIdentifier {c : Char} (h : startsIdentifier c = false) :
    c.toLower = c := by
  refine Char.toLower_eq_of_not_isUpper fun hupper => ?_
  have hz : c.toNat ≤ 90 := UInt32.le_iff_toNat_le.mp (of_decide_eq_true hupper).2
  rw [startsIdentifier, Bool.or_eq_false_iff, isLetter, if_pos (by omega), Char.isAlpha, hupper,
    Bool.true_or] at h
  cases h.1

lemma startsIdentifier_of_isDigit {c : Char} (h : c.isDigit = true) :
    startsIdentifier c = false := by
  have hnine : c.toNat ≤ 57 :=
    UInt32.le_iff_toNat_le.mp (of_decide_eq_true (Bool.and_eq_true_iff.mp h).2)
  obtain ⟨n, rfl⟩ := exists_fin_of_ascii (c := c) (by omega)
  revert h
  revert n
  decide

/-- A text is folded to what its lower case is folded to. -/
lemma folded_toAsciiLower (s : Text) : Text.folded s.toAsciiLower = s.folded := by
  rw [Text.folded, Text.toAsciiLower, List.map_map]
  exact List.map_congr_left fun c _ => foldChar_toLower c

/-! ## Quotes -/

lemma apply_quote {P : Char → Prop} (h : P '\'' ∧ P '"' ∧ P '\x60') {c : Char}
    (hc : isQuote c = true) : P c := by
  simp only [isQuote, Bool.or_eq_true, beq_iff_eq] at hc
  rcases hc with (rfl | rfl) | rfl
  · exact h.1
  · exact h.2.1
  · exact h.2.2

lemma isQuote_of_isIdentifierQuote {c : Char} (h : isIdentifierQuote c = true) :
    isQuote c = true := by
  rw [isIdentifierQuote] at h
  rw [isQuote, Bool.or_assoc, h, Bool.or_true]

lemma startsIdentifier_of_isQuote {c : Char} (h : isQuote c = true) :
    startsIdentifier c = false :=
  apply_quote (P := fun c => startsIdentifier c = false) (by decide) h

lemma continuesIdentifier_of_isQuote {c : Char} (h : isQuote c = true) :
    continuesIdentifier c = false :=
  apply_quote (P := fun c => continuesIdentifier c = false) (by decide) h

end SqlFragments
