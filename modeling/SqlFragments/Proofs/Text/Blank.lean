import Mathlib.Data.List.TakeWhile
import Mathlib.Tactic.Common
import SqlFragments.Text.Fold
import SqlFragments.Token.Lexer

/-!
# White space

There are 25 white space characters, and none of them belongs to a word, an identifier, a number
or a quote.  This file holds those facts and what they mean for blank texts.

* `blankCodes` — the code points of white space.
* `apply_blank` — a property of all of them holds of every blank character.
* `Text.isEmpty_trim_iff` — a text is blank when nothing is left of it without white space.
* `takeWhile_append_of_stop` — a run of characters ends where none of its class comes next.
-/

namespace SqlFragments

/-- The code points of white space. -/
def blankCodes : List Nat :=
  [9, 10, 11, 12, 13, 32, 0x85, 0xA0, 0x1680, 0x2000, 0x2001, 0x2002, 0x2003, 0x2004, 0x2005,
   0x2006, 0x2007, 0x2008, 0x2009, 0x200A, 0x2028, 0x2029, 0x202F, 0x205F, 0x3000]

lemma toNat_mem_blankCodes {c : Char} (h : isBlank c = true) : c.toNat ∈ blankCodes := by
  rw [isBlank] at h
  split_ifs at h with hascii
  · rw [Bool.or_eq_true, Bool.and_eq_true, beq_iff_eq, decide_eq_true_eq, decide_eq_true_eq] at h
    rcases h with rfl | ⟨h1, h2⟩
    · decide
    · simp only [blankCodes, List.mem_cons]
      omega
  · simp only [CodePoint.inRanges, blankRanges, List.any_cons, List.any_nil, Bool.or_eq_true,
      Bool.and_eq_true, decide_eq_true_eq, Bool.false_eq_true, or_false] at h
    simp only [blankCodes, List.mem_cons]
    omega

/-- What holds of the 25 code points holds of every blank character. -/
lemma apply_blank {P : Char → Prop} (h : ∀ n ∈ blankCodes, P (Char.ofNat n)) {c : Char}
    (hc : isBlank c = true) : P c := by
  rw [← Char.ofNat_toNat c]
  exact h _ (toNat_mem_blankCodes hc)

/-- White space is in none of the tables of word characters. -/
lemma not_letter_nor_mark_of_isBlank {c : Char} (h : isBlank c = true) :
    isLetter c = false ∧ CodePoint.inRanges wordMarkRanges c = false :=
  apply_blank (P := fun c => isLetter c = false ∧ CodePoint.inRanges wordMarkRanges c = false)
    (by decide +kernel) h

lemma isLetter_of_isBlank {c : Char} (h : isBlank c = true) : isLetter c = false :=
  (not_letter_nor_mark_of_isBlank h).1

lemma isNumeric_of_isBlank {c : Char} (h : isBlank c = true) : isNumeric c = false :=
  apply_blank (P := fun c => isNumeric c = false) (by decide) h

/-- White space is neither a digit, nor a quote, nor one of the two signs of identifiers. -/
lemma not_ascii_sign_of_isBlank {c : Char} (h : isBlank c = true) :
    c.isDigit = false ∧ isQuote c = false ∧ c ≠ '_' ∧ c ≠ '$' :=
  apply_blank (P := fun c => c.isDigit = false ∧ isQuote c = false ∧ c ≠ '_' ∧ c ≠ '$')
    (by decide) h

lemma startsIdentifier_of_isBlank {c : Char} (h : isBlank c = true) :
    startsIdentifier c = false := by
  obtain ⟨_, _, hu, _⟩ := not_ascii_sign_of_isBlank h
  rw [startsIdentifier, isLetter_of_isBlank h, Bool.false_or, beq_eq_false_iff_ne]
  exact hu

lemma continuesIdentifier_of_isBlank {c : Char} (h : isBlank c = true) :
    continuesIdentifier c = false := by
  obtain ⟨_, _, hu, hd⟩ := not_ascii_sign_of_isBlank h
  rw [continuesIdentifier, isAlphanumeric, isLetter_of_isBlank h, isNumeric_of_isBlank h,
    beq_eq_false_iff_ne.mpr hu, beq_eq_false_iff_ne.mpr hd]
  rfl

lemma isDigit_of_isBlank {c : Char} (h : isBlank c = true) : c.isDigit = false :=
  (not_ascii_sign_of_isBlank h).1

lemma isQuote_of_isBlank {c : Char} (h : isBlank c = true) : isQuote c = false :=
  (not_ascii_sign_of_isBlank h).2.1

lemma isWordChar_of_isBlank {c : Char} (h : isBlank c = true) : isWordChar c = false := by
  obtain ⟨hletter, hmark⟩ := not_letter_nor_mark_of_isBlank h
  obtain ⟨hdigit, _, hu, _⟩ := not_ascii_sign_of_isBlank h
  rw [isLetter] at hletter
  rw [isWordChar]
  split_ifs at hletter ⊢ with hascii
  · rw [Char.isAlphanum, hletter, hdigit, beq_eq_false_iff_ne.mpr hu]
    rfl
  · rw [hletter, hmark]
    rfl

/-! ## Blank texts -/

lemma Text.isEmpty_trim_iff (s : Text) : s.trim.isEmpty = true ↔ s.isBlank = true := by
  rw [trim, trimEnd, trimStart, List.isEmpty_iff, List.reverse_eq_nil_iff,
    List.dropWhile_eq_nil_iff]
  simp only [List.mem_reverse, isBlank, List.all_eq_true]
  constructor
  · intro h c hc
    by_contra hblank
    have hne : s.dropWhile SqlFragments.isBlank ≠ [] := fun he =>
      hblank (List.dropWhile_eq_nil_iff.mp he c hc)
    have hhead := List.head_dropWhile_not SqlFragments.isBlank hne
    rw [h _ (List.head_mem hne)] at hhead
    cases hhead
  · intro h c hc
    exact h c ((List.dropWhile_suffix SqlFragments.isBlank).subset hc)

/-! ## Runs -/

lemma head_any_append {p : Char → Bool} {s : Text} (h : s.head?.any p = true) (rest : Text) :
    (s ++ rest).head?.any p = true := by
  cases s with
  | nil => cases h
  | cons c more => exact h

lemma takeWhile_of_head {p : Char → Bool} {rest : Text} (hrest : rest.head?.any p = false) :
    rest.takeWhile p = [] ∧ rest.dropWhile p = rest := by
  cases rest with
  | nil => exact ⟨rfl, rfl⟩
  | cons c more =>
      have hc : ¬ p c = true := by rw [show p c = false from hrest]; exact Bool.false_ne_true
      exact ⟨List.takeWhile_cons_of_neg hc, List.dropWhile_cons_of_neg hc⟩

/-- What `dropWhile` leaves does not start with what it drops. -/
lemma head_any_dropWhile (p : Char → Bool) (s : Text) :
    (s.dropWhile p).head?.any p = false := by
  have h := List.head?_dropWhile_not p s
  cases hs : (s.dropWhile p).head? with
  | none => rfl
  | some c =>
      rw [hs] at h
      exact h

/-- A run that does not go on in `rest` is the same with `rest` behind the text. -/
lemma takeWhile_append_of_stop {p : Char → Bool} {rest : Text} (hrest : rest.head?.any p = false)
    (s : Text) :
    (s ++ rest).takeWhile p = s.takeWhile p ∧ (s ++ rest).dropWhile p = s.dropWhile p ++ rest := by
  induction s with
  | nil => exact takeWhile_of_head hrest
  | cons c more ih =>
      rw [List.cons_append, List.takeWhile_cons, List.dropWhile_cons, List.takeWhile_cons,
        List.dropWhile_cons]
      split_ifs
      · exact ⟨by rw [ih.1], ih.2⟩
      · exact ⟨rfl, rfl⟩

/-- A run of a class is not longer than the characters of that class. -/
lemma takeWhile_append_of_head {p : Char → Bool} {t rest : Text} (ht : ∀ c ∈ t, p c = true)
    (hrest : rest.head?.any p = false) :
    (t ++ rest).takeWhile p = t ∧ (t ++ rest).dropWhile p = rest := by
  obtain ⟨htake, hdrop⟩ := takeWhile_append_of_stop hrest t
  rw [htake, hdrop, List.takeWhile_eq_self_iff.mpr ht, List.dropWhile_eq_nil_iff.mpr ht]
  exact ⟨rfl, rfl⟩

end SqlFragments
