import SqlFragments.Proofs.Text.Case
import SqlFragments.Text.LowerCase

/-!
# Full lower case

Column names are compared in full lower case, keywords in ASCII.  On the characters of ASCII the
two agree, so a keyword has the same form in both.

* `lower_of_ascii` — a text in ASCII.
* **`isKeyword_lower`** — a keyword in lower case is a keyword.
-/

namespace SqlFragments

lemma lowerFrom_of_ascii (s : Text) : ∀ before : Text, (∀ c ∈ s, c.toNat < 128) →
    lowerFrom before s = s.toAsciiLower := by
  induction s with
  | nil => exact fun _ _ => rfl
  | cons c rest ih =>
      intro before h
      obtain ⟨hc, hrest⟩ := List.forall_mem_cons.mp h
      have hsigma : c.toNat ≠ 0x3A3 := by omega
      rw [lowerFrom, if_neg hsigma, lowerChar, if_pos hc, ih _ hrest]
      rfl

/-- **In ASCII**, full lower case is ASCII lower case. -/
lemma lower_of_ascii {s : Text} (h : ∀ c ∈ s, c.toNat < 128) : Text.lower s = s.toAsciiLower :=
  lowerFrom_of_ascii s [] h

lemma ascii_of_isKeyword {w : Text} (h : isKeyword w = true) : ∀ c ∈ w, c.toNat < 128 := by
  have hall : keywords.all (·.all fun c => decide (c.toNat < 128)) = true := by decide
  have hlower := List.all_eq_true.mp hall _ (List.contains_iff_mem.mp h)
  rw [Text.toAsciiLower, List.all_map, List.all_eq_true] at hlower
  intro c hc
  by_contra hascii
  have hsame := of_decide_eq_true (hlower c hc)
  rw [toLower_of_not_ascii hascii] at hsame
  exact hascii hsame

/-- **A keyword in lower case is a keyword.** -/
lemma isKeyword_lower {w : Text} (h : isKeyword w = true) : isKeyword (Text.lower w) = true := by
  have hsame : w.toAsciiLower.sameLetters w = true := by
    rw [Text.sameLetters_iff, Text.toAsciiLower, Text.toAsciiLower, List.map_map]
    exact List.map_congr_left fun c _ => Char.toLower_toLower_eq_toLower c
  rw [lower_of_ascii (ascii_of_isKeyword h), isKeyword_of_sameLetters hsame]
  exact h

end SqlFragments
