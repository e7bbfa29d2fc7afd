import Mathlib.Tactic.Common
import SqlFragments.Condition.Placeholder

/-!
# Filling the placeholder

`fillPlaceholder` looks at characters only: whatever reads `%s` is replaced, wherever it stands.
This file says what that does to a text, to two texts put together, and to a quoted run.

* `fill_placeholder`, `fill_cons`, `fill_induction` — one step, and the induction along them.
* **`fill_append`** — texts are filled apart unless `%s` lies across the seam.
* **`fill_eq_self_iff`** — a text stays as it is exactly when it holds no placeholder.
* `quotesDoubled_fill` — the inside of a quoted run remains one.
-/

namespace SqlFragments

variable {a : Text}

/-! ## One step -/

@[simp] lemma fill_nil : fillPlaceholder a [] = [] := by
  rw [fillPlaceholder, Text.replaceAll]

lemma fill_placeholder (rest : Text) :
    fillPlaceholder a ('%' :: 's' :: rest) = a ++ fillPlaceholder a rest := by
  have hfront : placeholder.isPrefixOf ('%' :: 's' :: rest) = true := by
    simp [placeholder, List.isPrefixOf]
  rw [fillPlaceholder, Text.replaceAll, if_neg (by decide), if_pos hfront]
  rfl

lemma fill_cons {c : Char} {rest : Text} (h : ¬ (c = '%' ∧ rest.head? = some 's')) :
    fillPlaceholder a (c :: rest) = c :: fillPlaceholder a rest := by
  have hfront : placeholder.isPrefixOf (c :: rest) = false := by
    rw [← Bool.not_eq_true]
    intro htrue
    cases rest with
    | nil => simp [placeholder, List.isPrefixOf] at htrue
    | cons d rest =>
        simp only [placeholder, List.isPrefixOf, Bool.and_true, Bool.and_eq_true,
          beq_iff_eq] at htrue
        exact h ⟨htrue.1.symm, by rw [List.head?_cons, htrue.2]⟩
  rw [fillPlaceholder, Text.replaceAll, if_neg (by decide), hfront,
    if_neg Bool.false_ne_true]
  rfl

/-- **Induction along the steps.** -/
@[elab_as_elim]
lemma fill_induction {P : Text → Prop} (nil : P [])
    (placeholder : ∀ rest, P rest → P ('%' :: 's' :: rest))
    (cons : ∀ c rest, ¬ (c = '%' ∧ rest.head? = some 's') → P rest → P (c :: rest))
    (s : Text) : P s := by
  induction hn : s.length using Nat.strongRecOn generalizing s with
  | _ n ih =>
      cases s with
      | nil => exact nil
      | cons c rest =>
          rw [List.length_cons] at hn
          by_cases h : c = '%' ∧ rest.head? = some 's'
          · obtain ⟨rfl, hhead⟩ := h
            cases rest with
            | nil => cases hhead
            | cons d rest =>
                rw [List.length_cons] at hn
                obtain rfl : d = 's' := by simpa using hhead
                exact placeholder rest (ih _ (by omega) rest rfl)
          · exact cons c rest h (ih _ (by omega) rest rfl)

/-! ## Texts put together -/

/-- **Filling goes through an append** unless the placeholder lies across the seam. -/
lemma fill_append (s t : Text) : s.getLast? ≠ some '%' ∨ t.head? ≠ some 's' →
    fillPlaceholder a (s ++ t) = fillPlaceholder a s ++ fillPlaceholder a t := by
  induction s using fill_induction with
  | nil =>
      intro _
      rw [List.nil_append, fill_nil, List.nil_append]
  | placeholder rest ih =>
      intro h
      have hrest : rest.getLast? ≠ some '%' ∨ t.head? ≠ some 's' := by
        refine h.imp_left fun hlast => ?_
        cases rest with
        | nil => simp
        | cons d more =>
            rw [List.getLast?_cons_cons, List.getLast?_cons_cons] at hlast
            exact hlast
      rw [List.cons_append, List.cons_append, fill_placeholder, fill_placeholder, ih hrest,
        List.append_assoc]
  | cons c rest hc ih =>
      intro h
      cases rest with
      | nil =>
          have hseam : ¬ (c = '%' ∧ t.head? = some 's') := by
            rintro ⟨rfl, hhead⟩
            rcases h with hlast | ht
            · exact hlast rfl
            · exact ht hhead
          rw [List.singleton_append, fill_cons hseam, fill_cons hc, fill_nil]
          rfl
      | cons d more =>
          rw [List.getLast?_cons_cons] at h
          have hcons : ¬ (c = '%' ∧ (d :: more ++ t).head? = some 's') := hc
          rw [List.cons_append, fill_cons hcons, fill_cons hc, ih h]
          rfl

/-- A separator that has nothing of the placeholder keeps texts apart. -/
lemma fill_append_cons {d : Char} (h1 : d ≠ '%') (h2 : d ≠ 's') (s t : Text) :
    fillPlaceholder a (s ++ d :: t) = fillPlaceholder a s ++ d :: fillPlaceholder a t := by
  rw [fill_append s (d :: t) (Or.inr fun h => h2 (by simpa using h)),
    fill_cons fun h => h1 h.1]

/-! ## Texts without a placeholder -/

/-- Every placeholder that is filled takes a `%` away. -/
lemma count_fill_le (ha : '%' ∉ a) (s : Text) :
    (fillPlaceholder a s).count '%' ≤ s.count '%' := by
  induction s using fill_induction with
  | nil => exact Nat.le_of_eq (congrArg (List.count '%') fill_nil)
  | placeholder rest ih =>
      rw [fill_placeholder, List.count_append, List.count_eq_zero_of_not_mem ha, Nat.zero_add]
      exact Nat.le_trans ih ((List.sublist_append_right ['%', 's'] rest).count_le '%')
  | cons c rest hc ih =>
      rw [fill_cons hc, List.count_cons, List.count_cons]
      omega

/-- **A text stays as it is exactly when it holds no placeholder.** -/
lemma fill_eq_self_iff (ha : '%' ∉ a) (s : Text) :
    fillPlaceholder a s = s ↔ ¬ placeholder <:+: s := by
  induction s using fill_induction with
  | nil => simp [placeholder]
  | placeholder rest ih =>
      have hinfix : placeholder <:+: '%' :: 's' :: rest :=
        (List.prefix_append ['%', 's'] rest).isInfix
      refine ⟨fun heq => ?_, fun hnot => absurd hinfix hnot⟩
      have hcount := count_fill_le ha rest
      have hsame := congrArg (List.count '%') heq
      rw [fill_placeholder, List.count_append, List.count_eq_zero_of_not_mem ha, Nat.zero_add,
        List.count_cons_self, List.count_cons_of_ne (by decide)] at hsame
      omega
  | cons c rest hc ih =>
      rw [fill_cons hc, List.cons_inj_right, ih, List.infix_cons_iff, not_or]
      refine ⟨fun hnot => ⟨fun hfront => ?_, hnot⟩, And.right⟩
      obtain ⟨more, hmore⟩ := hfront
      simp only [placeholder, List.cons_append, List.nil_append, List.cons.injEq] at hmore
      exact hc ⟨hmore.1.symm, by rw [← hmore.2, List.head?_cons]⟩

lemma fill_of_not_mem {d : Char} (hd : d ∈ placeholder) {s : Text} (hs : d ∉ s) :
    fillPlaceholder a s = s := by
  induction s using fill_induction with
  | nil => exact fill_nil
  | placeholder rest _ =>
      exact absurd (List.mem_append_left rest (show d ∈ ['%', 's'] from hd)) hs
  | cons c rest hc ih => rw [fill_cons hc, ih fun h => hs (List.mem_cons_of_mem _ h)]

/-! ## Quoted runs -/

lemma quotesDoubled_cons_of_ne {q c : Char} (h : c ≠ q) (rest : Text) :
    quotesDoubled q (c :: rest) = quotesDoubled q rest := by
  cases rest with
  | nil =>
      rw [quotesDoubled, quotesDoubled, bne_iff_ne]
      exact h
  | cons d rest => rw [quotesDoubled, if_neg h]

lemma quotesDoubled_append_of_not_mem {q : Char} {s : Text} (hs : q ∉ s) (rest : Text) :
    quotesDoubled q (s ++ rest) = quotesDoubled q rest := by
  induction s with
  | nil => rfl
  | cons c more ih =>
      rw [List.mem_cons, not_or] at hs
      rw [List.cons_append, quotesDoubled_cons_of_ne (Ne.symm hs.1), ih hs.2]

/-- The inside of a run stays one if the alias holds no quote. -/
lemma quotesDoubled_fill {q : Char} (hq : q ∉ placeholder) (ha : q ∉ a) (s : Text) :
    quotesDoubled q s = true → quotesDoubled q (fillPlaceholder a s) = true := by
  have hs : 's' ≠ q := fun h => hq (by rw [← h]; decide)
  fun_induction quotesDoubled q s with
  | case1 =>
      intro _
      rw [fill_nil]
      rfl
  | case2 c =>
      intro hc
      rw [fill_cons (by simp), fill_nil]
      exact hc
  | case3 d rest ih =>
      intro h
      rw [Bool.and_eq_true, beq_iff_eq] at h
      obtain ⟨rfl, hrest⟩ := h
      have hpercent : ∀ {t : Text}, ¬ (d = '%' ∧ t.head? = some 's') := by
        rintro t ⟨rfl, _⟩
        exact hq (by decide)
      rw [fill_cons hpercent, fill_cons hpercent, quotesDoubled, if_pos rfl, beq_self_eq_true,
        Bool.true_and]
      exact ih hrest
  | case4 c d rest hc ih =>
      intro h
      by_cases hfill : c = '%' ∧ d = 's'
      · obtain ⟨rfl, rfl⟩ := hfill
        have hrec := ih h
        rw [fill_cons (by simp), quotesDoubled_cons_of_ne hs] at hrec
        rw [fill_placeholder, quotesDoubled_append_of_not_mem ha]
        exact hrec
      · rw [fill_cons (by simpa using hfill), quotesDoubled_cons_of_ne hc]
        exact ih h

end SqlFragments
