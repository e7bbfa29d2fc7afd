import Mathlib.Tactic.Common
import SqlFragments.Column.Reference

/-!
# Where a quoted run ends

A run ends at the first quote that is not written twice.  So what `takeQuoted` takes is an inside
with all its quotes doubled and a closing quote, or it is all of the text and never closes.

* `takeQuoted_closed`, `takeQuoted_open` — the run, if the text is of either kind.
* `closed_or_open` — every text is.
* `IsClosedRun`, `IsOpenRun`, `takeQuoted_run` — the same for a run with its opening quote.
-/

namespace SqlFragments

/-- A quote, the run behind it and what is left make up the text. -/
lemma cons_takeQuoted_append (q : Char) (s : Text) :
    (q :: (takeQuoted q s).1) ++ (takeQuoted q s).2 = q :: s := by
  rw [List.cons_append, takeQuoted_append]

/-- A quote that is not written twice closes the run. -/
lemma takeQuoted_lone_quote {q : Char} {rest : Text} (hrest : rest.head? ≠ some q) :
    takeQuoted q (q :: rest) = ([q], rest) := by
  cases rest with
  | nil => rfl
  | cons d more =>
      have hd : d ≠ q := fun h => hrest (by rw [h, List.head?_cons])
      rw [takeQuoted, if_pos rfl, if_neg hd]

/-- A closed run: it ends at its closing quote if that quote is not followed by another one. -/
lemma takeQuoted_closed {q : Char} {rest : Text} (hrest : rest.head? ≠ some q) (inner : Text) :
    quotesDoubled q inner = true →
      takeQuoted q (inner ++ q :: rest) = (inner ++ [q], rest) := by
  fun_induction quotesDoubled q inner with
  | case1 =>
      intro _
      exact takeQuoted_lone_quote hrest
  | case2 c =>
      intro hc
      have hc' : c ≠ q := by simpa using hc
      simp only [List.cons_append, List.nil_append, takeQuoted, if_neg hc',
        takeQuoted_lone_quote hrest]
  | case3 d more ih =>
      intro h
      rw [Bool.and_eq_true, beq_iff_eq] at h
      obtain ⟨rfl, hmore⟩ := h
      simp only [List.cons_append, takeQuoted, if_true, ih hmore]
  | case4 c d more hc ih =>
      intro h
      have hrec := ih h
      simp only [List.cons_append] at hrec
      simp only [List.cons_append, takeQuoted, if_neg hc, hrec]

/-- An open run: a text whose quotes are all doubled never closes. -/
lemma takeQuoted_open {q : Char} (s : Text) : quotesDoubled q s = true →
    takeQuoted q s = (s, []) := by
  fun_induction quotesDoubled q s with
  | case1 => intro _; rfl
  | case2 c => intro _; rfl
  | case3 d more ih =>
      intro h
      rw [Bool.and_eq_true, beq_iff_eq] at h
      obtain ⟨rfl, hmore⟩ := h
      simp only [takeQuoted, if_true, ih hmore]
  | case4 c d more hc ih =>
      intro h
      simp only [takeQuoted, if_neg hc, ih h]

/-- **A run closes or it does not**: every text behind an opening quote is of one of the two
kinds. -/
lemma closed_or_open (q : Char) (s : Text) :
    (∃ inner rest, s = inner ++ q :: rest ∧ quotesDoubled q inner = true ∧
      rest.head? ≠ some q) ∨ quotesDoubled q s = true := by
  fun_induction takeQuoted q s with
  | case1 => exact Or.inr rfl
  | case2 c =>
      by_cases hc : c = q
      · exact Or.inl ⟨[], [], by rw [hc]; rfl, rfl, by simp⟩
      · exact Or.inr (by simpa [quotesDoubled] using hc)
  | case3 rest ih =>
      rcases ih with ⟨inner, more, rfl, hin, hhead⟩ | hopen
      · exact Or.inl ⟨q :: q :: inner, more, rfl, by simp [quotesDoubled, hin], hhead⟩
      · exact Or.inr (by simp [quotesDoubled, hopen])
  | case4 d rest hd =>
      refine Or.inl ⟨[], d :: rest, rfl, rfl, ?_⟩
      rw [List.head?_cons, Ne, Option.some.injEq]
      exact hd
  | case5 c d rest hc ih =>
      rcases ih with ⟨inner, more, heq, hin, hhead⟩ | hopen
      · refine Or.inl ⟨c :: inner, more, by rw [heq]; rfl, ?_, hhead⟩
        cases inner with
        | nil => simpa [quotesDoubled] using hc
        | cons e inner => simpa only [quotesDoubled, if_neg hc] using hin
      · exact Or.inr (by simpa only [quotesDoubled, if_neg hc] using hopen)

/-! ## Runs with their opening quote -/

/-- A quoted run with its closing quote. -/
def IsClosedRun (q : Char) (s : Text) : Prop :=
  ∃ inner, s = q :: (inner ++ [q]) ∧ quotesDoubled q inner = true

/-- A quoted run that is never closed. -/
def IsOpenRun (q : Char) (s : Text) : Prop :=
  ∃ inner, s = q :: inner ∧ quotesDoubled q inner = true

/-- What is taken is closed, or it is all of the text. -/
lemma takeQuoted_run (q : Char) (s : Text) :
    IsClosedRun q (q :: (takeQuoted q s).1) ∨
      IsOpenRun q (q :: (takeQuoted q s).1) ∧ (takeQuoted q s).2 = [] := by
  rcases closed_or_open q s with ⟨inner, rest, rfl, hin, hrest⟩ | hopen
  · exact Or.inl ⟨inner, by rw [takeQuoted_closed hrest inner hin], hin⟩
  · rw [takeQuoted_open s hopen]
    exact Or.inr ⟨⟨s, rfl, hopen⟩, rfl⟩

lemma isClosedRun_takeQuoted {q : Char} {s : Text} (h : (takeQuoted q s).2 ≠ []) :
    IsClosedRun q (q :: (takeQuoted q s).1) :=
  (takeQuoted_run q s).resolve_right fun hopen => h hopen.2

/-- A closed run is taken again in front of anything but its quote. -/
lemma IsClosedRun.takeQuoted {q : Char} {t rest : Text} (h : IsClosedRun q (q :: t))
    (hrest : rest.head? ≠ some q) : takeQuoted q (t ++ rest) = (t, rest) := by
  obtain ⟨inner, heq, hin⟩ := h
  obtain rfl := (List.cons.inj heq).2
  rw [List.append_assoc, List.singleton_append, takeQuoted_closed hrest inner hin]

/-- An open run is taken again at the end of a text. -/
lemma IsOpenRun.takeQuoted {q : Char} {t : Text} (h : IsOpenRun q (q :: t)) :
    takeQuoted q t = (t, []) := by
  obtain ⟨inner, heq, hin⟩ := h
  obtain rfl := (List.cons.inj heq).2
  exact takeQuoted_open _ hin

end SqlFragments
