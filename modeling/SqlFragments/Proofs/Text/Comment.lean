import SqlFragments.Proofs.KeywordCase.Seam
import SqlFragments.Proofs.Text.Bare

/-!
# Comments

Two hyphens start a comment that reaches to the end of the line, wherever they stand outside
quotes.  Between two fragments they can come about at the seam, when the first one ends with a
hyphen and the second one starts with one.

* `HoldsComment` — a text that holds the start of a comment.
* **`holdsComment_iff`** — it is in one of the plain pieces of the text, so it can be decided.
-/

namespace SqlFragments

variable {a b s : Text} {q : Char}

/-- A text holds the start of a comment: two hyphens in a row, outside quotes. -/
def HoldsComment (s : Text) : Prop :=
  BareIn "--".toList s

lemma HoldsComment.bareIn (h : HoldsComment s) : BareIn ['-'] s :=
  BareIn.of_append (v := ['-']) h

lemma holdsComment_append (ha : QuotesClosed a) : HoldsComment (a ++ b) ↔
    HoldsComment a ∨ HoldsComment b ∨ a.getLast? = some '-' ∧ b.head? = some '-' :=
  bareIn_append_of_two rfl ha

/-- Outside quotes every place of a text is bare. -/
lemma holdsComment_of_quoteless (hs : ∀ c ∈ s, isQuote c = false) :
    HoldsComment s ↔ "--".toList <:+: s := by
  refine ⟨BareIn.isInfix, ?_⟩
  rintro ⟨a, b, rfl⟩
  refine ⟨a, b, List.append_assoc a _ b, quotesClosed_of_quoteless fun c hc => hs c ?_⟩
  rw [List.append_assoc]
  exact List.mem_append_left _ hc

/-- A quoted run in front of a text adds no comment. -/
lemma holdsComment_quoted (hq : isQuote q = true) (s : Text) :
    HoldsComment (q :: s) ↔ HoldsComment (takeQuoted q s).2 := by
  have hne : '-' ≠ q := by
    rintro rfl
    cases hq
  conv_lhs => rw [← cons_takeQuoted_append q s]
  rcases takeQuoted_run q s with hrun | ⟨hrun, hnil⟩
  · have hnot := hrun.not_bareIn hq hne
    rw [holdsComment_append (hrun.quotesClosed hq)]
    constructor
    · rintro (h | h | ⟨hlast, -⟩)
      · exact absurd h.bareIn hnot
      · exact h
      · exact absurd (bareIn_of_getLast (hrun.quotesClosed hq) rfl hlast) hnot
    · exact fun h => Or.inr (Or.inl h)
  · rw [hnil, List.append_nil]
    refine iff_of_false (fun h => hrun.not_bareIn hq hne h.bareIn) fun h => ?_
    exact absurd h.isInfix (by decide)

/-- Whether a piece holds the start of a comment. -/
def Piece.holdsComment : Piece → Bool
  | plain t => decide ("--".toList <:+: t)
  | quoted _ => false

/-- **A comment starts in a plain piece**: the quoted pieces of a text hold none, and none comes
about where two pieces meet. -/
theorem holdsComment_iff (s : Text) :
    HoldsComment s ↔ ∃ p ∈ pieces s, p.holdsComment = true := by
  induction hn : s.length using Nat.strongRecOn generalizing s with
  | _ n ih =>
      obtain ⟨t, m, rfl, ht, hm⟩ := exists_plain s
      have hfront : HoldsComment (t ++ m) ↔ "--".toList <:+: t ∨ HoldsComment m := by
        rw [holdsComment_append (quotesClosed_of_quoteless ht), holdsComment_of_quoteless ht]
        refine or_congr_right (or_iff_left fun hseam => ?_)
        exact absurd (hm _ hseam.2) (by decide)
      have hrest : HoldsComment m ↔ ∃ p ∈ pieces m, p.holdsComment = true := by
        cases m with
        | nil =>
            rw [pieces]
            exact iff_of_false (fun h => absurd h.isInfix (by decide)) (by simp)
        | cons q rest =>
            have hq : isQuote q = true := hm q rfl
            have hlength := takeQuoted_length_le q rest
            rw [List.length_append, List.length_cons] at hn
            rw [holdsComment_quoted hq, ih _ (by omega) _ rfl, pieces, if_pos hq]
            simp [Piece.holdsComment]
      rw [hfront, hrest]
      cases t with
      | nil => exact or_iff_right (by decide)
      | cons c t =>
          rw [pieces_plain_append hm (List.cons_ne_nil c t) ht]
          simp [Piece.holdsComment]

instance : DecidablePred HoldsComment := fun s => decidable_of_iff' _ (holdsComment_iff s)

example : HoldsComment "a - 1 --b".toList ∧ ¬ HoldsComment "a = '--' - -\"--\"".toList := by
  decide +kernel

end SqlFragments
