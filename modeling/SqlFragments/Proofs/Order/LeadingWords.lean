import SqlFragments.Order.Item
import SqlFragments.Proofs.KeywordCase.Seam

/-!
# The leading words of an ordering

The words `order by` may stand in front of an ordering, in any case and with any white space around
them.  They are taken off once, and only as whole words; everything else of a text is left as it is.

* `OrderByAhead`, **`OrderByAhead.stripOrderBy`** — two leading words, and that they are taken off.
* `OrderBody`, **`orderBody_stripOrderBy`** — a text without its leading words.
* `OrderBody.quotesClosed` — no quote is cut by taking them off.
-/

namespace SqlFragments

variable {s rest : Text}

/-- A text starts with the whole words `order by`, in any case and with white space between them. -/
def OrderByAhead (s rest : Text) : Prop :=
  ∃ blank order gap by' : Text, s = blank ++ (order ++ (gap ++ (by' ++ rest))) ∧
    blank.isBlank = true ∧ order.folded = "order".toList ∧ gap ≠ [] ∧ gap.isBlank = true ∧
    by'.folded = "by".toList ∧ rest.head?.any isWordChar = false

/-- A text without its leading `order by`, if it has one. -/
def OrderBody (s body : Text) : Prop :=
  OrderByAhead s body ∨ (¬ ∃ rest, OrderByAhead s rest) ∧ body = s

/-- A word in front of a boundary is taken as a whole. -/
lemma takeWhile_of_folded {w t rest : Text} (h : w.folded = t) (ht : t.all isWordChar = true)
    (hrest : rest.head?.any isWordChar = false) :
    (w ++ rest).takeWhile isWordChar = w ∧ (w ++ rest).dropWhile isWordChar = rest :=
  takeWhile_append_of_head (forall_mem_of_folded isWordChar_foldChar (by rw [h, ht])) hrest

lemma head_isBlank_of_folded {w t : Text} (h : w.folded = t) (ht : t.all isWordChar = true)
    (rest : Text) (hne : t ≠ []) : (w ++ rest).head?.any isBlank = false := by
  have hword := forall_mem_of_folded isWordChar_foldChar (w := w) (by rw [h, ht])
  cases w with
  | nil => exact absurd h.symm hne
  | cons c w => exact isBlank_of_isWordChar (hword c List.mem_cons_self)

/-- **Two leading words are taken off.** -/
lemma OrderByAhead.stripOrderBy (h : OrderByAhead s rest) : stripOrderBy s = rest := by
  obtain ⟨blank, order, gap, by', rfl, hblank, horder, hgapne, hgap, hby, hrest⟩ := h
  have hgaphead : (gap ++ (by' ++ rest)).head?.any isWordChar = false ∧
      (gap ++ (by' ++ rest)).head?.any isBlank = true := by
    obtain ⟨b, gap, rfl⟩ := List.exists_cons_of_ne_nil hgapne
    have hb : isBlank b = true := List.all_eq_true.mp hgap b List.mem_cons_self
    exact ⟨isWordChar_of_isBlank hb, hb⟩
  obtain ⟨htake, hdrop⟩ := takeWhile_of_folded horder (by decide) hgaphead.1
  obtain ⟨htake', hdrop'⟩ := takeWhile_of_folded hby (by decide) hrest
  have hstart : Text.trimStart (blank ++ (order ++ (gap ++ (by' ++ rest)))) =
      order ++ (gap ++ (by' ++ rest)) :=
    Text.trimStart_append hblank (head_isBlank_of_folded horder (by decide) _ (by decide))
  have hsecond : (gap ++ (by' ++ rest)).dropWhile isBlank = by' ++ rest :=
    Text.trimStart_append hgap (head_isBlank_of_folded hby (by decide) _ (by decide))
  simp only [SqlFragments.stripOrderBy, hstart, htake, hdrop, hsecond, htake', hdrop', horder, hby,
    hgaphead.2, decide_true, Bool.and_true, if_true]

/-- **Nothing else is taken off** the start of an ordering. -/
lemma orderBody_stripOrderBy (s : Text) : OrderBody s (stripOrderBy s) := by
  by_cases h : ∃ rest, OrderByAhead s rest
  · obtain ⟨rest, hrest⟩ := h
    exact Or.inl (hrest.stripOrderBy.symm ▸ hrest)
  refine Or.inr ⟨h, ?_⟩
  simp only [stripOrderBy]
  refine if_neg fun hcond => h ?_
  simp only [Bool.and_eq_true, decide_eq_true_eq] at hcond
  obtain ⟨⟨horder, hhead⟩, hby⟩ := hcond
  have hgap : (s.trimStart.dropWhile isWordChar).takeWhile isBlank ≠ [] := by
    intro hnil
    rw [List.takeWhile_eq_nil_iff] at hnil
    cases hrest : s.trimStart.dropWhile isWordChar with
    | nil =>
        rw [hrest] at hhead
        cases hhead
    | cons c more =>
        rw [hrest] at hhead hnil
        exact hnil (Nat.zero_lt_succ _) hhead
  refine ⟨((s.trimStart.dropWhile isWordChar).dropWhile isBlank).dropWhile isWordChar,
    s.takeWhile isBlank, _, _, _, ?_, List.all_takeWhile, horder, hgap, List.all_takeWhile, hby,
    head_any_dropWhile isWordChar _⟩
  simp only [List.takeWhile_append_dropWhile, Text.trimStart]

/-- What is left of an ordering is the end of it. -/
lemma OrderBody.isSuffix {body : Text} (h : OrderBody s body) : body <:+ s := by
  rcases h with ⟨blank, order, gap, by', rfl, -⟩ | ⟨-, rfl⟩
  · exact ⟨blank ++ (order ++ (gap ++ by')), by simp only [List.append_assoc]⟩
  · exact List.suffix_rfl

lemma OrderBody.quotesClosed {body : Text} (h : OrderBody s body) (hs : QuotesClosed s) :
    QuotesClosed body := by
  rcases h with ⟨blank, order, gap, by', rfl, hblank, horder, -, hgap, hby, -⟩ | ⟨-, rfl⟩
  · have hword {w t : Text} (h : w.folded = t) (ht : t.all isWordChar = true) : QuotesClosed w :=
      quotesClosed_of_quoteless fun c hc => isQuote_of_isWordChar
        (forall_mem_of_folded isWordChar_foldChar (by rw [h, ht]) c hc)
    have h1 := (quotesClosed_of_isBlank hblank).append_iff.mp hs
    have h2 := (hword horder (by decide)).append_iff.mp h1
    have h3 := (quotesClosed_of_isBlank hgap).append_iff.mp h2
    exact (hword hby (by decide)).append_iff.mp h3
  · exact hs

end SqlFragments
