import SqlFragments.Proofs.Text.Closed

/-!
# What stands outside quotes

A character of a text is bare if no quote is open in front of it.  What is bare in fragments that
are written one behind the other is what is bare in each, as long as all of them close their
quotes, and two characters that are bare may also meet at a seam.

* `BareIn` — a text that is written somewhere in another one, outside its quotes.
* `bareIn_append_of_two`, `bareIn_append_of_one` — one and two characters in fragments one behind
  the other.
* `IsOpenRun.not_bareIn`, `IsClosedRun.not_bareIn` — a quoted run shows nothing but its quotes.
* `bareChars` — all characters of a text that are bare.
* `mem_bareChars_iff` — they are those that are written somewhere outside quotes.
-/

namespace SqlFragments

/-- A text is written somewhere in `s`, outside quotes. -/
def BareIn (w s : Text) : Prop :=
  ∃ a b, s = a ++ (w ++ b) ∧ QuotesClosed a

variable {a b s w : Text} {c d q : Char}

lemma BareIn.isInfix (h : BareIn w s) : w <:+: s := by
  obtain ⟨a, b, rfl, -⟩ := h
  exact ⟨a, b, List.append_assoc a w b⟩

lemma BareIn.of_append {v : Text} (h : BareIn (w ++ v) s) : BareIn w s := by
  obtain ⟨a, b, rfl, ha⟩ := h
  exact ⟨a, v ++ b, by rw [List.append_assoc w], ha⟩

lemma BareIn.append_right (h : BareIn w a) (b : Text) : BareIn w (a ++ b) := by
  obtain ⟨x, y, rfl, hx⟩ := h
  exact ⟨x, y ++ b, by rw [List.append_assoc, List.append_assoc], hx⟩

lemma BareIn.append_left (ha : QuotesClosed a) (h : BareIn w b) : BareIn w (a ++ b) := by
  obtain ⟨x, y, rfl, hx⟩ := h
  exact ⟨a ++ x, y, (List.append_assoc a x _).symm, ha.append hx⟩

lemma not_bareIn_of_not_mem (h : c ∉ s) : ¬ BareIn [c] s := fun hc =>
  h (hc.isInfix.subset List.mem_cons_self)

/-- The first character of a text is bare. -/
lemma bareIn_of_head (h : s.head? = some c) : BareIn [c] s := by
  obtain ⟨rest, rfl⟩ := List.head?_eq_some_iff.mp h
  exact ⟨[], rest, rfl, rfl⟩

/-- So is the last one of a text that leaves no quote open, unless it is a quote itself. -/
lemma bareIn_of_getLast (hs : QuotesClosed s) (hc : isQuote c = false)
    (h : s.getLast? = some c) : BareIn [c] s := by
  obtain ⟨front, rfl⟩ := List.getLast?_eq_some_iff.mp h
  exact ⟨front, [], rfl, hs.of_append (List.forall_mem_singleton.mpr hc)⟩

/-! ## Fragments one behind the other -/

/-- **One character** of two fragments is in the first or in the second. -/
lemma bareIn_append_of_one (ha : QuotesClosed a) :
    BareIn [c] (a ++ b) ↔ BareIn [c] a ∨ BareIn [c] b := by
  constructor
  · rintro ⟨x, y, heq, hx⟩
    rcases List.append_eq_append_iff.mp heq with ⟨m, rfl, rfl⟩ | ⟨m, rfl, hm⟩
    · exact Or.inr ⟨m, y, rfl, ha.append_iff.mp hx⟩
    · cases m with
      | nil => exact Or.inr ⟨[], y, hm.symm, rfl⟩
      | cons e m =>
          obtain ⟨rfl, -⟩ := List.cons.inj hm
          exact Or.inl ⟨x, m, rfl, hx⟩
  · rintro (h | h)
    · exact h.append_right b
    · exact h.append_left ha

/-- **Two characters** are in the first or in the second, or at the seam. -/
lemma bareIn_append_of_two (hc : isQuote c = false) (ha : QuotesClosed a) :
    BareIn [c, d] (a ++ b) ↔ BareIn [c, d] a ∨ BareIn [c, d] b ∨
      a.getLast? = some c ∧ b.head? = some d := by
  constructor
  · rintro ⟨x, y, heq, hx⟩
    rcases List.append_eq_append_iff.mp heq with ⟨m, rfl, rfl⟩ | ⟨m, rfl, hm⟩
    · exact Or.inr (Or.inl ⟨m, y, rfl, ha.append_iff.mp hx⟩)
    · match m, hm with
      | [], hm => exact Or.inr (Or.inl ⟨[], y, hm.symm, rfl⟩)
      | [e], hm =>
          obtain ⟨rfl, rfl⟩ := List.cons.inj hm
          exact Or.inr (Or.inr ⟨List.getLast?_concat, rfl⟩)
      | e :: f :: m, hm =>
          obtain ⟨rfl, htail⟩ := List.cons.inj hm
          obtain ⟨rfl, -⟩ := List.cons.inj htail
          exact Or.inl ⟨x, m, rfl, hx⟩
  · rintro (h | h | ⟨hlast, hhead⟩)
    · exact h.append_right b
    · exact h.append_left ha
    · obtain ⟨front, rfl⟩ := List.getLast?_eq_some_iff.mp hlast
      obtain ⟨rest, rfl⟩ := List.head?_eq_some_iff.mp hhead
      exact ⟨front, rest, List.append_assoc front [c] _,
        ha.of_append (List.forall_mem_singleton.mpr hc)⟩

/-! ## Quoted runs -/

/-- What is bare behind an open quote is another quote of the kind. -/
lemma eq_quote_of_bare (hq : isQuote q = true) (inner : Text) : quotesDoubled q inner = true →
    ∀ a b, inner = a ++ c :: b → a.foldl quoteAfter (some q) = none → c = q := by
  fun_induction quotesDoubled q inner with
  | case1 =>
      intro _ a b heq _
      exact absurd heq.symm (by simp)
  | case2 d =>
      rintro - (_ | ⟨e, a⟩) b heq hbare
      · cases hbare
      · simp at heq
  | case3 d more ih =>
      intro h a b heq hbare
      rw [Bool.and_eq_true, beq_iff_eq] at h
      obtain ⟨rfl, hmore⟩ := h
      rcases a with _ | ⟨e, _ | ⟨f, a⟩⟩
      · cases hbare
      · exact (List.cons.inj (List.cons.inj heq).2).1.symm
      · obtain ⟨rfl, hsecond⟩ := List.cons.inj heq
        obtain ⟨hf, hrest⟩ := List.cons.inj hsecond
        rw [← hf, List.foldl_cons, List.foldl_cons, quoteAfter_close, quoteAfter_open hq] at hbare
        exact ih hmore a b hrest hbare
  | case4 d e more hd ih =>
      rintro h (_ | ⟨f, a⟩) b heq hbare
      · cases hbare
      · obtain ⟨rfl, hrest⟩ := List.cons.inj heq
        rw [List.foldl_cons, quoteAfter, if_neg hd] at hbare
        exact ih h a b hrest hbare

/-- **A run shows nothing but its quotes**, whether it is closed or not. -/
lemma IsOpenRun.not_bareIn (hq : isQuote q = true) (hc : c ≠ q) (h : IsOpenRun q s) :
    ¬ BareIn [c] s := by
  obtain ⟨inner, rfl, hinner⟩ := h
  rintro ⟨a, b, heq, ha⟩
  cases a with
  | nil => exact hc (List.cons.inj heq).1.symm
  | cons e a =>
      obtain ⟨rfl, hrest⟩ := List.cons.inj heq
      rw [QuotesClosed, List.foldl_cons, quoteAfter_open hq] at ha
      exact hc (eq_quote_of_bare hq inner hinner a b hrest ha)

lemma IsClosedRun.not_bareIn (hq : isQuote q = true) (hc : c ≠ q) (h : IsClosedRun q s) :
    ¬ BareIn [c] s := by
  obtain ⟨inner, rfl, hinner⟩ := h
  rintro ⟨x, y, heq, hx⟩
  rw [← List.cons_append] at heq
  rcases List.append_eq_append_iff.mp heq with ⟨m, rfl, hm⟩ | ⟨m, hm, hrest⟩
  · -- behind the inside there is the closing quote only
    have hmem : c ∈ [q] := by
      rw [hm]
      exact List.mem_append_right _ List.mem_cons_self
    exact hc (List.mem_singleton.mp hmem)
  · cases m with
    | nil => exact hc (List.cons.inj hrest).1
    | cons e m =>
        obtain ⟨rfl, -⟩ := List.cons.inj hrest
        exact IsOpenRun.not_bareIn hq hc ⟨inner, rfl, hinner⟩ ⟨x, m, hm, hx⟩

/-! ## All bare characters -/

/-- The characters of a text outside its quotes, `quote` being open in front of it. -/
def bareChars (quote : Option Char) : Text → Text
  | [] => []
  | c :: rest => (if quote.isNone then [c] else []) ++ bareChars (quoteAfter quote c) rest

lemma bareChars_append (a b : Text) : ∀ quote : Option Char, bareChars quote (a ++ b) =
    bareChars quote a ++ bareChars (a.foldl quoteAfter quote) b := by
  induction a with
  | nil => exact fun quote => rfl
  | cons c rest ih =>
      intro quote
      rw [List.cons_append, bareChars, bareChars, ih, List.append_assoc, List.foldl_cons]

lemma QuotesClosed.bareChars_append (ha : QuotesClosed a) (b : Text) :
    bareChars none (a ++ b) = bareChars none a ++ bareChars none b := by
  rw [SqlFragments.bareChars_append, show a.foldl quoteAfter none = none from ha]

lemma mem_bareChars_iff_exists (s : Text) : ∀ {quote : Option Char}, c ∈ bareChars quote s ↔
    ∃ a b, s = a ++ c :: b ∧ a.foldl quoteAfter quote = none := by
  induction s with
  | nil => simp [bareChars]
  | cons d rest ih =>
      intro quote
      rw [bareChars, List.mem_append, ih]
      constructor
      · rintro (hhere | ⟨a, b, rfl, ha⟩)
        · split_ifs at hhere with hquote
          · rw [List.mem_singleton.mp hhere]
            exact ⟨[], rest, rfl, Option.isNone_iff_eq_none.mp hquote⟩
          · cases hhere
        · exact ⟨d :: a, b, rfl, ha⟩
      · rintro ⟨a, b, heq, ha⟩
        cases a with
        | nil =>
            obtain ⟨rfl, -⟩ := List.cons.inj heq
            have hnone : quote = none := ha
            exact Or.inl (by simp [hnone])
        | cons e a =>
            obtain ⟨rfl, rfl⟩ := List.cons.inj heq
            exact Or.inr ⟨a, b, rfl, ha⟩

/-- **The bare characters** are those that are written somewhere outside quotes. -/
lemma mem_bareChars_iff (s : Text) : c ∈ bareChars none s ↔ BareIn [c] s :=
  mem_bareChars_iff_exists s

lemma IsOpenRun.bareChars (hq : isQuote q = true) (h : IsOpenRun q s) :
    ∀ c ∈ bareChars none s, c = q := by
  intro c hc
  by_contra hne
  exact h.not_bareIn hq hne ((mem_bareChars_iff s).mp hc)

lemma IsClosedRun.bareChars (hq : isQuote q = true) (h : IsClosedRun q s) :
    ∀ c ∈ bareChars none s, c = q := by
  intro c hc
  by_contra hne
  exact h.not_bareIn hq hne ((mem_bareChars_iff s).mp hc)

lemma mem_of_mem_bareChars (h : c ∈ bareChars none s) : c ∈ s :=
  ((mem_bareChars_iff s).mp h).isInfix.subset List.mem_cons_self

end SqlFragments
