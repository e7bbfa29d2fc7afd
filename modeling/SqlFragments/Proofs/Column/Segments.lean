import SqlFragments.Proofs.Text.Closed
import SqlFragments.Proofs.Text.Join
import SqlFragments.Proofs.Token.Written

/-!
# Cutting a chain at its dots

A chain of names is cut at the dots outside quotes, and the cut gives the names again: neither a
plain name nor a closed run has a dot where the cut looks for one.  The other way round, joining
what was cut gives the text.

* **`splitSegments_join_append`**, `splitSegments_join` — names with dots between them are cut into
  the names.
* **`join_splitSegments`** — a cut loses nothing.
* **`isSegment_iff`** — what counts as a segment: a name that is not a pair of quotes with nothing
  inside.
* `IsName.trimmed`, `trimmed_join` — there is no white space around a chain.
-/

namespace SqlFragments

/-! ## The cut of a chain of names -/

section

variable {a b s : Text} {more : List Text}

lemma splitSegmentsFrom_plain (h : ∀ c ∈ a, isIdentifierQuote c = false ∧ c ≠ '.')
    (hs : splitSegmentsFrom none s = some (b :: more)) :
    splitSegmentsFrom none (a ++ s) = some ((a ++ b) :: more) := by
  induction a with
  | nil => exact hs
  | cons c rest ih =>
      obtain ⟨⟨hquote, hdot⟩, hrest⟩ := List.forall_mem_cons.mp h
      rw [List.cons_append, splitSegmentsFrom, hquote, if_neg Bool.false_ne_true, if_neg hdot,
        ih hrest]
      rfl

/-- The inside of a run and its closing quote go to one segment. -/
lemma splitSegmentsFrom_inside {q : Char} (hq : isIdentifierQuote q = true)
    (hs : splitSegmentsFrom none s = some (b :: more)) (inner : Text) :
    quotesDoubled q inner = true →
      splitSegmentsFrom (some q) (inner ++ q :: s) = some ((inner ++ q :: b) :: more) := by
  fun_induction quotesDoubled q inner with
  | case1 =>
      intro _
      rw [List.nil_append, splitSegmentsFrom, if_pos rfl, hs]
      rfl
  | case2 c =>
      intro hc
      rw [List.cons_append, List.nil_append, splitSegmentsFrom, if_neg (bne_iff_ne.mp hc),
        splitSegmentsFrom, if_pos rfl, hs]
      rfl
  | case3 d inner ih =>
      -- a doubled quote closes the run and opens it again
      intro h
      rw [Bool.and_eq_true, beq_iff_eq] at h
      obtain ⟨rfl, hinner⟩ := h
      rw [List.cons_append, List.cons_append, splitSegmentsFrom, if_pos rfl, splitSegmentsFrom,
        if_pos hq, ih hinner]
      rfl
  | case4 c d inner hc ih =>
      intro h
      rw [List.cons_append, splitSegmentsFrom, if_neg hc, ih h]
      rfl

lemma plain_of_continues {c : Char} (h : continuesIdentifier c = true) :
    isIdentifierQuote c = false ∧ c ≠ '.' := by
  constructor
  · refine Bool.eq_false_of_not_eq_true fun hquote => ?_
    rw [continuesIdentifier_of_isQuote (isQuote_of_isIdentifierQuote hquote)] at h
    cases h
  · rintro rfl
    exact absurd h (by decide)

/-- **A name goes to the first segment**, whatever is cut behind it. -/
lemma IsName.splitSegments_append (ha : IsName a) (hs : splitSegments s = some (b :: more)) :
    splitSegments (a ++ s) = some ((a ++ b) :: more) := by
  rcases ha with hplain | ⟨q, hq, inner, rfl, hinner⟩
  · exact splitSegmentsFrom_plain
      (fun c hc => plain_of_continues (continues_of_isPlainName hplain c hc)) hs
  · rw [splitSegments, List.cons_append, List.append_assoc, splitSegmentsFrom, if_pos hq,
      List.singleton_append, splitSegmentsFrom_inside hq hs inner hinner]
    simp [consSegment]

end

/-- **Names with dots between them** are segments of their own, and what stands behind them goes on
in the last one. -/
lemma splitSegments_join_append {b s column : Text} {more : List Text}
    (hs : splitSegments s = some (b :: more)) : ∀ {front : List Text},
      (∀ a ∈ front ++ [column], IsName a) →
        splitSegments (Text.join ['.'] (front ++ [column]) ++ s) =
          some (front ++ (column ++ b) :: more)
  | [], h => by
      rw [List.nil_append, Text.join_singleton]
      exact (h column (List.mem_singleton_self column)).splitSegments_append hs
  | a :: front, h => by
      obtain ⟨ha, hrest⟩ := List.forall_mem_cons.mp h
      have hdot : splitSegments ('.' :: (Text.join ['.'] (front ++ [column]) ++ s)) =
          some ([] :: (front ++ (column ++ b) :: more)) := by
        have hmore := splitSegments_join_append hs hrest
        rw [splitSegments] at hmore
        rw [splitSegments, splitSegmentsFrom, if_neg (by decide), if_pos rfl, hmore,
          Option.map_some]
      have hjoin : Text.join ['.'] (a :: front ++ [column]) =
          a ++ '.' :: Text.join ['.'] (front ++ [column]) := by
        rw [List.cons_append, Text.join, List.intercalate_cons_of_ne_nil (by simp), Text.join,
          List.append_assoc, List.singleton_append]
      rw [hjoin, List.append_assoc, List.cons_append]
      simpa using ha.splitSegments_append hdot

/-- **Names with dots between them are cut into the names.** -/
lemma splitSegments_join {segments : List Text} (hne : segments ≠ [])
    (h : ∀ a ∈ segments, IsName a) : splitSegments (Text.join ['.'] segments) = some segments := by
  rw [← List.dropLast_concat_getLast hne] at h ⊢
  have hcut := splitSegments_join_append (s := []) rfl h
  rwa [List.append_nil, List.append_nil] at hcut

/-! ## A cut loses nothing -/

lemma join_consSegment (c : Char) {segments : List Text} (hne : segments ≠ []) :
    Text.join ['.'] (consSegment c segments) = c :: Text.join ['.'] segments := by
  match segments, hne with
  | [a], _ => simp [consSegment]
  | a :: b :: rest, _ => simp [consSegment]

lemma consSegment_ne_nil (c : Char) (segments : List Text) : consSegment c segments ≠ [] := by
  cases segments with
  | nil => exact List.cons_ne_nil _ _
  | cons a rest => exact List.cons_ne_nil _ _

/-- One more character in front of a cut that loses nothing. -/
lemma join_of_map_consSegment {c : Char} {s : Text} {cut : Option (List Text)}
    (hcut : ∀ {segments}, cut = some segments →
      segments ≠ [] ∧ Text.join ['.'] segments = s) : ∀ {segments},
    cut.map (consSegment c) = some segments →
      segments ≠ [] ∧ Text.join ['.'] segments = c :: s := by
  intro segments h
  obtain ⟨more, hmore, rfl⟩ := Option.map_eq_some_iff.mp h
  obtain ⟨hne, hjoin⟩ := hcut hmore
  exact ⟨consSegment_ne_nil c more, by rw [join_consSegment c hne, hjoin]⟩

lemma join_splitSegmentsFrom (quote : Option Char) (s : Text) : ∀ {segments : List Text},
    splitSegmentsFrom quote s = some segments →
      segments ≠ [] ∧ Text.join ['.'] segments = s := by
  fun_induction splitSegmentsFrom quote s with
  | case1 =>
      rintro segments ⟨⟩
      simp
  | case2 q => nofun
  | case3 c rest hquote ih => exact join_of_map_consSegment ih
  | case4 rest hquote ih =>
      intro segments h
      obtain ⟨more, hmore, rfl⟩ := Option.map_eq_some_iff.mp h
      obtain ⟨hne, hjoin⟩ := ih hmore
      obtain ⟨a, more, rfl⟩ := List.exists_cons_of_ne_nil hne
      exact ⟨List.cons_ne_nil _ _, by rw [Text.join_cons_cons, hjoin]; rfl⟩
  | case5 c rest hquote hdot ih => exact join_of_map_consSegment ih
  | case6 q c rest ih => exact join_of_map_consSegment ih

/-- **A cut loses nothing**: the segments with dots between them are the text. -/
lemma join_splitSegments {s : Text} {segments : List Text} (h : splitSegments s = some segments) :
    segments ≠ [] ∧ Text.join ['.'] segments = s :=
  join_splitSegmentsFrom none s h

/-! ## Segments -/

/-- Something between two quotes: the text is a quote, the inside and the same quote again. -/
lemma unwrap_eq_some {q : Char} {s inner : Text} :
    unwrap q s = some inner ↔ s = q :: (inner ++ [q]) := by
  cases s with
  | nil => simp [unwrap]
  | cons c rest =>
      rw [unwrap]
      split_ifs with h
      · simp only [Bool.and_eq_true, decide_eq_true_eq, beq_iff_eq] at h
        obtain ⟨rfl, hlast⟩ := h
        rw [Option.some.injEq, List.cons.injEq]
        constructor
        · rintro rfl
          exact ⟨rfl, (List.dropLast_append_getLast? c hlast).symm⟩
        · rintro ⟨-, rfl⟩
          exact List.dropLast_concat
      · refine iff_of_false nofun fun heq => h ?_
        obtain ⟨rfl, rfl⟩ := List.cons.inj heq
        simp

lemma isQuotedName_iff {q : Char} {s : Text} :
    isQuotedName q s = true ↔ IsClosedRun q s ∧ s ≠ [q, q] := by
  cases hunwrap : unwrap q s with
  | none =>
      rw [isQuotedName, hunwrap]
      refine iff_of_false Bool.false_ne_true fun h => ?_
      obtain ⟨inner, hinner, -⟩ := h.1
      rw [unwrap_eq_some.mpr hinner] at hunwrap
      cases hunwrap
  | some inner =>
      rw [isQuotedName, hunwrap]
      obtain rfl := unwrap_eq_some.mp hunwrap
      simp [IsClosedRun, and_comm]

lemma isIdentifierQuote_iff {q : Char} : isIdentifierQuote q = true ↔ q = '"' ∨ q = '\x60' := by
  rw [isIdentifierQuote, Bool.or_eq_true, beq_iff_eq, beq_iff_eq]

/-- **A segment is a name** that is not a pair of quotes with nothing inside. -/
lemma isSegment_iff {a : Text} : isSegment a = true ↔
    isPlainName a = true ∨ ∃ q, isIdentifierQuote q = true ∧ IsClosedRun q a ∧ a ≠ [q, q] := by
  simp only [isSegment, Bool.or_eq_true, isQuotedName_iff]
  constructor
  · rintro ((hdouble | hback) | hplain)
    · exact Or.inr ⟨'"', rfl, hdouble⟩
    · exact Or.inr ⟨'\x60', rfl, hback⟩
    · exact Or.inl hplain
  · rintro (hplain | ⟨q, hq, hrun⟩)
    · exact Or.inr hplain
    · rcases isIdentifierQuote_iff.mp hq with rfl | rfl
      · exact Or.inl (Or.inl hrun)
      · exact Or.inl (Or.inr hrun)

lemma isName_of_isSegment {a : Text} (h : isSegment a = true) : IsName a :=
  (isSegment_iff.mp h).imp_right fun ⟨q, hq, hrun⟩ => ⟨q, hq, hrun.1⟩

/-! ## No white space around a chain -/

lemma IsName.trimmed {a : Text} (h : IsName a) : Text.Trimmed a where
  first := by
    have hstarts : a.head?.any startsSegment = true :=
      SegmentFits.head (Or.inl h : SegmentFits False a)
    cases a with
    | nil => rfl
    | cons c rest => exact isBlank_of_startsSegment hstarts
  last := by
    rcases h with hplain | ⟨q, hq, inner, rfl, -⟩
    · cases hlast : a.getLast? with
      | none => rfl
      | some c =>
          have hc := continues_of_isPlainName hplain c (List.mem_of_getLast? hlast)
          refine Bool.eq_false_of_not_eq_true fun hblank => ?_
          rw [continuesIdentifier_of_isBlank hblank] at hc
          cases hc
    · have hlast : (q :: (inner ++ [q])).getLast? = some q := by
        rw [← List.cons_append, List.getLast?_concat]
      have hstarts : startsSegment q = true := by rw [startsSegment, hq, Bool.or_true]
      rw [hlast]
      exact isBlank_of_startsSegment hstarts

lemma IsName.ne_nil {a : Text} (h : IsName a) : a ≠ [] := by
  rintro rfl
  have hstarts := SegmentFits.head (Or.inl h : SegmentFits False [])
  cases hstarts

/-- **There is no white space around a chain of names.** -/
lemma trimmed_join {segments : List Text} (h : ∀ a ∈ segments, IsName a) :
    Text.Trimmed (Text.join ['.'] segments) :=
  Text.trimmed_join (fun a ha => (h a ha).trimmed) fun a ha => (h a ha).ne_nil

end SqlFragments
