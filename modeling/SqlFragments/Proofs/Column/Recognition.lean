import SqlFragments.Proofs.Column.Segments
import SqlFragments.Proofs.Text.Trim
import SqlFragments.Proofs.Token.Seam

/-!
# Column references and tokens

A text is taken for a column reference in two ways: it is cut at its dots and every segment is
looked at, or its tokens are read and there is a single one, a keyword or an identifier.  The two
agree.  An identifier that is no reference has a wildcard, a quote that is never closed, or a pair
of quotes with nothing inside.

* `RefersTo` — the segments of a reference, by its tokens.
* `RefersTo.trim_eq` — a text that has such tokens is the segments with dots between them, and
  white space around that.
* `refersTo_join` — the tokens of segments with dots between them.
* **`ColumnRef.parse_agrees`** — both ways give the same references.
-/

namespace SqlFragments

/-! ## References by tokens -/

/-- A segment of a column reference: no wildcard, and closed and not empty if it is quoted. -/
structure IsColumnSegment (a : Text) : Prop where
  notStar : a ≠ ['*']
  quoted : ∀ q, isIdentifierQuote q = true → a.head? = some q → IsClosedRun q a ∧ a ≠ [q, q]

/-- Some tokens are a reference with the given segments: a keyword, or an identifier. -/
inductive RefersTo : List Token → List Text → Prop
  | keyword {w : Text} : RefersTo [.keyword w] [w]
  | identifier {segments : List Text} : (∀ a ∈ segments, IsColumnSegment a) →
      RefersTo [.identifier segments] segments

/-- A segment that was read passes the check of segments if a reference can have it. -/
lemma isSegment_of_fits {final : Prop} {a : Text} (hfits : SegmentFits final a ∨ a = ['*'])
    (h : IsColumnSegment a) : isSegment a = true := by
  rcases hfits.resolve_right h.notStar |>.plain_or_quoted with hplain | ⟨q, t, rfl, hq⟩
  · exact isSegment_iff.mpr (Or.inl hplain)
  · exact isSegment_iff.mpr (Or.inr ⟨q, hq, h.quoted q hq rfl⟩)

lemma isColumnSegment_of_isSegment {a : Text} (h : isSegment a = true) : IsColumnSegment a := by
  rcases isSegment_iff.mp h with hplain | ⟨q, hq, hrun⟩
  · constructor
    · rintro rfl
      exact absurd hplain (by decide)
    · intro q hq hhead
      have hquoted := isQuotedSegment_of_isPlainName hplain
      cases a with
      | nil => cases hhead
      | cons c rest =>
          obtain rfl : c = q := Option.some.inj hhead
          rw [isQuotedSegment, hq] at hquoted
          cases hquoted
  · obtain ⟨inner, rfl, -⟩ := id hrun.1
    constructor
    · intro hstar
      obtain rfl := (List.cons.inj hstar).1
      exact absurd hq (by decide)
    · rintro p - hhead
      obtain rfl : q = p := Option.some.inj hhead
      exact hrun

/-- The segments of a reference are segments. -/
lemma RefersTo.isSegment {s : Text} {segments : List Text} (h : RefersTo (tokens s) segments) :
    segments ≠ [] ∧ ∀ a ∈ segments, SqlFragments.isSegment a = true := by
  have hfitting := tokens_fitting s
  cases htokens : tokens s with
  | nil =>
      rw [htokens] at h
      cases h
  | cons t rest =>
      rw [htokens] at h hfitting
      obtain ⟨hfits, -⟩ := hfitting
      cases h with
      | @keyword w =>
          cases hfits with
          | keyword hw =>
              exact ⟨List.cons_ne_nil w [], List.forall_mem_singleton.mpr
                (isSegment_iff.mpr (Or.inl (isPlainName_of_isKeyword hw)))⟩
      | identifier hsegments =>
          cases hfits with
          | identifier hchain _ =>
              refine ⟨?_, fun a ha => isSegment_of_fits (hchain.mem a ha) (hsegments a ha)⟩
              rintro rfl
              cases hchain

lemma RefersTo.text {ts : List Token} {segments : List Text} (h : RefersTo ts segments) :
    ∃ t : Token, ts = [t] ∧ t.text = Text.join ['.'] segments := by
  cases h with
  | @keyword w => exact ⟨_, rfl, (Text.join_singleton _ w).symm⟩
  | identifier _ => exact ⟨_, rfl, rfl⟩

/-- **A text that is a reference is its segments**, white space around it aside. -/
lemma RefersTo.trim_eq {s : Text} {segments : List Text} (h : RefersTo (tokens s) segments) :
    s.trim = Text.join ['.'] segments := by
  obtain ⟨-, hsegments⟩ := h.isSegment
  obtain ⟨t, htokens, ht⟩ := h.text
  rw [tokens] at htokens
  obtain ⟨l, hlexemes, hl⟩ := List.map_eq_singleton_iff.mp htokens
  have hmem : l ∈ (scan s).lexemes := by
    rw [hlexemes]
    exact List.mem_singleton_self l
  have hs := scan_append s
  rw [hlexemes, List.flatMap_singleton, Lexeme.text, source_eq_text s l hmem, hl, ht,
    List.append_assoc] at hs
  rw [← hs]
  exact Text.trim_append (blank_isBlank s l hmem) (trailing_isBlank s)
    (trimmed_join fun a ha => isName_of_isSegment (hsegments a ha))

/-! ## References by segments -/

/-- **Segments with dots between them are a reference**, with white space around them or not. -/
lemma refersTo_join {a b : Text} {segments : List Text} (ha : a.isBlank = true)
    (hb : b.isBlank = true) (hne : segments ≠ [])
    (hsegments : ∀ a ∈ segments, isSegment a = true) :
    RefersTo (tokens (a ++ (Text.join ['.'] segments ++ b))) segments := by
  have hchain : ChainFits False segments :=
    chainFits_of_names hne fun a ha => isName_of_isSegment (hsegments a ha)
  have hcloses : Closes b := (separates_of_isBlank hb).head_any (by decide +kernel)
  have hdot : opensSegment b = false := by
    rw [opensSegment, (separates_of_isBlank hb).head_any (p := (· == '.')) (by decide),
      Bool.false_and]
  have hreads := hchain.readsAs hcloses hdot False.elim
  rw [tokens_append_of_isBlank ha, tokens_of_readsAs hreads, (tokens_eq_nil_iff b).mpr hb,
    chainToken_eq hchain.ne_star, opensCall_of_isBlank hb, Bool.and_false,
    if_neg Bool.false_ne_true]
  split_ifs with hlone
  · obtain ⟨w, rfl⟩ := isLoneKeyword_eq hlone
    rw [Text.join_singleton]
    exact RefersTo.keyword
  · exact RefersTo.identifier fun a ha => isColumnSegment_of_isSegment (hsegments a ha)

lemma ofSegments_concat (front : List Text) (column : Text) :
    ColumnRef.ofSegments (front ++ [column]) =
      some ⟨if front.isEmpty then none else some (Text.join ['.'] front), column⟩ := by
  rw [ColumnRef.ofSegments, List.getLast?_concat, List.dropLast_concat]
  cases front <;> simp

/-- Both ways to recognise a reference see the same segments. -/
lemma splitSegments_iff_refersTo {s : Text} {segments : List Text} :
    splitSegments s.trim = some segments ∧ segments.all isSegment = true ↔
      RefersTo (tokens s) segments := by
  constructor
  · rintro ⟨hsplit, hall⟩
    obtain ⟨hne, hjoin⟩ := join_splitSegments hsplit
    obtain ⟨a, b, ha, hb, hs⟩ := Text.exists_trim s
    rw [hs, ← hjoin]
    exact refersTo_join ha hb hne (List.all_eq_true.mp hall)
  · intro h
    obtain ⟨hne, hsegments⟩ := h.isSegment
    refine ⟨?_, List.all_eq_true.mpr hsegments⟩
    rw [h.trim_eq]
    exact splitSegments_join hne fun a ha => isName_of_isSegment (hsegments a ha)

lemma ColumnRef.parse_eq_some_iff (s : Text) (r : ColumnRef) : ColumnRef.parse s = some r ↔
    ∃ front column, RefersTo (tokens s) (front ++ [column]) ∧
      r = ⟨if front.isEmpty then none else some (Text.join ['.'] front), column⟩ := by
  rw [ColumnRef.parse]
  constructor
  · intro h
    cases hsplit : splitSegments s.trim with
    | none =>
        rw [hsplit] at h
        cases h
    | some segments =>
        rw [hsplit] at h
        simp only at h
        split_ifs at h with hall
        obtain ⟨front, column, rfl⟩ : ∃ front column, segments = front ++ [column] :=
          ⟨_, _, (List.dropLast_concat_getLast (join_splitSegments hsplit).1).symm⟩
        rw [ofSegments_concat] at h
        exact ⟨front, column, splitSegments_iff_refersTo.mp ⟨hsplit, hall⟩,
          (Option.some.inj h).symm⟩
  · rintro ⟨front, column, href, rfl⟩
    obtain ⟨hsplit, hall⟩ := splitSegments_iff_refersTo.mpr href
    rw [hsplit]
    simp only [hall, if_true, ofSegments_concat]

/-- **The two ways to recognise a column reference agree.**  A text is one exactly if it has a single
token, which is a keyword, or an identifier without wildcard whose quoted segments are closed and
not empty.  The column is the last segment, and the qualifier the others with dots between them. -/
theorem ColumnRef.parse_agrees (s : Text) :
    ((ColumnRef.parse s).isSome = true ↔ ∃ segments, RefersTo (tokens s) segments) ∧
    ∀ r, ColumnRef.parse s = some r ↔ ∃ front column, RefersTo (tokens s) (front ++ [column]) ∧
      r = ⟨if front.isEmpty then none else some (Text.join ['.'] front), column⟩ := by
  refine ⟨?_, ColumnRef.parse_eq_some_iff s⟩
  rw [Option.isSome_iff_exists]
  constructor
  · rintro ⟨r, hr⟩
    obtain ⟨front, column, href, -⟩ := (ColumnRef.parse_eq_some_iff s r).mp hr
    exact ⟨_, href⟩
  · rintro ⟨segments, href⟩
    obtain ⟨hne, -⟩ := href.isSegment
    rw [← List.dropLast_concat_getLast hne] at href
    exact ⟨_, (ColumnRef.parse_eq_some_iff s _).mpr ⟨_, _, href, rfl⟩⟩

end SqlFragments
