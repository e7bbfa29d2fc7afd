import SqlFragments.Proofs.Column.Recognition

/-!
# The grammar of column references

A reference is a chain of segments with dots between them.  A segment is a letter or `_` with
letters, numbers, `_` and `$` behind it, or something between two quotes in which that quote is
always written twice.  Reading follows this grammar although it only looks for dots while no quote
is open, and looks at the segments afterwards.

* `Doubled`, `ColumnRef.Segment`, `ColumnRef.Chain` — the grammar.
* `ColumnRef.segment_iff`, **`ColumnRef.chain_iff`** — the segments of a chain are what the cut at
  its dots gives.
* **`ColumnRef.parse_grammar`** — what is read is what the grammar has, and in one way only.
-/

namespace SqlFragments

/-- A text in which the quote `q` is always written twice. -/
inductive Doubled (q : Char) : Text → Prop
  | nil : Doubled q []
  | pair {s : Text} : Doubled q s → Doubled q (q :: q :: s)
  | other {c : Char} {s : Text} : c ≠ q → Doubled q s → Doubled q (c :: s)

lemma Doubled.quotesDoubled {q : Char} {s : Text} (h : Doubled q s) : quotesDoubled q s = true := by
  induction h with
  | nil => rfl
  | pair _ ih => rw [SqlFragments.quotesDoubled, if_pos rfl, beq_self_eq_true, ih, Bool.true_and]
  | @other c s hc _ ih =>
      cases s with
      | nil => exact bne_iff_ne.mpr hc
      | cons d rest => rwa [SqlFragments.quotesDoubled, if_neg hc]

lemma doubled_of_quotesDoubled {q : Char} (s : Text) : quotesDoubled q s = true → Doubled q s := by
  fun_induction quotesDoubled q s with
  | case1 => exact fun _ => Doubled.nil
  | case2 c => exact fun hc => Doubled.other (bne_iff_ne.mp hc) Doubled.nil
  | case3 d rest ih =>
      intro h
      rw [Bool.and_eq_true, beq_iff_eq] at h
      obtain ⟨rfl, hrest⟩ := h
      exact Doubled.pair (ih hrest)
  | case4 c d rest hc ih => exact fun h => Doubled.other hc (ih h)

namespace ColumnRef

/-! ## Segments and chains -/

/-- One segment of a reference. -/
inductive Segment : Text → Prop
  | plain {c : Char} {rest : Text} : (isLetter c = true ∨ c = '_') →
      (∀ d ∈ rest, isAlphanumeric d = true ∨ d = '_' ∨ d = '$') → Segment (c :: rest)
  | quoted {q : Char} {content : Text} : (q = '"' ∨ q = '\x60') → content ≠ [] →
      Doubled q content → Segment (q :: (content ++ [q]))

/-- A text made of segments with dots between them. -/
structure Chain (s : Text) (segments : List Text) : Prop where
  nonempty : segments ≠ []
  segment : ∀ a ∈ segments, Segment a
  joined : Text.join ['.'] segments = s

lemma plain_iff {a : Text} : isPlainName a = true ↔ ∃ c rest, a = c :: rest ∧
    (isLetter c = true ∨ c = '_') ∧ ∀ d ∈ rest, isAlphanumeric d = true ∨ d = '_' ∨ d = '$' := by
  cases a with
  | nil => simp [isPlainName]
  | cons c rest =>
      simp only [isPlainName, startsIdentifier, continuesIdentifier, Bool.and_eq_true,
        Bool.or_eq_true, beq_iff_eq, List.all_eq_true, or_assoc, List.cons.injEq]
      constructor
      · exact fun h => ⟨c, rest, ⟨rfl, rfl⟩, h⟩
      · rintro ⟨_, _, ⟨rfl, rfl⟩, h⟩
        exact h

/-- **A segment of the grammar** is what passes the check of segments. -/
lemma segment_iff {a : Text} : Segment a ↔ isSegment a = true := by
  rw [isSegment_iff]
  constructor
  · intro h
    cases h with
    | plain hc hrest => exact Or.inl (plain_iff.mpr ⟨_, _, rfl, hc, hrest⟩)
    | @quoted q content hq hne hcontent =>
        refine Or.inr ⟨q, isIdentifierQuote_iff.mpr hq, ⟨content, rfl, hcontent.quotesDoubled⟩, ?_⟩
        intro heq
        exact hne (List.append_cancel_right (List.cons.inj heq).2)
  · rintro (hplain | ⟨q, hq, ⟨content, rfl, hcontent⟩, hne⟩)
    · obtain ⟨c, rest, rfl, hc, hrest⟩ := plain_iff.mp hplain
      exact Segment.plain hc hrest
    · refine Segment.quoted (isIdentifierQuote_iff.mp hq) ?_ (doubled_of_quotesDoubled _ hcontent)
      rintro rfl
      exact hne rfl

/-- **A chain is cut into its segments** at the dots outside quotes, and nothing else is. -/
lemma chain_iff {s : Text} {segments : List Text} :
    Chain s segments ↔ splitSegments s = some segments ∧ segments.all isSegment = true := by
  constructor
  · rintro ⟨hne, hsegments, rfl⟩
    have hall : ∀ a ∈ segments, isSegment a = true := fun a ha => segment_iff.mp (hsegments a ha)
    exact ⟨splitSegments_join hne fun a ha => isName_of_isSegment (hall a ha),
      List.all_eq_true.mpr hall⟩
  · rintro ⟨hsplit, hall⟩
    obtain ⟨hne, hjoin⟩ := join_splitSegments hsplit
    exact ⟨hne, fun a ha => segment_iff.mpr (List.all_eq_true.mp hall a ha), hjoin⟩

lemma Chain.unique {s : Text} {a b : List Text} (ha : Chain s a) (hb : Chain s b) : a = b :=
  Option.some.inj ((chain_iff.mp ha).1.symm.trans (chain_iff.mp hb).1)

/-! ## References -/

/-- A reference as it is written: the qualifier, if there is one, a dot and the column. -/
def written (r : ColumnRef) : Text :=
  match r.qualifier with
  | some qualifier => qualifier ++ '.' :: r.column
  | none => r.column

lemma join_concat (front : List Text) (column : Text) :
    (⟨if front.isEmpty then none else some (Text.join ['.'] front), column⟩ : ColumnRef).written =
      Text.join ['.'] (front ++ [column]) := by
  induction front with
  | nil => exact (Text.join_singleton _ column).symm
  | cons a rest ih =>
      cases rest with
      | nil => simp [written]
      | cons b rest =>
          simp only [written, List.isEmpty_cons, Bool.false_eq_true, if_false, List.cons_append,
            Text.join_cons_cons, List.append_assoc] at ih ⊢
          rw [ih]

lemma parse_eq_some_iff_chain {s : Text} {r : ColumnRef} : ColumnRef.parse s = some r ↔
    ∃ front column, Chain s.trim (front ++ [column]) ∧
      r = ⟨if front.isEmpty then none else some (Text.join ['.'] front), column⟩ := by
  rw [ColumnRef.parse_eq_some_iff]
  refine exists_congr fun front => exists_congr fun column => and_congr_left' ?_
  rw [chain_iff, splitSegments_iff_refersTo]

/-- **References are read by their grammar.**  A text is a reference exactly if it is a chain of
segments, white space around it aside.  It is such a chain in one way only; the column is the last
segment, and the qualifier, a dot and the column are the text again. -/
theorem parse_grammar (s : Text) :
    ((ColumnRef.parse s).isSome = true ↔ ∃ segments, Chain s.trim segments) ∧
    (∀ a b, Chain s.trim a → Chain s.trim b → a = b) ∧
    ∀ r, ColumnRef.parse s = some r → r.written = s.trim ∧
      ∃ front, Chain s.trim (front ++ [r.column]) := by
  refine ⟨?_, fun a b => Chain.unique, fun r hr => ?_⟩
  · rw [Option.isSome_iff_exists]
    constructor
    · rintro ⟨r, hr⟩
      obtain ⟨front, column, hchain, -⟩ := parse_eq_some_iff_chain.mp hr
      exact ⟨_, hchain⟩
    · rintro ⟨segments, hchain⟩
      rw [← List.dropLast_concat_getLast hchain.nonempty] at hchain
      exact ⟨_, parse_eq_some_iff_chain.mpr ⟨_, _, hchain, rfl⟩⟩
  · obtain ⟨front, column, hchain, rfl⟩ := parse_eq_some_iff_chain.mp hr
    refine ⟨?_, front, hchain⟩
    rw [join_concat, hchain.joined]

/-- A reference with a dot and a doubled quote inside a segment, and white space around it. -/
def quotedReference : Text :=
  " s.\"a.\"\"b\".c$1 ".toList

theorem parse_grammar_quoted :
    (ColumnRef.parse quotedReference).isSome = true ∧
    (∀ b, Chain quotedReference.trim b →
      b = ["s".toList, "\"a.\"\"b\"".toList, "c$1".toList]) ∧
    (⟨some "s.\"a.\"\"b\"".toList, "c$1".toList⟩ : ColumnRef).written = quotedReference.trim := by
  have hchain : Chain quotedReference.trim
      ["s".toList, "\"a.\"\"b\"".toList, "c$1".toList] :=
    chain_iff.mpr ⟨by decide, by decide⟩
  have hparse : ColumnRef.parse quotedReference =
      some ⟨some "s.\"a.\"\"b\"".toList, "c$1".toList⟩ := by decide
  obtain ⟨hiff, hunique, hwritten⟩ := parse_grammar quotedReference
  exact ⟨hiff.mpr ⟨_, hchain⟩, fun b hb => hunique b _ hb hchain, (hwritten _ hparse).1⟩

end ColumnRef

end SqlFragments
