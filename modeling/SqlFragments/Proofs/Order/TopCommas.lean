import SqlFragments.Proofs.Order.Parts
import SqlFragments.Proofs.Token.Unquoted

/-!
# Where a list is cut

The cut goes by the tokens of a list.  Here it is told from its characters alone: the places of the
cut are the commas that no quoted run holds and in front of which no parenthesis is open, when the
parentheses outside quoted runs are counted from the left and one that closes nothing does not
count.

* `depthPast`, **`topCommas`** — the count of open parentheses, and the commas where it is zero.
* `punctuation_unquoted` — the parentheses and commas outside quoted runs are tokens.
* `commasBetween` — the places of the commas that stand between the parts of a text.
* **`topCommas_splitTopLevel`** — the commas between the parts of a list are those.
* **`splitTopLevel_cuts`** — nothing is lost, the cuts are where they should be, and no part can be
  cut again.
-/

namespace SqlFragments

/-! ## Counting characters -/

/-- The number of open parentheses behind a character; one that closes nothing leaves none open. -/
def depthPast (depth : Nat) (c : Char) : Nat :=
  if c = '(' then depth + 1 else if c = ')' then depth - 1 else depth

/-- The offsets of the commas among some characters at which no parenthesis is open, `depth` being
open in front of the first. -/
def topCommas (depth : Nat) : List (Nat × Char) → List Nat
  | [] => []
  | (offset, c) :: rest =>
    if c = ',' ∧ depth = 0 then offset :: topCommas depth rest
    else topCommas (depthPast depth c) rest

/-- The offsets of the commas between some parts, the first part starting at `offset`. -/
def commasBetween (offset : Nat) : List Text → List Nat
  | p :: q :: rest => (offset + p.bytes) :: commasBetween (offset + p.bytes + 1) (q :: rest)
  | _ => []

variable {a s : Text}

lemma depthBehind_punctuationOf (depth : Nat) (c : Char) :
    depthBehind depth (punctuationOf c) = depthPast depth c := by
  rw [punctuationOf, parenOf, depthPast]
  split_ifs with hcomma hleft hright
  · rw [hcomma] at hleft
    cases hleft
  · rw [hcomma] at hright
    cases hright
  · rfl
  · rfl
  · rfl
  · rfl

lemma comma_mem_outside_punctuationOf {depth : Nat} {c : Char} (hcomma : c = ',')
    (hdepth : depth = 0) : .comma ∈ outside depth (punctuationOf c) := by
  rw [hcomma, hdepth]
  decide

/-- A stretch that has no comma outside parentheses is passed over. -/
lemma topCommas_append_of_commaless (more cs : List (Nat × Char)) : ∀ depth : Nat,
    .comma ∉ outside depth ((cs.map Prod.snd).flatMap punctuationOf) →
      topCommas depth (cs ++ more) =
        topCommas (depthBehind depth ((cs.map Prod.snd).flatMap punctuationOf)) more := by
  induction cs with
  | nil => exact fun _ _ => rfl
  | cons p rest ih =>
      obtain ⟨offset, c⟩ := p
      intro depth h
      rw [List.map_cons, List.flatMap_cons, outside_append, depthBehind_punctuationOf,
        List.mem_append, not_or] at h
      have hother : ¬ (c = ',' ∧ depth = 0) := fun hcut =>
        h.1 (comma_mem_outside_punctuationOf hcut.1 hcut.2)
      rw [List.cons_append, topCommas, if_neg hother, ih _ h.2, List.map_cons, List.flatMap_cons,
        depthBehind, depthBehind, List.foldl_append, ← depthBehind_punctuationOf, depthBehind]

/-! ## Characters and tokens -/

/-- **Parentheses and commas outside quoted runs** are tokens, and no other token holds one. -/
lemma punctuation_unquoted (s : Text) (offset : Nat) :
    ((unquotedFrom offset s).map Prod.snd).flatMap punctuationOf =
      (tokens s).filter Token.isPunctuation := by
  rw [map_unquotedFrom, ← punctuation_tokens]
  induction bareChars none s with
  | nil => rfl
  | cons c rest ih =>
      cases hc : isQuote c with
      | true =>
          have hquote : punctuationOf c = [] :=
            punctuationOf_of_standsInNames (standsInNames_of_isQuote hc)
          rw [List.filter_cons_of_neg (by simp [hc]), ih, List.flatMap_cons, hquote,
            List.nil_append]
      | false =>
          rw [List.filter_cons_of_pos (by simp [hc]), List.flatMap_cons, List.flatMap_cons, ih]

/-- A text has a comma outside parentheses among its tokens if it has one among its
characters. -/
lemma commaless_unquoted (h : .comma ∉ outside 0 (tokens s)) (offset : Nat) :
    .comma ∉ outside 0 (((unquotedFrom offset s).map Prod.snd).flatMap punctuationOf) := by
  rw [punctuation_unquoted, outside_filter]
  exact fun hmem => h (List.mem_filter.mp hmem).1

/-- A text without a comma outside parentheses has no place to cut at. -/
lemma topCommas_of_commaless (h : .comma ∉ outside 0 (tokens s)) (offset : Nat) :
    topCommas 0 (unquotedFrom offset s) = [] := by
  have hnone := topCommas_append_of_commaless [] _ 0 (commaless_unquoted h offset)
  rw [List.append_nil] at hnone
  rw [hnone, topCommas]

/-- **The first cut** of a list is at the comma behind its first part. -/
lemma EndsAtComma.topCommas_append (h : EndsAtComma a) (rest : Text) (offset : Nat) :
    topCommas 0 (unquotedFrom offset (a ++ ',' :: rest)) =
      (offset + a.bytes) :: topCommas 0 (unquotedFrom (offset + a.bytes + 1) rest) := by
  have hdepth : depthBehind 0 (((unquotedFrom offset a).map Prod.snd).flatMap punctuationOf) =
      0 := by
    rw [punctuation_unquoted, depthBehind_filter, h.closed]
  have hcomma : unquotedFrom (offset + a.bytes) (',' :: rest) =
      (offset + a.bytes, ',') :: unquotedFrom (offset + a.bytes + 1) rest :=
    unquotedFrom_plain (by decide) rest _
  rw [unquotedFrom_append (separates_comma rest) a h.quotes,
    topCommas_append_of_commaless _ _ 0 (commaless_unquoted h.commaless offset), hdepth, hcomma,
    topCommas, if_pos ⟨rfl, rfl⟩]

/-! ## The parts of a list -/

/-- There is always a part. -/
lemma splitTopLevel_ne_nil (s : Text) : splitTopLevel s ≠ [] := by
  cases s using splitTopLevel_induction with
  | single s h =>
      rw [splitTopLevel_of_commaless h]
      exact List.cons_ne_nil _ _
  | part a rest ha _ =>
      rw [ha.splitTopLevel_append]
      exact List.cons_ne_nil _ _

/-- **The commas between the parts** of a list are those outside quoted runs and parentheses. -/
lemma topCommas_splitTopLevel (s : Text) : ∀ offset : Nat,
    commasBetween offset (splitTopLevel s) = topCommas 0 (unquotedFrom offset s) := by
  induction s using splitTopLevel_induction with
  | single s h =>
      intro offset
      rw [splitTopLevel_of_commaless h, topCommas_of_commaless h, commasBetween]
      exact nofun
  | part a rest ha ih =>
      intro offset
      obtain ⟨p, more, hparts⟩ := List.exists_cons_of_ne_nil (splitTopLevel_ne_nil rest)
      rw [ha.splitTopLevel_append, ha.topCommas_append, ← ih, hparts, commasBetween]

lemma length_commasBetween {parts : List Text} (h : parts ≠ []) : ∀ offset : Nat,
    parts.length = (commasBetween offset parts).length + 1 := by
  induction parts with
  | nil => exact absurd rfl h
  | cons p rest ih =>
      intro offset
      cases rest with
      | nil => rfl
      | cons q rest =>
          have hmore := ih (List.cons_ne_nil q rest) (offset + p.bytes + 1)
          exact congrArg (· + 1) hmore

/-- **A text cut where it should be.**  The parts with commas between them make up the text; the
commas between them are those outside quoted runs at which no parenthesis is open, so there is one
part more than there are such commas; and no part can be cut again. -/
structure CutAtCommas (s : Text) (parts : List Text) : Prop where
  join : Text.join [','] parts = s
  places : commasBetween 0 parts = topCommas 0 (unquoted s)
  count : parts.length = (topCommas 0 (unquoted s)).length + 1
  single : ∀ p ∈ parts, splitTopLevel p = [p]

/-- Nothing of a list is lost. -/
lemma join_splitTopLevel (s : Text) : Text.join [','] (splitTopLevel s) = s := by
  induction s using splitTopLevel_induction with
  | single s h => rw [splitTopLevel_of_commaless h, Text.join_singleton]
  | part a rest ha ih =>
      obtain ⟨p, more, hparts⟩ := List.exists_cons_of_ne_nil (splitTopLevel_ne_nil rest)
      rw [hparts] at ih
      rw [ha.splitTopLevel_append, hparts, Text.join_cons_cons, ih, List.append_assoc,
        List.singleton_append]

/-- A part of a list is a list of one part. -/
lemma splitTopLevel_of_mem (s : Text) : ∀ p ∈ splitTopLevel s, splitTopLevel p = [p] := by
  induction s using splitTopLevel_induction with
  | single s h =>
      rw [splitTopLevel_of_commaless h, List.forall_mem_singleton]
      exact splitTopLevel_of_commaless h
  | part a rest ha ih =>
      rw [ha.splitTopLevel_append, List.forall_mem_cons]
      exact ⟨splitTopLevel_of_commaless ha.commaless, ih⟩

/-- **A list is cut where it should be**, whether or not its quotes are closed and its parentheses
match. -/
theorem splitTopLevel_cuts (s : Text) : CutAtCommas s (splitTopLevel s) where
  join := join_splitTopLevel s
  places := topCommas_splitTopLevel s 0
  count := by
    rw [length_commasBetween (splitTopLevel_ne_nil s) 0, topCommas_splitTopLevel]
    rfl
  single := splitTopLevel_of_mem s

-- The parenthesis that closes nothing leaves the count at zero, and those in quotes do not count.
example : commasBetween 0 (splitTopLevel "max(a, b)), ')(', \"é\", c".toList) = [10, 16, 22] := by
  decide +kernel

end SqlFragments
