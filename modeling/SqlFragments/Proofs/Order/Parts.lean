import SqlFragments.Proofs.Order.RoundTrip
import SqlFragments.Proofs.Token.Cut

/-!
# The parts of a list

A list is cut at its commas outside parentheses, wherever they stand and whether parentheses match
or not.  What stands in front of the first of them closes its quotes, so it is read on its own as it
is read in the list.  From that, part by part, the tokens of the parts are the entries that the
tokens of the list are cut into.

* `exists_front` — a list with a comma outside parentheses is a part, the comma and a list.
* **`splitTopLevel_induction`** — induction along a list, part by part.
* **`map_tokens_splitTopLevel`** — the tokens of the parts.
* `mem_of_mem_splitTopLevel`, `QuotesClosed.of_mem_splitTopLevel` — the characters of the parts, and
  their quotes.
-/

namespace SqlFragments

/-! ## The first part -/

/-- The first comma outside parentheses. -/
lemma exists_first_comma (ts : List Token) : ∀ depth : Nat, .comma ∈ outside depth ts →
    ∃ front more, ts = front ++ .comma :: more ∧ .comma ∉ outside depth front ∧
      depthBehind depth front = 0 := by
  induction ts with
  | nil => exact fun depth h => nomatch h
  | cons t rest ih =>
      intro depth h
      by_cases hcut : depth = 0 ∧ t = .comma
      · obtain ⟨rfl, rfl⟩ := hcut
        exact ⟨[], rest, rfl, List.not_mem_nil, rfl⟩
      · obtain ⟨front, more, rfl, hfront, hdepth⟩ := ih _ ((mem_outside_cons.mp h).resolve_left hcut)
        exact ⟨t :: front, more, rfl, mem_outside_cons.not.mpr (not_or.mpr ⟨hcut, hfront⟩), hdepth⟩

/-- What stands in front of a comma is scanned as it is in the list. -/
lemma scan_front {s : Text} {front more : List Lexeme} {l : Lexeme}
    (h : (scan s).lexemes = front ++ l :: more) (hl : l.token = .comma) :
    ∃ a rest, s = a ++ ',' :: rest ∧ QuotesClosed a ∧ (scan a).lexemes = front := by
  have hmem : l ∈ (scan s).lexemes := by
    rw [h]
    exact List.mem_append_right _ List.mem_cons_self
  have hsource : l.source = [','] := by
    rw [source_eq_text s l hmem, hl]
    rfl
  have hparen : l.token ≠ .leftParen := by
    rw [hl]
    exact nofun
  obtain ⟨hclosed, hscan⟩ := scan_in_front h hparen
  have htext := scan_append s
  rw [h, List.flatMap_append, List.flatMap_cons, Lexeme.text, hsource] at htext
  refine ⟨_, more.flatMap Lexeme.text ++ (scan s).trailing, ?_, hclosed, by rw [hscan]⟩
  conv_lhs => rw [← htext]
  simp only [List.append_assoc, List.cons_append, List.nil_append]

/-- **A list with a comma** is a part, the comma and a list. -/
lemma exists_front {s : Text} (h : .comma ∈ outside 0 (tokens s)) :
    ∃ a rest, s = a ++ ',' :: rest ∧ EndsAtComma a := by
  obtain ⟨front, more, htokens, hfront, hdepth⟩ := exists_first_comma _ 0 h
  obtain ⟨ls, ms, hlexemes, rfl, hms⟩ := List.map_eq_append_iff.mp htokens
  obtain ⟨l, ms, rfl, hl, rfl⟩ := List.map_eq_cons_iff.mp hms
  obtain ⟨a, rest, rfl, hclosed, rfl⟩ := scan_front hlexemes hl
  exact ⟨a, rest, rfl, hclosed, hdepth, hfront⟩

/-- **Induction along a list**: over what stands behind its first part. -/
@[elab_as_elim]
lemma splitTopLevel_induction {P : Text → Prop}
    (single : ∀ s, .comma ∉ outside 0 (tokens s) → P s)
    (part : ∀ a rest, EndsAtComma a → P rest → P (a ++ ',' :: rest)) (s : Text) : P s := by
  induction hn : s.length using Nat.strongRecOn generalizing s with
  | _ n ih =>
      by_cases hcomma : .comma ∈ outside 0 (tokens s)
      · obtain ⟨a, rest, rfl, ha⟩ := exists_front hcomma
        rw [List.length_append, List.length_cons] at hn
        exact part a rest ha (ih _ (by omega) rest rfl)
      · exact single s hcomma

/-! ## All parts -/

/-- **The tokens of the parts** of a list are the entries that its tokens are cut into. -/
theorem map_tokens_splitTopLevel (s : Text) :
    (splitTopLevel s).map tokens = cutCommas (tokens s) := by
  induction s using splitTopLevel_induction with
  | single s h => rw [splitTopLevel_of_commaless h, cutCommas_of_commaless h, List.map_singleton]
  | part a rest ha ih =>
      have htokens : tokens (a ++ ',' :: rest) = tokens a ++ .comma :: tokens rest := by
        rw [tokens, scan_append_comma ha.quotes, List.map_append, List.map_cons, tokens, tokens]
      rw [ha.splitTopLevel_append, htokens, cutCommas_append ha.closed ha.commaless, List.map_cons,
        ih]

/-- The parts of a list are made of its characters. -/
lemma mem_of_mem_splitTopLevel {s : Text} {c : Char} : ∀ p ∈ splitTopLevel s, c ∈ p → c ∈ s := by
  induction s using splitTopLevel_induction with
  | single s h =>
      rw [splitTopLevel_of_commaless h]
      exact List.forall_mem_singleton.mpr id
  | part a rest ha ih =>
      rw [ha.splitTopLevel_append, List.forall_mem_cons]
      exact ⟨List.mem_append_left _, fun p hp hc =>
        List.mem_append_right _ (List.mem_cons_of_mem _ (ih p hp hc))⟩

/-- The parts of a list that closes its quotes close theirs. -/
lemma QuotesClosed.of_mem_splitTopLevel {s : Text} :
    QuotesClosed s → ∀ p ∈ splitTopLevel s, QuotesClosed p := by
  induction s using splitTopLevel_induction with
  | single s h =>
      rw [splitTopLevel_of_commaless h]
      exact List.forall_mem_singleton.mpr
  | part a rest ha ih =>
      intro hs
      have hrest : QuotesClosed rest :=
        (show QuotesClosed [','] from rfl).append_iff.mp (ha.quotes.append_iff.mp hs)
      rw [ha.splitTopLevel_append]
      exact List.forall_mem_cons.mpr ⟨ha.quotes, ih hrest⟩

end SqlFragments
