import SqlFragments.Proofs.Condition.Conjunction
import SqlFragments.Proofs.KeywordCase.Kept
import SqlFragments.Proofs.Text.Join

/-!
# Alternatives

A condition without parentheses is a list of alternatives with `or` between them, each of them a
list of atoms with `and` between them.  Joining and cutting are inverse to each other if no atom has
one of these words outside its parentheses.

* `alternatives` — some tokens cut at every `or`, and then at every `and`.
* `disjoined` — alternatives, joined.
* `IsAtom`, `Atomic` — tokens, and a fragment, that are one atom.
* **`alternatives_disjoined`** — joined alternatives are cut again as they were.
* `alternativesHold` — the truth value of alternatives whose atoms are numbered.
-/

namespace SqlFragments

/-! ## Cutting what is joined -/

/-- Some tokens cut at every `or`, and what is between them at every `and`. -/
def alternatives (ts : List Token) : List (List (List Token)) :=
  (cutAt "or".toList ts).map (cutAt "and".toList)

def orToken : Token :=
  .keyword "or".toList

/-- Alternatives with `or` between them. -/
def disjoined (groups : List (List (List Token))) : List Token :=
  [orToken].intercalate (groups.map conjoined)

variable {t : Token} {word : Text}

/-- **What is joined by a word is cut again** at it, if no part has it outside parentheses. -/
lemma cutAt_intercalate (ht : t.isKeyword word = true) : ∀ {parts : List (List Token)},
    parts ≠ [] → (∀ a ∈ parts, Balanced a) →
      (∀ a ∈ parts, ∀ u ∈ outside 0 a, u.isKeyword word = false) →
        cutAt word ([t].intercalate parts) = parts
  | [], hne, _, _ => absurd rfl hne
  | [a], _, hbalanced, hword => by
      have ha := cutAt_of_no_word (hbalanced a List.mem_cons_self) (hword a List.mem_cons_self)
      simpa using ha
  | a :: b :: rest, _, hbalanced, hword => by
      obtain ⟨ha, hrest⟩ := List.forall_mem_cons.mp hbalanced
      obtain ⟨hnone, hnoneRest⟩ := List.forall_mem_cons.mp hword
      rw [List.intercalate_cons_cons, List.append_assoc, List.singleton_append,
        ha.cutAt_append_cons ht, cutAt_of_no_word ha hnone,
        cutAt_intercalate ht (List.cons_ne_nil b rest) hrest hnoneRest, List.singleton_append]

/-- Tokens that are one atom: their parentheses match, and there is no connector outside them. -/
structure IsAtom (ts : List Token) : Prop where
  parens : Balanced ts
  noAnd : ∀ t ∈ outside 0 ts, t.isKeyword "and".toList = false
  noOr : ∀ t ∈ outside 0 ts, t.isKeyword "or".toList = false

instance : DecidablePred IsAtom := fun ts =>
  decidable_of_iff (Balanced ts ∧ (∀ t ∈ outside 0 ts, t.isKeyword "and".toList = false) ∧
      ∀ t ∈ outside 0 ts, t.isKeyword "or".toList = false)
    ⟨fun h => ⟨h.1, h.2.1, h.2.2⟩, fun h => ⟨h.parens, h.noAnd, h.noOr⟩⟩

/-- **Alternatives are cut again** as they were joined. -/
lemma alternatives_disjoined {groups : List (List (List Token))} (hne : groups ≠ [])
    (hgroups : ∀ g ∈ groups, g ≠ [] ∧ ∀ a ∈ g, IsAtom a) :
    alternatives (disjoined groups) = groups := by
  have hor : orToken.isKeyword "or".toList = true := by decide
  have hand : andToken.isKeyword "and".toList = true := by decide
  have hconjoined : ∀ g ∈ groups, Balanced (conjoined g) ∧
      ∀ t ∈ outside 0 (conjoined g), t.isKeyword "or".toList = false := by
    intro g hg
    obtain ⟨hnil, hatoms⟩ := hgroups g hg
    obtain ⟨hbalanced, houtside⟩ := conjoined_outside hnil fun a ha => (hatoms a ha).parens
    refine ⟨hbalanced, fun t ht => ?_⟩
    rcases houtside t ht with rfl | ⟨a, ha, hta⟩
    · decide
    · exact (hatoms a ha).noOr t hta
  rw [alternatives, disjoined, cutAt_intercalate hor (by simpa using hne)
    (List.forall_mem_map.mpr fun g hg => (hconjoined g hg).1)
    (List.forall_mem_map.mpr fun g hg => (hconjoined g hg).2), List.map_map]
  refine (List.map_congr_left fun g hg => ?_).trans (List.map_id groups)
  obtain ⟨hnil, hatoms⟩ := hgroups g hg
  exact cutAt_intercalate hand hnil (fun a ha => (hatoms a ha).parens)
    fun a ha => (hatoms a ha).noAnd

lemma isSeparator_or : IsSeparator " or ".toList orToken :=
  isSeparator_word "or".toList (by decide) (endsCallable_of_isKeyword (by decide)) (by decide)
    (by decide) (tokens_of_isKeyword (by decide))

/-! ## Fragments -/

/-- A fragment that closes what it opens and is one atom. -/
structure Atomic (s : Text) : Prop where
  quotes : QuotesClosed s
  atom : IsAtom (tokens s)

instance : DecidablePred Atomic := fun s =>
  decidable_of_iff (QuotesClosed s ∧ IsAtom (tokens s))
    ⟨fun h => ⟨h.1, h.2⟩, fun h => ⟨h.quotes, h.atom⟩⟩

/-- The case of keywords does not make an atom. -/
lemma IsAtom.recased {ts ts' : List Token} (h : IsAtom ts)
    (hrecased : List.Forall₂ Token.Recased ts ts') : IsAtom ts' where
  parens := by
    rw [balanced_iff, closesFrom_recased hrecased]
    exact (balanced_iff ts).mp h.parens
  noAnd := (not_isKeyword_recased (outside_recased hrecased 0)).mpr h.noAnd
  noOr := (not_isKeyword_recased (outside_recased hrecased 0)).mpr h.noOr

/-- The tokens that a fragment is written with. -/
def atomTokens (f : Text) : List Token :=
  tokens (lowerKeywords f)

lemma Atomic.isAtom_atomTokens {f : Text} (h : Atomic f) : IsAtom (atomTokens f) :=
  h.atom.recased (tokens_lowerKeywords f)

/-! ## Truth values -/

/-- Whether one of some alternatives holds, their atoms being numbered from `n` on. -/
def alternativesHold {α : Type} (v : Nat → Bool) (n : Nat) : List (List α) → Bool
  | [] => false
  | group :: rest =>
    (List.range' n group.length).all v || alternativesHold v (n + group.length) rest

section

variable {α β : Type} {v : Nat → Bool}

lemma alternativesHold_append (a b : List (List α)) : ∀ n : Nat, alternativesHold v n (a ++ b) =
    (alternativesHold v n a || alternativesHold v (n + a.flatten.length) b) := by
  induction a with
  | nil => exact fun n => rfl
  | cons g rest ih =>
      intro n
      rw [List.cons_append, alternativesHold, alternativesHold, ih, List.flatten_cons,
        List.length_append, Bool.or_assoc, Nat.add_assoc]

/-- Only the number of atoms counts. -/
lemma alternativesHold_map (f : α → β) (groups : List (List α)) : ∀ n : Nat,
    alternativesHold v n (groups.map (List.map f)) = alternativesHold v n groups := by
  induction groups with
  | nil => exact fun n => rfl
  | cons g rest ih =>
      intro n
      rw [List.map_cons, alternativesHold, alternativesHold, List.length_map, ih]

lemma all_range'_add (n a b : Nat) : (List.range' n (a + b)).all v =
    ((List.range' n a).all v && (List.range' (n + a) b).all v) := by
  rw [← List.range'_append_1, List.all_append]

end

end SqlFragments
