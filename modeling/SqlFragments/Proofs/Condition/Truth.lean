import SqlFragments.Proofs.Token.Outside

/-!
# When a condition holds

A condition is read with the precedence of SQL: `and` binds more tightly than `or`, and both count
outside parentheses only.  What stands between two of these words is an atom, and its truth value
is arbitrary.  So a condition holds if all atoms of one of its alternatives do.

* `cutAt` — some tokens cut at a word outside parentheses.
* `EndsIn`, **`Balanced.endsIn`** — behind a matching stretch, the cut goes on in its last part.
* `conjunctionHolds`, `holds` — the truth value of one alternative, and of a condition.
* `clauseHolds` — the truth value of a `where` clause; an empty clause asks for nothing.
* **`holds_append_and`** — a conjunction of conditions that hold, written without parentheses,
  holds.
-/

namespace SqlFragments

/-! ## Cutting at a word -/

/-- The given word, whatever follows. -/
def wordHeading (word : Text) (t : Token) (_ : List Token) : Option Unit :=
  if t.isKeyword word then some () else none

/-- Some tokens cut at a word outside parentheses. -/
def cutAt (word : Text) (ts : List Token) : List (List Token) :=
  (cutOutside (wordHeading word) 0 ts).1 ::
    (cutOutside (wordHeading word) 0 ts).2.map Prod.snd

variable {word : Text} {a b : List Token} {t : Token}

@[simp] lemma cutAt_nil : cutAt word [] = [[]] := rfl

lemma wordHeading_of_not_word (ht : t.isKeyword word = false) (rest : List Token) :
    wordHeading word t rest = none := by
  rw [wordHeading, ht, if_neg Bool.false_ne_true]

/-- A keyword is no parenthesis. -/
lemma depthAfter_of_isKeyword (ht : t.isKeyword word = true) (depth : Nat) :
    depthAfter depth t = depth := by
  cases t with
  | keyword w => rfl
  | _ => cases ht

lemma cutAt_cons (ht : t.isKeyword word = true) (b : List Token) :
    cutAt word (t :: b) = [] :: cutAt word b := by
  have hheading : wordHeading word t b = some () := if_pos ht
  rw [cutAt, cutOutside_heading _ hheading, depthAfter_of_isKeyword ht, cutAt, List.map_cons]

/-- A matching stretch without the word belongs to the first part. -/
lemma cutAt_append_of_no_word (ha : Balanced a)
    (hword : ∀ t ∈ outside 0 a, t.isKeyword word = false) (b : List Token) :
    cutAt word (a ++ b) = (cutAt word b).modifyHead (a ++ ·) := by
  have hcut := ha.cutOutside_append (wordHeading word) 0
    (fun _ t ht rest => wordHeading_of_not_word (hword t ht) rest) b
  rw [cutAt, hcut, cutAt, List.modifyHead_cons]

lemma cutAt_of_no_word (ha : Balanced a) (hword : ∀ t ∈ outside 0 a, t.isKeyword word = false) :
    cutAt word a = [a] := by
  have hcut := cutAt_append_of_no_word ha hword []
  simpa using hcut

/-- The last part of some tokens, and those in front of it.  The last part goes on in what follows
the tokens. -/
structure EndsIn (word : Text) (a : List Token) (front : List (List Token)) (last : List Token) :
    Prop where
  parts : cutAt word a = front ++ [last]
  balanced : Balanced last
  append : ∀ b, cutAt word (a ++ b) = front ++ (cutAt word b).modifyHead (last ++ ·)

/-- A matching stretch without the word, in front of some tokens. -/
lemma EndsIn.stretch {rest : List Token} {front : List (List Token)} {last : List Token}
    (h : EndsIn word rest front last) (ha : Balanced a)
    (hword : ∀ t ∈ outside 0 a, t.isKeyword word = false) :
    ∃ front last, EndsIn word (a ++ rest) front last := by
  have hcut := cutAt_append_of_no_word ha hword
  cases front with
  | nil =>
      refine ⟨[], a ++ last, ⟨?_, ha.append h.balanced, fun b => ?_⟩⟩
      · rw [hcut, h.parts]
        rfl
      · rw [List.append_assoc, hcut, h.append]
        simp [Function.comp_def]
  | cons first front =>
      refine ⟨(a ++ first) :: front, last, ⟨?_, h.balanced, fun b => ?_⟩⟩
      · rw [hcut, h.parts]
        rfl
      · rw [List.append_assoc, hcut, h.append]
        rfl

/-- **Behind a matching stretch, the cut goes on in its last part.** -/
lemma Balanced.endsIn (ha : Balanced a) (word : Text) :
    ∃ front last, EndsIn word a front last := by
  induction ha with
  | nil =>
      refine ⟨[], [], ⟨rfl, Balanced.nil, fun b => ?_⟩⟩
      cases h : cutAt word b with
      | nil => simp [h]
      | cons first more => simp [h]
  | @plain t rest h1 h2 _ ih =>
      obtain ⟨front, last, h⟩ := ih
      cases ht : t.isKeyword word with
      | true =>
          refine ⟨[] :: front, last, ⟨?_, h.balanced, fun b => ?_⟩⟩
          · rw [cutAt_cons ht, h.parts]
            rfl
          · rw [List.cons_append, cutAt_cons ht, h.append]
            rfl
      | false =>
          refine h.stretch (Balanced.single h1 h2) ?_
          rw [outside_plain h1 h2]
          exact List.forall_mem_singleton.mpr ht
  | @group inner rest hinner _ _ ih =>
      obtain ⟨front, last, h⟩ := ih
      have hgroup := h.stretch hinner.single_group ?_
      · rw [List.cons_append, List.append_assoc, List.singleton_append] at hgroup
        exact hgroup
      · rw [outside_group hinner]
        exact List.forall_mem_singleton.mpr rfl

/-- A word behind a matching stretch ends a part. -/
lemma Balanced.cutAt_append_cons (ha : Balanced a) (ht : t.isKeyword word = true)
    (b : List Token) : cutAt word (a ++ t :: b) = cutAt word a ++ cutAt word b := by
  obtain ⟨front, last, h⟩ := ha.endsIn word
  rw [h.append, cutAt_cons ht, h.parts, List.modifyHead_cons, List.append_nil, List.append_assoc]
  rfl

/-! ## Truth -/

/-- Whether all atoms of an alternative hold. -/
def conjunctionHolds (v : List Token → Bool) (ts : List Token) : Bool :=
  (cutAt "and".toList ts).all v

/-- Whether a condition holds: all atoms of one of its alternatives do. -/
def holds (v : List Token → Bool) (ts : List Token) : Bool :=
  (cutAt "or".toList ts).any (conjunctionHolds v)

/-- Whether a clause holds: it is empty, or a condition that holds behind `where`. -/
def clauseHolds (v : List Token → Bool) (clause : Text) : Bool :=
  match tokens clause with
  | [] => true
  | t :: condition => t.isKeyword "where".toList && holds v condition

def andToken : Token :=
  .keyword "and".toList

variable {v : List Token → Bool}

lemma conjunctionHolds_append (ha : Balanced a) (b : List Token) :
    conjunctionHolds v (a ++ andToken :: b) = (conjunctionHolds v a && conjunctionHolds v b) := by
  have hand : andToken.isKeyword "and".toList = true := by decide
  rw [conjunctionHolds, ha.cutAt_append_cons hand, List.all_append, conjunctionHolds,
    conjunctionHolds]

/-- Without `or` there is one alternative. -/
lemma holds_of_no_or (ha : Balanced a) (hor : ∀ t ∈ outside 0 a, t.isKeyword "or".toList = false) :
    holds v a = conjunctionHolds v a := by
  rw [holds, cutAt_of_no_word ha hor, List.any_cons, List.any_nil, Bool.or_false]

/-- **A conjunction without parentheses holds if both sides do**: the alternatives that hold are
alternatives of the whole, or they stand side by side and are one alternative of it. -/
lemma holds_append_and (ha : Balanced a) (hl : holds v a = true) (hr : holds v b = true) :
    holds v (a ++ andToken :: b) = true := by
  obtain ⟨front, last, hends⟩ := ha.endsIn "or".toList
  have hand : Balanced [andToken] := Balanced.single nofun nofun
  have hb : cutAt "or".toList (andToken :: b) =
      (cutAt "or".toList b).modifyHead ([andToken] ++ ·) :=
    cutAt_append_of_no_word hand (by decide) b
  rw [holds, hends.parts] at hl
  rw [holds] at hr ⊢
  rw [hends.append, hb]
  cases h : cutAt "or".toList b with
  | nil =>
      rw [h] at hr
      cases hr
  | cons first more =>
      rw [h, List.any_cons, Bool.or_eq_true] at hr
      rw [List.any_append, List.any_cons, List.any_nil, Bool.or_false, Bool.or_eq_true] at hl
      simp only [List.modifyHead_cons, List.any_append, List.any_cons, List.singleton_append,
        conjunctionHolds_append hends.balanced, Bool.or_eq_true, Bool.and_eq_true]
      rcases hl with hfront | hleft
      · exact Or.inl hfront
      · rcases hr with hright | hmore
        · exact Or.inr (Or.inl ⟨hleft, hright⟩)
        · exact Or.inr (Or.inr hmore)

end SqlFragments
