import Mathlib.Tactic.Common
import Mathlib.Data.List.Induction
import SqlFragments.Token.Basic

/-!
# Which parentheses are open

A pass over the tokens of a condition keeps a stack: `(` is pushed, `)` takes the innermost one
away, and a `)` without partner does nothing.  The rules of conditions speak of *matching*
instead: a `(` is closed by the `)` behind the shortest stretch in which parentheses match.  This
file shows that both say the same.

* `Balanced` — tokens whose parentheses match, as a grammar.
* `ClosedAt`, `OpenAt` — a parenthesis is closed at a place; it is open before a place.
* `bracketRun` — the stack of open positions behind a stretch of tokens.
* **`mem_bracketRun_iff_openAt`** — the stack holds exactly the open parentheses.
-/

namespace SqlFragments

/-! ## Matching -/

/-- Tokens in which every parenthesis has its partner. -/
inductive Balanced : List Token → Prop
  | nil : Balanced []
  | plain {t : Token} {rest : List Token} :
      t ≠ .leftParen → t ≠ .rightParen → Balanced rest → Balanced (t :: rest)
  | group {inner rest : List Token} :
      Balanced inner → Balanced rest → Balanced (.leftParen :: (inner ++ .rightParen :: rest))

/-- The parenthesis at `p` is closed at `q`: between the two all parentheses match. -/
def ClosedAt (ts : List Token) (p q : Nat) : Prop :=
  ∃ inner, Balanced inner ∧ .leftParen :: (inner ++ [.rightParen]) <+: ts.drop p ∧
    q = p + inner.length + 1

/-- A parenthesis stands at `p` and is not closed before `i`. -/
def OpenAt (ts : List Token) (p i : Nat) : Prop :=
  p < i ∧ ts[p]? = some .leftParen ∧ ∀ q < i, ¬ ClosedAt ts p q

lemma Balanced.append {a b : List Token} (ha : Balanced a) (hb : Balanced b) :
    Balanced (a ++ b) := by
  induction ha with
  | nil => exact hb
  | plain h1 h2 _ ih => exact Balanced.plain h1 h2 ih
  | group hi _ _ ih =>
      rw [List.cons_append, List.append_assoc, List.cons_append]
      exact Balanced.group hi ih

lemma Balanced.single_group {inner : List Token} (h : Balanced inner) :
    Balanced (.leftParen :: (inner ++ [.rightParen])) :=
  Balanced.group h Balanced.nil

lemma Balanced.single {t : Token} (h1 : t ≠ .leftParen) (h2 : t ≠ .rightParen) :
    Balanced [t] :=
  Balanced.plain h1 h2 Balanced.nil

/-! ## The stack -/

/-- What the token at `i` does to the positions that are open. -/
def bracketStep (stack : List Nat) (i : Nat) (t : Token) : List Nat :=
  match t with
  | .leftParen => i :: stack
  | .rightParen => stack.tail
  | _ => stack

/-- The positions that are open behind some tokens, the first of which stands at `i`; innermost
first. -/
def bracketRun (stack : List Nat) (i : Nat) : List Token → List Nat
  | [] => stack
  | t :: rest => bracketRun (bracketStep stack i t) (i + 1) rest

lemma bracketStep_of_ne {t : Token} (h1 : t ≠ .leftParen) (h2 : t ≠ .rightParen)
    (stack : List Nat) (i : Nat) : bracketStep stack i t = stack := by
  cases t <;> first | rfl | contradiction

lemma bracketRun_append (a b : List Token) : ∀ (stack : List Nat) (i : Nat),
    bracketRun stack i (a ++ b) = bracketRun (bracketRun stack i a) (i + a.length) b := by
  induction a with
  | nil => intro stack i; rfl
  | cons t rest ih =>
      intro stack i
      simp only [List.cons_append, bracketRun, List.length_cons]
      rw [ih, Nat.add_right_comm, Nat.add_assoc]

/-- **Matching parentheses leave the stack as it was.** -/
lemma Balanced.bracketRun_eq {ts : List Token} (h : Balanced ts) :
    ∀ (stack : List Nat) (i : Nat), bracketRun stack i ts = stack := by
  induction h with
  | nil => intro stack i; rfl
  | plain h1 h2 _ ih =>
      intro stack i
      rw [bracketRun, bracketStep_of_ne h1 h2, ih]
  | @group inner rest _ _ ihInner ihRest =>
      intro stack i
      rw [bracketRun, bracketRun_append, ihInner]
      exact ihRest stack _

/-- A stack that fits the tokens: every position on it holds a parenthesis, and what stands
between two neighbouring positions, or behind the innermost one, is balanced. -/
inductive StackFits : List Token → List Nat → Prop
  | nil {ts : List Token} : StackFits ts []
  | cons {before inner : List Token} {stack : List Nat} :
      StackFits before stack → Balanced inner →
      StackFits (before ++ .leftParen :: inner) (before.length :: stack)

lemma StackFits.append {ts more : List Token} {stack : List Nat} (h : StackFits ts stack)
    (hm : Balanced more) : StackFits (ts ++ more) stack := by
  cases h with
  | nil => exact StackFits.nil
  | cons hb hi =>
      rw [List.append_assoc, List.cons_append]
      exact StackFits.cons hb (hi.append hm)

lemma StackFits.step {ts : List Token} {stack : List Nat} (h : StackFits ts stack) (t : Token) :
    StackFits (ts ++ [t]) (bracketStep stack ts.length t) := by
  by_cases h1 : t = .leftParen
  · subst h1
    exact StackFits.cons h Balanced.nil
  by_cases h2 : t = .rightParen
  · subst h2
    cases h with
    | nil => exact StackFits.nil
    | @cons before inner stack hb hi =>
        -- the group that is closed now joins what stands behind the next position
        have he : before ++ .leftParen :: inner ++ [.rightParen]
            = before ++ .leftParen :: (inner ++ [.rightParen]) := by
          rw [List.append_assoc, List.cons_append]
        rw [he]
        exact hb.append hi.single_group
  · rw [bracketStep_of_ne h1 h2]
    exact h.append (Balanced.single h1 h2)

lemma stackFits_bracketRun (ts : List Token) : StackFits ts (bracketRun [] 0 ts) := by
  induction ts using List.reverseRecOn with
  | nil => exact StackFits.nil
  | append_singleton before t ih =>
      rw [bracketRun_append, Nat.zero_add]
      exact ih.step t

/-- The positions on a fitting stack lie before its end and hold a parenthesis. -/
lemma StackFits.of_mem {ts : List Token} {stack : List Nat} (h : StackFits ts stack) {p : Nat}
    (hp : p ∈ stack) : ts[p]? = some .leftParen := by
  induction h with
  | nil => cases hp
  | @cons before inner stack hb _ ih =>
      rcases List.mem_cons.mp hp with rfl | hp
      · rw [List.getElem?_append_right (Nat.le_refl _), Nat.sub_self, List.getElem?_cons_zero]
      · have hlt := (List.getElem?_eq_some_iff.mp (ih hp)).1
        rw [List.getElem?_append_left hlt]
        exact ih hp

/-! ## Both agree -/

/-- A parenthesis is closed by the one behind a stretch that matches. -/
lemma closedAt_last (outer : List Token) {inner : List Token} (h : Balanced inner) :
    ClosedAt (outer ++ .leftParen :: inner ++ [.rightParen]) outer.length
      (outer.length + inner.length + 1) := by
  have hdrop : (outer ++ Token.leftParen :: inner ++ [Token.rightParen]).drop outer.length =
      .leftParen :: (inner ++ [.rightParen]) := by
    rw [List.append_assoc, List.drop_left, List.cons_append]
  exact ⟨inner, h, hdrop.symm ▸ List.prefix_rfl, rfl⟩

/-- The position of every parenthesis that was pushed and is gone has been closed. -/
lemma mem_bracketRun_of_open (ts : List Token) : ∀ {p : Nat}, ts[p]? = some .leftParen →
    (∀ q < ts.length, ¬ ClosedAt ts p q) → p ∈ bracketRun [] 0 ts := by
  induction ts using List.reverseRecOn with
  | nil => intro p hp; simp at hp
  | append_singleton before t ih =>
      intro p hp hopen
      rw [bracketRun_append, Nat.zero_add]
      show p ∈ bracketStep (bracketRun [] 0 before) before.length t
      by_cases hlt : p < before.length
      · rw [List.getElem?_append_left hlt] at hp
        have hmem : p ∈ bracketRun [] 0 before := by
          refine ih hp fun q hq hclosed => hopen q (by simp; omega) ?_
          obtain ⟨inner, hb, hpre, rfl⟩ := hclosed
          refine ⟨inner, hb, ?_, rfl⟩
          rw [List.drop_append_of_le_length (by omega)]
          exact hpre.trans (List.prefix_append _ _)
        by_cases h1 : t = .leftParen
        · subst h1; exact List.mem_cons_of_mem _ hmem
        by_cases h2 : t = .rightParen
        · subst h2
          show p ∈ (bracketRun [] 0 before).tail
          have hn := stackFits_bracketRun before
          generalize bracketRun [] 0 before = stack at hmem hn
          cases hn with
          | nil => cases hmem
          | @cons outer inner stack hb hi =>
              rcases List.mem_cons.mp hmem with rfl | hmem
              · -- the innermost position: this very token closes it
                have hclosed := closedAt_last outer hi
                refine absurd hclosed (hopen _ ?_)
                simp only [List.length_append, List.length_cons, List.length_nil]
                omega
              · exact hmem
        · rw [bracketStep_of_ne h1 h2]; exact hmem
      · have hlen := (List.getElem?_eq_some_iff.mp hp).1
        have hpe : p = before.length := by
          simp only [List.length_append, List.length_singleton] at hlen
          omega
        subst hpe
        have ht : t = .leftParen := by
          rw [List.getElem?_append_right (Nat.le_refl _), Nat.sub_self] at hp
          simpa using hp
        subst ht
        exact List.mem_cons_self

/-- Behind a place, the stack holds positions from that place on, or what was open before. -/
lemma mem_bracketRun {p : Nat} : ∀ (ts : List Token) (stack : List Nat) (i : Nat),
    p ∈ bracketRun stack i ts → p ∈ stack ∨ i ≤ p
  | [], _, _, h => Or.inl h
  | t :: rest, stack, i, h => by
      rcases mem_bracketRun rest (bracketStep stack i t) (i + 1) h with hs | hle
      · cases t with
        | leftParen =>
            rcases List.mem_cons.mp hs with rfl | hs
            · exact Or.inr (Nat.le_refl _)
            · exact Or.inl hs
        | rightParen => exact Or.inl (List.mem_of_mem_tail hs)
        | _ => exact Or.inl hs
      · exact Or.inr (by omega)

/-- A stretch that starts at `p` and ends before `i`, cut out of the first `i` tokens. -/
lemma take_eq_of_prefix_drop {group ts : List Token} {p i : Nat} (h : group <+: ts.drop p)
    (hi : p + group.length ≤ i) :
    ts.take i = ts.take p ++ (group ++ (ts.take i).drop (p + group.length)) := by
  obtain ⟨rest, hrest⟩ := h
  have hmin : min p i = p := by omega
  have hdrop : (ts.take i).drop p = group ++ rest.take (i - p - group.length) := by
    rw [List.drop_take, ← hrest, List.take_append, List.take_of_length_le (by omega)]
  have hrestDrop : (ts.take i).drop (p + group.length) = rest.take (i - p - group.length) := by
    rw [← List.drop_drop, hdrop, List.drop_left]
  calc ts.take i = (ts.take i).take p ++ (ts.take i).drop p := (List.take_append_drop p _).symm
    _ = ts.take p ++ (ts.take i).drop p := by rw [List.take_take, hmin]
    _ = ts.take p ++ (group ++ (ts.take i).drop (p + group.length)) := by rw [hdrop, hrestDrop]

/-- **The stack holds exactly the open parentheses**: for every place `i` of a text. -/
theorem mem_bracketRun_iff_openAt (ts : List Token) {p i : Nat} (hi : i ≤ ts.length) :
    p ∈ bracketRun [] 0 (ts.take i) ↔ OpenAt ts p i := by
  constructor
  · intro hmem
    have hp := (stackFits_bracketRun (ts.take i)).of_mem hmem
    have hlt : p < i := by
      have := (List.getElem?_eq_some_iff.mp hp).1
      rw [List.length_take] at this
      omega
    rw [List.getElem?_take_of_lt hlt] at hp
    refine ⟨hlt, hp, ?_⟩
    rintro q hq ⟨inner, hb, hpre, rfl⟩
    -- the closed group leaves no trace of `p`, and later positions are larger
    have hlen : p + (.leftParen :: (inner ++ [.rightParen])).length ≤ i := by
      simp only [List.length_cons, List.length_append, List.length_nil]
      omega
    have hsplit := take_eq_of_prefix_drop hpre hlen
    rw [hsplit, bracketRun_append, bracketRun_append, hb.single_group.bracketRun_eq] at hmem
    rcases mem_bracketRun _ _ _ hmem with hs | hle
    · have h3 := (stackFits_bracketRun (ts.take p)).of_mem hs
      have h4 := (List.getElem?_eq_some_iff.mp h3).1
      rw [List.length_take] at h4
      omega
    · simp only [List.length_take, List.length_cons, List.length_append, List.length_nil] at hle
      omega
  · rintro ⟨hlt, hp, hopen⟩
    refine mem_bracketRun_of_open (ts.take i) (by rw [List.getElem?_take_of_lt hlt]; exact hp) ?_
    rintro q hq ⟨inner, hb, hpre, rfl⟩
    rw [List.length_take] at hq
    refine hopen _ (by omega) ⟨inner, hb, ?_, rfl⟩
    rw [List.drop_take] at hpre
    exact hpre.trans (List.take_prefix _ _)

end SqlFragments
