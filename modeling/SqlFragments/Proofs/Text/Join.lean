import SqlFragments.Proofs.Text.Trim
import SqlFragments.Proofs.Token.Scan

/-!
# Texts in a row

Fragments, segments and entries are written one after the other with a separator between them, and
the result is often one of the parts of another row.  This file says when rows in a row are one row,
and what white space stands around a row.

* `intercalate_append` — two rows, and a separator between them.
* **`intercalate_map_intercalate`**, `intercalate_nested` — rows in a row are one row of all their
  parts.
* `Text.not_isBlank_join`, `Text.trimmed_join` — a row of texts that are not blank, and of trimmed
  ones.
-/

namespace SqlFragments

section

variable {α β : Type} {separator : List α}

lemma intercalate_append {b : List (List α)} (hb : b ≠ []) : ∀ {a : List (List α)}, a ≠ [] →
    separator.intercalate (a ++ b) =
      separator.intercalate a ++ separator ++ separator.intercalate b
  | [], ha => absurd rfl ha
  | [x], _ => by
      rw [List.singleton_append, List.intercalate_cons_of_ne_nil hb]
      simp
  | x :: y :: a, _ => by
      rw [List.cons_append, List.intercalate_cons_of_ne_nil (by simp),
        intercalate_append hb (List.cons_ne_nil y a), List.intercalate_cons_cons]
      simp only [List.append_assoc]

/-- **Joining what is joined** with the same separator is joining all parts at once. -/
lemma intercalate_map_intercalate {f : β → List (List α)} {xs : List β}
    (hf : ∀ x ∈ xs, f x ≠ []) :
    separator.intercalate (xs.map fun x => separator.intercalate (f x)) =
      separator.intercalate (xs.flatMap f) := by
  induction xs with
  | nil => rfl
  | cons x rest ih =>
      obtain ⟨hx, hrest⟩ := List.forall_mem_cons.mp hf
      cases rest with
      | nil => simp
      | cons y rest =>
          have hmore : (y :: rest).flatMap f ≠ [] := by
            rw [List.flatMap_cons]
            exact List.append_ne_nil_of_left_ne_nil (hrest y List.mem_cons_self) _
          rw [List.flatMap_cons, intercalate_append hmore hx, ← ih hrest, List.map_cons,
            List.intercalate_cons_of_ne_nil (by simp)]

/-- A row that is one of the parts of a row with the same separator. -/
lemma intercalate_nested {inner : List (List α)} (hinner : inner ≠ []) (a b : List (List α)) :
    separator.intercalate (a ++ separator.intercalate inner :: b) =
      separator.intercalate (a ++ inner ++ b) := by
  have hone : ∀ parts : List (List α),
      parts = (parts.map fun x => [x]).map separator.intercalate := by
    intro parts
    rw [List.map_map]
    exact (List.map_id'' (fun x => List.intercalate_singleton) parts).symm
  have hrows : a ++ separator.intercalate inner :: b =
      ((a.map fun x => [x]) ++ inner :: b.map fun x => [x]).map separator.intercalate := by
    rw [List.map_append, List.map_cons, ← hone, ← hone]
  have hne : ∀ x ∈ (a.map fun x => [x]) ++ inner :: b.map fun x => [x], id x ≠ [] := by
    simp only [List.mem_append, List.mem_map, List.mem_cons]
    rintro x (⟨y, -, rfl⟩ | rfl | ⟨y, -, rfl⟩)
    · exact List.cons_ne_nil _ _
    · exact hinner
    · exact List.cons_ne_nil _ _
  rw [hrows]
  refine (intercalate_map_intercalate hne).trans (congrArg _ ?_)
  simp [List.flatMap_append, List.flatMap_map]

end

namespace Text

lemma not_isBlank_append_left {a : Text} (ha : a.isBlank = false) (b : Text) :
    Text.isBlank (a ++ b) = false := by
  rw [isBlank_append, ha, Bool.false_and]

lemma not_isBlank_join {separator : Text} : ∀ {parts : List Text}, parts ≠ [] →
    (∀ p ∈ parts, p.isBlank = false) → (Text.join separator parts).isBlank = false
  | [], hne, _ => absurd rfl hne
  | [p], _, h => by
      rw [Text.join_singleton]
      exact h p List.mem_cons_self
  | p :: q :: rest, _, h => by
      rw [Text.join_cons_cons, List.append_assoc]
      exact not_isBlank_append_left (h p List.mem_cons_self) _

lemma join_ne_nil {separator p : Text} (hp : p ≠ []) (rest : List Text) :
    Text.join separator (p :: rest) ≠ [] := by
  cases rest with
  | nil => rwa [Text.join_singleton]
  | cons q rest =>
      rw [Text.join_cons_cons, List.append_assoc]
      exact List.append_ne_nil_of_left_ne_nil hp _

/-- Trimmed texts with something between them are a trimmed text, unless one of them is empty. -/
lemma Trimmed.append {a b : Text} (ha : Trimmed a) (hane : a ≠ []) (hb : Trimmed b) (hbne : b ≠ [])
    (between : Text) : Trimmed (a ++ between ++ b) := by
  obtain ⟨c, rest, rfl⟩ := List.exists_cons_of_ne_nil hane
  exact ⟨ha.first, by rw [List.getLast?_append_of_ne_nil _ hbne]; exact hb.last⟩

/-- **There is no white space around a row of trimmed texts**, none of which is empty. -/
lemma trimmed_join {separator : Text} : ∀ {parts : List Text}, (∀ p ∈ parts, Trimmed p) →
    (∀ p ∈ parts, p ≠ []) → Trimmed (Text.join separator parts)
  | [], _, _ => ⟨rfl, rfl⟩
  | [p], h, _ => by
      rw [Text.join_singleton]
      exact h p List.mem_cons_self
  | p :: q :: rest, h, hne => by
      obtain ⟨hp, hrest⟩ := List.forall_mem_cons.mp h
      obtain ⟨hpne, hrestne⟩ := List.forall_mem_cons.mp hne
      rw [Text.join_cons_cons]
      exact hp.append hpne (trimmed_join hrest hrestne)
        (join_ne_nil (hrestne q List.mem_cons_self) rest) separator

end Text

end SqlFragments
