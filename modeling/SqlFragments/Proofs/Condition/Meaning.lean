import SqlFragments.Proofs.Condition.Alternatives
import SqlFragments.Proofs.Condition.FilterClause

/-!
# What a written condition means

A tree of conditions is written without parentheses, so what it means is a matter of precedence:
`and` binds more tightly than `or`.  As long as no disjunction is below a conjunction, that is what
the tree says.  Its leaves become the atoms of alternatives, in their order, and whatever is empty
leaves no trace.

* `Condition.leaves`, `Condition.OrFree`, `Condition.Layered` — the fragments of a tree, and trees
  with no disjunction below a conjunction.
* `Condition.said_leaves_eq_nil_iff` — a tree is empty when none of its fragments says anything.
* `Condition.disjuncts`, `Condition.flatten_disjuncts` — the alternatives that a tree becomes.
* `Condition.holdsFrom`, `Condition.Layered.holdsFrom_eq` — the truth value of a tree is that of its
  alternatives.
* `Condition.Layered.tokens_toText` — a tree is written as its alternatives.
* **`Condition.toText_meaning`** — a tree that is written and cut again means what it meant.
-/

namespace SqlFragments

namespace Condition

mutual

/-- The fragments of a tree, from left to right. -/
def leaves : Condition → List Text
  | raw sql => [sql]
  | all children => leavesOf children
  | any children => leavesOf children

/-- The fragments of some trees. -/
def leavesOf : List Condition → List Text
  | [] => []
  | c :: rest => c.leaves ++ leavesOf rest

end

/-- A tree without disjunctions. -/
inductive OrFree : Condition → Prop
  | raw (sql : Text) : OrFree (raw sql)
  | all {children : List Condition} : (∀ c ∈ children, OrFree c) → OrFree (all children)

/-- A tree with no disjunction below a conjunction. -/
inductive Layered : Condition → Prop
  | orFree {c : Condition} : OrFree c → Layered c
  | any {children : List Condition} : (∀ c ∈ children, Layered c) → Layered (any children)

/-! ## The tree without what is empty -/

/-- The children that say something. -/
def kept (children : List Condition) : List Condition :=
  children.filter fun c => !c.isEmpty

lemma kept_cons (c : Condition) (rest : List Condition) :
    kept (c :: rest) = if c.isEmpty then kept rest else c :: kept rest := by
  rw [kept, List.filter_cons, kept]
  cases c.isEmpty <;> rfl

lemma mem_kept {c : Condition} {children : List Condition} :
    c ∈ kept children ↔ c ∈ children ∧ c.isEmpty = false := by
  rw [kept, List.mem_filter, Bool.not_eq_true']

lemma texts_eq (children : List Condition) : texts children = (kept children).map toText := by
  induction children with
  | nil => rfl
  | cons c rest ih =>
      rw [texts, kept_cons, ih]
      split_ifs <;> rfl

lemma allEmpty_eq (children : List Condition) :
    allEmpty children = (kept children).isEmpty := by
  induction children with
  | nil => rfl
  | cons c rest ih =>
      rw [allEmpty, kept_cons, ih]
      cases c.isEmpty <;> rfl

mutual

/-- **A condition is empty** when none of its fragments says anything. -/
lemma said_leaves_eq_nil_iff : ∀ c : Condition, said c.leaves = [] ↔ c.isEmpty = true
  | raw sql => by
      rw [leaves, isEmpty, said_cons]
      cases (SqlFragments.stripConnector sql).isEmpty <;> simp [said]
  | all children => by
      rw [leaves, isEmpty]
      exact said_leavesOf_eq_nil_iff children
  | any children => by
      rw [leaves, isEmpty]
      exact said_leavesOf_eq_nil_iff children

lemma said_leavesOf_eq_nil_iff : ∀ children : List Condition,
    said (leavesOf children) = [] ↔ allEmpty children = true
  | [] => iff_of_true rfl rfl
  | c :: rest => by
      rw [leavesOf, said_append, List.append_eq_nil_iff, said_leaves_eq_nil_iff c,
        said_leavesOf_eq_nil_iff rest, allEmpty, Bool.and_eq_true]

end

lemma said_leaves_ne_nil {c : Condition} (h : c.isEmpty = false) : said c.leaves ≠ [] := by
  intro hnil
  rw [(said_leaves_eq_nil_iff c).mp hnil] at h
  cases h

lemma said_leavesOf (children : List Condition) :
    said (leavesOf children) = (kept children).flatMap fun c => said c.leaves := by
  induction children with
  | nil => rfl
  | cons c rest ih =>
      rw [leavesOf, said_append, ih, kept_cons]
      split_ifs with hempty
      · rw [(said_leaves_eq_nil_iff c).mpr hempty, List.nil_append]
      · rw [List.flatMap_cons]

lemma leavesOf_eq (children : List Condition) : leavesOf children = children.flatMap leaves := by
  induction children with
  | nil => rfl
  | cons c rest ih => rw [leavesOf, ih, List.flatMap_cons]

/-- What holds of all fragments holds of those of a child. -/
lemma forall_leaves_of_mem {P : Text → Prop} {c : Condition} {children : List Condition}
    (hc : c ∈ children) (h : ∀ f ∈ leavesOf children, P f) : ∀ f ∈ c.leaves, P f := by
  intro f hf
  rw [leavesOf_eq] at h
  exact h f (List.mem_flatMap.mpr ⟨c, hc, hf⟩)

/-! ## Alternatives -/

mutual

/-- The alternatives that a tree becomes: a disjunction has those of its children, and anything else
is one alternative. -/
def disjuncts : Condition → List (List Text)
  | raw sql => [said [sql]]
  | all children => [said (leavesOf children)]
  | any children => disjunctsOf children

/-- The alternatives of those of some trees that say something. -/
def disjunctsOf : List Condition → List (List Text)
  | [] => []
  | c :: rest => if c.isEmpty then disjunctsOf rest else c.disjuncts ++ disjunctsOf rest

end

lemma OrFree.disjuncts_eq {c : Condition} (h : c.OrFree) : c.disjuncts = [said c.leaves] := by
  cases h with
  | raw sql => rw [disjuncts, leaves]
  | all _ => rw [disjuncts, leaves]

lemma disjunctsOf_eq (children : List Condition) :
    disjunctsOf children = (kept children).flatMap disjuncts := by
  induction children with
  | nil => rfl
  | cons c rest ih =>
      rw [disjunctsOf, kept_cons, ih]
      split_ifs
      · rfl
      · rw [List.flatMap_cons]

mutual

/-- **The atoms of the alternatives** are the fragments that say something, in their order. -/
lemma flatten_disjuncts : ∀ c : Condition, c.disjuncts.flatten = said c.leaves
  | raw sql => by rw [disjuncts, leaves, List.flatten_singleton]
  | all children => by rw [disjuncts, leaves, List.flatten_singleton]
  | any children => by
      rw [disjuncts, leaves]
      exact flatten_disjunctsOf children

lemma flatten_disjunctsOf : ∀ children : List Condition,
    (disjunctsOf children).flatten = said (leavesOf children)
  | [] => rfl
  | c :: rest => by
      rw [disjunctsOf, leavesOf, said_append]
      split_ifs with hempty
      · rw [(said_leaves_eq_nil_iff c).mpr hempty, List.nil_append, flatten_disjunctsOf rest]
      · rw [List.flatten_append, flatten_disjuncts c, flatten_disjunctsOf rest]

end

mutual

/-- No alternative of a condition that says something is empty. -/
lemma nil_not_mem_disjuncts : ∀ c : Condition, c.isEmpty = false → [] ∉ c.disjuncts
  | raw sql, h => by
      rw [disjuncts, List.mem_singleton, eq_comm]
      exact said_leaves_ne_nil h
  | all children, h => by
      rw [disjuncts, List.mem_singleton, eq_comm]
      exact said_leaves_ne_nil h
  | any children, _ => by
      rw [disjuncts]
      exact nil_not_mem_disjunctsOf children

lemma nil_not_mem_disjunctsOf : ∀ children : List Condition, [] ∉ disjunctsOf children
  | [] => List.not_mem_nil
  | c :: rest => by
      rw [disjunctsOf]
      split_ifs with hempty
      · exact nil_not_mem_disjunctsOf rest
      · rw [List.mem_append, not_or]
        exact ⟨nil_not_mem_disjuncts c (Bool.eq_false_of_not_eq_true hempty),
          nil_not_mem_disjunctsOf rest⟩

end

lemma disjuncts_ne_nil {c : Condition} (h : c.isEmpty = false) : c.disjuncts ≠ [] := by
  intro hnil
  refine said_leaves_ne_nil h ?_
  rw [← flatten_disjuncts, hnil, List.flatten_nil]

/-! ## Truth values -/

mutual

/-- Whether a tree holds, its fragments that say something being numbered from `n` on.  Children
that are empty are left out. -/
def holdsFrom (v : Nat → Bool) (n : Nat) : Condition → Bool
  | raw _ => v n
  | all children => allHold v n children
  | any children => anyHolds v n children

/-- Whether all of some trees hold. -/
def allHold (v : Nat → Bool) (n : Nat) : List Condition → Bool
  | [] => true
  | c :: rest =>
    if c.isEmpty then allHold v n rest
    else c.holdsFrom v n && allHold v (n + (said c.leaves).length) rest

/-- Whether one of some trees holds. -/
def anyHolds (v : Nat → Bool) (n : Nat) : List Condition → Bool
  | [] => false
  | c :: rest =>
    if c.isEmpty then anyHolds v n rest
    else c.holdsFrom v n || anyHolds v (n + (said c.leaves).length) rest

end

variable {v : Nat → Bool} {c : Condition} {children : List Condition}

lemma allHold_eq (h : ∀ c ∈ children, c.isEmpty = false → ∀ n,
      c.holdsFrom v n = (List.range' n (said c.leaves).length).all v) : ∀ n,
    allHold v n children = (List.range' n (said (leavesOf children)).length).all v := by
  induction children with
  | nil => exact fun n => rfl
  | cons c rest ih =>
      intro n
      obtain ⟨hc, hrest⟩ := List.forall_mem_cons.mp h
      rw [allHold, leavesOf, said_append, List.length_append, all_range'_add]
      split_ifs with hempty
      · rw [ih hrest, (said_leaves_eq_nil_iff c).mpr hempty]
        rfl
      · rw [ih hrest, hc (Bool.eq_false_of_not_eq_true hempty)]

lemma anyHolds_eq (h : ∀ c ∈ children, c.isEmpty = false → ∀ n,
      c.holdsFrom v n = alternativesHold v n c.disjuncts) : ∀ n,
    anyHolds v n children = alternativesHold v n (disjunctsOf children) := by
  induction children with
  | nil => exact fun n => rfl
  | cons c rest ih =>
      intro n
      obtain ⟨hc, hrest⟩ := List.forall_mem_cons.mp h
      rw [anyHolds, disjunctsOf]
      split_ifs with hempty
      · exact ih hrest n
      · rw [ih hrest, hc (Bool.eq_false_of_not_eq_true hempty), alternativesHold_append,
          flatten_disjuncts]

/-- Without disjunctions, a tree holds if all of its fragments do. -/
lemma OrFree.holdsFrom_eq (h : c.OrFree) : c.isEmpty = false → ∀ n,
    c.holdsFrom v n = (List.range' n (said c.leaves).length).all v := by
  induction h with
  | raw sql =>
      intro hempty n
      rw [isEmpty] at hempty
      rw [holdsFrom, leaves, said_cons, hempty]
      simp [said]
  | all _ ih =>
      intro _ n
      rw [holdsFrom, leaves]
      exact allHold_eq ih n

/-- **A tree holds when one of its alternatives does.** -/
lemma Layered.holdsFrom_eq (h : c.Layered) : c.isEmpty = false → ∀ n,
    c.holdsFrom v n = alternativesHold v n c.disjuncts := by
  induction h with
  | orFree h =>
      intro hempty n
      rw [h.holdsFrom_eq hempty, h.disjuncts_eq, alternativesHold, alternativesHold, Bool.or_false]
  | any _ ih =>
      intro _ n
      rw [holdsFrom, disjuncts]
      exact anyHolds_eq ih n

/-! ## Writing -/

mutual

lemma quotesClosed_toText : ∀ c : Condition,
    (∀ f ∈ c.leaves, QuotesClosed (stripConnector f)) → QuotesClosed c.toText
  | raw sql, h => by
      rw [toText]
      exact (h sql (by rw [leaves]; exact List.mem_cons_self)).lowerKeywords
  | all children, h => by
      rw [leaves] at h
      rw [toText]
      exact QuotesClosed.join (by decide) (quotesClosed_texts children h)
  | any children, h => by
      rw [leaves] at h
      rw [toText]
      exact QuotesClosed.join (by decide) (quotesClosed_texts children h)

lemma quotesClosed_texts : ∀ children : List Condition,
    (∀ f ∈ leavesOf children, QuotesClosed (stripConnector f)) →
      ∀ t ∈ texts children, QuotesClosed t
  | [], _ => List.forall_mem_nil _
  | c :: rest, h => by
      rw [leavesOf, List.forall_mem_append] at h
      rw [texts]
      split_ifs
      · exact quotesClosed_texts rest h.2
      · exact List.forall_mem_cons.mpr
          ⟨quotesClosed_toText c h.1, quotesClosed_texts rest h.2⟩

end

/-- A conjunction is written with `and` between all of its fragments. -/
lemma OrFree.tokens_toText (h : c.OrFree) : c.isEmpty = false →
    (∀ f ∈ c.leaves, QuotesClosed (stripConnector f)) →
      tokens c.toText = conjoined ((said c.leaves).map atomTokens) := by
  induction h with
  | raw sql =>
      intro hempty _
      rw [isEmpty] at hempty
      rw [toText, leaves, said_cons, hempty]
      simp [said, atomTokens]
  | @all children _ ih =>
      intro _ hclosed
      rw [leaves] at hclosed
      have hchildren : ∀ c ∈ kept children,
          tokens c.toText = conjoined ((said c.leaves).map atomTokens) := by
        intro c hc
        obtain ⟨hmem, hempty⟩ := mem_kept.mp hc
        exact ih c hmem hempty (forall_leaves_of_mem hmem hclosed)
      have hne : ∀ c ∈ kept children, (said c.leaves).map atomTokens ≠ [] := by
        intro c hc hnil
        exact said_leaves_ne_nil (mem_kept.mp hc).2 (List.map_eq_nil_iff.mp hnil)
      rw [toText, isSeparator_and.tokens_join (quotesClosed_texts children hclosed), texts_eq,
        List.map_map, leaves, said_leavesOf, List.map_flatMap, conjoined,
        ← intercalate_map_intercalate hne]
      exact congrArg _ (List.map_congr_left hchildren)

/-- **A tree is written as its alternatives**, with `or` between them. -/
lemma Layered.tokens_toText (h : c.Layered) : c.isEmpty = false →
    (∀ f ∈ c.leaves, QuotesClosed (stripConnector f)) →
      tokens c.toText = disjoined (c.disjuncts.map (List.map atomTokens)) := by
  induction h with
  | orFree h =>
      intro hempty hclosed
      rw [h.tokens_toText hempty hclosed, h.disjuncts_eq]
      simp [disjoined, List.intercalate]
  | @any children _ ih =>
      intro _ hclosed
      rw [leaves] at hclosed
      have hchildren : ∀ c ∈ kept children,
          tokens c.toText = disjoined (c.disjuncts.map (List.map atomTokens)) := by
        intro c hc
        obtain ⟨hmem, hempty⟩ := mem_kept.mp hc
        exact ih c hmem hempty (forall_leaves_of_mem hmem hclosed)
      have hne : ∀ c ∈ kept children,
          (c.disjuncts.map (List.map atomTokens)).map conjoined ≠ [] := by
        intro c hc hnil
        rw [List.map_eq_nil_iff, List.map_eq_nil_iff] at hnil
        exact disjuncts_ne_nil (mem_kept.mp hc).2 hnil
      rw [toText, isSeparator_or.tokens_join (quotesClosed_texts children hclosed), texts_eq,
        List.map_map, disjuncts, disjunctsOf_eq, disjoined, List.map_flatMap, List.map_flatMap,
        ← intercalate_map_intercalate hne]
      exact congrArg _ (List.map_congr_left hchildren)

/-! ## Reading -/

lemma toText_of_isEmpty (h : c.isEmpty = true) : c.toText = [] := by
  have htexts : ∀ {children : List Condition}, allEmpty children = true → texts children = [] := by
    intro children hempty
    rw [allEmpty_eq, List.isEmpty_iff] at hempty
    rw [texts_eq, hempty, List.map_nil]
  cases c with
  | raw sql =>
      rw [isEmpty, List.isEmpty_iff] at h
      rw [toText, h, lowerKeywords_nil]
  | all children =>
      rw [isEmpty] at h
      rw [toText, htexts h]
      rfl
  | any children =>
      rw [isEmpty] at h
      rw [toText, htexts h]
      rfl

/-- **What a written condition means.**  Let no disjunction of a tree be below a conjunction, and
let every fragment be one atom without its leading connector.  If the tree says nothing, it is
written as nothing.  Otherwise cutting what is written at every `or` and then at every `and` gives
the fragments that say something, in their order, and alternatives of them that hold whenever the
tree does. -/
theorem toText_meaning (hlayered : c.Layered) (hleaves : ∀ f ∈ c.leaves, Atomic (stripConnector f)) :
    (c.isEmpty = true → c.toText = []) ∧
    (c.isEmpty = false →
      (alternatives (tokens c.toText)).flatten = (said c.leaves).map atomTokens ∧
      ∀ v : Nat → Bool,
        alternativesHold v 0 (alternatives (tokens c.toText)) = c.holdsFrom v 0) := by
  refine ⟨toText_of_isEmpty, fun hempty => ?_⟩
  have hatoms : ∀ f ∈ said c.leaves, IsAtom (atomTokens f) := by
    intro f hf
    obtain ⟨g, hg, rfl⟩ := List.mem_map.mp (List.mem_of_mem_filter hf)
    exact (hleaves g hg).isAtom_atomTokens
  have hgroups : ∀ g ∈ c.disjuncts.map (List.map atomTokens), g ≠ [] ∧ ∀ a ∈ g, IsAtom a := by
    refine List.forall_mem_map.mpr fun g hg => ⟨fun hnil => ?_, List.forall_mem_map.mpr ?_⟩
    · rw [List.map_eq_nil_iff.mp hnil] at hg
      exact nil_not_mem_disjuncts c hempty hg
    · intro f hf
      refine hatoms f ?_
      rw [← flatten_disjuncts]
      exact List.mem_flatten_of_mem hg hf
  have hcut : alternatives (tokens c.toText) = c.disjuncts.map (List.map atomTokens) := by
    rw [hlayered.tokens_toText hempty fun f hf => (hleaves f hf).quotes]
    exact alternatives_disjoined (by simpa using disjuncts_ne_nil hempty) hgroups
  rw [hcut]
  constructor
  · rw [← List.map_flatten, flatten_disjuncts]
  · intro v
    rw [alternativesHold_map, hlayered.holdsFrom_eq hempty]

/-- A tree with a disjunction in a disjunction, with fragments that say nothing, and with an `or`
in parentheses. -/
def nestedTree : Condition :=
  .any [.raw "WHERE a = 1".toList, .any [.raw " ".toList, .all []],
    .any [.all [.raw "and b = 2".toList, .raw [], .all [.raw "(c = 3 OR d = 'or')".toList]],
      .raw "a = 1".toList]]

lemma layered_nestedTree : nestedTree.Layered := by
  have hraw : ∀ sql, (raw sql).Layered := fun sql => .orFree (.raw sql)
  refine .any ?_
  simp only [List.forall_mem_cons]
  refine ⟨hraw _, .any ?_, .any ?_, List.forall_mem_nil _⟩
  · simp only [List.forall_mem_cons]
    exact ⟨hraw _, .orFree (.all (List.forall_mem_nil _)), List.forall_mem_nil _⟩
  · simp only [List.forall_mem_cons]
    refine ⟨.orFree (.all ?_), hraw _, List.forall_mem_nil _⟩
    simp only [List.forall_mem_cons]
    refine ⟨.raw _, .raw _, .all ?_, List.forall_mem_nil _⟩
    simp only [List.forall_mem_cons]
    exact ⟨.raw _, List.forall_mem_nil _⟩

theorem toText_meaning_nested :
    nestedTree.Layered ∧ (∀ f ∈ nestedTree.leaves, Atomic (stripConnector f)) ∧
    nestedTree.toText = "a = 1 or b = 2 and (c = 3 or d = 'or') or a = 1".toList ∧
    ∀ v : Nat → Bool,
      alternativesHold v 0 (alternatives (tokens nestedTree.toText)) = (v 0 || v 1 && v 2 || v 3)
        := by
  have hleaves : ∀ f ∈ nestedTree.leaves, Atomic (stripConnector f) := by decide +kernel
  refine ⟨layered_nestedTree, hleaves, by decide +kernel, fun v => ?_⟩
  obtain ⟨-, hmeaning⟩ := toText_meaning layered_nestedTree hleaves
  have hempty : nestedTree.isEmpty = false := by decide +kernel
  have hdisjuncts : nestedTree.disjuncts = [["a = 1".toList],
      ["b = 2".toList, "(c = 3 OR d = 'or')".toList], ["a = 1".toList]] := by decide +kernel
  rw [(hmeaning hempty).2 v, layered_nestedTree.holdsFrom_eq hempty, hdisjuncts]
  simp [alternativesHold, List.range'_succ, Bool.or_assoc]

end Condition

end SqlFragments
