import Mathlib.Data.List.Lex
import SqlFragments.Proofs.Condition.Meaning

/-!
# The order of the fragments in a written condition

A tree is written as its fragments from left to right.  What stands between two of them depends on
the tree only through one node, the lowest one that is above both.  So nested nodes of one kind
might as well be one node, and what is empty might as well not be there.

* `Condition.subtree`, `Condition.meet` — nodes by their addresses, and the lowest node above two.
* `Condition.placed`, `Condition.mem_placed_iff`, `Condition.pairwise_placed` — the fragments of a
  tree with their addresses, from left to right.
* `Condition.Written` — fragments in a row, each with the right connective in front.
* `Condition.written_toText` — a tree is written so.
* `Condition.join_texts_nested` — a node in a node of its kind.
* **`Condition.toText_in_order`** — all of this, and that only what is empty is written as nothing.
-/

namespace SqlFragments

namespace Condition

/-! ## Addresses -/

/-- Where a node stands in a tree: the numbers of the children on the way down from the root. -/
abbrev Address := List Nat

def children : Condition → List Condition
  | raw _ => []
  | all cs => cs
  | any cs => cs

/-- The node at an address, with all that is below it. -/
def subtree (c : Condition) : Address → Option Condition
  | [] => some c
  | i :: path => c.children[i]?.bind fun child => child.subtree path

/-- The address of the lowest node that is above two others. -/
def meet : Address → Address → Address
  | i :: p, j :: q => if i = j then i :: meet p q else []
  | _, _ => []

/-- What a node writes between its children. -/
def connective : Condition → Option Text
  | raw _ => none
  | all _ => some " and ".toList
  | any _ => some " or ".toList

/-- A fragment of a tree, and where it stands. -/
structure Leaf where
  address : Address
  fragment : Text
deriving DecidableEq, Repr

/-- A leaf of the child with number `i` as a leaf of the whole tree. -/
def Leaf.under (i : Nat) (l : Leaf) : Leaf :=
  ⟨i :: l.address, l.fragment⟩

/-- What is written for a leaf. -/
def Leaf.text (l : Leaf) : Text :=
  lowerKeywords (stripConnector l.fragment)

/-- Whether a leaf says something. -/
def Leaf.isSaid (l : Leaf) : Bool :=
  !(stripConnector l.fragment).isEmpty

mutual

/-- The leaves of a tree, from left to right. -/
def placed : Condition → List Leaf
  | raw sql => [⟨[], sql⟩]
  | all children => placedFrom 0 children
  | any children => placedFrom 0 children

/-- The leaves of some children, the first of which has the number `i`. -/
def placedFrom (i : Nat) : List Condition → List Leaf
  | [] => []
  | c :: rest => c.placed.map (Leaf.under i) ++ placedFrom (i + 1) rest

end

/-- The leaves that say something. -/
def saidLeaves (c : Condition) : List Leaf :=
  c.placed.filter Leaf.isSaid

/-- Leaves of a tree in a row.  Between two of them stands what the lowest node above both writes
between its children. -/
inductive Written (c : Condition) : List Leaf → Text → Prop
  | nil : Written c [] []
  | single (l : Leaf) : Written c [l] l.text
  | cons {l m : Leaf} {rest : List Leaf} {node : Condition} {connective text : Text} :
      c.subtree (meet l.address m.address) = some node → node.connective = some connective →
      Written c (m :: rest) text → Written c (l :: m :: rest) (l.text ++ connective ++ text)

/-- What holds of a tree if it holds of its children holds of every tree. -/
@[elab_as_elim]
lemma childrenInduction {P : Condition → Prop} (raw : ∀ sql, P (raw sql))
    (all : ∀ cs, (∀ c ∈ cs, P c) → P (all cs)) (any : ∀ cs, (∀ c ∈ cs, P c) → P (any cs)) :
    ∀ c, P c :=
  Condition.rec (motive_2 := fun cs => ∀ c ∈ cs, P c) raw all any (List.forall_mem_nil _)
    fun _ _ hc hrest => List.forall_mem_cons.mpr ⟨hc, hrest⟩

/-! ## The leaves of a tree -/

variable {c node : Condition} {cs : List Condition} {i : Nat}

lemma subtree_cons {child : Condition} (h : node.children[i]? = some child) (path : Address) :
    node.subtree (i :: path) = child.subtree path := by
  rw [subtree, h, Option.bind_some]

lemma mem_placedFrom_iff {l : Leaf} : ∀ {cs : List Condition} {i : Nat},
    l ∈ placedFrom i cs ↔
      ∃ (j : Nat) (child : Condition), cs[j]? = some child ∧
        ∃ m ∈ child.placed, l = m.under (i + j)
  | [], i => by simp [placedFrom]
  | c :: rest, i => by
      rw [placedFrom, List.mem_append, List.mem_map, mem_placedFrom_iff]
      constructor
      · rintro (⟨m, hm, rfl⟩ | ⟨j, child, hchild, m, hm, rfl⟩)
        · exact ⟨0, c, rfl, m, hm, rfl⟩
        · exact ⟨j + 1, child, hchild, m, hm, by rw [Nat.add_right_comm, Nat.add_assoc]⟩
      · rintro ⟨j, child, hchild, m, hm, rfl⟩
        cases j with
        | zero =>
            obtain rfl : c = child := Option.some.inj hchild
            exact Or.inl ⟨m, hm, rfl⟩
        | succ j =>
            exact Or.inr ⟨j, child, hchild, m, hm, by rw [Nat.add_right_comm, Nat.add_assoc]⟩

/-- The leaves of a node are those of its children. -/
lemma mem_placedFrom_children (node : Condition) (hnode : ∀ sql, node ≠ raw sql)
    (h : ∀ c ∈ node.children, ∀ l, l ∈ c.placed ↔ c.subtree l.address = some (raw l.fragment))
    (l : Leaf) :
    l ∈ placedFrom 0 node.children ↔ node.subtree l.address = some (raw l.fragment) := by
  obtain ⟨address, fragment⟩ := l
  rw [mem_placedFrom_iff]
  cases address with
  | nil =>
      refine iff_of_false ?_ fun hroot => hnode fragment (Option.some.inj hroot)
      rintro ⟨j, child, -, m, -, hm⟩
      cases hm
  | cons i path =>
      constructor
      · rintro ⟨j, child, hchild, m, hm, hbelow⟩
        rw [Nat.zero_add] at hbelow
        obtain ⟨rfl, rfl⟩ := List.cons.inj (congrArg Leaf.address hbelow)
        obtain rfl : fragment = m.fragment := congrArg Leaf.fragment hbelow
        rw [subtree_cons hchild]
        exact (h child (List.mem_of_getElem? hchild) m).mp hm
      · intro hsubtree
        obtain ⟨child, hchild, hpath⟩ := Option.bind_eq_some_iff.mp hsubtree
        refine ⟨i, child, hchild, ⟨path, fragment⟩, ?_, by rw [Nat.zero_add]; rfl⟩
        exact (h child (List.mem_of_getElem? hchild) _).mpr hpath

/-- **The leaves of a tree** are its fragments, with the addresses at which they stand. -/
lemma mem_placed_iff (c : Condition) : ∀ l, l ∈ c.placed ↔
    c.subtree l.address = some (raw l.fragment) := by
  induction c using childrenInduction with
  | raw sql =>
      rintro ⟨address, fragment⟩
      rw [placed, List.mem_singleton]
      cases address with
      | nil => simp [subtree, eq_comm]
      | cons i path => simp [subtree, children]
  | all cs ih =>
      rw [placed]
      exact mem_placedFrom_children (all cs) (fun _ => Condition.noConfusion) ih
  | any cs ih =>
      rw [placed]
      exact mem_placedFrom_children (any cs) (fun _ => Condition.noConfusion) ih

lemma pairwise_placedFrom (h : ∀ c ∈ cs, c.placed.Pairwise (·.address < ·.address)) :
    ∀ i, (placedFrom i cs).Pairwise (·.address < ·.address) := by
  induction cs with
  | nil => exact fun _ => List.Pairwise.nil
  | cons c rest ih =>
      intro i
      obtain ⟨hc, hrest⟩ := List.forall_mem_cons.mp h
      rw [placedFrom, List.pairwise_append, List.pairwise_map]
      refine ⟨hc.imp fun hlt => List.cons_lt_cons_iff.mpr (Or.inr ⟨rfl, hlt⟩), ih hrest _, ?_⟩
      intro l hl m hm
      obtain ⟨l, -, rfl⟩ := List.mem_map.mp hl
      obtain ⟨j, child, -, m, -, rfl⟩ := mem_placedFrom_iff.mp hm
      exact List.cons_lt_cons_iff.mpr (Or.inl (by omega))

/-- **The leaves stand from left to right**: their addresses are in lexical order. -/
lemma pairwise_placed (c : Condition) : c.placed.Pairwise (·.address < ·.address) := by
  induction c using childrenInduction with
  | raw sql => exact List.pairwise_singleton _ _
  | all cs ih => exact pairwise_placedFrom ih 0
  | any cs ih => exact pairwise_placedFrom ih 0

/-! ## Leaves in a row -/

/-- Leaves of a child in a row are leaves of the tree in a row. -/
lemma Written.under {child : Condition} (hchild : node.children[i]? = some child)
    {ls : List Leaf} {text : Text} (h : Written child ls text) :
    Written node (ls.map (Leaf.under i)) text := by
  induction h with
  | nil => exact Written.nil
  | single l => exact Written.single (l.under i)
  | cons hmeet hconnective _ ih =>
      refine Written.cons ?_ hconnective ih
      rw [Leaf.under, Leaf.under, meet, if_pos rfl, subtree_cons hchild, hmeet]

/-- Two rows with a connective between them. -/
lemma Written.append {ls ms : List Leaf} {connective s t : Text} (hs : Written c ls s)
    (ht : Written c ms t) (hls : ls ≠ []) (hms : ms ≠ [])
    (hseam : ∀ l ∈ ls, ∀ m ∈ ms, ∃ node, c.subtree (meet l.address m.address) = some node ∧
      node.connective = some connective) :
    Written c (ls ++ ms) (s ++ connective ++ t) := by
  induction hs with
  | nil => exact absurd rfl hls
  | single l =>
      obtain ⟨m, rest, rfl⟩ := List.exists_cons_of_ne_nil hms
      obtain ⟨node, hmeet, hconnective⟩ := hseam l List.mem_cons_self m List.mem_cons_self
      exact Written.cons hmeet hconnective ht
  | cons hmeet hconnective _ ih =>
      have hrest := ih (List.cons_ne_nil _ _) fun l hl => hseam l (List.mem_cons_of_mem _ hl)
      simp only [List.append_assoc] at hrest ⊢
      rw [← List.append_assoc]
      exact Written.cons hmeet hconnective hrest

/-- A row is not empty if none of its leaves is written as nothing. -/
lemma Written.ne_nil {ls : List Leaf} {text : Text} (h : Written c ls text) (hls : ls ≠ [])
    (htext : ∀ l ∈ ls, l.text ≠ []) : text ≠ [] := by
  cases h with
  | nil => exact absurd rfl hls
  | single l => exact htext l List.mem_cons_self
  | @cons l m rest node connective text _ _ _ =>
      rw [List.append_assoc]
      exact List.append_ne_nil_of_left_ne_nil (htext l List.mem_cons_self) _

/-! ## The leaves that say something -/

lemma filter_placedFrom (i : Nat) (c : Condition) (rest : List Condition) :
    (placedFrom i (c :: rest)).filter Leaf.isSaid =
      c.saidLeaves.map (Leaf.under i) ++ (placedFrom (i + 1) rest).filter Leaf.isSaid := by
  rw [placedFrom, List.filter_append, List.filter_map, saidLeaves]
  rfl

lemma texts_eq_nil_iff : texts cs = [] ↔ allEmpty cs = true := by
  rw [texts_eq, List.map_eq_nil_iff, allEmpty_eq, List.isEmpty_iff]

lemma filter_placedFrom_eq_nil_iff (h : ∀ c ∈ cs, c.saidLeaves = [] ↔ c.isEmpty = true) :
    ∀ i, (placedFrom i cs).filter Leaf.isSaid = [] ↔ allEmpty cs = true := by
  induction cs with
  | nil => exact fun _ => iff_of_true rfl rfl
  | cons c rest ih =>
      intro i
      obtain ⟨hc, hrest⟩ := List.forall_mem_cons.mp h
      rw [filter_placedFrom, List.append_eq_nil_iff, List.map_eq_nil_iff, hc, ih hrest, allEmpty,
        Bool.and_eq_true]

/-- A tree is empty when no leaf of it says anything. -/
lemma saidLeaves_eq_nil_iff (c : Condition) : c.saidLeaves = [] ↔ c.isEmpty = true := by
  induction c using childrenInduction with
  | raw sql =>
      rw [saidLeaves, placed, isEmpty, List.filter_cons, List.filter_nil, Leaf.isSaid]
      cases (SqlFragments.stripConnector sql).isEmpty <;> simp
  | all cs ih =>
      rw [isEmpty]
      exact filter_placedFrom_eq_nil_iff ih 0
  | any cs ih =>
      rw [isEmpty]
      exact filter_placedFrom_eq_nil_iff ih 0

lemma text_ne_nil_of_mem {l : Leaf} (h : l ∈ c.saidLeaves) : l.text ≠ [] := by
  have hsaid := (List.mem_filter.mp h).2
  intro hnil
  rw [Leaf.text, lowerKeywords_eq_nil_iff] at hnil
  rw [Leaf.isSaid, hnil] at hsaid
  cases hsaid

/-! ## Writing -/

/-- Children, the first of which has the number `i`, are written as their leaves in a row. -/
lemma written_children {sep : Text} (hsep : node.connective = some sep) : ∀ {cs i},
    (∀ j, node.children[i + j]? = cs[j]?) → (∀ c ∈ cs, Written c c.saidLeaves c.toText) →
    Written node ((placedFrom i cs).filter Leaf.isSaid) (Text.join sep (texts cs))
  | [], _, _, _ => Written.nil
  | c :: rest, i, hnumber, h => by
      obtain ⟨hc, hrest⟩ := List.forall_mem_cons.mp h
      have hrow := written_children (i := i + 1) hsep
        (fun j => by rw [Nat.add_right_comm, Nat.add_assoc, hnumber, List.getElem?_cons_succ]) hrest
      have hchild : Written node (c.saidLeaves.map (Leaf.under i)) c.toText :=
        hc.under (hnumber 0)
      rw [filter_placedFrom, texts]
      split_ifs with hempty
      · rw [(saidLeaves_eq_nil_iff c).mpr hempty]
        exact hrow
      · by_cases hnone : texts rest = []
        · have hleaves := (filter_placedFrom_eq_nil_iff (fun c _ => saidLeaves_eq_nil_iff c)
            (i + 1)).mpr (texts_eq_nil_iff.mp hnone)
          rw [hleaves, List.append_nil, hnone, Text.join_singleton]
          exact hchild
        · obtain ⟨t, ts, hts⟩ := List.exists_cons_of_ne_nil hnone
          rw [hts, Text.join_cons_cons, ← hts]
          refine hchild.append hrow ?_ ?_ fun l hl m hm => ⟨node, ?_, hsep⟩
          · rw [Ne, List.map_eq_nil_iff, saidLeaves_eq_nil_iff]
            exact hempty
          · rw [Ne, filter_placedFrom_eq_nil_iff fun c _ => saidLeaves_eq_nil_iff c,
              ← texts_eq_nil_iff]
            exact hnone
          · -- the two leaves are below different children
            obtain ⟨l, -, rfl⟩ := List.mem_map.mp hl
            obtain ⟨j, child, -, m, -, rfl⟩ := mem_placedFrom_iff.mp (List.mem_of_mem_filter hm)
            rw [Leaf.under, Leaf.under, meet, if_neg (by omega), subtree]

/-- **A tree is written as its leaves in a row.** -/
lemma written_toText (c : Condition) : Written c c.saidLeaves c.toText := by
  induction c using childrenInduction with
  | raw sql =>
      rw [toText, saidLeaves, placed, List.filter_cons, List.filter_nil]
      split_ifs with hsaid
      · exact Written.single ⟨[], sql⟩
      · rw [Leaf.isSaid, Bool.not_eq_true, Bool.not_eq_false', List.isEmpty_iff] at hsaid
        rw [hsaid, lowerKeywords_nil]
        exact Written.nil
  | all cs ih =>
      rw [toText]
      have hsep : (all cs).connective = some _ := rfl
      exact written_children hsep (fun j => by rw [Nat.zero_add, children]) ih
  | any cs ih =>
      rw [toText]
      have hsep : (any cs).connective = some _ := rfl
      exact written_children hsep (fun j => by rw [Nat.zero_add, children]) ih

/-- **Only what is empty is written as nothing.** -/
lemma toText_eq_nil_iff (c : Condition) : c.toText = [] ↔ c.isEmpty = true := by
  refine ⟨fun hnil => ?_, toText_of_isEmpty⟩
  by_contra hempty
  have hleaves : c.saidLeaves ≠ [] := fun h => hempty ((saidLeaves_eq_nil_iff c).mp h)
  exact (written_toText c).ne_nil hleaves (fun l hl => text_ne_nil_of_mem hl) hnil

/-! ## Nodes in nodes of their kind -/

lemma texts_append (a b : List Condition) : texts (a ++ b) = texts a ++ texts b := by
  simp only [texts_eq, kept, List.filter_append, List.map_append]

lemma texts_append_of_isEmpty (h : c.isEmpty = true) (a b : List Condition) :
    texts (a ++ c :: b) = texts (a ++ b) := by
  rw [texts_append, texts_append, texts, if_pos h]

/-- A child that is written as its own children with the same separator might as well be replaced
by them. -/
lemma join_texts_nested {sep : Text} (hempty : node.isEmpty = allEmpty node.children)
    (htext : node.toText = Text.join sep (texts node.children)) (a b : List Condition) :
    Text.join sep (texts (a ++ node :: b)) = Text.join sep (texts (a ++ node.children ++ b)) := by
  rw [texts_append, texts_append, texts_append, texts, hempty]
  split_ifs with h
  · rw [texts_eq_nil_iff.mpr h, List.append_nil]
  · rw [htext]
    refine intercalate_nested (fun hnil => h ?_) _ _
    exact texts_eq_nil_iff.mp hnil

/-- **A tree is written as its fragments in their order.**  The leaves of a tree are its fragments
from left to right.  Those that say something are written in a row, each without its leading
connector and with its keywords in lower case; between two neighbours stands the connective of the
lowest node above both.  What is written is empty only if the tree is.  So a node in a node of its
kind might as well be replaced by its children, and a child that is empty might as well be left
out. -/
theorem toText_in_order (c : Condition) :
    (∀ l, l ∈ c.placed ↔ c.subtree l.address = some (raw l.fragment)) ∧
    c.placed.Pairwise (·.address < ·.address) ∧
    Written c (c.placed.filter Leaf.isSaid) c.toText ∧
    (c.isEmpty = true ↔ c.toText = []) ∧
    (∀ a cs b, (all (a ++ all cs :: b)).toText = (all (a ++ cs ++ b)).toText ∧
      (any (a ++ any cs :: b)).toText = (any (a ++ cs ++ b)).toText) ∧
    ∀ a empty b, empty.isEmpty = true →
      (all (a ++ empty :: b)).toText = (all (a ++ b)).toText ∧
      (any (a ++ empty :: b)).toText = (any (a ++ b)).toText := by
  refine ⟨mem_placed_iff c, pairwise_placed c, written_toText c, (toText_eq_nil_iff c).symm,
    fun a cs b => ⟨?_, ?_⟩, fun a empty b hempty => ⟨?_, ?_⟩⟩
  · rw [toText, toText]
    have hempty : (all cs).isEmpty = allEmpty (all cs).children := by rw [isEmpty, children]
    exact join_texts_nested hempty (by rw [toText, children]) a b
  · rw [toText, toText]
    have hempty : (any cs).isEmpty = allEmpty (any cs).children := by rw [isEmpty, children]
    exact join_texts_nested hempty (by rw [toText, children]) a b
  · rw [toText, toText, texts_append_of_isEmpty hempty]
  · rw [toText, toText, texts_append_of_isEmpty hempty]

/-- A disjunction in a conjunction, with a lone connector and nodes without children between and
behind its fragments. -/
def gappedTree : Condition :=
  .all [.any [.raw "WHERE a".toList, .all [], .raw "b".toList], .raw " And ".toList,
    .all [.raw "AND c = 'And'".toList, .any []]]

theorem toText_in_order_gapped :
    (raw " And ".toList).isEmpty = true ∧ gappedTree.toText = "a or b and c = 'And'".toList ∧
    gappedTree.placed.filter Leaf.isSaid = [⟨[0, 0], "WHERE a".toList⟩, ⟨[0, 2], "b".toList⟩,
      ⟨[2, 0], "AND c = 'And'".toList⟩] ∧
    Written gappedTree (gappedTree.placed.filter Leaf.isSaid) gappedTree.toText ∧
    gappedTree.toText
      = (all (gappedTree.children.take 1 ++ gappedTree.children.drop 2)).toText := by
  have hempty : (raw " And ".toList).isEmpty = true := by decide
  obtain ⟨-, -, hwritten, -, -, hleft⟩ := toText_in_order gappedTree
  have hpruned := hleft (gappedTree.children.take 1) _ (gappedTree.children.drop 2) hempty
  exact ⟨hempty, by decide +kernel, by decide +kernel, hwritten, hpruned.1⟩

end Condition

end SqlFragments
