import SqlFragments.Order.Item
import SqlFragments.Proofs.Token.Bracket

/-!
# Outside parentheses

Commas and clause words count only where no parenthesis is open.  A list of tokens is cut there by
counting parentheses from left to right.  For a stretch in which parentheses match, the count comes
back to what it was, so the cut passes over the stretch as a whole if nothing outside its
parentheses is a place to cut at.

* `closesFrom`, **`balanced_iff`** — matching can be decided by counting.
* `outside` — the tokens of a list at which no parenthesis is open.
* `cutOutside` — a list cut at its headings outside parentheses.
* **`Balanced.cutOutside_append`** — a matching stretch without headings is passed over.
* `cutOutside_append_of_commaless` — and so are tokens without a comma, if commas are looked for.
* `cutCommas`, **`cutCommas_commaList`** — entries with commas between them are cut out again.
-/

namespace SqlFragments

/-! ## Counting -/

lemma depthAfter_plain {t : Token} (h1 : t ≠ .leftParen) (h2 : t ≠ .rightParen) (depth : Nat) :
    depthAfter depth t = depth := by
  unfold depthAfter
  split
  · exact absurd rfl h1
  · exact absurd rfl h2
  · rfl

/-- Whether the parentheses of some tokens and `depth` further ones in front match. -/
def closesFrom (depth : Nat) : List Token → Bool
  | [] => depth == 0
  | t :: rest => (t != .rightParen || depth != 0) && closesFrom (depthAfter depth t) rest

lemma closesFrom_plain {t : Token} (h1 : t ≠ .leftParen) (h2 : t ≠ .rightParen) (depth : Nat)
    (rest : List Token) : closesFrom depth (t :: rest) = closesFrom depth rest := by
  rw [closesFrom, depthAfter_plain h1 h2, bne_iff_ne.mpr h2, Bool.true_or, Bool.true_and]

lemma closesFrom_left (depth : Nat) (rest : List Token) :
    closesFrom depth (.leftParen :: rest) = closesFrom (depth + 1) rest := rfl

lemma closesFrom_right (depth : Nat) (rest : List Token) :
    closesFrom (depth + 1) (.rightParen :: rest) = closesFrom depth rest := rfl

lemma Balanced.closesFrom_append {ts : List Token} (h : Balanced ts) : ∀ (depth : Nat)
    (rest : List Token), closesFrom depth (ts ++ rest) = closesFrom depth rest := by
  induction h with
  | nil => exact fun _ _ => rfl
  | plain h1 h2 _ ih =>
      intro depth rest
      rw [List.cons_append, closesFrom_plain h1 h2, ih]
  | group _ _ ihInner ihRest =>
      intro depth rest
      rw [List.cons_append, List.append_assoc, List.cons_append, closesFrom_left, ihInner,
        closesFrom_right, ihRest]

/-- An open parenthesis is closed by the one behind the shortest stretch that matches. -/
lemma exists_closing (n : Nat) : ∀ {ts : List Token} {depth : Nat}, ts.length = n →
    closesFrom (depth + 1) ts = true → ∃ inner rest, Balanced inner ∧
      ts = inner ++ .rightParen :: rest ∧ closesFrom depth rest = true := by
  induction n using Nat.strongRecOn with
  | _ n ih =>
      intro ts depth hn h
      cases ts with
      | nil => cases h
      | cons t ts =>
          rw [List.length_cons] at hn
          by_cases hright : t = .rightParen
          · subst hright
            exact ⟨[], ts, Balanced.nil, rfl, h⟩
          by_cases hleft : t = .leftParen
          · -- its own partner comes first, the one that is looked for behind it
            subst hleft
            rw [closesFrom_left] at h
            obtain ⟨group, more, hgroup, rfl, hmore⟩ := ih _ (by omega) rfl h
            rw [List.length_append, List.length_cons] at hn
            obtain ⟨inner, rest, hinner, rfl, hrest⟩ := ih _ (by omega) rfl hmore
            refine ⟨.leftParen :: (group ++ .rightParen :: inner), rest,
              Balanced.group hgroup hinner, ?_, hrest⟩
            rw [List.cons_append, List.append_assoc, List.cons_append]
          · rw [closesFrom_plain hleft hright] at h
            obtain ⟨inner, rest, hinner, rfl, hrest⟩ := ih _ (by omega) rfl h
            exact ⟨t :: inner, rest, Balanced.plain hleft hright hinner, rfl, hrest⟩

lemma balanced_of_closesFrom (n : Nat) : ∀ {ts : List Token}, ts.length = n →
    closesFrom 0 ts = true → Balanced ts := by
  induction n using Nat.strongRecOn with
  | _ n ih =>
      intro ts hn h
      cases ts with
      | nil => exact Balanced.nil
      | cons t ts =>
          rw [List.length_cons] at hn
          by_cases hright : t = .rightParen
          · subst hright
            cases h
          by_cases hleft : t = .leftParen
          · subst hleft
            obtain ⟨inner, rest, hinner, rfl, hrest⟩ := exists_closing _ rfl h
            rw [List.length_append, List.length_cons] at hn
            exact Balanced.group hinner (ih _ (by omega) rfl hrest)
          · rw [closesFrom_plain hleft hright] at h
            exact Balanced.plain hleft hright (ih _ (by omega) rfl h)

/-- **Parentheses match** when the count of open ones never goes below zero and ends there. -/
lemma balanced_iff (ts : List Token) : Balanced ts ↔ closesFrom 0 ts = true := by
  refine ⟨fun h => ?_, balanced_of_closesFrom _ rfl⟩
  have happ := h.closesFrom_append 0 []
  rw [List.append_nil] at happ
  rw [happ]
  rfl

instance : DecidablePred Balanced := fun ts => decidable_of_iff' _ (balanced_iff ts)

/-! ## Tokens outside parentheses -/

/-- The number of open parentheses behind some tokens, `depth` being open in front. -/
def depthBehind (depth : Nat) (ts : List Token) : Nat :=
  ts.foldl depthAfter depth

/-- The tokens at which no parenthesis is open, `depth` being open in front of the first. -/
def outside (depth : Nat) : List Token → List Token
  | [] => []
  | t :: rest =>
    if depth = 0 then t :: outside (depthAfter depth t) rest else outside (depthAfter depth t) rest

/-- A matching stretch leaves the count as it was. -/
lemma Balanced.depthBehind_eq {ts : List Token} (h : Balanced ts) :
    ∀ depth : Nat, depthBehind depth ts = depth := by
  induction h with
  | nil => exact fun _ => rfl
  | plain h1 h2 _ ih =>
      intro depth
      rw [depthBehind, List.foldl_cons, depthAfter_plain h1 h2]
      exact ih depth
  | group _ _ ihInner ihRest =>
      intro depth
      rw [depthBehind, List.foldl_cons, List.foldl_append, List.foldl_cons]
      exact (congrArg (fun d => depthBehind (d - 1) _) (ihInner (depth + 1))).trans (ihRest depth)

lemma mem_outside_cons {t u : Token} {rest : List Token} {depth : Nat} :
    u ∈ outside depth (t :: rest) ↔ depth = 0 ∧ t = u ∨ u ∈ outside (depthAfter depth t) rest := by
  rw [outside]
  split_ifs with hdepth
  · rw [List.mem_cons, eq_comm, and_iff_right hdepth]
  · rw [or_iff_right fun h => hdepth h.1]

lemma outside_append (ts rest : List Token) : ∀ depth : Nat,
    outside depth (ts ++ rest) = outside depth ts ++ outside (depthBehind depth ts) rest := by
  induction ts with
  | nil => exact fun _ => rfl
  | cons t more ih =>
      intro depth
      rw [List.cons_append, outside, outside, ih]
      split_ifs
      · rfl
      · rfl

lemma outside_plain {t : Token} (h1 : t ≠ .leftParen) (h2 : t ≠ .rightParen) (rest : List Token) :
    outside 0 (t :: rest) = t :: outside 0 rest := by
  rw [outside, if_pos rfl, depthAfter_plain h1 h2]

/-- Nothing of a matching stretch is outside when a parenthesis is open in front of it. -/
lemma Balanced.outside_inside {inner : List Token} (h : Balanced inner) : ∀ (depth : Nat)
    (rest : List Token), outside (depth + 1) (inner ++ rest) = outside (depth + 1) rest := by
  induction h with
  | nil => exact fun _ _ => rfl
  | plain h1 h2 _ ih =>
      intro depth rest
      rw [List.cons_append, outside, if_neg (Nat.succ_ne_zero depth), depthAfter_plain h1 h2, ih]
  | group _ _ ihInner ihRest =>
      intro depth rest
      rw [List.cons_append, List.append_assoc, List.cons_append, outside,
        if_neg (Nat.succ_ne_zero depth)]
      refine (ihInner (depth + 1) _).trans ?_
      rw [outside, if_neg (Nat.succ_ne_zero (depth + 1))]
      exact ihRest depth rest

lemma outside_group {inner : List Token} (h : Balanced inner) (rest : List Token) :
    outside 0 (.leftParen :: (inner ++ .rightParen :: rest)) = .leftParen :: outside 0 rest := by
  rw [outside, if_pos rfl]
  refine congrArg _ ((h.outside_inside 0 _).trans ?_)
  rw [outside, if_neg (Nat.succ_ne_zero 0)]
  rfl

lemma Balanced.outside_append {ts : List Token} (h : Balanced ts) (rest : List Token) :
    outside 0 (ts ++ rest) = outside 0 ts ++ outside 0 rest := by
  rw [SqlFragments.outside_append, h.depthBehind_eq]

/-! ## Cutting -/

section

variable {α : Type} (heading : Token → List Token → Option α)

/-- Some tokens cut at their headings outside parentheses: what stands in front of the first
heading, and every heading with what stands behind it.  A heading is a token, known as one by what
follows it. -/
def cutOutside (depth : Nat) : List Token → List Token × List (α × List Token)
  | [] => ([], [])
  | t :: rest =>
    let more := cutOutside (depthAfter depth t) rest
    match if depth = 0 then heading t rest else none with
    | some a => ([], (a, more.1) :: more.2)
    | none => (t :: more.1, more.2)

lemma cutOutside_heading {t : Token} {rest : List Token} {a : α} (h : heading t rest = some a) :
    cutOutside heading 0 (t :: rest) =
      ([], (a, (cutOutside heading (depthAfter 0 t) rest).1) ::
        (cutOutside heading (depthAfter 0 t) rest).2) := by
  rw [cutOutside, if_pos rfl, h]

lemma cutOutside_other {t : Token} {rest : List Token} {depth : Nat}
    (h : depth = 0 → heading t rest = none) :
    cutOutside heading depth (t :: rest) =
      (t :: (cutOutside heading (depthAfter depth t) rest).1,
        (cutOutside heading (depthAfter depth t) rest).2) := by
  have hnone : (if depth = 0 then heading t rest else none) = none := by
    split_ifs with hdepth
    · exact h hdepth
    · rfl
  rw [cutOutside, hnone]

/-- **A matching stretch is passed over** if none of its tokens outside parentheses is a
heading. -/
lemma Balanced.cutOutside_append {ts : List Token} (h : Balanced ts) : ∀ depth : Nat,
    (depth = 0 → ∀ t ∈ outside 0 ts, ∀ rest, heading t rest = none) → ∀ rest : List Token,
    cutOutside heading depth (ts ++ rest) =
      (ts ++ (cutOutside heading depth rest).1, (cutOutside heading depth rest).2) := by
  induction h with
  | nil => exact fun _ _ _ => rfl
  | plain h1 h2 _ ih =>
      intro depth hnone rest
      rw [outside_plain h1 h2] at hnone
      rw [List.cons_append, cutOutside_other heading fun h0 => hnone h0 _ List.mem_cons_self _,
        depthAfter_plain h1 h2, ih depth fun h0 t ht => hnone h0 t (List.mem_cons_of_mem _ ht)]
      rfl
  | group hinner _ ihInner ihRest =>
      intro depth hnone rest
      rw [outside_group hinner] at hnone
      have hright : depthAfter (depth + 1) .rightParen = depth := rfl
      rw [List.cons_append, List.append_assoc, List.cons_append,
        cutOutside_other heading fun h0 => hnone h0 _ List.mem_cons_self _]
      have hinside := ihInner (depth + 1) (fun h0 => absurd h0 (Nat.succ_ne_zero depth))
      rw [show depthAfter depth .leftParen = depth + 1 from rfl, hinside,
        cutOutside_other heading (fun h0 => absurd h0 (Nat.succ_ne_zero depth)), hright,
        ihRest depth fun h0 t ht => hnone h0 t (List.mem_cons_of_mem _ ht)]
      simp only [List.cons_append, List.append_assoc]

end

/-! ## Commas -/

/-- Entries with commas between them. -/
def commaList (entries : List (List Token)) : List Token :=
  [.comma].intercalate entries

@[simp] lemma commaList_singleton (e : List Token) : commaList [e] = e := by
  simp [commaList, List.intercalate]

@[simp] lemma commaList_cons_cons (a b : List Token) (rest : List (List Token)) :
    commaList (a :: b :: rest) = a ++ .comma :: commaList (b :: rest) := by
  simp [commaList, List.intercalate]

/-- A comma, whatever follows. -/
def commaHeading (t : Token) (_ : List Token) : Option Unit :=
  if t = .comma then some () else none

/-- Some tokens cut at the commas outside parentheses. -/
def cutCommas (ts : List Token) : List (List Token) :=
  (cutOutside commaHeading 0 ts).1 :: (cutOutside commaHeading 0 ts).2.map Prod.snd

/-- A cut at commas passes over tokens without a comma outside parentheses. -/
lemma cutOutside_append_of_commaless (more ts : List Token) : ∀ depth : Nat,
    .comma ∉ outside depth ts → cutOutside commaHeading depth (ts ++ more) =
      (ts ++ (cutOutside commaHeading (depthBehind depth ts) more).1,
        (cutOutside commaHeading (depthBehind depth ts) more).2) := by
  induction ts with
  | nil => exact fun depth _ => rfl
  | cons t rest ih =>
      intro depth h
      rw [mem_outside_cons, not_or] at h
      obtain ⟨hother, hrest⟩ := h
      have hnone : depth = 0 → commaHeading t (rest ++ more) = none := fun hdepth =>
        if_neg fun hcomma => hother ⟨hdepth, hcomma⟩
      rw [List.cons_append, cutOutside_other commaHeading hnone, ih _ hrest]
      rfl

lemma cutCommas_append {ts : List Token} (hdepth : depthBehind 0 ts = 0)
    (hcomma : .comma ∉ outside 0 ts) (rest : List Token) :
    cutCommas (ts ++ .comma :: rest) = ts :: cutCommas rest := by
  rw [cutCommas, cutOutside_append_of_commaless _ _ 0 hcomma, hdepth,
    cutOutside_heading _ (show commaHeading .comma rest = some () from rfl)]
  simp only [List.append_nil, List.map_cons]
  rfl

lemma cutCommas_of_commaless {ts : List Token} (hcomma : .comma ∉ outside 0 ts) :
    cutCommas ts = [ts] := by
  have hcut := cutOutside_append_of_commaless [] ts 0 hcomma
  rw [List.append_nil] at hcut
  rw [cutCommas, hcut]
  simp [cutOutside]

/-- **Entries are cut out again** if their parentheses match and their commas stand inside. -/
lemma cutCommas_commaList : ∀ {entries : List (List Token)}, entries ≠ [] →
    (∀ e ∈ entries, Balanced e ∧ .comma ∉ outside 0 e) → cutCommas (commaList entries) = entries
  | [], hne, _ => absurd rfl hne
  | [e], _, h => by
      obtain ⟨-, hcomma⟩ := h e List.mem_cons_self
      rw [commaList_singleton, cutCommas_of_commaless hcomma]
  | a :: b :: rest, _, h => by
      obtain ⟨⟨hbalanced, hcomma⟩, hrest⟩ := List.forall_mem_cons.mp h
      rw [commaList_cons_cons, cutCommas_append (hbalanced.depthBehind_eq 0) hcomma,
        cutCommas_commaList (List.cons_ne_nil b rest) hrest]

end SqlFragments
