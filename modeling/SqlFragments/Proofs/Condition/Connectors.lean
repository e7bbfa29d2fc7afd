import Mathlib.Data.List.Sort
import SqlFragments.Proofs.Condition.Redirection

/-!
# Which connectors are written in capitals

The `and` and `or` that join the predicates of a condition are written in capitals.  An `and` may
also be the second half of a `between`, and then it keeps its case.  Which `between` an `and`
belongs to is a matter of matching, group by group.  The pass over the tokens keeps no more than
one `between` that waits, the last one that it came by.

* `SameGroup`, `ClosesBetween` — two places of one group; the `and` that a `between` is closed by.
* `Capitalised` — the rule: the connectors that are written in capitals.
* `Waits` — the `between` that the pass has in mind, told from the tokens.
* `waits_succ_iff`, **`redirectToken_waits`** — one token, and what waits behind it.
* `redirectTokens_run` — what every step keeps holds along the whole pass.
* **`usePlaceholder_capitalises_connectors`** — all keywords of a condition.
* **`not_keeps_and_of_outer_between`** — a `between` in the lower bound of another one is in its
  way.
-/

namespace SqlFragments

variable {ts : List Token} {i j : Nat}

/-! ## The rule -/

/-- A place holds the given keyword. -/
def WordAt (ts : List Token) (word : Text) (i : Nat) : Prop :=
  ts[i]?.any (·.isKeyword word) = true

instance (ts : List Token) (word : Text) : DecidablePred (WordAt ts word) := fun i =>
  inferInstanceAs (Decidable (ts[i]?.any (·.isKeyword word) = true))

/-- Two places lie directly in the same group: the same parentheses are open at both. -/
def SameGroup (ts : List Token) (i j : Nat) : Prop :=
  ∀ p, OpenAt ts p i ↔ OpenAt ts p j

/-- The `between` at `j` is closed by the `and` at `i`: the first one behind it, directly in its
group, that does not close a later `between`. -/
def ClosesBetween (ts : List Token) (j i : Nat) : Prop :=
  WordAt ts "between".toList j ∧ WordAt ts "and".toList i ∧ j < i ∧ SameGroup ts j i ∧
    (∀ k, j < k → k < i → ¬ ClosesBetween ts k i) ∧
    ∀ k, j < k → k < i → WordAt ts "and".toList k → SameGroup ts j k →
      ∃ l, ∃ _ : j < l, ClosesBetween ts l k
termination_by i - j

/-- **The rule.**  Outside subqueries, every `or` is written in capitals, and so is every `and`
but one that closes a `between` with no other `between` behind it. -/
inductive Capitalised (ts : List Token) (i : Nat) : Text → Text → Prop
  | or {w : Text} : w.sameLetters "or".toList = true → ¬ InSubquery ts i →
      Capitalised ts i w "OR".toList
  | and {w : Text} : w.sameLetters "and".toList = true → ¬ InSubquery ts i →
      (∀ j, ClosesBetween ts j i → ∃ k, j < k ∧ k < i ∧ WordAt ts "between".toList k) →
      Capitalised ts i w "AND".toList

/-! ## Open parentheses by place -/

/-- The parentheses that are open before a place, innermost first. -/
def openParens (ts : List Token) (i : Nat) : List Nat :=
  bracketRun [] 0 (ts.take i)

lemma openParens_succ {t : Token} (ht : ts[i]? = some t) :
    openParens ts (i + 1) = bracketStep (openParens ts i) i t := by
  have hi : i < ts.length := (List.getElem?_eq_some_iff.mp ht).1
  have hlen : (ts.take i).length = i := by simp; omega
  rw [openParens, take_succ_eq_append ht, bracketRun_append, hlen, Nat.zero_add]
  rfl

lemma lt_of_mem_openParens {p : Nat} (h : p ∈ openParens ts i) : p < i := by
  have hp := (List.getElem?_eq_some_iff.mp ((stackFits_bracketRun (ts.take i)).of_mem h)).1
  simp at hp
  omega

/-- Open parentheses lie one inside the other. -/
lemma StackFits.sorted {stack : List Nat} (h : StackFits ts stack) :
    stack.Pairwise (· > ·) := by
  induction h with
  | nil => exact List.Pairwise.nil
  | cons hb _ ih =>
      exact List.pairwise_cons.mpr
        ⟨fun p hp => (List.getElem?_eq_some_iff.mp (hb.of_mem hp)).1, ih⟩

/-- **Places of one group** have the same open parentheses, in the same order. -/
lemma sameGroup_iff (hi : i ≤ ts.length) (hj : j ≤ ts.length) :
    SameGroup ts i j ↔ openParens ts i = openParens ts j := by
  simp only [SameGroup, ← mem_bracketRun_iff_openAt ts hi, ← mem_bracketRun_iff_openAt ts hj]
  constructor
  · intro h
    exact (stackFits_bracketRun _).sorted.eq_of_mem_iff (stackFits_bracketRun _).sorted h
  · intro h p
    exact iff_of_eq (congrArg (p ∈ ·) h)

/-- **A group stays open** behind a token if as many parentheses are open there. -/
lemma suffix_openParens_succ {t : Token} (ht : ts[i]? = some t) (hj : j ≤ i) :
    openParens ts j <:+ openParens ts (i + 1) ↔ openParens ts j <:+ openParens ts i ∧
      (openParens ts j).length ≤ (openParens ts (i + 1)).length := by
  have hlength : ∀ {s : List Nat}, openParens ts j <:+ s ↔
      openParens ts j <:+ s ∧ (openParens ts j).length ≤ s.length :=
    ⟨fun h => ⟨h, h.length_le⟩, And.left⟩
  rw [openParens_succ ht]
  cases t with
  | leftParen =>
      simp only [bracketStep, List.suffix_cons_iff, List.length_cons]
      constructor
      · rintro (h | h)
        · -- the parenthesis at `i` is none of those that are open at `j`
          have hmem : i ∈ openParens ts j := by simp [h]
          have := lt_of_mem_openParens hmem
          omega
        · exact ⟨h, Nat.le_succ_of_le h.length_le⟩
      · exact fun h => Or.inr h.1
  | rightParen =>
      simp only [bracketStep]
      constructor
      · exact fun h => ⟨h.trans (List.tail_suffix _), h.length_le⟩
      · rintro ⟨h, hle⟩
        cases hs : openParens ts i with
        | nil => simpa [hs] using h
        | cons p outer =>
            rw [hs, List.suffix_cons_iff] at h
            rcases h with h | h
            · rw [h, hs] at hle
              simp at hle
            · exact h
  | _ => exact hlength

/-! ## The `between` that waits -/

/-- The `between` at `j` waits at `i`: it is the last one, its group is still open, and no `and` of
its group stands behind it. -/
structure Waits (ts : List Token) (j i : Nat) : Prop where
  word : WordAt ts "between".toList j
  before : j < i
  last : ∀ k, j < k → k < i → ¬ WordAt ts "between".toList k
  stays : openParens ts j <:+ openParens ts i
  alone : ∀ k, j < k → k < i → WordAt ts "and".toList k → ¬ SameGroup ts j k

/-- A `between` is closed by an `and` of its group if the group has neither of the two words in
between. -/
lemma closesBetween_of_alone (hword : WordAt ts "between".toList j)
    (hand : WordAt ts "and".toList i) (hlt : j < i) (hgroup : SameGroup ts j i)
    (halone : ∀ k, j < k → k < i → WordAt ts "between".toList k ∨ WordAt ts "and".toList k →
      ¬ SameGroup ts j k) : ClosesBetween ts j i := by
  rw [ClosesBetween]
  refine ⟨hword, hand, hlt, hgroup, ?_, ?_⟩
  · intro k hjk hki hcloses
    rw [ClosesBetween] at hcloses
    obtain ⟨hk, -, -, hsame, -⟩ := hcloses
    exact halone k hjk hki (Or.inl hk) fun p => (hgroup p).trans (hsame p).symm
  · intro k hjk hki hk hsame
    exact absurd hsame (halone k hjk hki (Or.inr hk))

/-- At most one `between` waits. -/
lemma Waits.unique {k : Nat} (h : Waits ts j i) (h' : Waits ts k i) : j = k := by
  rcases Nat.lt_trichotomy j k with hlt | heq | hlt
  · exact absurd h'.word (h.last k hlt h'.before)
  · exact heq
  · exact absurd h.word (h'.last j hlt h.before)

/-- An `and` in the group of a `between` that waits closes it. -/
lemma Waits.closes (h : Waits ts j i) (hand : WordAt ts "and".toList i)
    (hgroup : SameGroup ts j i) : ClosesBetween ts j i := by
  refine closesBetween_of_alone h.word hand h.before hgroup fun k hjk hki hk => ?_
  rcases hk with hk | hk
  · exact absurd hk (h.last k hjk hki)
  · exact h.alone k hjk hki hk

/-- A `between` waits up to the `and` that closes it, if no other one stands behind it. -/
lemma ClosesBetween.waits (h : ClosesBetween ts j i) (hi : i ≤ ts.length)
    (hlast : ∀ k, j < k → k < i → ¬ WordAt ts "between".toList k) :
    Waits ts j i ∧ SameGroup ts j i := by
  rw [ClosesBetween] at h
  obtain ⟨hword, -, hji, hgroup, -, hearlier⟩ := h
  refine ⟨⟨hword, hji, hlast, ?_, ?_⟩, hgroup⟩
  · rw [(sameGroup_iff (by omega) hi).mp hgroup]
  · intro k hjk hki hk hsame
    obtain ⟨l, hjl, hl⟩ := hearlier k hjk hki hk hsame
    rw [ClosesBetween] at hl
    exact hlast l hjl (by omega) hl.1

/-- **What waits behind a token**: a `between` at that place, or the one that waited before, if
the token is neither its `and` nor the end of its group. -/
lemma waits_succ_iff {t : Token} (ht : ts[i]? = some t) :
    Waits ts j (i + 1) ↔ j = i ∧ WordAt ts "between".toList i ∨
      Waits ts j i ∧ ¬ WordAt ts "between".toList i ∧
        ¬ (WordAt ts "and".toList i ∧ SameGroup ts j i) ∧
        (openParens ts j).length ≤ (openParens ts (i + 1)).length := by
  constructor
  · rintro ⟨hword, hlt, hlast, hstays, halone⟩
    by_cases hj : j = i
    · subst hj
      exact Or.inl ⟨rfl, hword⟩
    · have hji : j < i := by omega
      obtain ⟨hbefore, hlength⟩ := (suffix_openParens_succ ht hji.le).mp hstays
      refine Or.inr ⟨⟨hword, hji, fun k hk hki => hlast k hk (by omega), hbefore,
        fun k hk hki => halone k hk (by omega)⟩, hlast i hji (Nat.lt_succ_self i), ?_, hlength⟩
      rintro ⟨hand, hgroup⟩
      exact halone i hji (Nat.lt_succ_self i) hand hgroup
  · rintro (⟨rfl, hword⟩ | ⟨h, hbetween, hand, hlength⟩)
    · refine ⟨hword, Nat.lt_succ_self j, fun k hk hki => by omega, ?_, fun k hk hki => by omega⟩
      have hsame : bracketStep (openParens ts j) j t = openParens ts j := by
        refine bracketStep_of_ne ?_ ?_ _ _ <;>
          · rintro rfl
            rw [WordAt, ht] at hword
            cases hword
      rw [openParens_succ ht, hsame]
    · have hsucc : ∀ {P : Nat → Prop}, (∀ k, j < k → k < i → P k) → P i →
          ∀ k, j < k → k < i + 1 → P k := by
        intro P hbelow hi k hk hki
        rcases Nat.lt_succ_iff_lt_or_eq.mp hki with hlt | rfl
        · exact hbelow k hk hlt
        · exact hi
      exact ⟨h.word, Nat.lt_succ_of_lt h.before, hsucc h.last hbetween,
        (suffix_openParens_succ ht h.before.le).mpr ⟨h.stays, hlength⟩,
        hsucc h.alone fun hi hgroup => hand ⟨hi, hgroup⟩⟩

lemma waits_succ_of_other {t : Token} (ht : ts[i]? = some t)
    (hbetween : ¬ WordAt ts "between".toList i)
    (hand : ∀ j, Waits ts j i → WordAt ts "and".toList i → ¬ SameGroup ts j i)
    (hlength : (openParens ts i).length ≤ (openParens ts (i + 1)).length) :
    Waits ts j (i + 1) ↔ Waits ts j i := by
  rw [waits_succ_iff ht]
  constructor
  · rintro (⟨-, hword⟩ | ⟨h, -⟩)
    · exact absurd hword hbetween
    · exact h
  · intro h
    exact Or.inr ⟨h, hbetween, fun hi => hand j h hi.1 hi.2, h.stays.length_le.trans hlength⟩

lemma Waits.sameGroup_iff (h : Waits ts j i) (hi : i ≤ ts.length) :
    SameGroup ts j i ↔ (openParens ts j).length = (openParens ts i).length := by
  rw [SqlFragments.sameGroup_iff (by have := h.before; omega) hi]
  exact ⟨congrArg List.length, h.stays.eq_of_length⟩

/-! ## One token -/

/-- The scope at a place: the flags of the open parentheses, and the depth of the `between` that
waits. -/
structure ScopeFits (ts : List Token) (i : Nat) (scope : Scope) : Prop where
  brackets : scope.brackets = scopeFlags ts i
  between : ∀ d, scope.between = some d ↔ ∃ j, Waits ts j i ∧ d = (openParens ts j).length

lemma length_scopeFlags (ts : List Token) (i : Nat) :
    (scopeFlags ts i).length = (openParens ts i).length :=
  List.length_map _

lemma wordAt_iff {t : Token} (ht : ts[i]? = some t) (word : Text) :
    WordAt ts word i ↔ t.isKeyword word = true := by
  rw [WordAt, ht, Option.any_some]

/-- A word is in no case both of two keywords. -/
lemma not_sameLetters_of_ne {w a b : Text} (ha : w.sameLetters a = true)
    (hab : a.toAsciiLower ≠ b.toAsciiLower) : w.sameLetters b = false := by
  rw [← Bool.not_eq_true]
  intro hb
  exact hab ((Text.sameLetters_iff.mp ha).symm.trans (Text.sameLetters_iff.mp hb))

/-- A keyword leaves in mind the `between` that waits behind it. -/
lemma recaseKeyword_waits {w : Text} {scope : Scope} (ht : ts[i]? = some (.keyword w))
    (hfits : ScopeFits ts i scope) : ∀ d, (recaseKeyword scope w).2.between = some d ↔
      ∃ j, Waits ts j (i + 1) ∧ d = (openParens ts j).length := by
  have hi : i < ts.length := (List.getElem?_eq_some_iff.mp ht).1
  have hdepth : scope.brackets.length = (openParens ts i).length := by
    rw [hfits.brackets, length_scopeFlags]
  have hword : ∀ word : Text, WordAt ts word i ↔ w.sameLetters word = true := wordAt_iff ht
  have hsame : openParens ts (i + 1) = openParens ts i := openParens_succ ht
  intro d
  simp only [recaseKeyword]
  split_ifs with hbetween hand hconnector
  · -- the `between` at this place waits now, whatever waited before
    have hhere : WordAt ts "between".toList i := (hword _).mpr hbetween
    simp only [Option.some.injEq, hdepth]
    constructor
    · rintro rfl
      exact ⟨i, (waits_succ_iff ht).mpr (Or.inl ⟨rfl, hhere⟩), rfl⟩
    · rintro ⟨j, hwaits, rfl⟩
      rcases (waits_succ_iff ht).mp hwaits with ⟨rfl, -⟩ | ⟨-, hnot, -⟩
      · rfl
      · exact absurd hhere hnot
  · -- the `and` of the `between` that waited: nothing waits any more
    rw [Bool.and_eq_true, beq_iff_eq, hdepth] at hand
    obtain ⟨k, hk, hlength⟩ := (hfits.between _).mp hand.2
    constructor
    · rintro ⟨⟩
    · rintro ⟨j, hwaits, -⟩
      rcases (waits_succ_iff ht).mp hwaits with ⟨-, hhere⟩ | ⟨h, -, hnot, -⟩
      · exact absurd ((hword _).mp hhere) hbetween
      · obtain rfl := hk.unique h
        exact absurd ⟨(hword _).mpr hand.1, (hk.sameGroup_iff hi.le).mpr hlength.symm⟩ hnot
  all_goals
    -- an `and` of another group, or another word
    rw [Bool.and_eq_true, beq_iff_eq, hdepth] at hand
    have hother : ∀ j, Waits ts j (i + 1) ↔ Waits ts j i := by
      intro j
      refine waits_succ_of_other ht (fun h => hbetween ((hword _).mp h)) ?_ (by rw [hsame])
      intro k hk hhere hgroup
      refine hand ⟨(hword _).mp hhere, (hfits.between _).mpr ⟨k, hk, ?_⟩⟩
      exact ((hk.sameGroup_iff hi.le).mp hgroup).symm
    simp only [hother, hfits.between]

/-- **Step: what waits.**  The scope behind a token fits the next place. -/
lemma redirectToken_waits (known : List Text) {t : Token} {scope : Scope}
    (previous : Option Token) (ht : ts[i]? = some t) (hfits : ScopeFits ts i scope) :
    ScopeFits ts (i + 1) (redirectToken known scope previous t ts[i + 1]?).2 := by
  refine ⟨redirectToken_brackets known previous ht hfits.brackets, ?_⟩
  have hword : ∀ word : Text, (∀ w, t ≠ .keyword w) → ¬ WordAt ts word i := by
    intro word hne hword
    rw [wordAt_iff ht] at hword
    cases t with
    | keyword w => exact hne w rfl
    | _ => cases hword
  -- most tokens leave what waits, and the parentheses open
  have hother : (∀ w, t ≠ .keyword w) → t ≠ .rightParen → ∀ d, scope.between = some d ↔
      ∃ j, Waits ts j (i + 1) ∧ d = (openParens ts j).length := by
    intro hne hright d
    have hlength : (openParens ts i).length ≤ (openParens ts (i + 1)).length := by
      rw [openParens_succ ht]
      cases t with
      | rightParen => exact absurd rfl hright
      | leftParen => simp [bracketStep]
      | _ => exact Nat.le_refl _
    have hsame : ∀ j, Waits ts j (i + 1) ↔ Waits ts j i := fun j =>
      waits_succ_of_other ht (hword _ hne) (fun _ _ h => absurd h (hword _ hne)) hlength
    simp only [hsame, hfits.between]
  cases t with
  | keyword w => exact recaseKeyword_waits ht hfits
  | rightParen =>
      intro d
      have hlength : (openParens ts (i + 1)).length = scope.brackets.tail.length := by
        rw [openParens_succ ht, hfits.brackets, List.length_tail, length_scopeFlags]
        exact List.length_tail
      simp only [redirectToken, Scope.close, Option.filter_eq_some_iff, hfits.between,
        decide_eq_true_eq, waits_succ_iff ht, hlength]
      constructor
      · rintro ⟨⟨j, hj, rfl⟩, hle⟩
        exact ⟨j, Or.inr ⟨hj, hword _ (by simp), fun h => hword _ (by simp) h.1, hle⟩, rfl⟩
      · rintro ⟨j, ⟨-, hhere⟩ | ⟨hj, -, -, hle⟩, rfl⟩
        · exact absurd hhere (hword _ (by simp))
        · exact ⟨⟨j, hj, rfl⟩, hle⟩
  | identifier segments =>
      simp only [redirectToken]
      split_ifs
      · exact hother (by simp) (by simp)
      · exact hother (by simp) (by simp)
  | _ => exact hother (by simp) (by simp)

/-- **Step: the token.**  A keyword becomes what the rule says. -/
lemma recaseKeyword_capitalised {w : Text} {scope : Scope} (ht : ts[i]? = some (.keyword w))
    (hfits : ScopeFits ts i scope) : ∃ w', (recaseKeyword scope w).1 = .keyword w' ∧
      (Capitalised ts i w w' ∨ (∀ v, ¬ Capitalised ts i w v) ∧ w' = w) := by
  have hi : i < ts.length := (List.getElem?_eq_some_iff.mp ht).1
  have hdepth : scope.brackets.length = (openParens ts i).length := by
    rw [hfits.brackets, length_scopeFlags]
  have hsub : scope.inSubquery = true ↔ InSubquery ts i := by
    rw [Scope.inSubquery, hfits.brackets, scopeFlags_any_iff hi.le]
  simp only [recaseKeyword]
  split_ifs with hbetween hand hconnector
  · refine ⟨w, rfl, Or.inr ⟨?_, rfl⟩⟩
    rintro v (⟨hor, -⟩ | ⟨hand, -⟩)
    · rw [not_sameLetters_of_ne hbetween (by decide)] at hor
      cases hor
    · rw [not_sameLetters_of_ne hbetween (by decide)] at hand
      cases hand
  · -- the `between` that waits is closed here, and none stands behind it
    rw [Bool.and_eq_true, beq_iff_eq, hdepth] at hand
    obtain ⟨j, hj, hlength⟩ := (hfits.between _).mp hand.2
    refine ⟨w, rfl, Or.inr ⟨?_, rfl⟩⟩
    rintro v (⟨hor, -⟩ | ⟨-, -, hother⟩)
    · rw [not_sameLetters_of_ne hand.1 (by decide)] at hor
      cases hor
    · have hcloses : ClosesBetween ts j i :=
        hj.closes ((wordAt_iff ht _).mpr hand.1) ((hj.sameGroup_iff hi.le).mpr hlength.symm)
      obtain ⟨k, hjk, hki, hk⟩ := hother j hcloses
      exact hj.last k hjk hki hk
  · rw [Bool.and_eq_true, Bool.not_eq_true', ← Bool.not_eq_true, hsub, isConnectorWord,
      Bool.or_eq_true] at hconnector
    obtain ⟨hout, hword⟩ := hconnector
    refine ⟨w.toAsciiUpper, rfl, Or.inl ?_⟩
    rcases hword with hword | hword
    · rw [Text.toAsciiUpper_of_sameLetters hword]
      refine Capitalised.and hword hout fun j hcloses => ?_
      -- a `between` that is closed here and has no other one behind it would wait
      by_contra hnone
      push Not at hnone
      obtain ⟨hwaits, hgroup⟩ := hcloses.waits hi.le hnone
      rw [Bool.and_eq_true, beq_iff_eq, hdepth] at hand
      refine hand ⟨hword, (hfits.between _).mpr ⟨j, hwaits, ?_⟩⟩
      exact ((hwaits.sameGroup_iff hi.le).mp hgroup).symm
    · rw [Text.toAsciiUpper_of_sameLetters hword]
      exact Capitalised.or hword hout
  · refine ⟨w, rfl, Or.inr ⟨?_, rfl⟩⟩
    rw [Bool.and_eq_true, Bool.not_eq_true', ← Bool.not_eq_true, hsub, isConnectorWord,
      Bool.or_eq_true] at hconnector
    rintro v (⟨hor, hout⟩ | ⟨hand, hout, -⟩)
    · exact hconnector ⟨hout, Or.inr hor⟩
    · exact hconnector ⟨hout, Or.inl hand⟩

/-! ## The whole condition -/

/-- **Run.**  What every step of the pass keeps holds at every place. -/
lemma redirectTokens_run (known : List Text) (ts : List Token) {I : Nat → Scope → Prop}
    {P : Nat → Token → Token → Prop}
    (hstep : ∀ i t scope previous, ts[i]? = some t → I i scope →
      P i t (redirectToken known scope previous t ts[i + 1]?).1 ∧
        I (i + 1) (redirectToken known scope previous t ts[i + 1]?).2)
    (rest : List Token) : ∀ (i : Nat) (scope : Scope) (previous : Option Token),
    ts.drop i = rest → I i scope → ∀ j t, rest[j]? = some t →
      ∃ u, (redirectTokens known scope previous rest)[j]? = some u ∧ P (i + j) t u := by
  induction rest with
  | nil =>
      intro i scope previous _ _ j t ht
      simp at ht
  | cons first rest ih =>
      intro i scope previous hdrop hI j t ht
      have hfirst : ts[i]? = some first := by
        rw [← List.head?_drop, hdrop, List.head?_cons]
      have hrest : ts.drop (i + 1) = rest := by
        rw [← List.tail_drop, hdrop, List.tail_cons]
      have hnext : ts[i + 1]? = rest.head? := by
        rw [← List.head?_drop, hrest]
      obtain ⟨hP, hI'⟩ := hstep i first scope previous hfirst hI
      rw [hnext] at hP hI'
      cases j with
      | zero =>
          cases ht
          exact ⟨_, rfl, hP⟩
      | succ j =>
          obtain ⟨u, hu, hP⟩ := ih (i + 1) _ (some first) hrest hI' j t ht
          rw [Nat.add_assoc, Nat.add_comm 1 j] at hP
          exact ⟨u, hu, hP⟩

lemma scopeFits_empty (ts : List Token) : ScopeFits ts 0 Scope.empty := by
  refine ⟨rfl, fun d => ?_⟩
  constructor
  · rintro ⟨⟩
  · rintro ⟨j, hj, -⟩
    exact absurd hj.before (Nat.not_lt_zero j)

/-- **Which connectors are written in capitals.**  Every condition is written from as many tokens
as it has.  Outside subqueries an `or` becomes `OR`, and an `and` becomes `AND` unless it closes a
`between` with no other `between` behind it; all other keywords keep their case. -/
theorem usePlaceholder_capitalises_connectors {columns : List Text} (hcolumns : columns ≠ [])
    (condition : Text) :
    ∃ out, usePlaceholder columns condition =
        (if condition.isBlank then condition else render out) ∧
      out.length = (tokens condition).length ∧
      ∀ i w, (tokens condition)[i]? = some (.keyword w) → ∃ w', out[i]? = some (.keyword w') ∧
        (Capitalised (tokens condition) i w w' ∨
          (∀ v, ¬ Capitalised (tokens condition) i w v) ∧ w' = w) := by
  refine ⟨anchoredTokens columns condition, usePlaceholder_eq hcolumns condition,
    length_redirectTokens _ _ _ _, fun i w hw => ?_⟩
  have hrun := redirectTokens_run (columns.map knownColumn) (tokens condition)
    (I := ScopeFits (tokens condition))
    (P := fun i t u => ∀ w, t = .keyword w → ∃ w', u = .keyword w' ∧
      (Capitalised (tokens condition) i w w' ∨
        (∀ v, ¬ Capitalised (tokens condition) i w v) ∧ w' = w))
    (fun i t scope previous ht hfits => by
      refine ⟨?_, redirectToken_waits _ previous ht hfits⟩
      rintro w rfl
      exact recaseKeyword_capitalised ht hfits)
    (tokens condition) 0 Scope.empty none List.drop_zero (scopeFits_empty _) i _ hw
  obtain ⟨u, hu, hkeyword⟩ := hrun
  rw [Nat.zero_add] at hkeyword
  obtain ⟨w', rfl, hrule⟩ := hkeyword w rfl
  exact ⟨w', hu, hrule⟩

/-- Ranges one behind the other, one with a group for its lower bound, and a subquery. -/
def rangesInARow : Text :=
  "x between (1) and 2 And y in (select 1 or 2) or x not between 3 and 4".toList

theorem usePlaceholder_capitalises_ranges : ["x".toList] ≠ [] ∧
    ∃ out, usePlaceholder ["x".toList] rangesInARow =
        (if rangesInARow.isBlank then rangesInARow else render out) ∧
      out.length = (tokens rangesInARow).length ∧
      ∀ i w, (tokens rangesInARow)[i]? = some (.keyword w) → ∃ w', out[i]? = some (.keyword w') ∧
        (Capitalised (tokens rangesInARow) i w w' ∨
          (∀ v, ¬ Capitalised (tokens rangesInARow) i w v) ∧ w' = w) :=
  ⟨by decide, usePlaceholder_capitalises_connectors (by decide) rangesInARow⟩

/-- A range whose lower bound is a subquery with a range of its own. -/
def rangeInRange : Text :=
  "x between (select a from t where b between 1 and 2) and 3".toList

/-- **The `and` of an outer `between` does not keep its case** when its lower bound has a `between`
of its own, although it is the one that closes it. -/
theorem not_keeps_and_of_outer_between : ClosesBetween (tokens rangeInRange) 1 14 ∧
    (tokens rangeInRange)[14]? = some (.keyword "and".toList) ∧
    (anchoredTokens ["x".toList] rangeInRange)[14]? = some (.keyword "AND".toList) ∧
    usePlaceholder ["x".toList] rangeInRange =
      "%s.x between (select a from t where b between 1 and 2) AND 3".toList := by
  have hlength : (tokens rangeInRange).length = 16 := by decide +kernel
  refine ⟨?_, by decide +kernel, by decide +kernel, by decide +kernel⟩
  refine closesBetween_of_alone (by decide +kernel) (by decide +kernel) (by decide) ?_ ?_
  · rw [sameGroup_iff (by omega) (by omega)]
    decide +kernel
  · -- the other two words stand within the parentheses
    have hinside : ∀ k < 14, WordAt (tokens rangeInRange) "between".toList k ∨
        WordAt (tokens rangeInRange) "and".toList k → 1 < k →
          openParens (tokens rangeInRange) 1 ≠ openParens (tokens rangeInRange) k := by
      decide +kernel
    intro k hlt hk hword
    rw [sameGroup_iff (by omega) (by omega)]
    exact hinside k hk hword hlt

end SqlFragments
