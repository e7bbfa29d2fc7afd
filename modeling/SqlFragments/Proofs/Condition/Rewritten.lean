import SqlFragments.Proofs.Condition.Reanchoring

/-!
# Reading a rewritten condition

A rewritten condition is a text, and may be read as any other one.  The placeholder is no name
then: its `%` is an operator, and the `s` behind it the qualifier of a single letter.  All other
tokens are read back as they were written.

* `Token.isAnchored` — a reference behind the placeholder.
* `Token.broken` — the tokens that such a reference is read as.
* **`Token.FitsRewritten.tokens_text`** — one token of a rewritten condition is read again.
* **`tokens_usePlaceholder`** — the tokens of a rewritten condition.
* `FittingRewritten.broken`, `exact_broken`, `Apart.broken` — they fit, so that they are read
  back from their own writing.
-/

namespace SqlFragments

variable {t u : Token} {ts us rest : List Token} {next previous : Option Token}

/-! ## References behind the placeholder -/

/-- A reference behind the placeholder. -/
def Token.isAnchored : Token → Bool
  | identifier (first :: _) => first == placeholder
  | _ => false

/-- What a token of a rewritten condition is read as. -/
def Token.broken (t : Token) : List Token :=
  match t with
  | identifier (first :: more) =>
    if first = placeholder then [operator ['%'], identifier (['s'] :: more)] else [t]
  | _ => [t]

lemma Token.broken_anchored (column : Text) : (identifier [placeholder, column]).broken =
    [operator ['%'], identifier [['s'], column]] := rfl

lemma Token.broken_of_not_isAnchored (h : t.isAnchored = false) : t.broken = [t] := by
  unfold Token.broken
  split
  · exact if_neg (beq_eq_false_iff_ne.mp h)
  · rfl

/-- No token that is read is such a reference: no segment starts with `%`. -/
lemma Token.Fits.not_isAnchored (h : t.Fits next) : t.isAnchored = false := by
  cases h with
  | @identifier segments hchain _ =>
      cases segments with
      | nil => rfl
      | cons first more =>
          refine beq_eq_false_iff_ne.mpr ?_
          rintro rfl
          exact absurd hchain.head (by decide)
  | _ => rfl

/-- A qualifier of one letter in the place of the placeholder makes a token that fits. -/
lemma fits_letter {column : Text} (hcolumn : SegmentFits (next = none) column)
    (hplain : next = some .leftParen → endsPlain [column] = false) :
    (Token.identifier [['s'], column]).Fits next := by
  have hletter : IsName ['s'] := Or.inl (by decide)
  refine Token.Fits.identifier (ChainFits.cons hletter (ChainFits.last hcolumn)) fun hnext => ?_
  exact (endsPlain_concat [['s']] column).trans (hplain hnext)

/-! ## One token is read again -/

lemma Token.FitsRewritten.leads (h : u.FitsRewritten next) (hexact : u.Exact) : u.Leads := by
  cases h with
  | same hfit => exact hfit.leads hexact
  | anchored _ _ =>
      refine ⟨⟨'%', _, rfl, by decide, fun h => absurd h (by decide)⟩, fun h => ?_⟩
      exact absurd (Option.some.inj h) (by decide)

lemma FittingRewritten.head_leads (h : FittingRewritten us) (hexact : ∀ u ∈ us, u.Exact) :
    ∀ u, us.head? = some u → u.Leads := by
  cases us with
  | nil => exact fun u hu => by cases hu
  | cons u more =>
      rintro _ ⟨⟩
      exact h.1.leads (hexact u List.mem_cons_self)

/-- What is written behind a reference does not depend on its segments. -/
lemma renderAfter_identifier (a b : List Text) (sign : Bool) (rest : List Token) :
    renderAfter (.identifier a) sign rest = renderAfter (.identifier b) sign rest := by
  cases rest with
  | nil => rfl
  | cons u more =>
      have hspace : needsSpace (.identifier a) u = needsSpace (.identifier b) u := by
        cases u <;> rfl
      have hsign : isSign (some (.identifier a)) u = isSign (some (.identifier b)) u := by
        cases u <;> rfl
      rw [renderAfter, renderAfter, hspace, hsign]

lemma percent_readsAs (s : Text) : ReadsAs ('%' :: s) (.operator ['%']) s := by
  have hoperator : IsOperator ['%'] := Or.inr ⟨'%', by decide, rfl⟩
  have hall : ∀ long ∈ longOperators, long.head? ≠ some '%' := by decide
  refine ⟨'%', s, rfl, by decide, ?_⟩
  rw [readToken_mark (by decide) fun h => absurd h (by decide)]
  refine readPunctuation_operator hoperator ?_
  rintro c - long hmem ⟨more, rfl⟩
  exact hall _ hmem rfl

/-- **One token of a rewritten condition** is read again as itself, or as the pieces of a broken
reference. -/
lemma Token.FitsRewritten.tokens_text (h : u.FitsRewritten rest.head?) (hu : u.Exact)
    (hrest : ∀ v, rest.head? = some v → v.Leads)
    (happart : ∀ v, rest.head? = some v → runsTogether u v = false) (previous : Option Token) :
    tokens (u.text ++ renderAfter u (isSign previous u) rest)
      = u.broken ++ tokens (renderAfter u (isSign previous u) rest) := by
  cases h with
  | same hfit =>
      rw [tokens_of_readsAs (hfit.readsAs_exact hu hrest happart previous),
        Token.broken_of_not_isAnchored hfit.not_isAnchored, List.singleton_append]
  | @anchored column hcolumn hplain =>
      have hletter := (fits_letter hcolumn hplain).readsAs (fun v hv => (hrest v hv).shows) rfl
        previous
      have htext : (Token.identifier [placeholder, column]).text
          = '%' :: (Token.identifier [['s'], column]).text := by
        rw [Token.text, Token.text, Text.join_cons_cons, Text.join_cons_cons]
        rfl
      have hreread : (Token.identifier [['s'], column]).reread = .identifier [['s'], column] := rfl
      have hsign : ∀ segments, isSign previous (.identifier segments) = false := fun _ => rfl
      rw [hreread, hsign] at hletter
      rw [hsign, renderAfter_identifier _ [['s'], column], htext, List.cons_append,
        tokens_of_readsAs (percent_readsAs _), tokens_of_readsAs hletter, Token.broken_anchored]
      rfl

/-! ## A rewritten condition is read again -/

lemma tokens_renderAfter_rewritten : ∀ (us : List Token) (t : Token) (sign : Bool),
    FittingRewritten us → (∀ u ∈ us, u.Exact) → Apart us →
    tokens (renderAfter t sign us) = us.flatMap Token.broken
  | [], _, _, _, _, _ => tokens_of_blank rfl
  | u :: rest, t, sign, hfits, hexact, happart => by
      obtain ⟨hu, hrestExact⟩ := List.forall_mem_cons.mp hexact
      obtain ⟨hnext, hrestApart⟩ := List.isChain_cons.mp happart
      rw [tokens_renderAfter_cons, hfits.1.tokens_text hu (hfits.2.head_leads hrestExact)
        (fun v hv => hnext v hv) (some t),
        tokens_renderAfter_rewritten rest u _ hfits.2 hrestExact hrestApart, List.flatMap_cons]

/-- **Rewritten tokens** are read back from their writing, but for the placeholders. -/
lemma tokens_render_rewritten (hfits : FittingRewritten us) (hexact : ∀ u ∈ us, u.Exact)
    (happart : Apart us) : tokens (render us) = us.flatMap Token.broken := by
  cases us with
  | nil => exact tokens_of_blank rfl
  | cons u rest =>
      obtain ⟨hu, hrestExact⟩ := List.forall_mem_cons.mp hexact
      obtain ⟨hnext, hrestApart⟩ := List.isChain_cons.mp happart
      rw [render, hfits.1.tokens_text hu (hfits.2.head_leads hrestExact)
        (fun v hv => hnext v hv) none,
        tokens_renderAfter_rewritten rest u _ hfits.2 hrestExact hrestApart, List.flatMap_cons]

/-- What becomes of a token is exact, unless it is a column that is read as a keyword. -/
lemma Reformed.exact (h : Reformed t u) (ht : t.Exact)
    (hlone : ∀ segments, u = .identifier segments → isLoneKeyword segments = false) :
    u.Exact := by
  cases h with
  | same t => exact ht
  | connector _ => trivial
  | inside _ => exact hlone _ rfl
  | outside _ => rfl

lemma exact_of_reformed (h : List.Forall₂ Reformed ts us) : (∀ t ∈ ts, t.Exact) →
    (∀ segments, .identifier segments ∈ us → isLoneKeyword segments = false) →
    ∀ u ∈ us, u.Exact := by
  induction h with
  | nil => exact fun _ _ u hu => absurd hu List.not_mem_nil
  | @cons t u ts us htu _ ih =>
      intro hexact hlone
      obtain ⟨ht, hmore⟩ := List.forall_mem_cons.mp hexact
      refine List.forall_mem_cons.mpr ⟨htu.exact ht ?_, ih hmore ?_⟩
      · rintro segments rfl
        exact hlone segments List.mem_cons_self
      · exact fun segments hmem => hlone segments (List.mem_cons_of_mem _ hmem)

lemma mem_identifiers_iff (segments : List Text) :
    segments ∈ identifiers ts ↔ .identifier segments ∈ ts := by
  rw [identifiers, List.mem_filterMap]
  constructor
  · rintro ⟨t, ht, hsegments⟩
    cases t with
    | identifier _ =>
        obtain rfl := Option.some.inj hsegments
        exact ht
    | _ => cases hsegments
  · exact fun h => ⟨_, h, rfl⟩

/-- No column of a rewritten condition is read as a keyword. -/
def KeepsColumns (columns : List Text) (condition : Text) : Prop :=
  ∀ segments ∈ identifiers (anchoredTokens columns condition), isLoneKeyword segments = false

instance (columns : List Text) (condition : Text) : Decidable (KeepsColumns columns condition) :=
  inferInstanceAs (Decidable (∀ segments ∈ identifiers (anchoredTokens columns condition),
    isLoneKeyword segments = false))

variable {columns : List Text} {condition : Text}

lemma KeepsColumns.exact (h : KeepsColumns columns condition) :
    ∀ u ∈ anchoredTokens columns condition, u.Exact :=
  exact_of_reformed (anchoredTokens_reformed columns condition) (tokens_exact condition)
    fun segments hmem => h segments ((mem_identifiers_iff segments).mpr hmem)

/-- **The tokens of a rewritten condition** are those that it was written from, with the
placeholders broken. -/
lemma tokens_usePlaceholder (hcolumns : columns ≠ []) (happart : Apart (tokens condition))
    (hkept : KeepsColumns columns condition) : tokens (usePlaceholder columns condition)
      = (anchoredTokens columns condition).flatMap Token.broken := by
  rw [usePlaceholder_eq hcolumns]
  split_ifs with hblank
  · rw [anchoredTokens, (tokens_eq_nil_iff condition).mpr hblank]
    rfl
  · exact tokens_render_rewritten (fittingRewritten_anchoredTokens columns condition)
      hkept.exact (apart_of_reformed (anchoredTokens_reformed columns condition) happart)

/-! ## Broken references -/

lemma head_broken (us : List Token) :
    ((us.flatMap Token.broken).head? = none ↔ us.head? = none) ∧
      ((us.flatMap Token.broken).head? = some .leftParen ↔ us.head? = some .leftParen) := by
  cases us with
  | nil => exact ⟨Iff.rfl, Iff.rfl⟩
  | cons u rest =>
      rw [List.flatMap_cons]
      unfold Token.broken
      split
      · split_ifs <;> simp
      · simp

/-- **Broken references fit**, so that they are read back from their own writing. -/
lemma FittingRewritten.broken : ∀ {us : List Token}, FittingRewritten us →
    Fitting (us.flatMap Token.broken)
  | [], _ => trivial
  | _ :: rest, ⟨hfit, hfits⟩ => by
      obtain ⟨hnone, hparen⟩ := head_broken rest
      rw [List.flatMap_cons]
      cases hfit with
      | same hu =>
          rw [Token.broken_of_not_isAnchored hu.not_isAnchored]
          exact ⟨hu.congr hnone.mpr hparen, hfits.broken⟩
      | anchored hcolumn hplain =>
          rw [Token.broken_anchored]
          have hpercent : ∀ x ∈ ['%'], isOperatorChar x = true :=
            List.forall_mem_singleton.mpr (isOperatorChar_of_shortOperator (by decide))
          exact ⟨Token.Fits.operator (List.cons_ne_nil _ _) hpercent,
            (fits_letter hcolumn hplain).congr hnone.mpr hparen, hfits.broken⟩

lemma FittingRewritten.exact_broken : ∀ {us : List Token}, FittingRewritten us →
    (∀ u ∈ us, u.Exact) → ∀ u ∈ us.flatMap Token.broken, u.Exact
  | [], _, _ => fun u hu => absurd hu List.not_mem_nil
  | _ :: rest, ⟨hfit, hfits⟩, hexact => by
      obtain ⟨hu, hrest⟩ := List.forall_mem_cons.mp hexact
      rw [List.flatMap_cons]
      refine List.forall_mem_append.mpr ⟨?_, hfits.exact_broken hrest⟩
      cases hfit with
      | same hfit =>
          rw [Token.broken_of_not_isAnchored hfit.not_isAnchored]
          exact List.forall_mem_singleton.mpr hu
      | anchored _ _ =>
          refine List.forall_mem_cons.mpr ⟨?_, List.forall_mem_singleton.mpr rfl⟩
          exact Or.inr ⟨'%', by decide, rfl⟩

lemma runsTogether_percent (t : Token) : runsTogether t (.operator ['%']) = false := by
  rw [← Bool.not_eq_true, runsTogether_iff]
  rintro (⟨-, more, h⟩ | ⟨-, h⟩)
  · cases h
  · cases h

lemma runsTogether_of_not_isMark (h : t.isMark = false) (u : Token) :
    runsTogether t u = false := by
  rw [← Bool.not_eq_true]
  intro htogether
  rw [(isMark_of_runsTogether htogether).1] at h
  cases h

/-- What does not run together with a token does not with the pieces of a broken one. -/
lemma runsTogether_head_broken (h : ∀ v, us.head? = some v → runsTogether t v = false) :
    ∀ v, (us.flatMap Token.broken).head? = some v → runsTogether t v = false := by
  cases us with
  | nil => exact fun v hv => by cases hv
  | cons u rest =>
      rw [List.flatMap_cons]
      unfold Token.broken
      split
      · split_ifs
        · rintro _ ⟨⟩
          exact runsTogether_percent t
        · rintro _ ⟨⟩
          exact h _ rfl
      · rintro _ ⟨⟩
        exact h _ rfl

lemma FittingRewritten.apart_broken : ∀ {us : List Token}, FittingRewritten us → Apart us →
    Apart (us.flatMap Token.broken)
  | [], _, _ => List.IsChain.nil
  | u :: rest, ⟨hfit, hfits⟩, happart => by
      obtain ⟨hnext, hmore⟩ := List.isChain_cons.mp happart
      have hrest := hfits.apart_broken hmore
      rw [List.flatMap_cons]
      cases hfit with
      | same hu =>
          rw [Token.broken_of_not_isAnchored hu.not_isAnchored]
          exact List.isChain_cons.mpr ⟨runsTogether_head_broken hnext, hrest⟩
      | anchored _ _ =>
          rw [Token.broken_anchored]
          refine List.isChain_cons.mpr ⟨?_,
            List.isChain_cons.mpr ⟨fun v _ => runsTogether_of_not_isMark rfl v, hrest⟩⟩
          rintro _ ⟨⟩
          rfl

end SqlFragments
