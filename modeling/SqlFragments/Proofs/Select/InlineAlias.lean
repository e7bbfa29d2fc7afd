import SqlFragments.Proofs.Condition.Truth
import SqlFragments.Proofs.KeywordCase.Twice
import SqlFragments.Proofs.Text.Join
import SqlFragments.Proofs.Token.Cut
import SqlFragments.Select.Draft

/-!
# An alias written into an expression

The last `as` outside parentheses takes an expression apart, if there is something on both sides of
it.  The part in front is written in lower case, the part behind as it is, with ` as ` between them.
The result has the same last `as`: lower-casing changes the letters of tokens only, and the token
in front of which the expression was cut is read again where the parts are put together.

* `LastAs`, `InlineAlias` — the last `as` by the tokens of an expression, and the texts on both
  sides by its span.
* `CutAtAs`, `cutAtAs_of_lexemes` — what the cut of an expression at its last `as` is made of.
* `InlineAlias.splitAlias`, `splitAlias_eq_none_iff` — when an alias is found, and which.
* `splitAlias_trim` — white space around the expression is nothing to it.
* `splitAlias_lowerKeywords`, `InlineAlias.splitAlias_aliasText` — what is written is cut in the
  same place.
* **`SelectDraft.addColumn_keeps_expression`** — the column that an expression becomes.
-/

namespace SqlFragments

/-! ## The last `as` -/

/-- Tokens around the last `as` outside parentheses, `depth` of which are open in front. -/
structure LastAs (depth : Nat) (front : List Token) (word : Token) (back : List Token) : Prop where
  closed : depthBehind depth front = 0
  isAs : word.isKeyword "as".toList = true
  last : ∀ t ∈ outside 0 back, t.isKeyword "as".toList = false

/-- The texts on both sides of the last `as` outside parentheses, neither of which is blank. -/
def InlineAlias (e before after : Text) : Prop :=
  ∃ front word back span, tokens e = front ++ word :: back ∧ LastAs 0 front word back ∧
    (spans e)[front.length]? = some span ∧
    e.slice ⟨0, span.start⟩ = some before ∧ e.slice ⟨span.stop, e.bytes⟩ = some after ∧
    before.isBlank = false ∧ after.isBlank = false

variable {e : Text}

/-- **There is a last one**, if there is any. -/
lemma exists_lastAs (ts : List Token) : ∀ depth : Nat,
    (∀ t ∈ outside depth ts, t.isKeyword "as".toList = false) ∨
      ∃ front word back, ts = front ++ word :: back ∧ LastAs depth front word back := by
  induction ts with
  | nil => exact fun depth => Or.inl (List.forall_mem_nil _)
  | cons t rest ih =>
      intro depth
      rcases ih (depthAfter depth t) with hnone | ⟨front, word, back, rfl, hlast⟩
      · rw [outside]
        split_ifs with hdepth
        · cases has : t.isKeyword "as".toList with
          | false => exact Or.inl (List.forall_mem_cons.mpr ⟨has, hnone⟩)
          | true =>
              subst hdepth
              rw [depthAfter_of_isKeyword has] at hnone
              exact Or.inr ⟨[], t, rest, rfl, rfl, has, hnone⟩
        · exact Or.inl hnone
      · exact Or.inr ⟨t :: front, word, back, rfl, hlast.closed, hlast.isAs, hlast.last⟩

variable {trailing : Text}

lemma cutLastAs_eq_none (ls : List Lexeme) : ∀ depth : Nat,
    (∀ t ∈ outside depth (ls.map Lexeme.token), t.isKeyword "as".toList = false) →
      cutLastAs trailing depth ls = none := by
  induction ls with
  | nil => exact fun depth _ => rfl
  | cons l rest ih =>
      intro depth h
      rw [List.map_cons] at h
      have hrest : cutLastAs trailing (depthAfter depth l.token) rest = none :=
        ih _ fun t ht => h t (mem_outside_cons.mpr (Or.inr ht))
      rw [cutLastAs, hrest]
      refine if_neg ?_
      rintro ⟨hdepth, has⟩
      rw [h l.token (mem_outside_cons.mpr (Or.inl ⟨hdepth, rfl⟩))] at has
      cases has

/-- **Lexemes are cut at their last `as`.** -/
lemma cutLastAs_of_lastAs {l : Lexeme} {back : List Lexeme} (front : List Lexeme) : ∀ depth : Nat,
    LastAs depth (front.map Lexeme.token) l.token (back.map Lexeme.token) →
      cutLastAs trailing depth (front ++ l :: back) =
        some (front.flatMap Lexeme.text ++ l.blank, back.flatMap Lexeme.text ++ trailing) := by
  induction front with
  | nil =>
      intro depth h
      obtain rfl : depth = 0 := h.closed
      have hback : cutLastAs trailing (depthAfter 0 l.token) back = none := by
        rw [depthAfter_of_isKeyword h.isAs]
        exact cutLastAs_eq_none back 0 h.last
      rw [List.nil_append, cutLastAs, hback]
      exact if_pos ⟨rfl, h.isAs⟩
  | cons first front ih =>
      intro depth h
      have hmore := ih (depthAfter depth first.token) ⟨h.closed, h.isAs, h.last⟩
      rw [List.cons_append, cutLastAs, hmore]
      simp only [List.flatMap_cons, Lexeme.text, List.append_assoc]

/-! ## The cut -/

/-- An expression cut at its last `as`, which is written as `word`. -/
structure CutAtAs (e before word after : Text) : Prop where
  text : e = before ++ (word ++ after)
  quotes : QuotesClosed before
  tokens : tokens e = SqlFragments.tokens before ++ .keyword word :: SqlFragments.tokens after
  lastAs : LastAs 0 (SqlFragments.tokens before) (.keyword word) (SqlFragments.tokens after)
  span : (spans e)[(SqlFragments.tokens before).length]? =
    some ⟨before.bytes, before.bytes + word.bytes⟩
  cut : cutLastAs (scan e).trailing 0 (scan e).lexemes = some (before, after)

lemma spansFrom_getElem? {l : Lexeme} {back : List Lexeme} (front : List Lexeme) : ∀ offset : Nat,
    (spansFrom offset (front ++ l :: back))[front.length]? =
      some ⟨offset + Text.bytes (front.flatMap Lexeme.text ++ l.blank),
        offset + Text.bytes (front.flatMap Lexeme.text ++ l.blank) + l.source.bytes⟩ := by
  induction front with
  | nil => exact fun offset => rfl
  | cons first front ih =>
      intro offset
      have hmore := ih (offset + first.blank.bytes + first.source.bytes)
      rw [List.cons_append, spansFrom, List.length_cons, List.getElem?_cons_succ, hmore]
      simp only [List.flatMap_cons, Lexeme.text, Text.bytes_append, Nat.add_assoc]

lemma eq_keyword_of_isKeyword {t : Token} {word : Text} (h : t.isKeyword word = true) :
    t = .keyword t.text := by
  cases t with
  | keyword w => rfl
  | _ => cases h

/-- **The cut of an expression**, told by its lexemes. -/
lemma cutAtAs_of_lexemes {front back : List Lexeme} {l : Lexeme}
    (h : (scan e).lexemes = front ++ l :: back)
    (hlast : LastAs 0 (front.map Lexeme.token) l.token (back.map Lexeme.token)) :
    CutAtAs e (front.flatMap Lexeme.text ++ l.blank) l.source
        (back.flatMap Lexeme.text ++ (scan e).trailing) ∧
      tokens (front.flatMap Lexeme.text ++ l.blank) = front.map Lexeme.token := by
  have hmem : l ∈ (scan e).lexemes := by
    rw [h]
    exact List.mem_append_right _ List.mem_cons_self
  have hword : l.token = .keyword l.source := by
    rw [source_eq_text e l hmem]
    exact eq_keyword_of_isKeyword hlast.isAs
  have hparen : l.token ≠ .leftParen := by
    rw [hword]
    exact nofun
  obtain ⟨hclosed, hfront⟩ := scan_in_front h hparen
  have hsplit : (scan e).lexemes = (front ++ [l]) ++ back := by
    rw [h, List.append_assoc, List.singleton_append]
  obtain ⟨rest, htext, hback⟩ := scan_behind e hsplit
  have hrest := scan_append rest
  rw [hback] at hrest
  obtain rfl : back.flatMap Lexeme.text ++ (scan e).trailing = rest := hrest
  have hbefore : tokens (front.flatMap Lexeme.text ++ l.blank) = front.map Lexeme.token := by
    rw [tokens, hfront]
  have hafter : tokens (back.flatMap Lexeme.text ++ (scan e).trailing) =
      back.map Lexeme.token := by
    rw [tokens, hback]
  refine ⟨⟨?_, hclosed, ?_, ?_, ?_, ?_⟩, hbefore⟩
  · conv_lhs => rw [htext]
    simp only [List.flatMap_append, List.flatMap_cons, List.flatMap_nil, Lexeme.text,
      List.append_nil, List.append_assoc]
  · rw [hbefore, hafter, tokens, h, List.map_append, List.map_cons, hword]
  · rw [hbefore, hafter, ← hword]
    exact hlast
  · rw [hbefore, List.length_map, spans, h, spansFrom_getElem? front 0, Nat.zero_add]
  · rw [h, cutLastAs_of_lastAs front 0 hlast]

/-- The same by its tokens. -/
lemma exists_cutAtAs {front back : List Token} {word : Token}
    (h : tokens e = front ++ word :: back) (hlast : LastAs 0 front word back) :
    ∃ before w after, CutAtAs e before w after ∧ tokens before = front := by
  obtain ⟨ls, ms, hlexemes, rfl, hms⟩ := List.map_eq_append_iff.mp h
  obtain ⟨l, ms, rfl, rfl, rfl⟩ := List.map_eq_cons_iff.mp hms
  exact ⟨_, _, _, cutAtAs_of_lexemes hlexemes hlast⟩

namespace CutAtAs

variable {before word after : Text}

lemma slices (h : CutAtAs e before word after) :
    e.slice ⟨0, before.bytes⟩ = some before ∧
      e.slice ⟨before.bytes + word.bytes, e.bytes⟩ = some after := by
  have hbefore := Text.slice_append [] before (word ++ after)
  have hafter := Text.slice_append (before ++ word) after []
  rw [Text.bytes_nil, Nat.zero_add, List.nil_append, ← h.text] at hbefore
  rw [List.append_nil, List.append_assoc, ← h.text, Text.bytes_append] at hafter
  refine ⟨hbefore, ?_⟩
  rw [h.text, Text.bytes_append, Text.bytes_append, ← Nat.add_assoc, ← h.text]
  exact hafter

lemma splitAlias (h : CutAtAs e before word after) : SqlFragments.splitAlias e =
    if before.trim.isEmpty || after.trim.isEmpty then none else some (before.trim, after.trim) := by
  rw [SqlFragments.splitAlias, h.cut]

end CutAtAs

/-- **An alias stands at the cut**, with text on both sides. -/
lemma inlineAlias_iff {before after : Text} : InlineAlias e before after ↔
    (∃ word, CutAtAs e before word after) ∧ before.isBlank = false ∧ after.isBlank = false := by
  constructor
  · rintro ⟨front, word, back, span, htokens, hlast, hspan, hbefore, hafter, hfront, hback⟩
    obtain ⟨before', w, after', hcut, rfl⟩ := exists_cutAtAs htokens hlast
    obtain rfl := Option.some.inj (hcut.span.symm.trans hspan)
    obtain rfl := Option.some.inj (hcut.slices.1.symm.trans hbefore)
    obtain rfl := Option.some.inj (hcut.slices.2.symm.trans hafter)
    exact ⟨⟨w, hcut⟩, hfront, hback⟩
  · rintro ⟨⟨word, hcut⟩, hfront, hback⟩
    exact ⟨_, _, _, _, hcut.tokens, hcut.lastAs, hcut.span, hcut.slices.1, hcut.slices.2, hfront,
      hback⟩

/-- **The alias is found**, with both sides trimmed. -/
lemma InlineAlias.splitAlias {before after : Text} (h : InlineAlias e before after) :
    SqlFragments.splitAlias e = some (before.trim, after.trim) := by
  obtain ⟨⟨word, hcut⟩, hfront, hback⟩ := inlineAlias_iff.mp h
  rw [hcut.splitAlias, if_neg]
  rw [Bool.or_eq_true, Text.isEmpty_trim_iff, Text.isEmpty_trim_iff, hfront, hback]
  simp

/-- **None is found** exactly if there is none. -/
lemma splitAlias_eq_none_iff :
    splitAlias e = none ↔ ¬ ∃ before after, InlineAlias e before after := by
  constructor
  · rintro hnone ⟨before, after, h⟩
    rw [h.splitAlias] at hnone
    cases hnone
  · intro hnone
    rcases exists_lastAs (tokens e) 0 with hno | ⟨front, word, back, htokens, hlast⟩
    · rw [splitAlias, cutLastAs_eq_none _ 0 hno]
    · obtain ⟨before, w, after, hcut, -⟩ := exists_cutAtAs htokens hlast
      rw [hcut.splitAlias]
      refine if_pos ?_
      by_contra hboth
      rw [Bool.or_eq_true, Text.isEmpty_trim_iff, Text.isEmpty_trim_iff, not_or,
        Bool.not_eq_true, Bool.not_eq_true] at hboth
      exact hnone ⟨before, after, inlineAlias_iff.mpr ⟨⟨w, hcut⟩, hboth⟩⟩

/-! ## White space around an expression -/

lemma Token.isKeyword_of_isQuotable {t : Token} (h : t.isQuotable = true) (word : Text) :
    t.isKeyword word = false := by
  cases t with
  | keyword w => cases h
  | _ => rfl

lemma cutLastAs_singleton (l : Lexeme) (depth : Nat) : cutLastAs trailing depth [l] =
    if depth = 0 ∧ l.token.isKeyword "as".toList then some (l.blank, trailing) else none :=
  rfl

/-- Lexemes are cut as before if the last one runs on into white space. -/
lemma cutLastAs_runsOn {l l' : Lexeme} {trailing' b : Text} (hruns : Lexeme.RunsOn l l')
    (htext : l'.text ++ trailing' = l.text ++ (trailing ++ b)) (front : List Lexeme) :
    ∀ depth : Nat, cutLastAs trailing' depth (front ++ [l']) =
      (cutLastAs trailing depth (front ++ [l])).map fun parts => (parts.1, parts.2 ++ b) := by
  induction front with
  | nil =>
      intro depth
      rw [List.nil_append, List.nil_append, cutLastAs_singleton, cutLastAs_singleton]
      rcases hruns.token with rfl | ⟨hquotable, hquotable'⟩
      · obtain rfl := List.append_cancel_left htext
        split_ifs <;> rfl
      · rw [Token.isKeyword_of_isQuotable hquotable, Token.isKeyword_of_isQuotable hquotable',
          if_neg (fun h => Bool.false_ne_true h.2), if_neg (fun h => Bool.false_ne_true h.2),
          Option.map_none]
  | cons first front ih =>
      intro depth
      have hsource : sourceText (front ++ [l']) ++ trailing' =
          sourceText (front ++ [l]) ++ trailing ++ b := by
        simp only [Lexeme.text, List.append_assoc] at htext
        simp only [sourceText, List.flatMap_append, List.flatMap_singleton, List.append_assoc,
          htext]
      rw [List.cons_append, List.cons_append, cutLastAs, cutLastAs, ih]
      cases cutLastAs trailing (depthAfter depth first.token) (front ++ [l]) with
      | some parts => rfl
      | none =>
          simp only [Option.map_none, hsource]
          split_ifs <;> rfl

/-- White space in front of the first lexeme goes to the text in front of the cut. -/
lemma cutLastAs_blank (a : Text) (l : Lexeme) (rest : List Lexeme) (depth : Nat) :
    cutLastAs trailing depth ({ l with blank := a ++ l.blank } :: rest) =
      (cutLastAs trailing depth (l :: rest)).map fun parts => (a ++ parts.1, parts.2) := by
  rw [cutLastAs, cutLastAs]
  cases cutLastAs trailing (depthAfter depth l.token) rest with
  | some parts => simp only [Option.map_some, List.append_assoc]
  | none =>
      simp only
      split_ifs <;> rfl

lemma splitAlias_blank_append {a : Text} (ha : a.isBlank = true) (s : Text) :
    splitAlias (a ++ s) = splitAlias s := by
  have htrim (head : Text) : Text.trim (a ++ head) = head.trim := by
    have hall := Text.trim_surrounded (b := []) ha rfl head
    rwa [List.append_nil] at hall
  rw [splitAlias, splitAlias, scan_append_of_isBlank ha, Scan.append]
  cases hls : (scan s).lexemes with
  | nil => rfl
  | cons l rest =>
      simp only [List.nil_append, cutLastAs_blank]
      cases cutLastAs (scan s).trailing 0 (l :: rest) with
      | none => rfl
      | some parts => simp only [Option.map_some, htrim]

lemma splitAlias_append_blank {b s : Text} (hb : b.isBlank = true) (hs : s.isBlank = false) :
    splitAlias (s ++ b) = splitAlias s := by
  have htrim (tail : Text) : Text.trim (tail ++ b) = tail.trim :=
    Text.trim_surrounded (a := []) rfl hb tail
  obtain ⟨front, l, l', hlexemes, hlexemes', hruns⟩ := scan_append_blank hb hs
  have htext : l'.text ++ (scan (s ++ b)).trailing = l.text ++ ((scan s).trailing ++ b) := by
    have hall := scan_append s
    have hall' := scan_append (s ++ b)
    rw [hlexemes, List.flatMap_append, List.flatMap_singleton, List.append_assoc] at hall
    rw [hlexemes', List.flatMap_append, List.flatMap_singleton, List.append_assoc] at hall'
    conv_rhs at hall' => rw [← hall]
    simp only [List.append_assoc, List.append_cancel_left_eq] at hall'
    exact hall'
  rw [splitAlias, splitAlias, hlexemes, hlexemes', cutLastAs_runsOn hruns htext]
  cases cutLastAs (scan s).trailing 0 (front ++ [l]) with
  | none => rfl
  | some parts => simp only [Option.map_some, htrim]

/-- **White space around an expression** is nothing to its alias. -/
lemma splitAlias_trim (e : Text) : splitAlias e.trim = splitAlias e := by
  cases hblank : e.isBlank with
  | true =>
      have htrim : e.trim = [] := List.isEmpty_iff.mp ((Text.isEmpty_trim_iff e).mpr hblank)
      rw [htrim, splitAlias, splitAlias, scan_of_blank (dropWhile_of_isBlank hblank),
        scan_of_blank rfl]
      rfl
  | false =>
      obtain ⟨a, b, ha, hb, hs⟩ := Text.exists_trim e
      conv_rhs => rw [hs, splitAlias_blank_append ha,
        splitAlias_append_blank hb ((Text.isBlank_trim e).trans hblank)]

/-- The alias of an expression is that of the trimmed one. -/
lemma InlineAlias.trim {before after : Text} (h : InlineAlias e before after) :
    ∃ before' after', InlineAlias e.trim before' after' ∧ before'.trim = before.trim ∧
      after'.trim = after.trim := by
  have hsplit := (splitAlias_trim e).trans h.splitAlias
  have hsome : SqlFragments.splitAlias e.trim ≠ none := by
    rw [hsplit]
    exact Option.some_ne_none _
  obtain ⟨before', after', h'⟩ := not_not.mp (mt splitAlias_eq_none_iff.mpr hsome)
  rw [h'.splitAlias, Option.some.injEq, Prod.mk.injEq] at hsplit
  exact ⟨before', after', h', hsplit⟩

/-! ## What is written -/

/-- Tokens with a last `as` outside parentheses and others on both sides of it. -/
def HasAlias (ts : List Token) : Prop :=
  ∃ front word back, ts = front ++ word :: back ∧ LastAs 0 front word back ∧
    front ≠ [] ∧ back ≠ []

lemma not_isBlank_iff {s : Text} : s.isBlank = false ↔ tokens s ≠ [] := by
  rw [← Bool.not_eq_true, ← tokens_eq_nil_iff]

lemma exists_inlineAlias_iff :
    (∃ before after, InlineAlias e before after) ↔ HasAlias (tokens e) := by
  constructor
  · rintro ⟨before, after, h⟩
    obtain ⟨⟨word, hcut⟩, hfront, hback⟩ := inlineAlias_iff.mp h
    exact ⟨_, _, _, hcut.tokens, hcut.lastAs, not_isBlank_iff.mp hfront, not_isBlank_iff.mp hback⟩
  · rintro ⟨front, word, back, htokens, hlast, hfront, hback⟩
    obtain ⟨before, w, after, hcut, rfl⟩ := exists_cutAtAs htokens hlast
    obtain ⟨-, rfl⟩ := List.cons.inj (List.append_cancel_left (hcut.tokens.symm.trans htokens))
    exact ⟨before, after, inlineAlias_iff.mpr
      ⟨⟨w, hcut⟩, not_isBlank_iff.mpr hfront, not_isBlank_iff.mpr hback⟩⟩

/-- **The last `as` is the last one in any case** of the letters around it. -/
lemma lastAs_recased {depth : Nat} {front front' back back' : List Token} {word word' : Token}
    (hfront : List.Forall₂ Token.Recased front front') (hword : word.Recased word')
    (hback : List.Forall₂ Token.Recased back back') :
    LastAs depth front' word' back' ↔ LastAs depth front word back := by
  have hdepth := depthBehind_recased hfront depth
  have has := hword.isKeyword "as".toList
  have hlast : (∀ t ∈ outside 0 back', t.isKeyword "as".toList = false) ↔
      ∀ t ∈ outside 0 back, t.isKeyword "as".toList = false :=
    not_isKeyword_recased (outside_recased hback 0)
  constructor
  · exact fun h => ⟨hdepth ▸ h.closed, has ▸ h.isAs, hlast.mp h.last⟩
  · exact fun h => ⟨hdepth.trans h.closed, has.trans h.isAs, hlast.mpr h.last⟩

lemma HasAlias.of_recased {ts ts' : List Token} (h : List.Forall₂ Token.Recased ts ts') :
    HasAlias ts' → HasAlias ts := by
  rintro ⟨front', word', back', rfl, hlast, hfrontne, hbackne⟩
  have hfront := List.forall₂_take_append ts front' (word' :: back') h
  obtain ⟨word, back, hword, hback, hdrop⟩ :=
    List.forall₂_cons_right_iff.mp (List.forall₂_drop_append ts front' (word' :: back') h)
  refine ⟨_, word, back, ?_, (lastAs_recased hfront hword hback).mp hlast, ?_, ?_⟩
  · rw [← hdrop, List.take_append_drop]
  · rintro hnil
    rw [hnil, List.forall₂_nil_left_iff] at hfront
    exact hfrontne hfront
  · rintro rfl
    exact hbackne (List.forall₂_nil_left_iff.mp hback)

lemma splitAlias_lowerKeywords (h : splitAlias e = none) : splitAlias (lowerKeywords e) = none := by
  rw [splitAlias_eq_none_iff, exists_inlineAlias_iff] at h ⊢
  exact mt (HasAlias.of_recased (tokens_lowerKeywords e)) h

lemma scan_as : scan " as".toList = ⟨[⟨[' '], "as".toList, .keyword "as".toList⟩], []⟩ := by
  decide +kernel

/-- **Two parts with ` as ` between them** are cut there again. -/
lemma cutAtAs_join {head name : Text} (hclosed : QuotesClosed head)
    (hlast : LastAs 0 (tokens head) (.keyword "as".toList) (tokens name)) :
    CutAtAs (head ++ " as ".toList ++ name) (head ++ [' ']) "as".toList (' ' :: name) ∧
      tokens (head ++ [' ']) = tokens head := by
  have htext : head ++ " as ".toList ++ name = head ++ (" as".toList ++ ' ' :: name) :=
    List.append_assoc head _ name
  have hbehind : scan (" as".toList ++ ' ' :: name) =
      ⟨⟨[' '], "as".toList, .keyword "as".toList⟩ :: (scan (' ' :: name)).lexemes,
        (scan (' ' :: name)).trailing⟩ := by
    rw [scan_append_separates (separates_space name) (by decide)
      (by rw [endsCallable, tokens, scan_as]; rfl), scan_as, Scan.append]
    cases hls : (scan (' ' :: name)).lexemes <;> rfl
  have hwhole : scan (head ++ " as ".toList ++ name) =
      ⟨(scan head).lexemes ++
          ⟨(scan head).trailing ++ [' '], "as".toList, .keyword "as".toList⟩ ::
            (scan (' ' :: name)).lexemes, (scan (' ' :: name)).trailing⟩ := by
    have hspace : Separates (" as".toList ++ ' ' :: name) := separates_space _
    rw [htext, scan_append_separates hspace hclosed (Bool.and_false _), hbehind]
    rfl
  have hname : tokens (' ' :: name) = tokens name := tokens_cons_blank (by decide) name
  rw [← hname] at hlast
  have hcut := cutAtAs_of_lexemes (congrArg Scan.lexemes hwhole) hlast
  rw [congrArg Scan.trailing hwhole, scan_append, ← List.append_assoc, scan_append] at hcut
  exact hcut

/-- Trimmed parts are found again. -/
lemma splitAlias_join {head name : Text} (hclosed : QuotesClosed head)
    (hlast : LastAs 0 (tokens head) (.keyword "as".toList) (tokens name))
    (hhead : Text.Trimmed head) (hheadne : head ≠ []) (hname : Text.Trimmed name)
    (hnamene : name ≠ []) : splitAlias (head ++ " as ".toList ++ name) = some (head, name) := by
  have htrimhead : (head ++ [' ']).trim = head := by
    have htrim := Text.trim_append (a := []) (b := [' ']) rfl (by decide) hhead
    rwa [List.nil_append] at htrim
  have htrimname : Text.trim (' ' :: name) = name := by
    have htrim := Text.trim_append (a := [' ']) (b := []) (by decide) rfl hname
    rwa [List.append_nil] at htrim
  rw [(cutAtAs_join hclosed hlast).1.splitAlias, htrimhead, htrimname, if_neg]
  simp [hheadne, hnamene]

/-! ## The column -/

/-- What is written of an expression with an alias. -/
def aliasText (before after : Text) : Text :=
  lowerKeywords before.trim ++ " as ".toList ++ after.trim

namespace InlineAlias

variable {before after : Text}

/-- The trimmed parts of a trimmed expression, by their tokens. -/
lemma parts_of_trimmed (h : InlineAlias e before after) (he : Text.Trimmed e) :
    QuotesClosed before.trim ∧ ∃ word : Text, LastAs 0 (tokens before.trim) (.keyword word)
        (tokens after.trim) ∧
      tokens e = tokens before.trim ++ .keyword word :: tokens after.trim := by
  obtain ⟨⟨word, hcut⟩, -, -⟩ := inlineAlias_iff.mp h
  have hafter : tokens after.trim = tokens after := by
    obtain ⟨a, b, ha, hb, hs⟩ := Text.exists_trim after
    have hend : e = (before ++ (word ++ (a ++ after.trim))) ++ b := by
      rw [hcut.text]
      conv_lhs => rw [hs]
      simp only [List.append_assoc]
    rw [hend] at he
    obtain rfl := he.eq_nil_of_append hb
    rw [List.append_nil] at hs
    conv_rhs => rw [hs, tokens_append_of_isBlank ha]
  rw [tokens_trim hcut.quotes, hafter]
  exact ⟨hcut.quotes.trim, word, hcut.lastAs, hcut.tokens⟩

lemma parts (h : InlineAlias e before after) :
    QuotesClosed before.trim ∧ ∃ word : Text, LastAs 0 (tokens before.trim) (.keyword word)
        (tokens after.trim) ∧
      tokens e.trim = tokens before.trim ++ .keyword word :: tokens after.trim := by
  obtain ⟨before', after', h', hbefore, hafter⟩ := h.trim
  rw [← hbefore, ← hafter]
  exact h'.parts_of_trimmed (Text.trimmed_trim e)

lemma recased_as {word : Text} (h : (Token.keyword word).isKeyword "as".toList = true) :
    (Token.keyword word).Recased (.keyword "as".toList) :=
  .keyword (Text.sameLetters_iff.mpr (Text.sameLetters_iff.mp h).symm)

/-- The `as` that is written is the last one. -/
lemma lastAs_written {word : Text}
    (hlast : LastAs 0 (tokens before.trim) (.keyword word) (tokens after.trim)) :
    LastAs 0 (tokens (lowerKeywords before.trim)) (.keyword "as".toList) (tokens after.trim) :=
  (lastAs_recased (tokens_lowerKeywords before.trim) (recased_as hlast.isAs)
    (recased_tokens after.trim)).mpr hlast

/-- **What is written has the same tokens.** -/
lemma tokens_aliasText (h : InlineAlias e before after) :
    List.Forall₂ Token.Recased (tokens e.trim) (tokens (aliasText before after)) := by
  obtain ⟨hclosed, word, hlast, htokens⟩ := h.parts
  obtain ⟨hcut, hhead⟩ := cutAtAs_join hclosed.lowerKeywords (lastAs_written hlast)
  rw [aliasText, hcut.tokens, hhead, tokens_cons_blank (by decide), htokens]
  exact List.rel_append (tokens_lowerKeywords before.trim)
    (List.Forall₂.cons (recased_as hlast.isAs) (recased_tokens after.trim))

/-- **The alias is found there again.** -/
lemma splitAlias_aliasText (h : InlineAlias e before after) :
    SqlFragments.splitAlias (aliasText before after) =
      some (lowerKeywords before.trim, after.trim) := by
  obtain ⟨hclosed, word, hlast, -⟩ := h.parts
  obtain ⟨-, hbefore, hafter⟩ := inlineAlias_iff.mp h
  exact splitAlias_join hclosed.lowerKeywords (lastAs_written hlast)
    (Text.trimmed_trim before).lowerKeywords
    (mt lowerKeywords_eq_nil_iff.mp (Text.trim_ne_nil hbefore)) (Text.trimmed_trim after)
    (Text.trim_ne_nil hafter)

end InlineAlias

namespace OutputColumn

/-- **An alias in the expression wins**, whatever other aliases the column has. -/
lemma toText_of_inlineAlias {before after : Text} (h : InlineAlias e before after)
    (source name : Option Text) : toText ⟨e, source, name⟩ = aliasText before after := by
  simp only [toText, splitAlias_trim, h.splitAlias]
  rfl

lemma toText_of_splitAlias (h : splitAlias e = none) :
    toText ⟨e, none, none⟩ = lowerKeywords e.trim := by
  simp only [toText, splitAlias_trim, h]
  rfl

/-- **What is written of an expression is a fixpoint.** -/
lemma toText_toText (e : Text) :
    toText ⟨toText ⟨e, none, none⟩, none, none⟩ = toText ⟨e, none, none⟩ := by
  by_cases h : splitAlias e = none
  · have hagain := splitAlias_lowerKeywords ((splitAlias_trim e).trans h)
    rw [toText_of_splitAlias h, toText_of_splitAlias hagain,
      (Text.trimmed_trim e).lowerKeywords.trim_eq, lowerKeywords_lowerKeywords]
  · obtain ⟨before, after, halias⟩ := not_not.mp (mt splitAlias_eq_none_iff.mpr h)
    rw [toText_of_inlineAlias halias]
    simp only [toText, splitAlias_trim, halias.splitAlias_aliasText, lowerKeywords_lowerKeywords]
    rfl

/-- **What is written of an expression has the same tokens.** -/
lemma tokens_toText (e : Text) :
    List.Forall₂ Token.Recased (tokens e.trim) (tokens (toText ⟨e, none, none⟩)) := by
  by_cases h : splitAlias e = none
  · rw [toText_of_splitAlias h]
    exact tokens_lowerKeywords e.trim
  · obtain ⟨before, after, halias⟩ := not_not.mp (mt splitAlias_eq_none_iff.mpr h)
    rw [toText_of_inlineAlias halias]
    exact halias.tokens_aliasText

end OutputColumn

namespace SelectDraft

/-- The columns of a draft as they are written. -/
def columnTexts (d : SelectDraft) : List Text :=
  d.columns.map OutputColumn.toText

lemma columnTexts_addColumn (d : SelectDraft) (expression : Text) :
    (d.addColumn expression).columnTexts =
      d.columnTexts ++ [OutputColumn.toText ⟨expression, none, none⟩] :=
  List.map_append

lemma columnTexts_addColumnFrom (d : SelectDraft) (expression source : Text) :
    (d.addColumnFrom expression source).columnTexts =
      d.columnTexts ++ [OutputColumn.toText ⟨expression, nonBlank source, none⟩] :=
  List.map_append

lemma columnTexts_addColumnAs (d : SelectDraft) (expression source name : Text) :
    (d.addColumnAs expression source name).columnTexts =
      d.columnTexts ++ [OutputColumn.toText ⟨expression, nonBlank source, nonBlank name⟩] :=
  List.map_append

/-- **An expression is kept as a column.**  The column has the tokens of the trimmed expression, up
to the case of their letters.  If there is text on both sides of the last `as` outside parentheses,
both texts are written with ` as ` between them, the one behind it as it is, and no other alias is.
If there is not, the whole expression is written in lower case.  The written column, added as an
expression, is written the same again. -/
theorem addColumn_keeps_expression (d : SelectDraft) (e : Text) :
    ∃ text : Text, (d.addColumn e).columnTexts = d.columnTexts ++ [text] ∧
      List.Forall₂ (fun t t' => t.Recased t' ∧ t'.text.sameLetters t.text = true)
        (tokens e.trim) (tokens text) ∧
      (∀ before after, InlineAlias e before after →
        text = lowerKeywords before.trim ++ " as ".toList ++ after.trim ∧
        ∀ source name : Text,
          (d.addColumnFrom e source).columnTexts = d.columnTexts ++ [text] ∧
          (d.addColumnAs e source name).columnTexts = d.columnTexts ++ [text]) ∧
      ((¬ ∃ before after, InlineAlias e before after) → text = lowerKeywords e.trim) ∧
      ∀ d' : SelectDraft, (d'.addColumn text).columnTexts = d'.columnTexts ++ [text] := by
  refine ⟨OutputColumn.toText ⟨e, none, none⟩, columnTexts_addColumn d e, ?_, ?_, ?_, ?_⟩
  · exact (OutputColumn.tokens_toText e).imp fun t t' h => ⟨h, h.sameLetters⟩
  · intro before after halias
    have htext := OutputColumn.toText_of_inlineAlias halias
    refine ⟨htext none none, fun source name => ?_⟩
    rw [columnTexts_addColumnFrom, columnTexts_addColumnAs, htext, htext, htext]
    exact ⟨rfl, rfl⟩
  · exact fun hnone => OutputColumn.toText_of_splitAlias (splitAlias_eq_none_iff.mpr hnone)
  · intro d'
    rw [columnTexts_addColumn, OutputColumn.toText_toText]

/-- The `as` of a cast and those in front of the last one are no alias, nor is one in quotes. -/
theorem columnTexts_of_castWithAlias :
    InlineAlias " CAST(a AS INT) As x AS \"Y as\" ".toList
        " CAST(a AS INT) As x ".toList " \"Y as\" ".toList ∧
      (empty.addColumn " CAST(a AS INT) As x AS \"Y as\" ".toList).columnTexts =
        ["CAST(a as INT) as x as \"Y as\"".toList] := by
  have halias : InlineAlias " CAST(a AS INT) As x AS \"Y as\" ".toList
      " CAST(a AS INT) As x ".toList " \"Y as\" ".toList :=
    ⟨tokens "CAST(a AS INT) As x".toList, .keyword "AS".toList, tokens "\"Y as\"".toList,
      ⟨21, 23⟩, by decide +kernel,
      ⟨by decide +kernel, by decide +kernel, by decide +kernel⟩, by decide +kernel,
      by decide +kernel, by decide +kernel, by decide, by decide⟩
  obtain ⟨text, hadded, -, hwritten, -⟩ :=
    addColumn_keeps_expression empty " CAST(a AS INT) As x AS \"Y as\" ".toList
  have hlower : lowerKeywords "CAST(a AS INT) As x".toList = "CAST(a as INT) as x".toList := by
    have hplain := lowerKeywords_plain_append (m := []) nofun (t := "CAST(a AS INT) As x".toList)
      (by simp [isQuote])
    rw [List.append_nil, lowerKeywords_nil, List.append_nil] at hplain
    exact hplain.trans (by decide +kernel)
  have htrim : Text.trim " CAST(a AS INT) As x ".toList = "CAST(a AS INT) As x".toList := by
    decide +kernel
  refine ⟨halias, ?_⟩
  rw [hadded, (hwritten _ _ halias).1, htrim, hlower]
  decide +kernel

end SelectDraft

end SqlFragments
