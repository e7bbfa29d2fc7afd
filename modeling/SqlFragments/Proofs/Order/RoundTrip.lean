import SqlFragments.Proofs.KeywordCase.Kept
import SqlFragments.Proofs.Order.Entry
import SqlFragments.Proofs.Order.LeadingWords

/-!
# Orderings are read back

An ordering is written entry by entry with commas between them, and read by cutting at the commas
outside parentheses and quotes.  If the columns close what they open and have no comma outside, the
cut gives the entries, and each entry its column and its settings.

* `Listable` — a text that can stand in a list; `EndsAtComma` — one that can be its first part.
* **`EndsAtComma.splitTopLevel_append`**, `splitTopLevel_join` — a list is cut into its parts.
* `OrderItem.Readable` — an entry whose column can be told from its settings.
* **`parseOrder_toText`** — the entries of an ordering that was written.
-/

namespace SqlFragments

/-! ## Cutting at commas -/

/-- A text that can stand in a list: it closes what it opens, and its commas stand inside. -/
structure Listable (s : Text) : Prop extends SelfContained s where
  commaless : .comma ∉ outside 0 (tokens s)

instance : DecidablePred Listable := fun s =>
  decidable_of_iff (SelfContained s ∧ .comma ∉ outside 0 (tokens s))
    ⟨fun h => ⟨h.1, h.2⟩, fun h => ⟨h.toSelfContained, h.commaless⟩⟩

/-- A text that ends at a comma behind it: it leaves neither a quote nor a parenthesis open, and its
commas stand inside. -/
structure EndsAtComma (s : Text) : Prop where
  quotes : QuotesClosed s
  closed : depthBehind 0 (tokens s) = 0
  commaless : .comma ∉ outside 0 (tokens s)

lemma Listable.endsAtComma {s : Text} (h : Listable s) : EndsAtComma s :=
  ⟨h.quotes, h.parens.depthBehind_eq 0, h.commaless⟩

/-- Lexemes without a comma outside parentheses belong to the first part of what follows. -/
lemma splitLexemes_append {trailing part : Text} {parts : List Text} {more : List Lexeme}
    (ls : List Lexeme) : ∀ depth : Nat, .comma ∉ outside depth (ls.map Lexeme.token) →
    splitLexemes trailing (depthBehind depth (ls.map Lexeme.token)) more = part :: parts →
      splitLexemes trailing depth (ls ++ more) = (ls.flatMap Lexeme.text ++ part) :: parts := by
  induction ls with
  | nil => exact fun depth _ hmore => hmore
  | cons l rest ih =>
      intro depth h hmore
      rw [List.map_cons, mem_outside_cons, not_or] at h
      obtain ⟨hother, hrest⟩ := h
      rw [List.cons_append, splitLexemes, if_neg hother, ih _ hrest hmore, consText]
      simp only [List.flatMap_cons, Lexeme.text, List.append_assoc]

/-- The scan of a list goes on behind the comma. -/
lemma scan_append_comma {s : Text} (hs : QuotesClosed s) (rest : Text) :
    scan (s ++ ',' :: rest) =
      ⟨(scan s).lexemes ++ ⟨(scan s).trailing, [','], .comma⟩ :: (scan rest).lexemes,
        (scan rest).trailing⟩ := by
  have hcall : (endsCallable s && opensCall (',' :: rest)) = false := by
    rw [show opensCall (',' :: rest) = false from rfl, Bool.and_false]
  have hcomma : scan (',' :: rest) =
      ⟨⟨[], [','], .comma⟩ :: (scan rest).lexemes, (scan rest).trailing⟩ := by
    rw [scan_of_token (show (',' :: rest).dropWhile isBlank = ',' :: rest from rfl)]
    rfl
  rw [scan_append_separates (separates_comma rest) hs hcall, hcomma]
  simp only [Scan.append, List.append_nil]

/-- A text without a comma outside parentheses is one part. -/
lemma splitTopLevel_of_commaless {s : Text} (h : .comma ∉ outside 0 (tokens s)) :
    splitTopLevel s = [s] := by
  have hend : splitLexemes (scan s).trailing (depthBehind 0 (tokens s)) [] =
      [(scan s).trailing] := rfl
  have hsplit := splitLexemes_append (scan s).lexemes 0 h hend
  rw [List.append_nil, scan_append] at hsplit
  exact hsplit

/-- **The first part of a list** ends at the comma behind it. -/
lemma EndsAtComma.splitTopLevel_append {s : Text} (h : EndsAtComma s) (rest : Text) :
    splitTopLevel (s ++ ',' :: rest) = s :: splitTopLevel rest := by
  have hcomma : splitLexemes (scan rest).trailing (depthBehind 0 (tokens s))
      (⟨(scan s).trailing, [','], .comma⟩ :: (scan rest).lexemes) =
        (scan s).trailing :: splitTopLevel rest := by
    rw [h.closed, splitLexemes, if_pos ⟨rfl, rfl⟩, splitTopLevel]
  rw [splitTopLevel, scan_append_comma h.quotes,
    splitLexemes_append (scan s).lexemes 0 h.commaless hcomma, scan_append]

lemma listable_space {s : Text} (h : Listable s) : Listable (' ' :: s) := by
  have htokens : tokens (' ' :: s) = tokens s := tokens_cons_blank (by decide) s
  have hquotes : QuotesClosed (' ' :: s) := (show QuotesClosed [' '] from rfl).append h.quotes
  refine ⟨⟨hquotes, ?_⟩, ?_⟩
  · rw [htokens]
    exact h.parens
  · rw [htokens]
    exact h.commaless

/-- **A list is cut into its parts**, each with the space in front of it. -/
lemma splitTopLevel_join : ∀ {parts : List Text}, parts ≠ [] → (∀ p ∈ parts, Listable p) →
    splitTopLevel (' ' :: Text.join ", ".toList parts) = parts.map (' ' :: ·)
  | [], hne, _ => absurd rfl hne
  | [p], _, h => by
      rw [Text.join_singleton,
        splitTopLevel_of_commaless (listable_space (h p List.mem_cons_self)).commaless]
      rfl
  | p :: q :: rest, _, h => by
      obtain ⟨hp, hrest⟩ := List.forall_mem_cons.mp h
      have hjoin : ' ' :: Text.join ", ".toList (p :: q :: rest) =
          (' ' :: p) ++ ',' :: ' ' :: Text.join ", ".toList (q :: rest) := by
        rw [Text.join_cons_cons, List.append_assoc]
        rfl
      rw [hjoin, (listable_space hp).endsAtComma.splitTopLevel_append,
        splitTopLevel_join (List.cons_ne_nil q rest) hrest]
      rfl

/-! ## Entries -/

/-- An entry whose column can be told from its settings: the column closes what it opens, has no
comma outside parentheses, and does not itself end in a setting that the entry leaves open. -/
structure OrderItem.Readable (item : OrderItem) : Prop where
  nonBlank : item.column.isBlank = false
  listable : Listable item.column
  direction : item.direction = .unspecified → endsInDirection item.column = false
  nulls : item.direction = .unspecified → item.nulls = .unspecified →
    endsInNulls item.column = false

instance : DecidablePred OrderItem.Readable := fun item =>
  decidable_of_iff (item.column.isBlank = false ∧ Listable item.column ∧
      (item.direction = .unspecified → endsInDirection item.column = false) ∧
      (item.direction = .unspecified → item.nulls = .unspecified →
        endsInNulls item.column = false))
    ⟨fun h => ⟨h.1, h.2.1, h.2.2.1, h.2.2.2⟩,
      fun h => ⟨h.nonBlank, h.listable, h.direction, h.nulls⟩⟩

/-- A column as it is written can stand in a list. -/
lemma Listable.column {s : Text} (h : Listable s) : Listable (lowerKeywords s.trim) where
  toSelfContained := h.toSelfContained.trim.lowerKeywords
  commaless := by
    rw [comma_mem_outside_lowerKeywords, tokens_trim h.quotes]
    exact h.commaless

lemma lastWords_column (s : Text) : (lowerKeywords s.trim).lastWords = s.lastWords := by
  rw [Text.lastWords, folded_words_lowerKeywords, Text.words_trim, Text.lastWords]

/-- A setting behind a text that can stand in a list. -/
lemma Listable.append {a b : Text} (ha : Listable a) (hseparates : Separates b)
    (hcall : opensCall b = false) (hb : Listable b) : Listable (a ++ b) := by
  have htokens := tokens_append_of_not_call hseparates ha.quotes hcall
  refine ⟨⟨ha.quotes.append hb.quotes, ?_⟩, ?_⟩
  · rw [htokens]
    exact ha.parens.append hb.parens
  · rw [htokens, ha.parens.outside_append, List.mem_append]
    exact not_or.mpr ⟨ha.commaless, hb.commaless⟩

lemma Listable.direction {s : Text} (h : Listable s) (d : Direction) :
    Listable (s ++ d.toText) := by
  cases d with
  | asc => exact h.append (separates_space _) rfl (by decide +kernel)
  | desc => exact h.append (separates_space _) rfl (by decide +kernel)
  | unspecified => rwa [show Direction.unspecified.toText = [] from rfl, List.append_nil]

lemma Listable.nulls {s : Text} (h : Listable s) (n : NullPlace) : Listable (s ++ n.toText) := by
  cases n with
  | first => exact h.append (separates_space _) rfl (by decide +kernel)
  | last => exact h.append (separates_space _) rfl (by decide +kernel)
  | unspecified => rwa [show NullPlace.unspecified.toText = [] from rfl, List.append_nil]

/-- **An entry is read back**, its column trimmed and in lower case. -/
lemma OrderItem.Readable.parse {item : OrderItem} (h : item.Readable) :
    OrderItem.parse (' ' :: item.toText) =
      some { item with column := lowerKeywords item.column.trim } := by
  have hne : lowerKeywords item.column.trim ≠ [] := fun hnil =>
    Text.trim_ne_nil h.nonBlank (lowerKeywords_eq_nil_iff.mp hnil)
  have hdirection : endsInDirection (lowerKeywords item.column.trim) =
      endsInDirection item.column := by
    rw [endsInDirection, lastWords_column, endsInDirection]
  have hnulls : endsInNulls (lowerKeywords item.column.trim) = endsInNulls item.column := by
    rw [endsInNulls, lastWords_column, endsInNulls]
  refine OrderItem.parse_suffixes (Text.trimmed_trim item.column).lowerKeywords hne ?_ ?_
  · rw [hdirection]
    exact h.direction
  · rw [hnulls]
    exact h.nulls

/-! ## Orderings -/

/-- The two words in front of an ordering are taken away, and the space behind them is left. -/
lemma stripOrderBy_append (s : Text) : stripOrderBy ("order by ".toList ++ s) = ' ' :: s := by
  have hspace : isWordChar ' ' = false := by decide
  have hahead : OrderByAhead ("order by ".toList ++ s) (' ' :: s) :=
    ⟨[], "order".toList, [' '], "by".toList, rfl, rfl, by decide, List.cons_ne_nil _ _, rfl,
      by decide, hspace⟩
  exact hahead.stripOrderBy

/-- **An ordering that was written is read back**: the same entries in the same order, with their
columns trimmed and in lower case, and with their directions and places of nulls. -/
theorem parseOrder_toText {items : List OrderItem} (h : ∀ item ∈ items, item.Readable) :
    parseOrder ("order by ".toList ++ Text.join ", ".toList (items.map OrderItem.toText)) =
      items.map fun item => { item with column := lowerKeywords item.column.trim } := by
  rw [parseOrder, stripOrderBy_append]
  cases items with
  | nil => decide +kernel
  | cons first rest =>
      have hparts : ∀ p ∈ (first :: rest).map OrderItem.toText, Listable p := by
        rw [List.forall_mem_map]
        intro item hitem
        exact ((h item hitem).listable.column.direction item.direction).nulls item.nulls
      rw [splitTopLevel_join (List.map_eq_nil_iff.not.mpr (List.cons_ne_nil _ _)) hparts,
        List.map_map, List.filterMap_map, ← List.filterMap_eq_map]
      refine List.filterMap_congr fun item hitem => ?_
      simp only [Function.comp_apply]
      exact (h item hitem).parse

/-- Entries with commas inside calls and quotes, and with words of settings in their columns. -/
def reportOrder : List OrderItem :=
  [⟨" CASE WHEN coalesce(a, b) = 'x, y' THEN 1 END ".toList, .desc, .last⟩,
    ⟨"description_asc".toList, .unspecified, .unspecified⟩,
    ⟨"u.name DESC".toList, .asc, .unspecified⟩]

theorem parseOrder_toText_report : (∀ item ∈ reportOrder, item.Readable) ∧
    parseOrder ("order by ".toList ++ Text.join ", ".toList (reportOrder.map OrderItem.toText)) =
      [⟨"case when coalesce(a, b) = 'x, y' then 1 end".toList, .desc, .last⟩,
        ⟨"description_asc".toList, .unspecified, .unspecified⟩,
        ⟨"u.name desc".toList, .asc, .unspecified⟩] := by
  have hreadable : ∀ item ∈ reportOrder, item.Readable := by decide +kernel
  refine ⟨hreadable, (parseOrder_toText hreadable).trans ?_⟩
  decide +kernel

end SqlFragments
