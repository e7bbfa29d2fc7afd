import SqlFragments.Proofs.Order.Parts
import SqlFragments.Proofs.Order.Settings

/-!
# Orderings written again

An ordering that is read and written again has the entries it had, in their order, and every entry
is its column in lower case and its settings.  So its tokens are those of the text without its
leading `order by` and without its blank entries, up to the case of letters, unless the words of an
entry end in a setting that is misread.

* `foldedTokens`, `SameTokens` — tokens up to the case of their letters.
* `EntryWritten`, `Reads.entryWritten` — what becomes of one entry.
* `forall₂_entryWritten` — what becomes of a list of parts.
* **`parseOrder_sameTokens_iff`** — when an ordering keeps its tokens.
-/

namespace SqlFragments

variable {s p : Text}

/-! ## Tokens up to case -/

/-- The texts of some tokens, folded. -/
def foldedTokens (ts : List Token) : List Text :=
  ts.map fun t => t.text.folded

/-- The same tokens, one by one, up to the case of their letters. -/
def SameTokens (ts us : List Token) : Prop :=
  foldedTokens us = foldedTokens ts

instance (ts us : List Token) : Decidable (SameTokens ts us) :=
  inferInstanceAs (Decidable (_ = _))

variable {ts us ts' us' : List Token}

@[simp] lemma length_foldedTokens (ts : List Token) : (foldedTokens ts).length = ts.length :=
  List.length_map _

@[simp] lemma foldedTokens_append (ts us : List Token) :
    foldedTokens (ts ++ us) = foldedTokens ts ++ foldedTokens us :=
  List.map_append

lemma sameTokens_append_iff (hlength : us.length = ts.length) :
    SameTokens (ts ++ ts') (us ++ us') ↔ SameTokens ts us ∧ SameTokens ts' us' := by
  rw [SameTokens, foldedTokens_append, foldedTokens_append]
  constructor
  · intro h
    exact List.append_inj h (by rw [length_foldedTokens, length_foldedTokens, hlength])
  · rintro ⟨h, h'⟩
    rw [h, h']

lemma sameTokens_of_recased (h : List.Forall₂ Token.Recased ts us) : SameTokens ts us := by
  induction h with
  | nil => rfl
  | @cons t u _ _ ht _ ih =>
      have hletters : u.text.folded = t.text.folded := by
        rw [← folded_toAsciiLower, Text.sameLetters_iff.mp ht.sameLetters, folded_toAsciiLower]
      exact congrArg₂ List.cons hletters ih

/-- Lists of entries have the same tokens if their entries do. -/
lemma sameTokens_commaList_iff {es ws : List (List Token)}
    (h : List.Forall₂ (fun e w => w.length = e.length) es ws) :
    SameTokens (commaList es) (commaList ws) ↔ List.Forall₂ SameTokens es ws := by
  induction h with
  | nil => exact iff_of_true rfl List.Forall₂.nil
  | @cons e w es ws hlength hrest ih =>
      rw [List.forall₂_cons]
      cases hrest with
      | nil =>
          rw [commaList_singleton, commaList_singleton]
          exact (and_iff_left List.Forall₂.nil).symm
      | cons hnext hmore =>
          rw [commaList_cons_cons, commaList_cons_cons, sameTokens_append_iff hlength, ← ih]
          have hlength' : [Token.comma].length = [Token.comma].length := rfl
          exact and_congr_right fun _ => (sameTokens_append_iff hlength').trans (and_iff_right rfl)

/-! ## Entries -/

variable {item : OrderItem} {ds ns : List Text} {d : Direction} {n : NullPlace}

/-- A name is one token up to case. -/
lemma foldedTokens_of_isPlainName {w : Text} (h : isPlainName w = true) :
    foldedTokens (tokens w) = [w.folded] := by
  obtain ⟨t, htokens, ht⟩ := tokens_of_isPlainName h
  rw [htokens, foldedTokens, List.map_singleton, ht]

lemma foldedTokens_direction (d : Direction) : foldedTokens (tokens d.toText) =
    match d with
    | .asc => ["asc".toList]
    | .desc => ["desc".toList]
    | .unspecified => [] := by
  cases d <;> decide +kernel

lemma foldedTokens_nulls (n : NullPlace) : foldedTokens (tokens n.toText) =
    match n with
    | .first => ["nulls".toList, "first".toList]
    | .last => ["nulls".toList, "last".toList]
    | .unspecified => [] := by
  cases n <;> decide +kernel

/-- **The words of a direction are written again** unless `asc` is read as `desc`. -/
lemma DirectionWords.sameTokens_iff (h : DirectionWords ds d) :
    (tokens d.toText).length = (ds.flatMap tokens).length ∧
      (SameTokens (ds.flatMap tokens) (tokens d.toText) ↔
        ¬ (d = .desc ∧ ∃ w, ds = [w] ∧ w.folded = "asc".toList)) := by
  have hwritten := foldedTokens_direction d
  rw [← length_foldedTokens, ← length_foldedTokens, SameTokens]
  cases h with
  | none =>
      rw [hwritten]
      exact ⟨rfl, iff_of_true rfl fun hread => nomatch hread.1⟩
  | @asc w hw =>
      have hfolded := folded_of_lower (by decide) hw
      rw [hwritten, List.flatMap_singleton,
        foldedTokens_of_isPlainName (isPlainName_of_folded hfolded (by decide)), hfolded]
      exact ⟨rfl, iff_of_true rfl fun hread => nomatch hread.1⟩
  | @desc w _ hw =>
      have hplain := isPlainName_of_folded_or hw (by decide) (by decide)
      rw [hwritten, List.flatMap_singleton, foldedTokens_of_isPlainName hplain]
      refine ⟨rfl, ?_⟩
      rcases hw with hasc | hdesc
      · rw [hasc]
        exact iff_of_false (by decide) (not_not_intro ⟨rfl, w, rfl, hasc⟩)
      · rw [hdesc]
        refine iff_of_true rfl ?_
        rintro ⟨-, w', heq, hasc⟩
        rw [← (List.cons.inj heq).1, hdesc] at hasc
        exact absurd hasc (by decide)

/-- **The words of a place of nulls are written again** unless `first` is read as `last`. -/
lemma NullWords.sameTokens_iff (h : NullWords ns n) :
    (tokens n.toText).length = (ns.flatMap tokens).length ∧
      (SameTokens (ns.flatMap tokens) (tokens n.toText) ↔
        ¬ (n = .last ∧ ∃ a b, ns = [a, b] ∧ b.folded = "first".toList)) := by
  have hwritten := foldedTokens_nulls n
  rw [← length_foldedTokens, ← length_foldedTokens, SameTokens]
  cases h with
  | none =>
      rw [hwritten]
      exact ⟨rfl, iff_of_true rfl fun hread => nomatch hread.1⟩
  | @first a b ha hb =>
      have hfolded := folded_of_lower (by decide) hb
      rw [hwritten, List.flatMap_cons, List.flatMap_singleton, foldedTokens_append,
        foldedTokens_of_isPlainName (isPlainName_of_folded ha (by decide)),
        foldedTokens_of_isPlainName (isPlainName_of_folded hfolded (by decide)), ha, hfolded]
      exact ⟨rfl, iff_of_true rfl fun hread => nomatch hread.1⟩
  | @last a b ha _ hb =>
      have hplain := isPlainName_of_folded_or hb (by decide) (by decide)
      rw [hwritten, List.flatMap_cons, List.flatMap_singleton, foldedTokens_append,
        foldedTokens_of_isPlainName (isPlainName_of_folded ha (by decide)),
        foldedTokens_of_isPlainName hplain, ha]
      refine ⟨rfl, ?_⟩
      rcases hb with hfirst | hlast
      · rw [hfirst]
        exact iff_of_false (by decide) (not_not_intro ⟨rfl, a, b, rfl, hfirst⟩)
      · rw [hlast]
        refine iff_of_true rfl ?_
        rintro ⟨-, a', b', heq, hfirst⟩
        rw [← (List.cons.inj (List.cons.inj heq).2).1, hlast] at hfirst
        exact absurd hfirst (by decide)

/-- A text that can be written behind a column. -/
structure Attaches (t : Text) : Prop where
  separates : Separates t
  noCall : opensCall t = false
  closed : QuotesClosed t

lemma Attaches.tokens_append {t : Text} (ht : Attaches t) (hs : QuotesClosed s) :
    tokens (s ++ t) = tokens s ++ tokens t :=
  tokens_append_of_not_call ht.separates hs ht.noCall

lemma Direction.attaches (d : Direction) : Attaches d.toText := by
  cases d with
  | asc => exact ⟨separates_space _, rfl, rfl⟩
  | desc => exact ⟨separates_space _, rfl, rfl⟩
  | unspecified => exact ⟨separates_of_isBlank rfl, rfl, rfl⟩

lemma NullPlace.attaches (n : NullPlace) : Attaches n.toText := by
  cases n with
  | first => exact ⟨separates_space _, rfl, rfl⟩
  | last => exact ⟨separates_space _, rfl, rfl⟩
  | unspecified => exact ⟨separates_of_isBlank rfl, rfl, rfl⟩

/-- What becomes of an entry: it is read, its column is written in lower case, and its settings as
they are read. -/
def EntryWritten (p : Text) (ts : List Token) : Prop :=
  ∃ item ds ns column, OrderItem.parse p = some item ∧ Reads p item ds ns ∧
    List.Forall₂ Token.Recased (tokens item.column) column ∧
    ts = column ++ (tokens item.direction.toText ++ tokens item.nulls.toText)

/-- An item that is read is written with its tokens. -/
lemma Reads.entryWritten (h : Reads p item ds ns) (hparse : OrderItem.parse p = some item) :
    EntryWritten p (tokens item.toText) ∧ QuotesClosed item.toText := by
  have hcolumn : QuotesClosed (lowerKeywords item.column.trim) :=
    h.tail.closed.trim.lowerKeywords
  have hdirection := hcolumn.append item.direction.attaches.closed
  refine ⟨⟨item, ds, ns, tokens (lowerKeywords item.column.trim), hparse, h, ?_, ?_⟩,
    hdirection.append item.nulls.attaches.closed⟩
  · rw [← tokens_trim h.tail.closed]
    exact tokens_lowerKeywords item.column.trim
  · rw [OrderItem.toText, item.nulls.attaches.tokens_append hdirection,
      item.direction.attaches.tokens_append hcolumn, List.append_assoc]

/-- **An entry keeps its tokens** unless a setting of it is misread. -/
lemma EntryWritten.sameTokens_iff (h : EntryWritten p ts) (hp : QuotesClosed p) :
    ts.length = (tokens p).length ∧ (SameTokens (tokens p) ts ↔ ¬ Misread p.words) := by
  obtain ⟨item, ds, ns, column, -, hreads, hcolumn, rfl⟩ := h
  obtain ⟨hlength, hsame⟩ := hreads.direction.sameTokens_iff
  obtain ⟨hlength', hsame'⟩ := hreads.nulls.sameTokens_iff
  have htokens : tokens p =
      tokens item.column ++ (ds.flatMap tokens ++ ns.flatMap tokens) := by
    rw [← tokens_trim hp, hreads.tail.tokens, List.flatMap_append]
  rw [htokens]
  constructor
  · simp only [List.length_append, hlength, hlength', hcolumn.length_eq]
  · rw [sameTokens_append_iff hcolumn.length_eq.symm, sameTokens_append_iff hlength, hsame, hsame',
      and_iff_right (sameTokens_of_recased hcolumn), hreads.misread_iff, not_or]

/-- **The parts of a list** are written one by one, except for the blank ones. -/
lemma forall₂_entryWritten : ∀ {parts : List Text}, (∀ p ∈ parts, QuotesClosed p) →
    List.Forall₂ EntryWritten (parts.filter fun p => !p.isBlank)
        ((parts.filterMap OrderItem.parse).map fun item => tokens item.toText) ∧
      ∀ item ∈ parts.filterMap OrderItem.parse, QuotesClosed item.toText
  | [], _ => ⟨List.Forall₂.nil, nofun⟩
  | p :: rest, h => by
      obtain ⟨hp, hrest⟩ := List.forall_mem_cons.mp h
      obtain ⟨hwritten, hclosed⟩ := forall₂_entryWritten hrest
      cases hblank : p.isBlank with
      | true =>
          rw [List.filter_cons, hblank, List.filterMap_cons, parse_of_isBlank hblank]
          exact ⟨hwritten, hclosed⟩
      | false =>
          obtain ⟨item, ds, ns, hparse, hreads⟩ := parse_reads hp hblank
          obtain ⟨hentry, hitem⟩ := hreads.entryWritten hparse
          rw [List.filter_cons, hblank, List.filterMap_cons, hparse]
          exact ⟨List.Forall₂.cons hentry hwritten, List.forall_mem_cons.mpr ⟨hitem, hclosed⟩⟩

/-- **Written parts keep their tokens** unless a setting of one of them is misread. -/
lemma forall₂_sameTokens_iff {parts : List Text} {written : List (List Token)}
    (h : List.Forall₂ EntryWritten parts written) (hclosed : ∀ p ∈ parts, QuotesClosed p) :
    List.Forall₂ (fun e w => w.length = e.length) (parts.map tokens) written ∧
      (List.Forall₂ SameTokens (parts.map tokens) written ↔ ∀ p ∈ parts, ¬ Misread p.words) := by
  induction h with
  | nil => exact ⟨List.Forall₂.nil, iff_of_true List.Forall₂.nil nofun⟩
  | @cons p w parts written hentry hrest ih =>
      obtain ⟨hp, hmore⟩ := List.forall_mem_cons.mp hclosed
      obtain ⟨hlength, hsame⟩ := hentry.sameTokens_iff hp
      obtain ⟨hlengths, hsames⟩ := ih hmore
      refine ⟨List.Forall₂.cons hlength hlengths, ?_⟩
      rw [List.map_cons, List.forall₂_cons, hsame, hsames, List.forall_mem_cons]

/-! ## Orderings -/

/-- The entries of a list that are not empty are the tokens of the parts that are not blank. -/
lemma filter_cutCommas (s : Text) : (cutCommas (tokens s)).filter (fun e => !e.isEmpty) =
    ((splitTopLevel s).filter fun p => !p.isBlank).map tokens := by
  have hempty (p : Text) : (tokens p).isEmpty = p.isBlank := by
    rw [Bool.eq_iff_iff, List.isEmpty_iff, tokens_eq_nil_iff]
  rw [← map_tokens_splitTopLevel, List.filter_map]
  refine congrArg _ (List.filter_congr fun p _ => ?_)
  rw [Function.comp_apply, hempty]

/-- Without a long s no part of an ordering is misread. -/
lemma OrderBody.not_misread {body : Text} (h : OrderBody s body) (hs : Char.ofNat 0x17F ∉ s) :
    ∀ p ∈ splitTopLevel body, ¬ Misread p.words := by
  intro p hp hmisread
  obtain ⟨w, hw, hlong⟩ := hmisread.long_s_mem
  exact hs (h.isSuffix.subset (mem_of_mem_splitTopLevel p hp (Text.mem_of_mem_words hw hlong)))

/-- **An ordering keeps its tokens exactly if no setting is misread.**  Its leading `order by` is
taken off, the parts of the rest are the entries that its tokens are cut into at the commas outside
parentheses, and every part that is not blank is written in its place: its column in lower case, and
its settings as they are read.  The tokens that are written are those of the entries, up to case,
exactly if no entry ends in a word that folds to `asc` or `first` but is not that word in ASCII; so
they are if there is no long s in the text. -/
theorem parseOrder_sameTokens_iff (hs : QuotesClosed s) : ∃ body, OrderBody s body ∧
    (splitTopLevel body).map tokens = cutCommas (tokens body) ∧
    (∃ written,
      List.Forall₂ EntryWritten ((splitTopLevel body).filter fun p => !p.isBlank) written ∧
      tokens (Text.join ", ".toList ((parseOrder s).map OrderItem.toText)) = commaList written) ∧
    (SameTokens (commaList ((cutCommas (tokens body)).filter fun e => !e.isEmpty))
        (tokens (Text.join ", ".toList ((parseOrder s).map OrderItem.toText))) ↔
      ∀ p ∈ splitTopLevel body, ¬ Misread p.words) ∧
    (Char.ofNat 0x17F ∉ s → ∀ p ∈ splitTopLevel body, ¬ Misread p.words) := by
  have hbody := orderBody_stripOrderBy s
  have hparts := (hbody.quotesClosed hs).of_mem_splitTopLevel
  obtain ⟨hwritten, hclosed⟩ := forall₂_entryWritten hparts
  rw [← parseOrder] at hwritten hclosed
  have htokens : tokens (Text.join ", ".toList ((parseOrder s).map OrderItem.toText)) =
      commaList ((parseOrder s).map fun item => tokens item.toText) := by
    rw [isSeparator_comma.tokens_join (List.forall_mem_map.mpr hclosed), List.map_map]
    rfl
  refine ⟨stripOrderBy s, hbody, map_tokens_splitTopLevel _, ⟨_, hwritten, htokens⟩, ?_,
    hbody.not_misread⟩
  obtain ⟨hlengths, hsame⟩ := forall₂_sameTokens_iff hwritten fun p hp =>
    hparts p (List.mem_of_mem_filter hp)
  rw [htokens, filter_cutCommas, sameTokens_commaList_iff hlengths, hsame]
  constructor
  · intro h p hp hmisread
    refine h p (List.mem_filter.mpr ⟨hp, ?_⟩) hmisread
    rw [Bool.not_eq_true', ← Bool.not_eq_true]
    exact fun hblank => hmisread.ne_nil (Text.words_of_isBlank hblank)
  · exact fun h p hp => h p (List.mem_of_mem_filter hp)

/-- An ordering with a leading `order by`, a blank entry and settings in any case keeps its
tokens. -/
theorem parseOrder_sameTokens_settings :
    QuotesClosed "Order By f(a, b) ASC, , \"x\" desc Nulls Last".toList ∧
    ∃ body, OrderBody "Order By f(a, b) ASC, , \"x\" desc Nulls Last".toList body ∧
      SameTokens (commaList ((cutCommas (tokens body)).filter fun e => !e.isEmpty))
        (tokens (Text.join ", ".toList ((parseOrder
          "Order By f(a, b) ASC, , \"x\" desc Nulls Last".toList).map OrderItem.toText))) := by
  have hclosed : QuotesClosed "Order By f(a, b) ASC, , \"x\" desc Nulls Last".toList := by decide
  obtain ⟨body, hbody, -, -, hsame, hnone⟩ := parseOrder_sameTokens_iff hclosed
  exact ⟨hclosed, body, hbody, hsame.mpr (hnone (by decide))⟩

/-- In an entry that ends in `asc` with a long s, the direction is read as `desc`. -/
theorem not_sameTokens_long_s :
    QuotesClosed "a a\u017fc".toList ∧ OrderBody "a a\u017fc".toList "a a\u017fc".toList ∧
    (parseOrder "a a\u017fc".toList).map OrderItem.toText = ["a desc".toList] ∧
    ¬ SameTokens (commaList ((cutCommas (tokens "a a\u017fc".toList)).filter fun e => !e.isEmpty))
      (tokens (Text.join ", ".toList
        ((parseOrder "a a\u017fc".toList).map OrderItem.toText))) := by
  have hbody := orderBody_stripOrderBy "a a\u017fc".toList
  have hstrip : stripOrderBy "a a\u017fc".toList = "a a\u017fc".toList := by decide
  rw [hstrip] at hbody
  exact ⟨by decide, hbody, by decide +kernel, by decide +kernel⟩

end SqlFragments
