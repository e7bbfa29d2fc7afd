import Mathlib.Tactic.Common
import SqlFragments.Proofs.Select.Calls
import SqlFragments.Proofs.Select.Clause
import SqlFragments.Proofs.Token.Seam

/-!
# A statement is read back clause by clause

A statement is put together from fragments that are written as they are given.  If every fragment
keeps to itself, with its quotes closed, its parentheses matching and no clause word outside them,
then the statement can be cut at its clause words again, and the clauses are the parts that the
calls gave, in the order of SQL and in the order of the calls.  A fragment may be blank, and the
body of a named query may be any balanced text, since it is written in parentheses.

There is one place where two fragments stand side by side: a joined table and its alias.  An alias
that opens with a parenthesis turns the name in front of it into that of a function.

* `IsPart`, `IsEntry`, `SelectDraft.Readable` — fragments that keep to themselves.
* `SelectDraft.reading` — the clauses of a draft, with the tokens of its fragments.
* `Writes` — texts that have the tokens of some clauses when they are written in a row.
* **`SelectDraft.readClauses_build`** — the clauses of a statement are those of its draft.
* `SelectDraft.not_readClauses_build_call` — an alias in parentheses changes the name of the
  joined table.
-/

namespace SqlFragments

/-! ## Fragments -/

/-- A fragment that keeps to itself. -/
structure IsPart (s : Text) : Prop where
  closed : QuotesClosed s
  inert : Inert (tokens s)

/-- A fragment that can be an entry of a list. -/
structure IsEntry (s : Text) : Prop extends IsPart s where
  commaless : .comma ∉ outside 0 (tokens s)

instance : DecidablePred IsPart := fun s =>
  decidable_of_iff (QuotesClosed s ∧ Inert (tokens s))
    ⟨fun h => ⟨h.1, h.2⟩, fun h => ⟨h.closed, h.inert⟩⟩

instance : DecidablePred IsEntry := fun s =>
  decidable_of_iff (IsPart s ∧ .comma ∉ outside 0 (tokens s))
    ⟨fun h => ⟨h.1, h.2⟩, fun h => ⟨h.toIsPart, h.commaless⟩⟩

/-- A draft whose fragments keep to themselves, as they are written. -/
structure SelectDraft.Readable (d : SelectDraft) : Prop where
  queryName : ∀ q ∈ d.queries, IsEntry q.name
  queryBody : ∀ q ∈ d.queries, QuotesClosed q.body.trim ∧ Balanced (tokens q.body.trim)
  column : ∀ c ∈ d.columns, IsEntry c.toText
  source : ∀ table name, d.source = some (table, name) → IsPart table ∧ IsPart name
  join : ∀ j ∈ d.joins, IsPart j.table ∧ IsPart j.name ∧ IsPart (Text.trim j.on)
  filter : ∀ c, d.filter = some c → c.isEmpty = false → IsPart c.toText
  group : ∀ g ∈ d.groupBy, IsEntry (lowerKeywords g)
  having : ∀ c, d.having = some c → c.isEmpty = false → IsPart c.toText
  order : ∀ o ∈ d.orderBy, IsEntry o.toText

/-! ## The clauses of a draft -/

def asToken : Token :=
  .keyword "as".toList

/-- A named query: its name, and its body in parentheses. -/
def NamedQuery.tokens (q : NamedQuery) : List Token :=
  SqlFragments.tokens q.name ++
    asToken :: .leftParen :: (SqlFragments.tokens q.body.trim ++ [.rightParen])

/-- A list clause; there is none without entries. -/
def listReading (word : ClauseWord) (entries : List (List Token)) : List Clause :=
  if entries.isEmpty then [] else [⟨word, entries⟩]

/-- The table, and its alias unless it is blank. -/
def sourceReading : Option (Text × Text) → List Clause
  | some (table, name) =>
    [⟨.source, [tokens table ++ if name.trim.isEmpty then [] else asToken :: tokens name]⟩]
  | none => []

def JoinKind.word : JoinKind → ClauseWord
  | left => .leftJoin
  | inner => .innerJoin

/-- The clauses of a join: the table with its alias, and the condition. -/
def Join.reading (j : Join) : List Clause :=
  [⟨j.kind.word, [tokens j.table ++ tokens j.name]⟩, ⟨.on, [tokens (Text.trim j.on)]⟩]

/-- A condition; there is no clause for an empty one. -/
def conditionReading (word : ClauseWord) : Option Condition → List Clause
  | some c => if c.isEmpty then [] else [⟨word, [tokens c.toText]⟩]
  | none => []

def numberReading (word : ClauseWord) : Option Nat → List Clause
  | some n => [⟨word, [[.number (Nat.toDigits 10 n)]]⟩]
  | none => []

/-- The clauses of a draft in the order of SQL, with the tokens of its fragments. -/
def SelectDraft.reading (d : SelectDraft) : List Clause :=
  listReading .queries (d.queries.map NamedQuery.tokens) ++
    listReading .columns (d.columns.map fun c => tokens c.toText) ++
    sourceReading d.source ++
    d.joins.flatMap Join.reading ++
    conditionReading .filter d.filter ++
    listReading .groups (d.groupBy.map fun g => tokens (lowerKeywords g)) ++
    conditionReading .having d.having ++
    listReading .order (d.orderBy.map fun o => tokens o.toText) ++
    numberReading .limit d.limit ++
    numberReading .offset d.offset

/-! ## Texts in a row -/

/-- A text that can be written behind another one: its quotes are closed, and it is neither blank
nor does it start with a parenthesis. -/
structure Stands (s : Text) : Prop where
  closed : QuotesClosed s
  nonBlank : s.isBlank = false
  noCall : opensCall s = false

lemma Stands.append {a b : Text} (ha : Stands a) (hb : QuotesClosed b) : Stands (a ++ b) where
  closed := ha.closed.append hb
  nonBlank := by
    have hblank := ha.nonBlank
    rw [Text.isBlank] at hblank ⊢
    rw [List.all_append, hblank, Bool.false_and]
  noCall := by rw [opensCall_append_of_not_isBlank ha.nonBlank, ha.noCall]

lemma opensCall_join {s : Text} (hs : Stands s) (rest : List Text) :
    opensCall (' ' :: Text.join [' '] (s :: rest)) = false := by
  obtain ⟨more, hmore⟩ : ∃ more, Text.join [' '] (s :: rest) = s ++ more := by
    cases rest with
    | nil => exact ⟨[], by rw [Text.join_singleton, List.append_nil]⟩
    | cons t rest => exact ⟨_, by rw [Text.join_cons_cons, List.append_assoc]⟩
  rw [← List.singleton_append, opensCall_append_of_isBlank (by decide), hmore,
    opensCall_append_of_not_isBlank hs.nonBlank, hs.noCall]

/-- The tokens of texts with spaces between them. -/
lemma tokens_joinSpaces : ∀ {texts : List Text}, (∀ s ∈ texts, Stands s) →
    tokens (Text.join [' '] texts) = texts.flatMap tokens
  | [], _ => tokens_of_blank rfl
  | [s], _ => by rw [Text.join_singleton, List.flatMap_singleton]
  | s :: t :: rest, h => by
      obtain ⟨hs, hrest⟩ := List.forall_mem_cons.mp h
      rw [Text.join_cons_cons, List.append_assoc, List.singleton_append,
        tokens_append_of_not_call (separates_space _) hs.closed
          (opensCall_join (hrest t List.mem_cons_self) rest),
        tokens_cons_blank (by decide), tokens_joinSpaces hrest]
      exact List.flatMap_cons.symm

/-- The tokens of texts with commas between them. -/
lemma tokens_joinCommas {parts : List Text} (h : ∀ p ∈ parts, QuotesClosed p) :
    tokens (Text.join ", ".toList parts) = commaList (parts.map tokens) :=
  isSeparator_comma.tokens_join h

/-! ## Clause words in front of texts -/

/-- A clause word as it is written. -/
def ClauseWord.text (w : ClauseWord) : Text :=
  Text.join [' '] (w.words.map String.toList)

lemma ClauseWord.stands (w : ClauseWord) : Stands w.text := by
  cases w <;> exact ⟨by decide, by decide, by decide⟩

lemma ClauseWord.tokens_text (w : ClauseWord) : SqlFragments.tokens w.text = w.tokens := by
  cases w <;> decide +kernel

lemma tokens_clauseWord (w : ClauseWord) (s : Text) :
    tokens (w.text ++ ' ' :: s) = w.tokens ++ tokens s := by
  have hcall : endsCallable w.text = false := by
    rw [endsCallable, w.tokens_text]
    cases w <;> rfl
  rw [tokens_word_append w.stands.closed hcall, w.tokens_text]

lemma quotesClosed_space {s : Text} (hs : QuotesClosed s) : QuotesClosed (' ' :: s) :=
  (show QuotesClosed [' '] from rfl).append hs

/-! ## Clauses that fit -/

lemma fits_single {word : ClauseWord} {e : List Token} (hword : word.isList = false)
    (he : Inert e) : Clause.Fits ⟨word, [e]⟩ where
  inert := List.forall_mem_singleton.mpr he
  list := fun hlist => by
    rw [hword] at hlist
    cases hlist
  single := fun _ => ⟨e, rfl⟩

lemma fits_list {word : ClauseWord} {entries : List (List Token)} (hword : word.isList = true)
    (hne : entries ≠ []) (h : ∀ e ∈ entries, Inert e ∧ .comma ∉ outside 0 e) :
    Clause.Fits ⟨word, entries⟩ where
  inert := fun e he => (h e he).1
  list := fun _ => ⟨hne, fun e he => (h e he).2⟩
  single := fun hsingle => by
    rw [hword] at hsingle
    cases hsingle

/-- Texts that are written for some clauses, each of which fits. -/
structure Writes (texts : List Text) (clauses : List Clause) : Prop where
  stands : ∀ s ∈ texts, Stands s
  tokens : texts.flatMap tokens = clauses.flatMap Clause.tokens
  fits : ∀ c ∈ clauses, c.Fits

lemma writes_nil : Writes [] [] :=
  ⟨fun _ hs => absurd hs List.not_mem_nil, rfl, fun _ hc => absurd hc List.not_mem_nil⟩

lemma Writes.append {a b : List Text} {x y : List Clause} (ha : Writes a x) (hb : Writes b y) :
    Writes (a ++ b) (x ++ y) where
  stands := List.forall_mem_append.mpr ⟨ha.stands, hb.stands⟩
  tokens := by rw [List.flatMap_append, List.flatMap_append, ha.tokens, hb.tokens]
  fits := List.forall_mem_append.mpr ⟨ha.fits, hb.fits⟩

lemma Writes.flatMap {α : Type} {text : α → Text} {clauses : α → List Clause} :
    ∀ {xs : List α}, (∀ x ∈ xs, Writes [text x] (clauses x)) →
      Writes (xs.map text) (xs.flatMap clauses)
  | [], _ => writes_nil
  | x :: rest, h => by
      obtain ⟨hx, hrest⟩ := List.forall_mem_cons.mp h
      rw [List.flatMap_cons]
      exact hx.append (Writes.flatMap hrest)

/-- A clause word in front of its entries. -/
lemma writes_clause {word : ClauseWord} {s : Text} {entries : List (List Token)}
    (hs : QuotesClosed s) (htokens : tokens s = commaList entries)
    (hfits : Clause.Fits ⟨word, entries⟩) : Writes [word.text ++ ' ' :: s] [⟨word, entries⟩] where
  stands := List.forall_mem_singleton.mpr (word.stands.append (quotesClosed_space hs))
  tokens := by
    rw [List.flatMap_singleton, List.flatMap_singleton, tokens_clauseWord, htokens]
    rfl
  fits := List.forall_mem_singleton.mpr hfits

/-- A clause word in front of a fragment. -/
lemma writes_part {word : ClauseWord} (hword : word.isList = false) {s : Text} (hs : IsPart s) :
    Writes [word.text ++ ' ' :: s] [⟨word, [tokens s]⟩] :=
  writes_clause hs.closed (commaList_singleton _).symm (fits_single hword hs.inert)

/-! ## Clauses as they are written -/

lemma writes_list {word : ClauseWord} (hword : word.isList = true) {start : String}
    (hstart : start.toList = word.text) {α : Type} {text : α → Text} {entry : α → List Token}
    {xs : List α} (h : ∀ x ∈ xs, IsEntry (text x) ∧ tokens (text x) = entry x) :
    Writes (listClause start (xs.map text)) (listReading word (xs.map entry)) := by
  have hclosed : ∀ p ∈ xs.map text, QuotesClosed p := by
    intro p hp
    obtain ⟨x, hx, rfl⟩ := List.mem_map.mp hp
    exact (h x hx).1.closed
  have hentries : (xs.map text).map tokens = xs.map entry := by
    rw [List.map_map]
    exact List.map_congr_left fun x hx => (h x hx).2
  have hfits : ∀ e ∈ xs.map entry, Inert e ∧ .comma ∉ outside 0 e := by
    intro e he
    obtain ⟨x, hx, rfl⟩ := List.mem_map.mp he
    obtain ⟨hentry, htokens⟩ := h x hx
    rw [← htokens]
    exact ⟨hentry.inert, hentry.commaless⟩
  rw [listClause, listReading, List.isEmpty_map, List.isEmpty_map]
  split_ifs with hempty
  · exact writes_nil
  · have hne : xs.map entry ≠ [] := fun hnil =>
      hempty (List.isEmpty_iff.mpr (List.map_eq_nil_iff.mp hnil))
    have htokens := tokens_joinCommas hclosed
    rw [hentries] at htokens
    rw [hstart]
    exact writes_clause (QuotesClosed.join (by decide) hclosed) htokens (fits_list hword hne hfits)

lemma writes_condition {word : ClauseWord} (hword : word.isList = false) {start : String}
    (hstart : start.toList = word.text) {condition : Option Condition}
    (h : ∀ c, condition = some c → c.isEmpty = false → IsPart c.toText) :
    Writes (conditionClause start condition) (conditionReading word condition) := by
  cases condition with
  | none => exact writes_nil
  | some c =>
      rw [conditionClause, conditionReading]
      cases hempty : c.isEmpty with
      | true => exact writes_nil
      | false =>
          rw [if_neg Bool.false_ne_true, if_neg Bool.false_ne_true, hstart]
          exact writes_part hword (h c rfl hempty)

lemma isDigit_of_mem_digits (n : Nat) : ∀ c ∈ Nat.toDigits 10 n, c.isDigit = true :=
  fun _ hc => Nat.isDigit_of_mem_toDigits (by decide) (by decide) hc

/-- A number is one token. -/
lemma tokens_digits (n : Nat) : tokens (Nat.toDigits 10 n) = [.number (Nat.toDigits 10 n)] := by
  have hdigits := isDigit_of_mem_digits n
  obtain ⟨c, rest, hcons⟩ := List.exists_cons_of_ne_nil (Nat.toDigits_ne_nil (n := n) (b := 10))
  rw [hcons] at hdigits ⊢
  obtain ⟨hc, hrest⟩ := List.forall_mem_cons.mp hdigits
  have hnumber : IsNumber (c :: rest) :=
    ⟨c, rest, [], by rw [List.append_nil], by rw [hc, Bool.true_or],
      fun d hd => by rw [hrest d hd, Bool.true_or], Or.inl rfl⟩
  have hreads : ReadsAs ((c :: rest) ++ []) (.number (c :: rest)) [] :=
    number_readsAs hnumber fun c hc => nomatch hc
  rw [List.append_nil] at hreads
  rw [tokens_of_readsAs hreads, tokens_of_blank rfl]

lemma isPart_digits (n : Nat) : IsPart (Nat.toDigits 10 n) where
  closed := quotesClosed_of_quoteless (quoteless_of_class (by decide) (isDigit_of_mem_digits n))
  inert := by
    rw [tokens_digits]
    exact Inert.cons (by simp) (by simp) rfl inert_nil

lemma writes_number {word : ClauseWord} (hword : word.isList = false) {start : String}
    (hstart : start.toList = word.text) (n : Option Nat) :
    Writes (numberClause start n) (numberReading word n) := by
  cases n with
  | none => exact writes_nil
  | some n =>
      rw [numberClause, numberReading, hstart, ← tokens_digits]
      exact writes_part hword (isPart_digits n)

/-- The tokens of ` as ` in front of a text. -/
lemma tokens_append_as {s : Text} (hs : QuotesClosed s) (name : Text) :
    tokens (s ++ (" as ".toList ++ name)) = tokens s ++ asToken :: tokens name := by
  have hspace : " as ".toList ++ name = ' ' :: ("as".toList ++ ' ' :: name) := rfl
  have has : tokens "as".toList = [asToken] := tokens_of_isKeyword (by decide)
  rw [hspace, tokens_append_of_not_call (separates_space _) hs rfl, tokens_cons_blank (by decide),
    tokens_word_append (by decide) (by rw [endsCallable, has]; rfl), has, List.singleton_append]

lemma writes_table {table name : Text} (htable : IsPart table) (hname : IsPart name) :
    Writes [tableClause table name] (sourceReading (some (table, name))) := by
  have hfrom : tableClause table name = ClauseWord.source.text ++ ' ' :: (table ++
      if name.trim.isEmpty then [] else " as ".toList ++ name) :=
    List.append_assoc "from ".toList table _
  rw [hfrom, sourceReading]
  split_ifs
  · rw [List.append_nil, List.append_nil]
    exact writes_part rfl htable
  · refine writes_clause (htable.closed.append (QuotesClosed.append (by decide) hname.closed)) ?_
      (fits_single rfl (htable.inert.append
        (Inert.cons (by decide) (by decide) (by decide) hname.inert)))
    rw [commaList_singleton, tokens_append_as htable.closed]

lemma NamedQuery.tokens_toText {q : NamedQuery} (hname : QuotesClosed q.name)
    (hbody : QuotesClosed q.body.trim) : SqlFragments.tokens q.toText = q.tokens := by
  have hparen : SqlFragments.tokens (q.body.trim ++ " )".toList) =
      SqlFragments.tokens q.body.trim ++ [.rightParen] := by
    rw [tokens_append_of_not_call (m := " )".toList) (separates_space [')']) hbody (by decide)]
    exact congrArg _ (by decide +kernel)
  have htext : q.toText = q.name ++ (" as ".toList ++ '(' :: ' ' :: (q.body.trim ++ " )".toList)) :=
    (List.append_assoc _ q.body.trim " )".toList).trans (List.append_assoc q.name _ _)
  rw [htext, tokens_append_as hname, tokens_leftParen, tokens_cons_blank (by decide), hparen,
    NamedQuery.tokens]

/-- A named query is an entry, whatever its body is: the body stands in parentheses. -/
lemma NamedQuery.isEntry_toText {q : NamedQuery} (hname : IsEntry q.name)
    (hbody : QuotesClosed q.body.trim) (hbalanced : Balanced (SqlFragments.tokens q.body.trim)) :
    IsEntry q.toText where
  closed := ((hname.closed.append (by decide)).append hbody).append (by decide)
  inert := by
    rw [tokens_toText hname.closed hbody]
    exact hname.inert.append
      (Inert.cons (by decide) (by decide) (by decide) (inert_group hbalanced))
  commaless := by
    rw [tokens_toText hname.closed hbody, NamedQuery.tokens,
      hname.inert.balanced.outside_append, outside_plain (by decide) (by decide),
      outside_group hbalanced, List.mem_append, not_or]
    exact ⟨hname.commaless, by simp [asToken, outside]⟩

/-- **A join is two clauses**, if the alias does not turn the table in front of it into a
function. -/
lemma writes_join {j : Join} (htable : IsPart j.table) (hname : IsPart j.name)
    (hon : IsPart (Text.trim j.on))
    (hcall : (endsCallable j.table && opensCall j.name) = false) :
    Writes [j.toText] j.reading := by
  have hkind : j.kind.toText = j.kind.word.text ++ [' '] := by cases j.kind <;> rfl
  have hlist : j.kind.word.isList = false := by cases j.kind <;> rfl
  have htext : j.toText = j.kind.word.text ++ ' ' :: (j.table ++ ' ' :: (j.name ++ ' ' ::
      (ClauseWord.on.text ++ ' ' :: Text.trim j.on))) := by
    rw [Join.toText, hkind]
    simp only [List.append_assoc, List.cons_append, List.nil_append]
    rfl
  have hon' : opensCall (' ' :: (ClauseWord.on.text ++ ' ' :: Text.trim j.on)) = false := rfl
  have hseam : opensCall (' ' :: (j.name ++ ' ' :: (ClauseWord.on.text ++ ' ' :: Text.trim j.on)))
      = opensCall j.name := by
    rw [← List.singleton_append, opensCall_append_of_isBlank (by decide),
      opensCall_append_of_not_call hon']
  have hquotes : QuotesClosed (ClauseWord.on.text ++ ' ' :: Text.trim j.on) :=
    ClauseWord.on.stands.closed.append (quotesClosed_space hon.closed)
  rw [htext]
  constructor
  · refine List.forall_mem_singleton.mpr (j.kind.word.stands.append (quotesClosed_space ?_))
    exact htable.closed.append
      (quotesClosed_space (hname.closed.append (quotesClosed_space hquotes)))
  · rw [List.flatMap_singleton, tokens_clauseWord,
      tokens_append (separates_space _) htable.closed (by rw [hseam, hcall]),
      tokens_cons_blank (by decide),
      tokens_append_of_not_call (separates_space _) hname.closed hon',
      tokens_cons_blank (by decide), tokens_clauseWord]
    simp only [Join.reading, List.flatMap_cons, List.flatMap_nil, Clause.tokens,
      commaList_singleton, List.append_nil, List.append_assoc]
  · exact List.forall_mem_cons.mpr ⟨fits_single hlist (htable.inert.append hname.inert),
      List.forall_mem_singleton.mpr (fits_single rfl hon.inert)⟩

namespace SelectDraft

/-- **The texts of a readable draft are written for its clauses**, if no alias turns the joined
table in front of it into a function. -/
lemma Readable.writes {d : SelectDraft} (h : d.Readable)
    (hcalls : ∀ j ∈ d.joins, (endsCallable j.table && opensCall j.name) = false)
    {table name : Text} (hsource : d.source = some (table, name)) :
    Writes (d.clauses table name) d.reading := by
  have hqueries : ∀ q ∈ d.queries, IsEntry q.toText ∧ tokens q.toText = q.tokens := by
    intro q hq
    obtain ⟨hbody, hbalanced⟩ := h.queryBody q hq
    exact ⟨q.isEntry_toText (h.queryName q hq) hbody hbalanced,
      q.tokens_toText (h.queryName q hq).closed hbody⟩
  have hjoins : ∀ j ∈ d.joins, Writes [j.toText] j.reading := by
    intro j hj
    obtain ⟨htable, hname, hon⟩ := h.join j hj
    exact writes_join htable hname hon (hcalls j hj)
  have hcolumns : ∀ c ∈ d.columns, IsEntry c.toText ∧ tokens c.toText = tokens c.toText :=
    fun c hc => ⟨h.column c hc, rfl⟩
  have hgroups : ∀ g ∈ d.groupBy, IsEntry (lowerKeywords g) ∧
      tokens (lowerKeywords g) = tokens (lowerKeywords g) := fun g hg => ⟨h.group g hg, rfl⟩
  have horder : ∀ o ∈ d.orderBy, IsEntry o.toText ∧ tokens o.toText = tokens o.toText :=
    fun o ho => ⟨h.order o ho, rfl⟩
  obtain ⟨htable, hname⟩ := h.source table name hsource
  have hsource' := writes_table htable hname
  rw [clauses, reading, hsource]
  exact (((((((((writes_list rfl rfl hqueries).append (writes_list rfl rfl hcolumns)).append
    hsource').append (.flatMap hjoins)).append (writes_condition rfl rfl h.filter)).append
    (writes_list rfl rfl hgroups)).append (writes_condition rfl rfl h.having)).append
    (writes_list rfl rfl horder)).append (writes_number rfl rfl d.limit)).append
    (writes_number rfl rfl d.offset)

/-- **A statement is read back clause by clause.**  Whatever calls it was made by, its tokens cut
at the clause words outside parentheses are the clauses that the calls gave: in the order of SQL,
each with the tokens of its fragments in the order of the calls. -/
theorem readClauses_build {calls : List Call} {sql : Text} (hbuild : (run calls).build = .ok sql)
    (hparts : (collected calls).Readable)
    (hcalls : ∀ j ∈ (collected calls).joins, (endsCallable j.table && opensCall j.name) = false) :
    readClauses (tokens sql) = ([], (collected calls).reading) := by
  rw [run_eq_collected, build] at hbuild
  match hsource : (collected calls).source with
  | none =>
      rw [hsource] at hbuild
      cases hbuild
  | some (table, name) =>
      rw [hsource] at hbuild
      split_ifs at hbuild
      obtain rfl := Except.ok.inj hbuild
      have hwrites := hparts.writes hcalls hsource
      rw [tokens_joinSpaces hwrites.stands, hwrites.tokens, readClauses_tokens hwrites.fits]

/-- The calls for a report with all of its clauses. -/
def reportCalls : List Call :=
  [.addColumn "u.name AS user_name".toList, .addColumnFrom "id".toList "u".toList,
    .withQuery "recent".toList " select id, user_id from logs where age < 7 ".toList,
    .selectFrom "users".toList "u".toList,
    .joinTable .left "recent".toList "r".toList fun name => name ++ ".user_id = u.id".toList,
    .filterBy (.all [.raw "u.active".toList, .raw "u.city in ('a, b', 'from')".toList]),
    .joinTable .inner "cities".toList "c".toList fun name => name ++ ".name = u.city".toList,
    .groupOn ["u.name".toList, " ".toList, "u.id".toList],
    .addColumnAs "COUNT(r.id)".toList [] "visits".toList,
    .havingAll (.raw "count(r.id) > 1".toList),
    .orderText "u.name DESC, id".toList, .limitPlusOne 10, .skip 20]

/-- The report is read back: two lists of columns and groups from calls that stand apart, two
joins, and a body that is a statement of its own. -/
theorem readClauses_build_report : ∃ sql, (run reportCalls).build = .ok sql ∧
    (collected reportCalls).Readable ∧
    (∀ j ∈ (collected reportCalls).joins,
      (endsCallable j.table && opensCall j.name) = false) ∧
    readClauses (tokens sql) = ([], (collected reportCalls).reading) := by
  have hparts : (collected reportCalls).Readable :=
    { queryName := by decide +kernel
      queryBody := by decide +kernel
      column := by decide +kernel
      source := by
        rintro table name ⟨⟩
        decide +kernel
      join := by decide +kernel
      filter := by
        rintro c ⟨⟩ -
        decide +kernel
      group := by decide +kernel
      having := by
        rintro c ⟨⟩ -
        decide +kernel
      order := by decide +kernel }
  have hcalls : ∀ j ∈ (collected reportCalls).joins,
      (endsCallable j.table && opensCall j.name) = false := by decide +kernel
  exact ⟨_, rfl, hparts, hcalls, readClauses_build rfl hparts hcalls⟩

/-- The calls for a joined table whose alias stands in parentheses. -/
def aliasCalls : List Call :=
  [.addColumn "a".toList, .selectFrom "b".toList [],
    .joinTable .left "t".toList "(x)".toList fun _ => "c = d".toList]

/-- **An alias in parentheses changes the name of the joined table**: all fragments keep to
themselves and none is blank, but the table `t` is read as a function. -/
theorem not_readClauses_build_call : ∃ sql, (run aliasCalls).build = .ok sql ∧
    sql = "select a from b left join t (x) on c = d".toList ∧
    (collected aliasCalls).Readable ∧
    (∀ c ∈ (collected aliasCalls).columns, c.toText.isBlank = false) ∧
    (∀ j ∈ (collected aliasCalls).joins,
      j.table.isBlank = false ∧ j.name.isBlank = false ∧ j.on.isBlank = false) ∧
    readClauses (tokens sql) ≠ ([], (collected aliasCalls).reading) := by
  have hparts : (collected aliasCalls).Readable :=
    { queryName := by decide +kernel
      queryBody := by decide +kernel
      column := by decide +kernel
      source := by
        rintro table name ⟨⟩
        decide +kernel
      join := by decide +kernel
      filter := by
        rintro c ⟨⟩
      group := by decide +kernel
      having := by
        rintro c ⟨⟩
      order := by decide +kernel }
  exact ⟨_, rfl, by decide +kernel, hparts, by decide +kernel, by decide +kernel,
    by decide +kernel⟩

end SelectDraft

end SqlFragments
