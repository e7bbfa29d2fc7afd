import SqlFragments.Proofs.Token.Outside

/-!
# The clauses of a statement

A statement is read by its clause words: where one stands outside parentheses, a clause begins, and
it goes on to the next one.  Some clauses are lists, whose entries are cut at the commas outside
parentheses.  Nothing but the tokens is looked at, so the reading knows nothing of how a statement
was written.

* `ClauseWord`, `Clause` — the kinds of clauses, and a clause with its entries.
* `readClauses` — the tokens in front of the first clause, and the clauses.
* `Inert` — tokens in which parentheses match and no clause word stands outside them.
* `Clause.Fits` — a clause of such entries.
* **`readClauses_tokens`** — clauses that fit, written one behind the other, are read back.
-/

namespace SqlFragments

/-! ## Clause words -/

/-- What a clause begins with.  A join takes two clauses, one for the table and one for the
condition. -/
inductive ClauseWord where
  | queries
  | columns
  | source
  | leftJoin
  | innerJoin
  | on
  | filter
  | groups
  | having
  | order
  | limit
  | offset
deriving DecidableEq, Repr

namespace ClauseWord

def words : ClauseWord → List String
  | queries => ["with"]
  | columns => ["select"]
  | source => ["from"]
  | leftJoin => ["left", "join"]
  | innerJoin => ["inner", "join"]
  | on => ["on"]
  | filter => ["where"]
  | groups => ["group", "by"]
  | having => ["having"]
  | order => ["order", "by"]
  | limit => ["limit"]
  | offset => ["offset"]

def all : List ClauseWord :=
  [queries, columns, source, leftJoin, innerJoin, on, filter, groups, having, order, limit, offset]

/-- The clauses that are lists. -/
def isList : ClauseWord → Bool
  | queries | columns | groups | order => true
  | _ => false

/-- The words of a clause word as tokens; `left` is the one that is no keyword. -/
def tokens (w : ClauseWord) : List Token :=
  w.words.map fun word =>
    if SqlFragments.isKeyword word.toList then .keyword word.toList else .identifier [word.toList]

end ClauseWord

/-- Whether a token is the given word without quotes, in any case, keyword or not. -/
def Token.isWord (t : Token) (word : String) : Bool :=
  match t with
  | keyword w => w.sameLetters word.toList
  | identifier [w] => w.sameLetters word.toList
  | _ => false

/-- The words that clause words are made of, but for `by`. -/
def clauseWords : List String :=
  ["with", "select", "from", "left", "inner", "join", "on", "where", "group", "having", "order",
   "limit", "offset"]

def Token.isClauseWord (t : Token) : Bool :=
  clauseWords.any t.isWord

/-- Whether some tokens start with the given words. -/
def startsWith : List String → List Token → Bool
  | [], _ => true
  | word :: more, t :: rest => t.isWord word && startsWith more rest
  | _ :: _, [] => false

/-- The clause word that starts at a token. -/
def clauseHeading (t : Token) (rest : List Token) : Option ClauseWord :=
  ClauseWord.all.find? fun w => startsWith w.words (t :: rest)

lemma clauseHeading_eq_none {t : Token} (h : t.isClauseWord = false) (rest : List Token) :
    clauseHeading t rest = none := by
  have hfirst : ∀ w : ClauseWord, ∃ word more, w.words = word :: more ∧ word ∈ clauseWords := by
    intro w
    cases w <;> exact ⟨_, _, rfl, by decide⟩
  rw [clauseHeading, List.find?_eq_none]
  intro w _ hstarts
  obtain ⟨word, more, hwords, hmem⟩ := hfirst w
  rw [hwords, startsWith, Bool.and_eq_true] at hstarts
  rw [Token.isClauseWord, List.any_eq_false] at h
  exact h word hmem hstarts.1

/-! ## Reading -/

/-- A clause: what it begins with, and its entries.  A clause that is no list has one. -/
structure Clause where
  word : ClauseWord
  entries : List (List Token)
deriving DecidableEq, Repr

/-- The clause that a clause word and the tokens up to the next one make. -/
def readClause (cut : ClauseWord × List Token) : Clause :=
  let body := cut.2.drop (cut.1.words.length - 1)
  ⟨cut.1, if cut.1.isList then cutCommas body else [body]⟩

/-- The tokens in front of the first clause, and the clauses. -/
def readClauses (ts : List Token) : List Token × List Clause :=
  ((cutOutside clauseHeading 0 ts).1, (cutOutside clauseHeading 0 ts).2.map readClause)

/-! ## Writing -/

/-- A clause as it is written. -/
def Clause.tokens (c : Clause) : List Token :=
  c.word.tokens ++ commaList c.entries

/-- Tokens in which no clause begins: their parentheses match, and no clause word stands outside
them. -/
structure Inert (ts : List Token) : Prop where
  balanced : Balanced ts
  wordless : ∀ t ∈ outside 0 ts, t.isClauseWord = false

instance : DecidablePred Inert := fun ts =>
  decidable_of_iff (Balanced ts ∧ ∀ t ∈ outside 0 ts, t.isClauseWord = false)
    ⟨fun h => ⟨h.1, h.2⟩, fun h => ⟨h.balanced, h.wordless⟩⟩

lemma inert_nil : Inert [] :=
  ⟨Balanced.nil, fun _ ht => absurd ht List.not_mem_nil⟩

lemma Inert.append {a b : List Token} (ha : Inert a) (hb : Inert b) : Inert (a ++ b) := by
  refine ⟨ha.balanced.append hb.balanced, ?_⟩
  rw [ha.balanced.outside_append, List.forall_mem_append]
  exact ⟨ha.wordless, hb.wordless⟩

lemma Inert.cons {t : Token} {ts : List Token} (h1 : t ≠ .leftParen) (h2 : t ≠ .rightParen)
    (ht : t.isClauseWord = false) (h : Inert ts) : Inert (t :: ts) := by
  refine ⟨Balanced.plain h1 h2 h.balanced, ?_⟩
  rw [outside_plain h1 h2, List.forall_mem_cons]
  exact ⟨ht, h.wordless⟩

/-- Whatever stands in parentheses begins no clause. -/
lemma inert_group {inner : List Token} (h : Balanced inner) :
    Inert (.leftParen :: (inner ++ [.rightParen])) := by
  refine ⟨h.single_group, ?_⟩
  rw [outside_group h]
  exact List.forall_mem_singleton.mpr rfl

lemma inert_commaList : ∀ {entries : List (List Token)}, (∀ e ∈ entries, Inert e) →
    Inert (commaList entries)
  | [], _ => inert_nil
  | [e], h => by
      rw [commaList_singleton]
      exact h e List.mem_cons_self
  | a :: b :: rest, h => by
      obtain ⟨ha, hrest⟩ := List.forall_mem_cons.mp h
      rw [commaList_cons_cons]
      exact ha.append (Inert.cons (by decide) (by decide) rfl (inert_commaList hrest))

/-- A clause that can be told from what stands around it. -/
structure Clause.Fits (c : Clause) : Prop where
  inert : ∀ e ∈ c.entries, Inert e
  list : c.word.isList = true → c.entries ≠ [] ∧ ∀ e ∈ c.entries, .comma ∉ outside 0 e
  single : c.word.isList = false → ∃ e, c.entries = [e]

/-- A clause word is found where it is written, and a second word of its own is passed over. -/
lemma cutOutside_clauseWord (w : ClauseWord) (rest : List Token) :
    cutOutside clauseHeading 0 (w.tokens ++ rest) =
      ([], (w, w.tokens.tail ++ (cutOutside clauseHeading 0 rest).1) ::
        (cutOutside clauseHeading 0 rest).2) := by
  cases w <;> rfl

lemma length_tail_tokens (w : ClauseWord) : w.tokens.tail.length = w.words.length - 1 := by
  rw [List.length_tail, ClauseWord.tokens, List.length_map]

/-- **One clause is cut off** in front of whatever its own cut gives. -/
lemma Clause.Fits.cutOutside {c : Clause} (h : c.Fits) (rest : List Token) :
    cutOutside clauseHeading 0 (c.tokens ++ rest) =
      ([], (c.word, c.word.tokens.tail ++ (commaList c.entries ++
          (SqlFragments.cutOutside clauseHeading 0 rest).1)) ::
        (SqlFragments.cutOutside clauseHeading 0 rest).2) := by
  have hbody := inert_commaList h.inert
  rw [Clause.tokens, List.append_assoc, cutOutside_clauseWord,
    hbody.balanced.cutOutside_append _ 0 fun _ t ht => clauseHeading_eq_none (hbody.wordless t ht)]

lemma Clause.Fits.readClause {c : Clause} (h : c.Fits) :
    readClause (c.word, c.word.tokens.tail ++ commaList c.entries) = c := by
  have hbody : (c.word.tokens.tail ++ commaList c.entries).drop (c.word.words.length - 1)
      = commaList c.entries := by
    rw [← length_tail_tokens, List.drop_left]
  simp only [SqlFragments.readClause]
  rw [hbody]
  cases hlist : c.word.isList with
  | true =>
      obtain ⟨hne, hcomma⟩ := h.list hlist
      rw [if_pos rfl, cutCommas_commaList hne fun e he => ⟨(h.inert e he).balanced, hcomma e he⟩]
  | false =>
      obtain ⟨e, he⟩ := h.single hlist
      rw [if_neg Bool.false_ne_true, he, commaList_singleton, ← he]

/-- **Clauses are read back** from the tokens they are written as. -/
theorem readClauses_tokens : ∀ {clauses : List Clause}, (∀ c ∈ clauses, c.Fits) →
    readClauses (clauses.flatMap Clause.tokens) = ([], clauses)
  | [], _ => rfl
  | c :: rest, h => by
      obtain ⟨hc, hrest⟩ := List.forall_mem_cons.mp h
      have hread := readClauses_tokens hrest
      rw [readClauses, Prod.mk.injEq] at hread
      rw [readClauses, List.flatMap_cons, hc.cutOutside, List.map_cons, hread.1, hread.2,
        List.append_nil, hc.readClause]

end SqlFragments
