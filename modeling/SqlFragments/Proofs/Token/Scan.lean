import Mathlib.Data.List.TakeWhile
import Mathlib.Tactic.Common
import SqlFragments.Token.Lexer

/-!
# A text is its lexemes

Every function that reads a piece of a text hands over the piece and the rest.  This file shows,
one function after the other, that the two make up the text, and from that what a whole scan is
made of.

* `readToken_append` — **the text of a token and the rest behind it make up the text.**
* `scan_of_blank`, `scan_of_token` — a scan, one step at a time; `scan_induction` goes with it.
* `scan_append` — white space and sources of all lexemes make up the text.
-/

namespace SqlFragments

/-! ## Chains -/

namespace Text

@[simp] lemma join_singleton (separator s : Text) : join separator [s] = s := by
  simp [join, List.intercalate]

@[simp] lemma join_cons_cons (separator a b : Text) (rest : List Text) :
    join separator (a :: b :: rest) = a ++ separator ++ join separator (b :: rest) := by
  simp [join, List.intercalate]

end Text

/-- A first segment, the chain behind it and the rest make up the text. -/
lemma join_readChain_append (s : Text) : ∀ first : Text,
    Text.join ['.'] (first :: (readChain s).1) ++ (readChain s).2 = first ++ s := by
  fun_induction readChain s with
  | case1 rest => intro first; simp
  | case2 c rest hstar hc ih =>
      intro first
      rw [Text.join_cons_cons, List.append_assoc, ih, readSegment_append, List.append_assoc]
      rfl
  | case3 => intro first; simp
  | case4 => intro first; simp

/-- Whatever a chain is taken for, its text is the chain. -/
lemma chainToken_text (segments : List Text) (rest : Text) :
    (chainToken segments rest).text = Text.join ['.'] segments := by
  unfold chainToken
  repeat' split
  all_goals simp [Token.text]

/-! ## One token -/

lemma readIdentifier_append (s : Text) :
    (readIdentifier s).1.text ++ (readIdentifier s).2 = s := by
  rw [readIdentifier, chainToken_text, join_readChain_append, readSegment_append]

lemma readExponent_append (s : Text) : (readExponent s).1 ++ (readExponent s).2 = s := by
  fun_cases readExponent s <;> simp

lemma readNumber_append (s : Text) : (readNumber s).1.text ++ (readNumber s).2 = s := by
  simp only [readNumber, Token.text]
  rw [List.append_assoc, readExponent_append, List.takeWhile_append_dropWhile]

/-- What punctuation is read as: a parenthesis or a comma, an operator that the text starts with,
or a character of its own. -/
lemma readPunctuation_cases (c : Char) (rest : Text) :
    c = '(' ∧ readPunctuation c rest = (.leftParen, rest) ∨
    c = ')' ∧ readPunctuation c rest = (.rightParen, rest) ∨
    c = ',' ∧ readPunctuation c rest = (.comma, rest) ∨
    (c ≠ '(' ∧ c ≠ ')' ∧ c ≠ ',') ∧
      ((∃ op more, op ∈ longOperators ∧ op ++ more = c :: rest ∧
          readPunctuation c rest = (.operator op, more)) ∨
        c ∈ shortOperators ∧ readPunctuation c rest = (.operator [c], rest) ∨
        readPunctuation c rest = (.other c, rest)) := by
  unfold readPunctuation
  by_cases h1 : c = '('
  · exact Or.inl ⟨h1, if_pos h1⟩
  by_cases h2 : c = ')'
  · rw [if_neg h1, if_pos h2]
    exact Or.inr (Or.inl ⟨h2, rfl⟩)
  by_cases h3 : c = ','
  · rw [if_neg h1, if_neg h2, if_pos h3]
    exact Or.inr (Or.inr (Or.inl ⟨h3, rfl⟩))
  rw [if_neg h1, if_neg h2, if_neg h3]
  refine Or.inr (Or.inr (Or.inr ⟨⟨h1, h2, h3⟩, ?_⟩))
  split
  · rename_i op hop
    obtain ⟨more, hmore⟩ : op <+: c :: rest := by simpa using List.find?_some hop
    refine Or.inl ⟨op, more, List.mem_of_find?_eq_some hop, hmore, ?_⟩
    rw [← hmore, List.drop_left]
  · split_ifs with hshort
    · exact Or.inr (Or.inl ⟨List.contains_iff_mem.mp hshort, rfl⟩)
    · exact Or.inr (Or.inr rfl)

lemma readPunctuation_append (c : Char) (rest : Text) :
    (readPunctuation c rest).1.text ++ (readPunctuation c rest).2 = c :: rest := by
  rcases readPunctuation_cases c rest with
    ⟨rfl, h⟩ | ⟨rfl, h⟩ | ⟨rfl, h⟩ | ⟨_, ⟨op, more, _, hop, h⟩ | ⟨_, h⟩ | h⟩
  · rw [h]; rfl
  · rw [h]; rfl
  · rw [h]; rfl
  · rw [h]; exact hop
  · rw [h]; rfl
  · rw [h]; rfl

/-- **Nothing is lost** when a token is read. -/
lemma readToken_append (c : Char) (rest : Text) :
    (readToken c rest).1.text ++ (readToken c rest).2 = c :: rest := by
  unfold readToken
  split_ifs
  · simp [Token.text, takeQuoted_append]
  · exact readIdentifier_append _
  · exact readNumber_append _
  · simp [Token.text]
  · exact readPunctuation_append c rest

lemma readToken_text_ne_nil (c : Char) (rest : Text) : (readToken c rest).1.text ≠ [] := by
  intro h
  have happ := congrArg List.length (readToken_append c rest)
  have hle := readToken_length_le c rest
  rw [h, List.nil_append, List.length_cons] at happ
  omega

/-! ## Whole texts -/

lemma isBlank_of_dropWhile {s : Text} {c : Char} {rest : Text}
    (h : s.dropWhile isBlank = c :: rest) : isBlank c = false := by
  have hhead := List.head?_dropWhile_not isBlank s
  rw [h] at hhead
  exact hhead

lemma scan_of_blank {s : Text} (h : s.dropWhile isBlank = []) : scan s = ⟨[], s⟩ := by
  rw [scan]
  split
  · rfl
  · rename_i hc
    rw [h] at hc
    cases hc

lemma scan_of_token {s : Text} {c : Char} {rest : Text} (h : s.dropWhile isBlank = c :: rest) :
    scan s = ⟨⟨s.takeWhile isBlank, (readToken c rest).1.text, (readToken c rest).1⟩ ::
      (scan (readToken c rest).2).lexemes, (scan (readToken c rest).2).trailing⟩ := by
  have hsource : (c :: rest).take ((c :: rest).length - (readToken c rest).2.length)
      = (readToken c rest).1.text := by
    have happ := readToken_append c rest
    have hlen := congrArg List.length happ
    rw [List.length_append] at hlen
    conv_lhs => rw [← happ, List.length_append, Nat.add_sub_cancel, List.take_left]
  rw [scan]
  split
  · rename_i hnil
    rw [h] at hnil
    cases hnil
  · rename_i c' rest' hc
    rw [h] at hc
    cases hc
    simp only [hsource]

/-- **Induction along a scan**: over the text that a token leaves behind. -/
@[elab_as_elim]
lemma scan_induction {P : Text → Prop} (blank : ∀ s, s.dropWhile isBlank = [] → P s)
    (token : ∀ s c rest, s.dropWhile isBlank = c :: rest → P (readToken c rest).2 → P s)
    (s : Text) : P s := by
  induction hn : s.length using Nat.strongRecOn generalizing s with
  | _ n ih =>
      cases h : s.dropWhile isBlank with
      | nil => exact blank s h
      | cons c rest =>
          have h1 := readToken_length_le c rest
          have h2 := length_dropWhile_le isBlank s
          rw [h, List.length_cons] at h2
          exact token s c rest h (ih _ (by omega) _ rfl)

lemma tokens_of_blank {s : Text} (h : s.dropWhile isBlank = []) : tokens s = [] := by
  rw [tokens, scan_of_blank h, List.map_nil]

lemma tokens_of_token {s : Text} {c : Char} {rest : Text}
    (h : s.dropWhile isBlank = c :: rest) :
    tokens s = (readToken c rest).1 :: tokens (readToken c rest).2 := by
  rw [tokens, scan_of_token h, List.map_cons, tokens]

/-- A text is blank when it has no tokens. -/
lemma tokens_eq_nil_iff (s : Text) : tokens s = [] ↔ s.isBlank = true := by
  rw [Text.isBlank, List.all_eq_true, ← List.dropWhile_eq_nil_iff]
  refine ⟨fun hnil => ?_, tokens_of_blank⟩
  cases hs : s.dropWhile isBlank with
  | nil => rfl
  | cons c rest =>
      rw [tokens_of_token hs] at hnil
      cases hnil

lemma dropWhile_of_isBlank {s : Text} (h : s.isBlank = true) : s.dropWhile isBlank = [] :=
  List.dropWhile_eq_nil_iff.mpr (List.all_eq_true.mp h)

lemma dropWhile_append_of_isBlank {s : Text} (h : s.isBlank = true) (m : Text) :
    (s ++ m).dropWhile isBlank = m.dropWhile isBlank := by
  rw [List.dropWhile_append, dropWhile_of_isBlank h]
  rfl

/-- White space in front of a text changes no token. -/
lemma tokens_append_of_isBlank {s : Text} (hs : s.isBlank = true) (m : Text) :
    tokens (s ++ m) = tokens m := by
  have hdrop := dropWhile_append_of_isBlank hs m
  cases h : m.dropWhile isBlank with
  | nil => rw [tokens_of_blank h, tokens_of_blank (hdrop.trans h)]
  | cons c rest => rw [tokens_of_token h, tokens_of_token (hdrop.trans h)]

/-- The characters of a lexeme, with the white space in front of it. -/
def Lexeme.text (l : Lexeme) : Text :=
  l.blank ++ l.source

/-- **Every lexeme is one step of the scan**: white space, and the token that is read behind it. -/
lemma lexeme_of_mem (s : Text) : ∀ l ∈ (scan s).lexemes, l.blank.isBlank = true ∧
    ∃ c rest, l.token = (readToken c rest).1 ∧ l.source = (readToken c rest).1.text := by
  induction s using scan_induction with
  | blank s h =>
      intro l hl
      rw [scan_of_blank h] at hl
      cases hl
  | token s c rest h ih =>
      intro l hl
      rw [scan_of_token h] at hl
      rcases List.mem_cons.mp hl with rfl | hl
      · exact ⟨List.all_takeWhile, c, rest, rfl, rfl⟩
      · exact ih l hl

lemma blank_isBlank (s : Text) : ∀ l ∈ (scan s).lexemes, l.blank.isBlank = true := by
  intro l hl
  exact (lexeme_of_mem s l hl).1

lemma source_eq_text (s : Text) : ∀ l ∈ (scan s).lexemes, l.source = l.token.text := by
  intro l hl
  obtain ⟨_, c, rest, htoken, hsource⟩ := lexeme_of_mem s l hl
  rw [hsource, htoken]

lemma source_ne_nil (s : Text) : ∀ l ∈ (scan s).lexemes, l.source ≠ [] := by
  intro l hl
  obtain ⟨_, c, rest, _, hsource⟩ := lexeme_of_mem s l hl
  rw [hsource]
  exact readToken_text_ne_nil c rest

lemma trailing_isBlank (s : Text) : (scan s).trailing.isBlank = true := by
  induction s using scan_induction with
  | blank s h =>
      rw [scan_of_blank h]
      have happ := List.takeWhile_append_dropWhile (p := isBlank) (l := s)
      rw [h, List.append_nil] at happ
      rw [← happ]
      exact List.all_takeWhile
  | token s c rest h ih => rw [scan_of_token h]; exact ih

/-- **A text is its lexemes**, one behind the other, and the white space behind them. -/
lemma scan_append (s : Text) :
    (scan s).lexemes.flatMap Lexeme.text ++ (scan s).trailing = s := by
  induction s using scan_induction with
  | blank s h => rw [scan_of_blank h]; rfl
  | token s c rest h ih =>
      rw [scan_of_token h, List.flatMap_cons, Lexeme.text, List.append_assoc, ih,
        List.append_assoc, readToken_append, ← h, List.takeWhile_append_dropWhile]

end SqlFragments
