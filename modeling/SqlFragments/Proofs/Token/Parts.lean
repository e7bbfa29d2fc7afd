import Mathlib.Tactic.Common
import SqlFragments.Proofs.Text.Quoted
import SqlFragments.Proofs.Token.Scan

/-!
# The parts of tokens

A segment ends by itself, at a character that cannot continue it or behind its closing quote.
Only a quote that is never closed makes it run on to the end of the text.  A chain goes on where
a dot opens a further segment, and a number has an exponent where one is opened.

* `IsName` — a segment that ends by itself.
* `opensSegment`, `opensExponent` — a further segment, or an exponent, comes next.
* `readChain_stop`, `readChain_segment`, … — reading, one case each.
* **`readSegment_isName`**, **`readChain_isName`** — what is read in front of more text ends by
  itself.
* `chainToken_eq` — what a chain is taken for.
* `readToken_literal`, `readToken_segment`, … — a token by its first character.
-/

namespace SqlFragments

/-! ## One segment -/

/-- A segment that ends by itself: plain, or a quoted run that is closed. -/
def IsName (s : Text) : Prop :=
  isPlainName s = true ∨ ∃ q, isIdentifierQuote q = true ∧ IsClosedRun q s

/-- Whether a character opens a segment. -/
def startsSegment (c : Char) : Bool :=
  startsIdentifier c || isIdentifierQuote c

lemma startsSegment_ne {c d : Char} (hc : startsSegment c = true)
    (hd : startsSegment d = false) : c ≠ d := by
  rintro rfl
  rw [hd] at hc
  cases hc

lemma readSegment_quoted {q : Char} (hq : isIdentifierQuote q = true) (rest : Text) :
    readSegment (q :: rest) = (q :: (takeQuoted q rest).1, (takeQuoted q rest).2) := by
  rw [readSegment, if_pos hq]

lemma readSegment_plain {s : Text} (h : s.head?.any isIdentifierQuote = false) :
    readSegment s = (s.takeWhile continuesIdentifier, s.dropWhile continuesIdentifier) := by
  cases s with
  | nil => rfl
  | cons c rest =>
      have hc : isIdentifierQuote c = false := h
      rw [readSegment, if_neg (by rw [hc]; exact Bool.false_ne_true)]

lemma isPlainName_takeWhile {c : Char} (hc : startsIdentifier c = true) (rest : Text) :
    isPlainName ((c :: rest).takeWhile continuesIdentifier) = true := by
  rw [List.takeWhile_cons, if_pos (continuesIdentifier_of_starts hc), isPlainName, hc,
    Bool.true_and]
  exact List.all_takeWhile

/-- What is read as a segment ends by itself, or it runs on to the end of the text. -/
lemma readSegment_run {s : Text} (hs : s.head?.any startsSegment = true) :
    IsName (readSegment s).1 ∨ (readSegment s).2 = [] ∧
      ∃ q, isIdentifierQuote q = true ∧ IsOpenRun q (readSegment s).1 := by
  cases s with
  | nil => cases hs
  | cons c rest =>
      have hc : startsSegment c = true := hs
      by_cases hq : isIdentifierQuote c = true
      · rw [readSegment_quoted hq]
        rcases takeQuoted_run c rest with hclosed | ⟨hopen, hend⟩
        · exact Or.inl (Or.inr ⟨c, hq, hclosed⟩)
        · exact Or.inr ⟨hend, c, hq, hopen⟩
      · rw [startsSegment, Bool.or_eq_true, or_iff_left hq] at hc
        rw [readSegment_plain (by rwa [List.head?_cons, Option.any_some, ← Bool.not_eq_true])]
        exact Or.inl (Or.inl (isPlainName_takeWhile hc rest))

/-- **A segment in front of more text ends by itself.** -/
lemma readSegment_isName {s : Text} (hs : s.head?.any startsSegment = true)
    (hrest : (readSegment s).2 ≠ []) : IsName (readSegment s).1 :=
  (readSegment_run hs).resolve_right fun hopen => hrest hopen.1

/-! ## Chains -/

/-- Whether a dot comes next, and a further segment or `*` behind it. -/
def opensSegment (s : Text) : Bool :=
  s.head?.any (· == '.') && s.tail.head?.any fun c => c == '*' || startsSegment c

lemma readChain_star (rest : Text) : readChain ('.' :: '*' :: rest) = ([['*']], rest) := by
  rw [readChain]

lemma readChain_segment {s : Text} (hs : s.head?.any startsSegment = true) :
    readChain ('.' :: s) =
      ((readSegment s).1 :: (readChain (readSegment s).2).1,
        (readChain (readSegment s).2).2) := by
  cases s with
  | nil => cases hs
  | cons c rest =>
      have hc : startsSegment c = true := hs
      have hstar : c ≠ '*' := startsSegment_ne hc (by decide)
      rw [startsSegment] at hc
      rw [readChain.eq_2 _ _ fun h => absurd h hstar, if_pos hc]

lemma readChain_stop {s : Text} (h : opensSegment s = false) : readChain s = ([], s) := by
  unfold readChain
  split
  · exact absurd h (by simp [opensSegment])
  · rename_i c rest _
    split_ifs with hc
    · rw [opensSegment, List.head?_cons, List.tail_cons, List.head?_cons, Option.any_some,
        Option.any_some, startsSegment, hc, Bool.or_true] at h
      cases h
    · rfl
  · rfl

/-- **Induction along a chain**, segment by segment. -/
@[elab_as_elim]
lemma chain_induction {P : Text → Prop} (stop : ∀ s, opensSegment s = false → P s)
    (star : ∀ rest, P ('.' :: '*' :: rest))
    (segment : ∀ s, s.head?.any startsSegment = true → P (readSegment s).2 → P ('.' :: s))
    (s : Text) : P s := by
  induction hn : s.length using Nat.strongRecOn generalizing s with
  | _ n ih =>
      cases hs : opensSegment s with
      | false => exact stop s hs
      | true =>
          rw [opensSegment, Bool.and_eq_true] at hs
          obtain ⟨hdot, hnext⟩ := hs
          match s, hdot, hnext with
          | d :: c :: rest, hdot, hnext =>
              obtain rfl : d = '.' := by simpa using hdot
              rcases Bool.or_eq_true_iff.mp hnext with hc | hc
              · obtain rfl : c = '*' := by simpa using hc
                exact star rest
              · have hle := readSegment_length_le (c :: rest)
                rw [List.length_cons] at hn
                exact segment (c :: rest) hc (ih _ (by omega) _ rfl)

/-- Every segment of a chain in front of more text ends by itself, but for a `*` at the end. -/
lemma readChain_isName (s : Text) : (readChain s).2 ≠ [] → ∀ a ∈ (readChain s).1,
    IsName a ∨ a = ['*'] ∧ (readChain s).1.getLast? = some a := by
  induction s using chain_induction with
  | stop s hs =>
      intro _ a ha
      rw [readChain_stop hs] at ha
      cases ha
  | star rest =>
      intro _ a ha
      rw [readChain_star] at ha ⊢
      obtain rfl := List.mem_singleton.mp ha
      exact Or.inr ⟨rfl, rfl⟩
  | segment s hs ih =>
      intro hrest a ha
      rw [readChain_segment hs] at hrest ha ⊢
      have hne : (readSegment s).2 ≠ [] := by
        intro hnil
        rw [hnil, readChain_stop rfl] at hrest
        exact hrest rfl
      rcases List.mem_cons.mp ha with rfl | ha
      · exact Or.inl (readSegment_isName hs hne)
      · rcases ih hrest a ha with hname | ⟨hstar, hlast⟩
        · exact Or.inl hname
        · refine Or.inr ⟨hstar, ?_⟩
          rw [List.getLast?_cons, hlast, Option.getD_some]

/-! ## What a chain is taken for -/

/-- A chain is a keyword when it is one plain word of the keyword set. -/
def isLoneKeyword : List Text → Bool
  | [word] => !isQuotedSegment word && isKeyword word
  | _ => false

def endsPlain (segments : List Text) : Bool :=
  segments.getLast?.any fun last => last != ['*'] && !isQuotedSegment last

lemma chainToken_eq {segments : List Text} (hstar : segments ≠ [['*']]) (rest : Text) :
    chainToken segments rest =
      if isLoneKeyword segments then .keyword (Text.join ['.'] segments)
      else if endsPlain segments && opensCall rest then .function (Text.join ['.'] segments)
      else .identifier segments := by
  match segments with
  | [] => rfl
  | [word] =>
      have hword : (word != ['*']) = true := by
        rw [bne_iff_ne]
        rintro rfl
        exact hstar rfl
      simp only [chainToken, isLoneKeyword, endsPlain, List.getLast?_singleton, Option.any_some,
        hword, Bool.true_and, Text.join_singleton]
      cases isQuotedSegment word <;> cases isKeyword word <;> rfl
  | a :: b :: more =>
      rw [chainToken, isLoneKeyword, endsPlain, if_neg Bool.false_ne_true]
      · cases (a :: b :: more).getLast? <;> rfl
      · simp
      · simp

lemma readSegment_ne_star {s : Text} (hs : s.head?.any startsSegment = true) :
    (readSegment s).1 ≠ ['*'] := by
  intro h
  have happ := readSegment_append s
  rw [h] at happ
  rw [← happ] at hs
  exact startsSegment_ne hs (by decide) rfl

/-- A chain that is read does not consist of `*`. -/
lemma readSegment_cons_ne_star {s : Text} (hs : s.head?.any startsSegment = true)
    (more : List Text) : (readSegment s).1 :: more ≠ [['*']] := fun heq =>
  readSegment_ne_star hs (List.cons.inj heq).1

lemma isLoneKeyword_eq {segments : List Text} (h : isLoneKeyword segments = true) :
    ∃ word, segments = [word] := by
  match segments with
  | [] => cases h
  | [word] => exact ⟨word, rfl⟩
  | _ :: _ :: _ => cases h

/-- **The segments of a function name** end by themselves. -/
lemma isName_of_call {s : Text} (hs : s.head?.any startsSegment = true)
    (hplain : endsPlain ((readSegment s).1 :: (readChain (readSegment s).2).1) = true)
    (hcall : opensCall (readChain (readSegment s).2).2 = true) :
    ∀ a ∈ (readSegment s).1 :: (readChain (readSegment s).2).1, IsName a := by
  have hrest : (readChain (readSegment s).2).2 ≠ [] := by
    intro hnil
    rw [hnil] at hcall
    cases hcall
  have hmore : (readSegment s).2 ≠ [] := by
    intro hnil
    rw [hnil, readChain_stop rfl] at hrest
    exact hrest rfl
  intro a ha
  rcases List.mem_cons.mp ha with rfl | ha
  · exact readSegment_isName hs hmore
  · rcases readChain_isName _ hrest a ha with hname | ⟨hstar, hlast⟩
    · exact hname
    · rw [endsPlain, List.getLast?_cons, hlast, Option.getD_some, Option.any_some, hstar] at hplain
      cases hplain

/-! ## Exponents -/

/-- Whether `e`, an optional sign and a digit come next. -/
def opensExponent (s : Text) : Bool :=
  s.head?.any (fun c => c == 'e' || c == 'E') && (s.tail.head?.any Char.isDigit ||
    s.tail.head?.any (fun c => c == '+' || c == '-') && s.tail.tail.head?.any Char.isDigit)

lemma readExponent_stop {s : Text} (h : opensExponent s = false) : readExponent s = ([], s) := by
  fun_cases readExponent s with
  | case1 e x rest he hx => simp_all [opensExponent]
  | case2 e x rest he hx hsign => simp_all [opensExponent]
  | case3 => rfl
  | case4 => rfl
  | case5 => rfl

lemma readExponent_digits {e x : Char} {rest : Text}
    (h : opensExponent (e :: x :: rest) = true) :
    readExponent (e :: x :: rest) =
      (e :: x :: rest.takeWhile Char.isDigit, rest.dropWhile Char.isDigit) := by
  simp only [opensExponent, List.head?_cons, List.tail_cons, Option.any_some,
    Bool.and_eq_true] at h
  obtain ⟨he, hmore⟩ := h
  rw [readExponent, if_pos he]
  cases hx : x.isDigit with
  | true => rw [if_pos rfl]
  | false =>
      rw [hx, Bool.false_or] at hmore
      rw [if_neg Bool.false_ne_true, if_pos hmore]

lemma exists_of_opensExponent {s : Text} (h : opensExponent s = true) :
    ∃ e x rest, s = e :: x :: rest := by
  match s with
  | [] => cases h
  | [e] => simp [opensExponent] at h
  | e :: x :: rest => exact ⟨e, x, rest, rfl⟩

/-! ## One token -/

lemma readToken_literal (rest : Text) : readToken '\'' rest =
    (.literal ('\'' :: (takeQuoted '\'' rest).1), (takeQuoted '\'' rest).2) := by
  rw [readToken, if_pos rfl]

lemma readToken_segment {c : Char} (h : startsSegment c = true) (rest : Text) :
    readToken c rest = readIdentifier (c :: rest) := by
  have hliteral : c ≠ '\'' := startsSegment_ne h (by decide)
  rw [startsSegment] at h
  rw [readToken, if_neg hliteral, if_pos h]

variable {c : Char} {rest : Text}

lemma readToken_of_not_segment (hliteral : c ≠ '\'') (hsegment : startsSegment c = false) :
    readToken c rest =
      if c.isDigit || c == '.' && startsWithDigit rest then readNumber (c :: rest)
      else if c == '?' || c == '$' && startsWithDigit rest then
        (.parameter (c :: rest.takeWhile Char.isDigit), rest.dropWhile Char.isDigit)
      else readPunctuation c rest := by
  rw [startsSegment] at hsegment
  rw [readToken, if_neg hliteral, hsegment, if_neg Bool.false_ne_true]

lemma readToken_number (hliteral : c ≠ '\'') (hsegment : startsSegment c = false)
    (h : (c.isDigit || c == '.' && startsWithDigit rest) = true) :
    readToken c rest = readNumber (c :: rest) := by
  rw [readToken_of_not_segment hliteral hsegment, if_pos h]

lemma readToken_parameter (hliteral : c ≠ '\'') (hsegment : startsSegment c = false)
    (hnumber : (c.isDigit || c == '.' && startsWithDigit rest) = false)
    (h : (c == '?' || c == '$' && startsWithDigit rest) = true) :
    readToken c rest =
      (.parameter (c :: rest.takeWhile Char.isDigit), rest.dropWhile Char.isDigit) := by
  rw [readToken_of_not_segment hliteral hsegment, hnumber, if_neg Bool.false_ne_true, if_pos h]

lemma readToken_punctuation (hliteral : c ≠ '\'') (hsegment : startsSegment c = false)
    (hnumber : (c.isDigit || c == '.' && startsWithDigit rest) = false)
    (hparameter : (c == '?' || c == '$' && startsWithDigit rest) = false) :
    readToken c rest = readPunctuation c rest := by
  rw [readToken_of_not_segment hliteral hsegment, hnumber, hparameter,
    if_neg Bool.false_ne_true, if_neg Bool.false_ne_true]

end SqlFragments
