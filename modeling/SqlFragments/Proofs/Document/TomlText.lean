import SqlFragments.Document.Toml.Writing
import SqlFragments.Proofs.Text.Blank

/-!
# Reading the names and texts of TOML

Names and texts are read back as they were written, whatever characters they hold.  Each reader
that meets one has a lemma here, which says what it yields and what it leaves.

* `Toml.escaped_cases` — a character stands for itself or is escaped.
* **`Toml.run_quotedText`** — a text is read back.
* **`Toml.run_keyPath`** — a name is read back, with quotes or without them.
-/

namespace SqlFragments

namespace Toml

/-! ## Small readers -/

section

variable {α β : Type} {r : Reader α} {a : α} {s t rest : Text}

lemma run_bind (h : r.run s = some (a, rest)) (f : α → Reader β) :
    (r >>= f).run s = (f a).run rest := by
  rw [StateT.run_bind, h]
  rfl

lemma run_bind_of_none (h : r.run s = none) (f : α → Reader β) : (r >>= f).run s = none := by
  rw [StateT.run_bind, h]
  rfl

lemma run_optional_of_none (h : r.run s = none) : (optional r).run s = some (none, s) := by
  rw [StateT.run, optional, h]

lemma run_accept (t s : Text) : (accept t).run s =
    if t.isPrefixOf s then some (true, s.drop t.length) else some (false, s) := by
  simp only [accept, StateT.run_bind, StateT.run_get, Option.bind_eq_bind, Option.pure_def,
    Option.bind_some]
  split_ifs <;> rfl

lemma run_accept_of_not (h : t.isPrefixOf s = false) : (accept t).run s = some (false, s) := by
  rw [run_accept, if_neg (Bool.eq_false_iff.mp h)]

lemma run_accept_char (c : Char) (s : Text) : (accept [c]).run (c :: s) = some (true, s) := by
  have hprefix : [c].isPrefixOf (c :: s) = true :=
    List.isPrefixOf_iff_prefix.mpr (List.prefix_append [c] s)
  rw [run_accept, if_pos hprefix]
  rfl

lemma run_expect_char (c : Char) (s : Text) : (expect [c]).run (c :: s) = some ((), s) := by
  simp only [expect, StateT.run_bind, run_accept_char]
  rfl

lemma run_expect_of_not (h : t.isPrefixOf s = false) : (expect t).run s = none := by
  simp only [expect, StateT.run_bind, run_accept_of_not h]
  rfl

lemma run_blanks (s : Text) : blanks.run s = some ((), s.dropWhile isBlank) := rfl

lemma run_blanks_of_head (hspace : s.head? ≠ some ' ') (htab : s.head? ≠ some '\t') :
    blanks.run s = some ((), s) := by
  rw [run_blanks]
  cases s with
  | nil => rfl
  | cons c more =>
      rw [List.head?_cons, Ne, Option.some.injEq] at hspace htab
      rw [List.dropWhile_cons_of_neg (by simp [isBlank, hspace, htab])]

lemma run_takeRun_append {p : Char → Bool} (ht : ∀ c ∈ t, p c = true)
    (hrest : rest.head?.any p = false) : (takeRun p).run (t ++ rest) = some (t, rest) := by
  obtain ⟨htake, hdrop⟩ := takeWhile_append_of_head ht hrest
  have hrun : (takeRun p).run (t ++ rest) =
      some ((t ++ rest).takeWhile p, (t ++ rest).dropWhile p) := rfl
  rw [hrun, htake, hdrop]

lemma run_fuel (s : Text) : fuel.run s = some (s.length + 1, s) := rfl

lemma run_peek (s : Text) : peek.run s = some (s.head?, s) := rfl

end

/-! ## Escapes -/

variable {rest : Text}

/-- Whether a character stands for itself in a text. -/
abbrev isPlainInText (c : Char) : Bool :=
  c == '\t' || isPlain ['"', '\\'] c

lemma hexValue_hexDigit : ∀ n < 16, hexValue (Json.hexDigit n) = some n := by decide

/-- A code point of two digits is read from four. -/
lemma run_codePoint {c : Char} (hc : c.toNat < 256) (rest : Text) : (codePoint 4).run
    ('0' :: '0' :: Json.hexDigit (c.toNat / 16) :: Json.hexDigit (c.toNat % 16) :: rest) =
      some (c, rest) := by
  have hhigh := hexValue_hexDigit (c.toNat / 16) (by omega)
  have hlow := hexValue_hexDigit (c.toNat % 16) (by omega)
  have htake : (takeExactly 4 fun c => (hexValue c).isSome).run
      ('0' :: '0' :: Json.hexDigit (c.toNat / 16) :: Json.hexDigit (c.toNat % 16) :: rest) =
        some (['0', '0', Json.hexDigit (c.toNat / 16), Json.hexDigit (c.toNat % 16)], rest) := by
    rw [takeExactly, run_bind (s := _ :: _) rfl, if_pos (by simp [hhigh, hlow]; decide)]
    rfl
  have hvalue : (['0', '0', Json.hexDigit (c.toNat / 16), Json.hexDigit (c.toNat % 16)].filterMap
      hexValue).foldl (fun sum v => 16 * sum + v) 0 = c.toNat := by
    have hzero : hexValue '0' = some 0 := rfl
    simp only [List.filterMap_cons, List.filterMap_nil, hzero, hhigh, hlow, List.foldl_cons,
      List.foldl_nil]
    omega
  have hvalid : c.toNat.isValidChar := c.valid
  rw [codePoint, run_bind htake]
  dsimp only
  rw [hvalue, dif_pos hvalid]
  rfl

/-- An escaped code point is read as its character. -/
lemma run_escape_code {c : Char} (hc : c.toNat < 256) (rest : Text) : escape.run
    (['u', '0', '0', Json.hexDigit (c.toNat / 16), Json.hexDigit (c.toNat % 16)] ++ rest) =
      some (c, rest) := by
  rw [escape, run_bind (run_peek _)]
  exact run_codePoint hc rest

lemma isPlainInText_of_printable {c : Char} (hquote : c ≠ '"') (hslash : c ≠ '\\')
    (hlow : 32 ≤ c.toNat) (hdelete : c ≠ '\x7f') : isPlainInText c = true := by
  have hcode : c.toNat ≠ 127 := fun h => hdelete (Char.toNat_inj.mp h)
  have hrange : 128 ≤ c.toNat ∨ 32 ≤ c.toNat ∧ c.toNat ≤ 126 := by omega
  simp [isPlainInText, isPlain, hquote, hslash, hrange]

/-- **A character stands for itself or is escaped**, and then the escape is read as it. -/
lemma escaped_cases (c : Char) : escaped c = [c] ∧ isPlainInText c = true ∨
    ∃ e, escaped c = '\\' :: e ∧ ∀ rest, escape.run (e ++ rest) = some (c, rest) := by
  by_cases hdelete : c = '\x7f'
  · have hcode : escaped '\x7f' = '\\' :: ['u', '0', '0', Json.hexDigit ('\x7f'.toNat / 16),
        Json.hexDigit ('\x7f'.toNat % 16)] := by decide
    rw [hdelete]
    exact Or.inr ⟨_, hcode, run_escape_code (by decide)⟩
  · rw [escaped, if_neg hdelete, Json.escaped.eq_def]
    split
    case h_8 hquote hslash _ _ _ _ _ =>
      split_ifs with hlow
      · exact Or.inr ⟨_, rfl, run_escape_code (by omega)⟩
      · exact Or.inl ⟨rfl, isPlainInText_of_printable hquote hslash (by omega) hdelete⟩
    all_goals exact Or.inr ⟨_, rfl, fun _ => rfl⟩

/-- Nothing that is written for a character starts with a quote. -/
lemma exists_escaped_eq_cons (c : Char) : ∃ d more, escaped c = d :: more ∧ d ≠ '"' := by
  rcases escaped_cases c with ⟨hc, hplain⟩ | ⟨e, hc, -⟩
  · refine ⟨c, [], hc, ?_⟩
    rintro rfl
    cases hplain
  · exact ⟨'\\', e, hc, by decide⟩

lemma length_le_length_flatMap_escaped (s : Text) : s.length ≤ (s.flatMap escaped).length := by
  induction s with
  | nil => exact Nat.le_refl 0
  | cons c s ih =>
      obtain ⟨d, more, hc, -⟩ := exists_escaped_eq_cons c
      rw [List.flatMap_cons, hc, List.length_append, List.length_cons, List.length_cons]
      omega

/-! ## Texts -/

/-- What is written of a text is read back, behind characters of it that stand for themselves. -/
lemma run_basicText (s : Text) : ∀ {before : Text} {n : Nat},
    (∀ c ∈ before, isPlainInText c = true) → s.length < n →
    (basicText n).run (before ++ (s.flatMap escaped ++ '"' :: rest)) =
      some (before ++ s, rest) := by
  -- the reader takes all characters up to an escape at once: `before` is what it takes together
  -- with the next one
  induction s with
  | nil =>
      rintro before (_ | n) hbefore hn
      · cases hn
      · rw [basicText, List.flatMap_nil, List.nil_append, List.append_nil,
          run_bind (run_takeRun_append hbefore rfl), run_bind (run_accept_char _ _), if_pos rfl]
        rfl
  | cons c s ih =>
      rintro before (_ | n) hbefore hn
      · cases hn
      · rw [List.length_cons, Nat.add_lt_add_iff_right] at hn
        rcases escaped_cases c with ⟨hc, hplain⟩ | ⟨e, hc, hescape⟩
        · have hmore := @ih (before ++ [c]) (n + 1)
            (List.forall_mem_append.mpr ⟨hbefore, List.forall_mem_singleton.mpr hplain⟩)
            (Nat.lt_succ_of_lt hn)
          rw [List.append_assoc, List.append_assoc] at hmore
          rw [List.flatMap_cons, hc, List.append_assoc]
          exact hmore
        · have hmore := @ih [] n (by simp) hn
          rw [List.flatMap_cons, hc, List.append_assoc, List.cons_append, basicText,
            run_bind (run_takeRun_append hbefore rfl), run_bind (run_accept_of_not rfl),
            if_neg Bool.false_ne_true, run_bind (run_expect_char _ _), run_bind (hescape _)]
          exact run_bind hmore _

lemma run_shortText (s rest : Text) : shortText.run (quoted s ++ rest) = some (s, rest) := by
  have hquoted : quoted s ++ rest = '"' :: (s.flatMap escaped ++ '"' :: rest) := by simp [quoted]
  have henough : s.length < (s.flatMap escaped ++ '"' :: rest).length + 1 := by
    have := length_le_length_flatMap_escaped s
    rw [List.length_append]
    omega
  rw [hquoted, shortText, run_bind (run_accept_char _ _), if_pos rfl, run_bind (run_fuel _)]
  exact @run_basicText rest s [] _ (by simp) henough

/-- Three quotes open a text of several lines; no text on one line starts with them. -/
lemma not_isPrefixOf_quoted (s : Text) (hrest : rest.head? ≠ some '"') :
    ['"', '"', '"'].isPrefixOf (quoted s ++ rest) = false := by
  cases s with
  | nil =>
      cases rest with
      | nil => rfl
      | cons c more =>
          have hc : c ≠ '"' := fun h => hrest (congrArg some h)
          show ('"' == c && true) = false
          rw [beq_false_of_ne hc.symm, Bool.false_and]
  | cons c more =>
      obtain ⟨d, e, hcons, hd⟩ := exists_escaped_eq_cons c
      rw [quoted, List.flatMap_cons, hcons]
      show ('"' == d && _) = false
      rw [beq_false_of_ne hd.symm, Bool.false_and]

/-- **A text is read back**, if no quote follows it. -/
lemma run_quotedText (s : Text) (hrest : rest.head? ≠ some '"') :
    quotedText.run (quoted s ++ rest) = some (s, rest) := by
  have hlong := not_isPrefixOf_quoted s hrest
  have hother : ['\'', '\'', '\''].isPrefixOf (quoted s ++ rest) = false := rfl
  simp only [quotedText, StateT.run_bind, run_accept_of_not hlong, run_accept_of_not hother,
    Option.bind_eq_bind, Option.bind_some, Bool.false_eq_true, if_false, StateT.run_pure,
    Option.pure_def]
  exact run_shortText s rest

/-! ## Names -/

/-- A name is written as it is or in quotes. -/
lemma writeName_cases (name : Text) :
    writeName name = name ∧ name ≠ [] ∧ (∀ c ∈ name, isNameChar c = true) ∨
      writeName name = quoted name := by
  rw [writeName]
  split_ifs with h
  · rw [Bool.and_eq_true, Bool.not_eq_true', List.isEmpty_eq_false_iff, List.all_eq_true] at h
    exact Or.inl ⟨rfl, h⟩
  · exact Or.inr rfl

/-- The first of characters of a class is in it. -/
lemma head_append_of_all {p : Char → Bool} {t : Text} (hne : t ≠ []) (ht : ∀ c ∈ t, p c = true)
    {d : Char} (hd : p d = false) (rest : Text) : (t ++ rest).head? ≠ some d := by
  obtain ⟨c, more, rfl⟩ := List.exists_cons_of_ne_nil hne
  rintro ⟨⟩
  rw [ht d List.mem_cons_self] at hd
  cases hd

/-- A name starts with a quote or with a character that needs none. -/
lemma head_writeName (name rest : Text) {d : Char} (hquote : d ≠ '"')
    (hd : isNameChar d = false) : (writeName name ++ rest).head? ≠ some d := by
  rcases writeName_cases name with ⟨hname, hne, hall⟩ | hname
  · rw [hname]
    exact head_append_of_all hne hall hd rest
  · rw [hname]
    exact fun h => hquote (Option.some.inj h).symm

lemma run_blanks_name (name rest : Text) :
    blanks.run (writeName name ++ rest) = some ((), writeName name ++ rest) :=
  run_blanks_of_head (head_writeName name rest (by decide) (by decide))
    (head_writeName name rest (by decide) (by decide))

lemma run_keyName (name : Text) (hrest : rest.head?.any isNameChar = false) :
    keyName.run (writeName name ++ rest) = some (name, rest) := by
  rw [keyName, run_bind (run_peek _)]
  rcases writeName_cases name with ⟨hname, hne, hall⟩ | hname
  · rw [hname]
    split
    · exact absurd ‹_› (head_append_of_all hne hall (by decide) rest)
    · exact absurd ‹_› (head_append_of_all hne hall (by decide) rest)
    · rw [run_bind (run_takeRun_append hall hrest), if_neg (by rw [List.isEmpty_iff]; exact hne)]
      rfl
  · rw [hname]
    exact run_shortText name rest

/-- **A name is read back.** -/
lemma run_keyPath (name rest : Text) :
    keyPath.run (writeName name ++ ' ' :: '=' :: rest) = some (([], name), '=' :: rest) := by
  have hnames : ∀ n, (keyNames (n + 1)).run (writeName name ++ ' ' :: '=' :: rest) =
      some ([name], '=' :: rest) := by
    intro n
    rw [keyNames, run_bind (run_blanks_name name _), run_bind (run_keyName name rfl),
      run_bind (run_blanks _)]
    rfl
  rw [keyPath, run_bind (run_fuel _), run_bind (hnames _)]
  rfl

end Toml

end SqlFragments
