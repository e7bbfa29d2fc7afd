import SqlFragments.Proofs.Document.TomlText

/-!
# Reading the whole numbers of TOML

A number at the end of a line is tried as a truth value, as a date, as a time of day and as a number
with a point before it is read as the whole number that it is.  Digits alone let every one of these
readers go on for a while; what they leave are digits, so that the mark they look for does not come.

* `Toml.LeavesDigits` — what a reader makes of digits.
* `Toml.IsWhole` — digits without a needless zero, such as those of a number.
* **`Toml.run_scalar_number`** — a number that fits is read back.
-/

namespace SqlFragments

namespace Toml

/-! ## Digits at the end of a line -/

/-- A text that holds something else than digits does not stand at the front of digits that end
with their line. -/
lemma not_isPrefixOf_digits {t digits : Text} (hdigits : ∀ c ∈ digits, c.isDigit = true)
    (ht : t.all Char.isDigit = false) (hline : '\n' ∉ t) (rest : Text) :
    t.isPrefixOf (digits ++ '\n' :: rest) = false := by
  rw [← Bool.not_eq_true, List.isPrefixOf_iff_prefix]
  intro hprefix
  obtain ⟨c, hc, hdigit⟩ := List.all_eq_false.mp ht
  rcases List.prefix_or_prefix_of_prefix hprefix (List.prefix_append digits _) with hshort | hlong
  · exact hdigit (hdigits c (hshort.subset hc))
  · obtain ⟨more, rfl⟩ := hlong
    rw [List.prefix_append_right_inj] at hprefix
    cases more with
    | nil =>
        rw [List.append_nil] at hc
        exact hdigit (hdigits c hc)
    | cons d more =>
        obtain ⟨tail, htail⟩ := hprefix
        obtain ⟨rfl, -⟩ := List.cons.inj htail
        exact hline (List.mem_append_right _ List.mem_cons_self)

/-- A reader that leaves digits where it meets a number at the end of a line, or fails. -/
def LeavesDigits {α : Type} (r : Reader α) (number rest : Text) : Prop :=
  r.run (number ++ '\n' :: rest) = none ∨ ∃ a more, (∀ c ∈ more, c.isDigit = true) ∧
    r.run (number ++ '\n' :: rest) = some (a, more ++ '\n' :: rest)

section

variable {α β : Type} {r : Reader α} {number rest : Text}

lemma LeavesDigits.bind {f : α → Reader β} (h : LeavesDigits r number rest)
    (hf : ∀ a more, (f a).run more = none ∨ ∃ b, (f a).run more = some (b, more)) :
    LeavesDigits (r >>= f) number rest := by
  rcases h with hnone | ⟨a, more, hmore, hsome⟩
  · exact Or.inl (run_bind_of_none hnone _)
  · rcases hf a (more ++ '\n' :: rest) with hnone | ⟨b, hb⟩
    · exact Or.inl ((run_bind hsome _).trans hnone)
    · exact Or.inr ⟨b, more, hmore, (run_bind hsome _).trans hb⟩

/-- What digits alone do not go on with makes the reading fail. -/
lemma LeavesDigits.run_bind_expect {c : Char} (h : LeavesDigits r number rest)
    (hc : c.isDigit = false) (hline : c ≠ '\n') (f : α → Unit → Reader β) :
    (r >>= fun a => expect [c] >>= f a).run (number ++ '\n' :: rest) = none := by
  rcases h with hnone | ⟨a, more, hmore, hsome⟩
  · exact run_bind_of_none hnone _
  · rw [run_bind hsome]
    refine run_bind_of_none (run_expect_of_not (not_isPrefixOf_digits hmore ?_ ?_ rest)) _
    · rw [List.all_cons, hc, Bool.false_and]
    · rw [List.mem_singleton]
      exact Ne.symm hline

end

section

variable {digits : Text} (hdigits : ∀ c ∈ digits, c.isDigit = true)

include hdigits

/-- Where digits end their line, no text that holds anything else comes next. -/
lemma run_accept_digits {α : Type} {t : Text} (ht : t.all Char.isDigit = false)
    (hline : '\n' ∉ t) (yes no : Reader α) (rest : Text) :
    (accept t >>= fun found => if found then yes else no).run (digits ++ '\n' :: rest) =
      no.run (digits ++ '\n' :: rest) := by
  rw [run_bind (run_accept_of_not (not_isPrefixOf_digits hdigits ht hline rest)),
    if_neg Bool.false_ne_true]

lemma leavesDigits_takeExactly_digits (n : Nat) (rest : Text) :
    LeavesDigits (takeExactly n Char.isDigit) digits rest := by
  rw [LeavesDigits, takeExactly, run_bind (s := digits ++ '\n' :: rest) rfl]
  split_ifs with h
  · rw [Bool.and_eq_true, List.all_eq_true] at h
    have hle : n ≤ digits.length := by
      by_contra hlt
      have hline : '\n' ∈ (digits ++ '\n' :: rest).take n := by
        obtain ⟨k, hk⟩ : ∃ k, n - digits.length = k + 1 := ⟨n - digits.length - 1, by omega⟩
        rw [List.take_append, hk, List.take_succ_cons]
        exact List.mem_append_right _ List.mem_cons_self
      exact absurd (h.2 '\n' hline) (by decide)
    refine Or.inr ⟨(digits ++ '\n' :: rest).take n, digits.drop n,
      fun c hc => hdigits c (List.mem_of_mem_drop hc), ?_⟩
    rw [← List.drop_append_of_le_length hle]
    rfl
  · exact Or.inl rfl

/-- Digits with no needless zero in front. -/
def IsWhole (digits : Text) : Prop :=
  digits = ['0'] ∨ digits ≠ [] ∧ digits.head? ≠ some '0'

lemma run_wholeDigits (hwhole : IsWhole digits) (rest : Text) :
    wholeDigits.run (digits ++ '\n' :: rest) = some (digits, '\n' :: rest) := by
  rcases hwhole with rfl | ⟨hne, hhead⟩
  · rw [wholeDigits, List.singleton_append, run_bind (run_accept_char _ _), if_pos rfl]
    rfl
  · have hzero : ['0'].isPrefixOf (digits ++ '\n' :: rest) = false := by
      obtain ⟨c, more, rfl⟩ := List.exists_cons_of_ne_nil hne
      rw [List.cons_append, List.isPrefixOf, Bool.and_eq_false_iff, beq_eq_false_iff_ne]
      exact Or.inl fun h => hhead (by rw [List.head?_cons, h])
    have hrun : ∀ n, (digitGroups Char.isDigit (n + 1)).run (digits ++ '\n' :: rest) =
        some (digits, '\n' :: rest) := by
      intro n
      rw [digitGroups, run_bind (run_takeRun_append hdigits rfl),
        if_neg (by rw [List.isEmpty_iff]; exact hne)]
      rfl
    rw [wholeDigits, run_bind (run_accept_of_not hzero), if_neg Bool.false_ne_true,
      run_bind (run_fuel _), hrun]

end

/-! ## The digits of a number -/

lemma isWhole_toDigits (n : Nat) : IsWhole (Nat.toDigits 10 n) := by
  induction n using Nat.strong_induction_on with
  | _ n ih =>
      by_cases hn : n < 10
      · have hdigit : ∀ n < 10, n = 0 ∨ some n.digitChar ≠ some '0' := by decide
        rw [Nat.toDigits_of_lt_base hn]
        obtain rfl | hne := hdigit n hn
        · exact Or.inl rfl
        · exact Or.inr ⟨List.cons_ne_nil _ _, hne⟩
      · obtain hzero | ⟨hne, hhead⟩ := ih (n / 10) (by omega)
        · have hquotient := Nat.ofDigitChars_ten_toDigits (n := n / 10)
          rw [hzero] at hquotient
          have : n / 10 = 0 := hquotient.symm
          omega
        · rw [Nat.toDigits_of_base_le (by decide) (by omega)]
          obtain ⟨c, more, hcons⟩ := List.exists_cons_of_ne_nil hne
          rw [hcons] at hhead ⊢
          exact Or.inr ⟨List.cons_ne_nil _ _, hhead⟩

lemma isDigit_of_mem_toDigits (n : Nat) : ∀ c ∈ Nat.toDigits 10 n, c.isDigit = true :=
  fun _ hc => Nat.isDigit_of_mem_toDigits (by decide) (by decide) hc

lemma digitsValue_toDigits (n : Nat) : digitsValue 10 (Nat.toDigits 10 n) = n := by
  have hvalue : ∀ digits : Text, (∀ c ∈ digits, c.isDigit = true) → ∀ sum,
      (digits.filterMap hexValue).foldl (fun sum v => 10 * sum + v) sum =
        Nat.ofDigitChars 10 digits sum := by
    intro digits
    induction digits with
    | nil => exact fun _ _ => rfl
    | cons c more ih =>
        intro h sum
        obtain ⟨hc, hmore⟩ := List.forall_mem_cons.mp h
        have hhex : hexValue c = some (c.toNat - '0'.toNat) := if_pos hc
        rw [List.filterMap_cons_some hhex, List.foldl_cons, ih hmore]
        rfl
  rw [digitsValue, hvalue _ (isDigit_of_mem_toDigits n), Nat.ofDigitChars_ten_toDigits]

/-! ## Numbers -/

section

variable {n : Int}

/-- A number is written as its digits, with a minus in front if it is negative. -/
lemma writeAtom_number_cases (n : Int) :
    (n < 0 ∧ writeAtom (.number n) = '-' :: Nat.toDigits 10 n.natAbs) ∨
      (0 ≤ n ∧ writeAtom (.number n) = Nat.toDigits 10 n.natAbs) := by
  rcases Int.lt_or_le n 0 with hn | hn
  · exact Or.inl ⟨hn, by rw [writeAtom, if_pos hn]; rfl⟩
  · exact Or.inr ⟨hn, by rw [writeAtom, if_neg (Int.not_lt.mpr hn)]; rfl⟩

/-- Where a number ends its line, no text that holds anything but digits comes next, a minus
aside. -/
lemma run_accept_number {α : Type} {t : Text} (ht : t.all Char.isDigit = false)
    (hline : '\n' ∉ t) (hminus : t.head? ≠ some '-') (yes no : Reader α) (rest : Text) :
    (accept t >>= fun found => if found then yes else no).run
        (writeAtom (.number n) ++ '\n' :: rest) =
      no.run (writeAtom (.number n) ++ '\n' :: rest) := by
  rcases writeAtom_number_cases n with ⟨-, hwrite⟩ | ⟨-, hwrite⟩
  · have hprefix : t.isPrefixOf ('-' :: Nat.toDigits 10 n.natAbs ++ '\n' :: rest) = false := by
      cases t with
      | nil => cases ht
      | cons c t =>
          have hc : (c == '-') = false := beq_false_of_ne fun h => hminus (congrArg some h)
          rw [List.cons_append, List.isPrefixOf, hc, Bool.false_and]
    rw [hwrite, run_bind (run_accept_of_not hprefix), if_neg Bool.false_ne_true]
  · rw [hwrite, run_accept_digits (isDigit_of_mem_toDigits _) ht hline]

lemma run_sign_number (n : Int) (rest : Text) :
    sign.run (writeAtom (.number n) ++ '\n' :: rest) =
      some (if n < 0 then some true else none, Nat.toDigits 10 n.natAbs ++ '\n' :: rest) := by
  rcases writeAtom_number_cases n with ⟨hn, hwrite⟩ | ⟨hn, hwrite⟩
  · rw [hwrite, if_pos hn, sign, List.cons_append, run_bind (run_accept_char _ _), if_pos rfl]
    rfl
  · have hdigits := isDigit_of_mem_toDigits n.natAbs
    rw [hwrite, if_neg (Int.not_lt.mpr hn), sign,
      run_accept_digits hdigits (by decide) (by decide),
      run_accept_digits hdigits (by decide) (by decide)]
    rfl

lemma run_takeExactly_of_head {p : Char → Bool} {c : Char} (hc : p c = false) {k : Nat}
    (hk : 0 < k) (rest : Text) : (takeExactly k p).run (c :: rest) = none := by
  obtain ⟨k, rfl⟩ := Nat.exists_eq_succ_of_ne_zero (Nat.ne_of_gt hk)
  rw [takeExactly, run_bind (s := c :: rest) rfl, if_neg (by simp [hc])]
  rfl

lemma leavesDigits_takeExactly (n : Int) {k : Nat} (hk : 0 < k) (rest : Text) :
    LeavesDigits (takeExactly k Char.isDigit) (writeAtom (.number n)) rest := by
  rcases writeAtom_number_cases n with ⟨-, hwrite⟩ | ⟨-, hwrite⟩
  · rw [hwrite]
    exact Or.inl (run_takeExactly_of_head (by decide) hk _)
  · rw [hwrite]
    exact leavesDigits_takeExactly_digits (isDigit_of_mem_toDigits _) k rest

lemma leavesDigits_fixedNumber (n : Int) {k : Nat} (hk : 0 < k) (rest : Text) :
    LeavesDigits (fixedNumber k) (writeAtom (.number n)) rest :=
  (leavesDigits_takeExactly n hk rest).bind fun _ _ => Or.inr ⟨_, rfl⟩

lemma leavesDigits_twoDigits (n : Int) (low high : Nat) (rest : Text) :
    LeavesDigits (twoDigits low high) (writeAtom (.number n)) rest := by
  refine (leavesDigits_fixedNumber n (by decide) rest).bind fun k _ => ?_
  split_ifs
  · exact Or.inr ⟨_, rfl⟩
  · exact Or.inl rfl

/-- A number is no date and no time of day. -/
lemma run_dateTime_number (n : Int) (rest : Text) :
    dateTime.run (writeAtom (.number n) ++ '\n' :: rest) = none := by
  have hdate : date.run (writeAtom (.number n) ++ '\n' :: rest) = none :=
    (leavesDigits_fixedNumber n (by decide) rest).run_bind_expect (by decide) (by decide) _
  have hhour : LeavesDigits (discard (twoDigits 0 23)) (writeAtom (.number n)) rest :=
    (leavesDigits_twoDigits n 0 23 rest).bind fun _ _ => Or.inr ⟨(), rfl⟩
  have htime : timeOfDay.run (writeAtom (.number n) ++ '\n' :: rest) = none :=
    hhour.run_bind_expect (by decide) (by decide) _
  rw [dateTime, run_bind (run_optional_of_none hdate)]
  exact run_bind_of_none htime _

/-- It is no number with a point or an exponent. -/
lemma run_decimal_number (n : Int) (rest : Text) :
    decimal.run (writeAtom (.number n) ++ '\n' :: rest) = none := by
  have hdigits := isDigit_of_mem_toDigits n.natAbs
  rw [decimal, run_bind (run_sign_number n rest),
    run_accept_digits hdigits (by decide) (by decide),
    run_accept_digits hdigits (by decide) (by decide),
    run_bind (run_wholeDigits hdigits (isWhole_toDigits _) rest)]
  rfl

lemma run_integer_number (h : (Atom.number n).Fits) (rest : Text) :
    integer.run (writeAtom (.number n) ++ '\n' :: rest) = some (.integer n, '\n' :: rest) := by
  have hwhole := run_wholeDigits (isDigit_of_mem_toDigits n.natAbs) (isWhole_toDigits _) rest
  obtain ⟨hlow, hhigh⟩ := h
  dsimp only [integer]
  rw [run_accept_number (by decide) (by decide) (by decide),
    run_accept_number (by decide) (by decide) (by decide),
    run_accept_number (by decide) (by decide) (by decide),
    run_bind (run_sign_number n rest), run_bind hwhole, digitsValue_toDigits]
  rcases Int.lt_or_le n 0 with hn | hn
  · have hvalue : -(n.natAbs : Int) = n := by omega
    rw [if_pos hn, if_pos (by decide), if_pos (by omega), hvalue]
    rfl
  · have hvalue : (n.natAbs : Int) = n := by omega
    rw [if_neg (Int.not_lt.mpr hn), if_neg (by decide), if_pos (by omega), hvalue]
    rfl

/-- **A number is read back** if it fits 64 bits with a sign. -/
lemma run_scalar_number (h : (Atom.number n).Fits) (rest : Text) :
    scalar.run (writeAtom (.number n) ++ '\n' :: rest) = some (.integer n, '\n' :: rest) := by
  rw [scalar, run_accept_number (by decide) (by decide) (by decide),
    run_accept_number (by decide) (by decide) (by decide),
    run_bind (run_optional_of_none (run_dateTime_number n rest))]
  show (optional decimal >>= _).run _ = _
  rw [run_bind (run_optional_of_none (run_decimal_number n rest))]
  exact run_integer_number h rest

end

end Toml

end SqlFragments
