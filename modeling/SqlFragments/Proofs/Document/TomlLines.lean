import SqlFragments.Proofs.Document.TomlNumber

/-!
# Reading TOML line by line

A record is written with one name and its value on every line, and read back as it was written.

* `Toml.run_value` — a value is read back.
* `Toml.run_line` — a line adds its value to the table.
* **`Toml.run_lines`**, **`Toml.read_flatMap_writeEntry`** — all lines, and a whole document.
* **`Toml.format_faithful`** — TOML may be relied on.
-/

namespace SqlFragments

namespace Toml

variable {rest : Text}

/-! ## Values -/

lemma head_writeAtom_number (n : Int) (rest : Text) {d : Char} (hminus : d ≠ '-')
    (hd : d.isDigit = false) : (writeAtom (.number n) ++ rest).head? ≠ some d := by
  rcases writeAtom_number_cases n with ⟨-, hwrite⟩ | ⟨-, hwrite⟩
  · rw [hwrite]
    exact fun h => hminus (Option.some.inj h).symm
  · rw [hwrite]
    exact head_append_of_all Nat.toDigits_ne_nil (isDigit_of_mem_toDigits _) hd rest

/-- A value starts with a quote, a minus or a digit. -/
lemma head_writeAtom (a : Atom) (rest : Text) {d : Char} (hquote : d ≠ '"') (hminus : d ≠ '-')
    (hd : d.isDigit = false) : (writeAtom a ++ rest).head? ≠ some d := by
  cases a with
  | text s => exact fun h => hquote (Option.some.inj h).symm
  | number n => exact head_writeAtom_number n rest hminus hd

/-- **A value is read back.** -/
lemma run_value {a : Atom} (h : a.Fits) (rest : Text) :
    value.run (writeAtom a ++ '\n' :: rest) = some (a.toValue, '\n' :: rest) := by
  rw [value, maxDepth, valueWithin, run_bind (run_peek _)]
  cases a with
  | text s => exact run_bind (run_quotedText s (by simp)) _
  | number n =>
      split
      case h_5 => exact run_scalar_number h rest
      all_goals exact absurd ‹_› (head_writeAtom_number n _ (by decide) rfl)

/-! ## Lines -/

lemma put_of_fresh {name : Text} {entries : Branches} (h : lookup name entries = none)
    (b : Branch) : put name b entries = entries ++ [(name, b)] := by
  induction entries with
  | nil => rfl
  | cons e more ih =>
      rw [lookup, Option.map_eq_none_iff, List.find?_eq_none] at h
      obtain ⟨he, hmore⟩ := List.forall_mem_cons.mp h
      rw [beq_iff_eq] at he
      rw [put, if_neg he, ih (by rw [lookup, List.find?_eq_none.mpr hmore, Option.map_none]),
        List.cons_append]

lemma run_entry (name : Text) {a : Atom} (h : a.Fits) (rest : Text) :
    (entry value).run (writeEntry (name, a) ++ rest) =
      some (([], name, a.toValue), '\n' :: rest) := by
  have htext : writeEntry (name, a) ++ rest =
      writeName name ++ ' ' :: '=' :: ' ' :: (writeAtom a ++ '\n' :: rest) := by
    rw [writeEntry]
    simp
  have hblanks : blanks.run (' ' :: (writeAtom a ++ '\n' :: rest)) =
      some ((), writeAtom a ++ '\n' :: rest) := by
    rw [run_blanks, List.dropWhile_cons_of_pos rfl]
    exact run_blanks_of_head (head_writeAtom a _ (by decide) (by decide) rfl)
      (head_writeAtom a _ (by decide) (by decide) rfl)
  rw [htext, entry, run_bind (run_keyPath name _)]
  dsimp only
  rw [run_bind (run_expect_char _ _), run_bind hblanks, run_bind (run_value h _)]
  rfl

/-- **A line adds its value** to the table. -/
lemma run_line {name : Text} {a : Atom} (h : a.Fits) {entries : Branches}
    (hfresh : lookup name entries = none) (rest : Text) :
    (line ⟨entries, []⟩).run (writeEntry (name, a) ++ rest) =
      some (⟨entries ++ [(name, .leaf a.toValue)], []⟩, '\n' :: rest) := by
  have hassign : assign [] name a.toValue false entries =
      some (entries ++ [(name, .leaf a.toValue)]) := by
    rw [assign, descend, if_neg (by decide), hfresh, if_neg (by decide), put_of_fresh hfresh]
  have hhead : ∀ d : Char, d ≠ '"' → isNameChar d = false →
      (writeEntry (name, a) ++ rest).head? ≠ some d := by
    intro d hquote hd
    rw [writeEntry, List.append_assoc, List.append_assoc, List.append_assoc]
    exact head_writeName name _ hquote hd
  have hblanks := run_blanks_of_head (hhead ' ' (by decide) (by decide))
    (hhead '\t' (by decide) (by decide))
  rw [line, run_bind hblanks, run_bind (run_peek _)]
  split
  case h_6 =>
    rw [run_bind (run_entry name h rest)]
    dsimp only [descend]
    rw [hassign]
    rfl
  case h_1 hnone =>
    rw [List.head?_eq_none_iff] at hnone
    exact absurd hnone (by simp [writeEntry])
  all_goals exact absurd ‹_› (hhead _ (by decide) (by decide))

/-! ## Documents -/

/-- The table of a record. -/
def branches (r : Record) : Branches :=
  r.map fun e => (e.1, .leaf e.2.toValue)

lemma lookup_branches_eq_none_iff {name : Text} {r : Record} :
    lookup name (branches r) = none ↔ name ∉ r.map Prod.fst := by
  rw [lookup, Option.map_eq_none_iff, List.find?_eq_none, branches, List.forall_mem_map,
    List.mem_map, not_exists]
  refine forall_congr' fun e => ?_
  rw [beq_iff_eq, not_and]

/-- **All lines** add their values, if each has a name of its own. -/
lemma run_lines : ∀ {after before : Record} {n : Nat}, (∀ e ∈ after, e.2.Fits) →
    ((before ++ after).map Prod.fst).Nodup → after.length < n →
    (lines ⟨branches before, []⟩ n).run (after.flatMap writeEntry) =
      some (⟨branches (before ++ after), []⟩, [])
  | _, _, 0, _, _, hn => absurd hn (Nat.not_lt_zero _)
  | [], before, n + 1, _, _, _ => by
      rw [List.append_nil]
      rfl
  | (name, a) :: after, before, n + 1, hfits, hnames, hn => by
      obtain ⟨ha, hafter⟩ := List.forall_mem_cons.mp hfits
      have hfresh : lookup name (branches before) = none := by
        rw [List.map_append, List.map_cons, List.nodup_append] at hnames
        rw [lookup_branches_eq_none_iff]
        exact fun hmem => hnames.2.2 _ hmem _ List.mem_cons_self rfl
      have hbranches : branches before ++ [(name, .leaf a.toValue)] =
          branches (before ++ [(name, a)]) := by
        rw [branches, branches, List.map_append, List.map_singleton]
      have hrest := @run_lines after (before ++ [(name, a)]) n hafter (by simpa using hnames)
        (by rw [List.length_cons] at hn; omega)
      rw [List.flatMap_cons, lines, run_bind (run_line ha hfresh _), hbranches]
      rw [List.append_assoc, List.singleton_append] at hrest
      exact hrest

lemma entriesToValue_branches (r : Record) :
    Branch.entriesToValue (branches r) = r.map fun e => (e.1, e.2.toValue) := by
  induction r with
  | nil => rfl
  | cons e r ih =>
      rw [branches, List.map_cons, Branch.entriesToValue, Branch.toValue, List.map_cons]
      exact congrArg _ ih

/-- Every line takes at least one character. -/
lemma length_le_length_flatMap_writeEntry (r : Record) :
    r.length ≤ (r.flatMap writeEntry).length := by
  induction r with
  | nil => exact Nat.le_refl 0
  | cons e r ih =>
      have hline : 0 < (writeEntry e).length := by
        rw [writeEntry, List.length_append]
        exact Nat.succ_pos _
      rw [List.flatMap_cons, List.length_append, List.length_cons]
      omega

/-- **What is written of a record is read as its names and values.** -/
lemma read_flatMap_writeEntry {r : Record} (h : r.Writable) :
    read (r.flatMap writeEntry) = .ok (r.map fun e => (e.1, e.2.toValue)) := by
  have hmark : ((r.flatMap writeEntry).head? == some '\ufeff') = false := by
    cases r with
    | nil => rfl
    | cons e r =>
        rw [List.flatMap_cons, writeEntry, List.append_assoc, List.append_assoc,
          List.append_assoc, beq_eq_false_iff_ne]
        exact head_writeName e.1 _ (by decide) (by decide)
  have hlines : (lines ⟨[], []⟩ ((r.flatMap writeEntry).length + 1)).run (r.flatMap writeEntry) =
      some (⟨branches r, []⟩, []) :=
    @run_lines r [] _ h.values h.names (Nat.lt_succ_of_le (length_le_length_flatMap_writeEntry r))
  dsimp only [read]
  rw [hmark, if_neg Bool.false_ne_true, hlines]
  exact congrArg Except.ok (entriesToValue_branches r)

/-- **TOML may be relied on**: it takes every record of texts and whole numbers that fit 64 bits
with a sign, gives it back, and refuses larger numbers. -/
theorem format_faithful : format.Faithful where
  writes r h := ⟨_, if_pos h.values⟩
  reads r s h hs := by
    obtain rfl : r.flatMap writeEntry = s := Except.ok.inj ((if_pos h.values).symm.trans hs)
    exact ⟨_, read_flatMap_writeEntry h, List.Perm.refl _⟩
  refuses r name n hmem hn := ⟨_, if_neg fun h => absurd (h _ hmem).2 (Int.not_lt.mpr hn)⟩

end Toml

end SqlFragments
