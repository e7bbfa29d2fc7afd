import Mathlib.Algebra.Group.Nat.Defs
import SqlFragments.Config
import SqlFragments.Proofs.Document.TomlLines

/-!
# Saving a configuration and loading it

A configuration is saved as a record of two entries, the name of its dialect and its limit, in
whatever format documents have.  Saving looks at the limit only for whether it can be written,
loading only for whether it makes sense, and the two questions differ at zero.

* `Config.writable_record` — every format has to take the record of a limit that it can write.
* `Config.ofEntries_of_perm` — the entries say what the configuration is, in any order.
* **`Config.loadFile_save`** — what is loaded after saving, in every format and for every limit.
* **`Config.not_loads_saved_zero`** — a limit of zero is saved but not loaded.
-/

namespace SqlFragments

/-- Where names are different, a name has the value that is behind it. -/
lemma Value.find_of_mem {entries : List (Text × Value)} (hnames : (entries.map Prod.fst).Nodup)
    {name : Text} {v : Value} (hmem : (name, v) ∈ entries) : find entries name = some v := by
  induction entries with
  | nil => cases hmem
  | cons e rest ih =>
      rw [List.map_cons, List.nodup_cons] at hnames
      rcases List.mem_cons.mp hmem with rfl | hrest
      · simp [find]
      · have hne : e.1 ≠ name := by
          rintro rfl
          exact hnames.1 (List.mem_map.mpr ⟨_, hrest, rfl⟩)
        rw [find, List.find?_cons_of_neg (by simpa using hne)]
        exact ih hnames.2 hrest

namespace Config

variable {format : DocumentFormat}

lemma names_record (c : Config) : c.record.map Prod.fst = [keys.1, keys.2] := rfl

lemma writable_record {c : Config} (h : c.maxLimit < integerLimit) : c.record.Writable where
  names := by
    rw [names_record]
    decide
  values := by
    rw [record, List.forall_mem_cons, List.forall_mem_singleton]
    refine ⟨trivial, ?_, Int.ofNat_lt.mpr h⟩
    omega

lemma dialectOfValue_name (d : Dialect) : dialectOfValue (.text d.name) = some d := by
  cases d <;> decide

lemma limitOfValue_natCast (n : Nat) : limitOfValue (.integer n) = some n := by
  rw [limitOfValue, if_pos (Int.natCast_nonneg n), Int.toNat_natCast]

/-- **The entries of a configuration say what it is**, in any order. -/
lemma ofEntries_of_perm {c : Config} {entries : List (Text × Value)}
    (h : entries.Perm (c.record.map fun e => (e.1, e.2.toValue))) :
    ofEntries entries = some c := by
  have hnames : (entries.map Prod.fst).Nodup := by
    rw [(h.map Prod.fst).nodup_iff]
    exact (by decide : [keys.1, keys.2].Nodup)
  have hdialect : Value.find entries keys.1 = some (.text c.dialect.name) :=
    Value.find_of_mem hnames (h.mem_iff.mpr List.mem_cons_self)
  have hlimit : Value.find entries keys.2 = some (.integer c.maxLimit) :=
    Value.find_of_mem hnames (h.mem_iff.mpr (List.mem_cons_of_mem _ List.mem_cons_self))
  show (settingOr default.dialect dialectOfValue (Value.find entries keys.1)).bind (fun d =>
    (settingOr default.maxLimit limitOfValue (Value.find entries keys.2)).bind fun l =>
      some (⟨d, l⟩ : Config)) = some c
  rw [hdialect, hlimit, settingOr, settingOr, dialectOfValue_name, limitOfValue_natCast]
  rfl

lemma save_of_lt (h : format.Faithful) {c : Config} (hlimit : c.maxLimit < integerLimit) :
    ∃ s, c.save format = .ok s ∧ format.write c.record = .ok s := by
  obtain ⟨s, hs⟩ := h.writes c.record (writable_record hlimit)
  exact ⟨s, by rw [save, hs]; rfl, hs⟩

/-- What is loaded from what was written. -/
lemma loadFile_of_write (h : format.Faithful) {c : Config} (hlimit : c.maxLimit < integerLimit)
    {s : Text} (hs : format.write c.record = .ok s) : loadFile format (some s) =
      if c.maxLimit = 0 then .error (.invalidValue "max_limit must be greater than zero".toList)
      else .ok c := by
  obtain ⟨entries, hread, hperm⟩ := h.reads c.record s (writable_record hlimit) hs
  rw [loadFile, load, hread]
  dsimp only
  rw [ofEntries_of_perm hperm]

lemma save_of_le (h : format.Faithful) {c : Config} (hlimit : integerLimit ≤ c.maxLimit) :
    ∃ reason, c.save format = .error (.serialize reason) := by
  obtain ⟨reason, hreason⟩ := h.refuses c.record keys.2 c.maxLimit
    (List.mem_cons_of_mem _ List.mem_cons_self) (Int.ofNat_le.mpr hlimit)
  exact ⟨reason, by rw [save, hreason]; rfl⟩

/-- **Saving and loading**, in every format that may be relied on.  A configuration is saved
whenever its limit can be written as a whole number of 64 bits with a sign, and refused otherwise.
What was saved is loaded as the same configuration, unless the limit is zero. -/
theorem loadFile_save (h : format.Faithful) (c : Config) :
    (c.maxLimit < 2 ^ 63 → ∃ s, c.save format = .ok s ∧ loadFile format (some s) =
      if c.maxLimit = 0 then .error (.invalidValue "max_limit must be greater than zero".toList)
      else .ok c) ∧
    (2 ^ 63 ≤ c.maxLimit → ∃ reason, c.save format = .error (.serialize reason)) := by
  refine ⟨fun hlimit => ?_, save_of_le h⟩
  obtain ⟨s, hsave, hwrite⟩ := save_of_lt h hlimit
  exact ⟨s, hsave, loadFile_of_write h hlimit hwrite⟩

/-- The greatest limit that can be saved, and the one above it, in TOML. -/
theorem loadFile_save_greatest :
    Toml.format.Faithful ∧
    (⟨.snowflake, 2 ^ 63 - 1⟩ : Config).save Toml.format =
      .ok "dialect = \"snowflake\"\nmax_limit = 9223372036854775807\n".toList ∧
    loadFile Toml.format
        (some "dialect = \"snowflake\"\nmax_limit = 9223372036854775807\n".toList) =
      .ok ⟨.snowflake, 2 ^ 63 - 1⟩ ∧
    ∃ reason, (⟨.snowflake, 2 ^ 63⟩ : Config).save Toml.format = .error (.serialize reason) := by
  obtain ⟨s, hsave, hload⟩ :=
    (loadFile_save Toml.format_faithful ⟨.snowflake, 2 ^ 63 - 1⟩).1 (by decide)
  have htext : (⟨.snowflake, 2 ^ 63 - 1⟩ : Config).save Toml.format =
      .ok "dialect = \"snowflake\"\nmax_limit = 9223372036854775807\n".toList := rfl
  obtain rfl := Except.ok.inj (htext.symm.trans hsave)
  exact ⟨Toml.format_faithful, htext, hload,
    (loadFile_save Toml.format_faithful ⟨.snowflake, 2 ^ 63⟩).2 (Nat.le_refl _)⟩

/-- **What is saved is not always loaded**: nobody asks when saving whether the limit is zero. -/
theorem not_loads_saved_zero :
    ¬ ∀ format : DocumentFormat, format.Faithful → ∀ (c : Config) (s : Text),
      c.maxLimit < 2 ^ 64 → c.save format = .ok s → loadFile format (some s) = .ok c := by
  intro hloads
  have hzero : (⟨.bigQuery, 0⟩ : Config).maxLimit < integerLimit := by decide
  obtain ⟨s, hsave, hwrite⟩ := save_of_lt Toml.format_faithful hzero
  have hloaded := hloads Toml.format Toml.format_faithful _ s (by decide) hsave
  rw [loadFile_of_write Toml.format_faithful hzero hwrite, if_pos rfl] at hloaded
  cases hloaded

end Config

end SqlFragments
