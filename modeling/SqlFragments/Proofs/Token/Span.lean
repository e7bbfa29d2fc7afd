import Mathlib.Tactic.Common
import SqlFragments.Proofs.Token.Scan

/-!
# Spans cut the text at its tokens

Callers keep the byte spans of tokens and cut the original text with them.  A cut at an offset
inside a character, or behind the end, has no result; this file shows that no span asks for one,
and that the cuts lose nothing.

* `Text.slice` — the text between two byte offsets.
* `Span.covers` — a span holds a byte offset.
* `Lossless` — spans and tokens of a text as they should be.
* **`tokens_lossless`** — they are, for every text.
-/

namespace SqlFragments

/-! ## Cutting at byte offsets -/

namespace Text

/-- A text without its first `n` bytes; there is no result if a character is cut through or the
text is too short. -/
def dropBytes (s : Text) (n : Nat) : Option Text :=
  match s with
  | [] => if n = 0 then some [] else none
  | c :: rest =>
    if n = 0 then some (c :: rest)
    else if n < c.utf8Size then none
    else dropBytes rest (n - c.utf8Size)

/-- The first `n` bytes of a text, with the same exceptions. -/
def takeBytes (s : Text) (n : Nat) : Option Text :=
  match s with
  | [] => if n = 0 then some [] else none
  | c :: rest =>
    if n = 0 then some []
    else if n < c.utf8Size then none
    else (takeBytes rest (n - c.utf8Size)).map (c :: ·)

/-- The text of a span: what lies between its two offsets. -/
def slice (s : Text) (span : Span) : Option Text :=
  (s.dropBytes span.start).bind fun rest => rest.takeBytes (span.stop - span.start)

@[simp] lemma bytes_nil : bytes [] = 0 := rfl

@[simp] lemma bytes_cons (c : Char) (s : Text) : bytes (c :: s) = c.utf8Size + bytes s := rfl

@[simp] lemma bytes_append (a b : Text) : bytes (a ++ b) = bytes a + bytes b := by
  induction a with
  | nil => simp
  | cons c rest ih => rw [List.cons_append, bytes_cons, bytes_cons, ih, Nat.add_assoc]

lemma bytes_pos {s : Text} (h : s ≠ []) : 0 < s.bytes := by
  cases s with
  | nil => exact absurd rfl h
  | cons c rest =>
      have := c.utf8Size_pos
      rw [bytes_cons]
      omega

lemma dropBytes_append (a b : Text) : (a ++ b).dropBytes a.bytes = some b := by
  induction a with
  | nil => cases b <;> rfl
  | cons c rest ih =>
      have hpos := c.utf8Size_pos
      rw [List.cons_append, bytes_cons, dropBytes, if_neg (by omega), if_neg (by omega),
        Nat.add_sub_cancel_left, ih]

lemma takeBytes_append (a b : Text) : (a ++ b).takeBytes a.bytes = some a := by
  induction a with
  | nil => cases b <;> rfl
  | cons c rest ih =>
      have hpos := c.utf8Size_pos
      rw [List.cons_append, bytes_cons, takeBytes, if_neg (by omega), if_neg (by omega),
        Nat.add_sub_cancel_left, ih, Option.map_some]

lemma slice_append (a b c : Text) :
    (a ++ (b ++ c)).slice ⟨a.bytes, a.bytes + b.bytes⟩ = some b := by
  rw [slice, dropBytes_append, Option.bind_some, Nat.add_sub_cancel_left, takeBytes_append]

end Text

/-- A span holds the byte at an offset. -/
def Span.covers (span : Span) (offset : Nat) : Prop :=
  span.start ≤ offset ∧ offset < span.stop

instance (span : Span) (offset : Nat) : Decidable (span.covers offset) :=
  inferInstanceAs (Decidable (_ ∧ _))

/-- **Nothing is lost.**  The spans of a text cut out its tokens; they are not empty, follow one
another without overlap, end within the text, and leave out nothing but white space; all other
characters are those of the tokens, in their order. -/
structure Lossless (s : Text) (spans : List Span) (ts : List Token) : Prop where
  /-- Each span lies between characters, and its text is that of the token. -/
  slices : spans.map s.slice = ts.map fun t => some t.text
  nonempty : ∀ span ∈ spans, span.start < span.stop
  /-- Every span ends before each of those behind it starts. -/
  ordered : spans.Pairwise fun a b => a.stop ≤ b.start
  within : ∀ span ∈ spans, span.stop ≤ s.bytes
  /-- A character that no span holds is white space. -/
  outside : ∀ (before : Text) (c : Char) (after : Text), s = before ++ c :: after →
    (∀ span ∈ spans, ¬ span.covers before.bytes) → isBlank c = true
  /-- No other character is dropped, doubled or moved. -/
  visible : (ts.flatMap Token.text).filter (! isBlank ·) = s.filter (! isBlank ·)

/-! ## The spans of some lexemes -/

lemma le_start_of_mem {span : Span} : ∀ (ls : List Lexeme) (offset : Nat),
    span ∈ spansFrom offset ls → offset ≤ span.start
  | [], _, h => by cases h
  | l :: rest, offset, h => by
      simp only [spansFrom, List.mem_cons] at h
      rcases h with rfl | h
      · exact Nat.le_add_right _ _
      · have hle := le_start_of_mem rest _ h
        omega

/-- Each span gives the source of its lexeme, wherever in a text the lexemes stand. -/
lemma map_slice_spansFrom (tail : Text) : ∀ (ls : List Lexeme) (before : Text),
    (spansFrom before.bytes ls).map (before ++ (ls.flatMap Lexeme.text ++ tail)).slice
      = ls.map fun l => some l.source
  | [], _ => rfl
  | l :: rest, before => by
      have hstart : before.bytes + l.blank.bytes = (before ++ l.blank).bytes :=
        (Text.bytes_append _ _).symm
      have hstop : before.bytes + l.blank.bytes + l.source.bytes
          = (before ++ l.blank ++ l.source).bytes := by rw [Text.bytes_append, hstart]
      have hfirst : before ++ ((l :: rest).flatMap Lexeme.text ++ tail)
          = (before ++ l.blank) ++ (l.source ++ (rest.flatMap Lexeme.text ++ tail)) := by
        rw [List.flatMap_cons, Lexeme.text]
        simp only [List.append_assoc]
      have hrest : before ++ ((l :: rest).flatMap Lexeme.text ++ tail)
          = (before ++ l.blank ++ l.source) ++ (rest.flatMap Lexeme.text ++ tail) := by
        rw [hfirst]
        simp only [List.append_assoc]
      simp only [spansFrom, List.map_cons]
      congr 1
      · rw [hfirst, hstart]
        exact Text.slice_append _ _ _
      · rw [hstop, hrest]
        exact map_slice_spansFrom tail rest (before ++ l.blank ++ l.source)

/-- The spans of lexemes behind others start where those end. -/
lemma spansFrom_append (more : List Lexeme) : ∀ (ls : List Lexeme) (offset : Nat),
    spansFrom offset (ls ++ more) =
      spansFrom offset ls ++ spansFrom (offset + Text.bytes (ls.flatMap Lexeme.text)) more
  | [], _ => rfl
  | l :: rest, offset => by
      have hmore := spansFrom_append more rest (offset + l.blank.bytes + l.source.bytes)
      rw [List.cons_append, spansFrom, spansFrom, hmore, List.cons_append]
      simp only [List.flatMap_cons, Lexeme.text, Text.bytes_append, Nat.add_assoc]

lemma nonempty_spansFrom : ∀ (ls : List Lexeme) (offset : Nat),
    (∀ l ∈ ls, l.source ≠ []) → ∀ span ∈ spansFrom offset ls, span.start < span.stop
  | [], _, _, span, h => by cases h
  | l :: rest, offset, hne, span, h => by
      simp only [spansFrom, List.mem_cons] at h
      rcases h with rfl | h
      · have hpos := Text.bytes_pos (hne l List.mem_cons_self)
        exact Nat.lt_add_of_pos_right hpos
      · exact nonempty_spansFrom rest _ (fun l hl => hne l (List.mem_cons_of_mem _ hl)) span h

lemma ordered_spansFrom : ∀ (ls : List Lexeme) (offset : Nat),
    (spansFrom offset ls).Pairwise fun a b => a.stop ≤ b.start
  | [], _ => List.Pairwise.nil
  | l :: rest, offset => by
      simp only [spansFrom]
      exact List.Pairwise.cons (fun span h => le_start_of_mem rest _ h) (ordered_spansFrom rest _)

lemma within_spansFrom : ∀ (ls : List Lexeme) (offset : Nat), ∀ span ∈ spansFrom offset ls,
    span.stop ≤ offset + Text.bytes (ls.flatMap Lexeme.text)
  | [], _, span, h => by cases h
  | l :: rest, offset, span, h => by
      simp only [spansFrom, List.mem_cons] at h
      rw [List.flatMap_cons, Lexeme.text, Text.bytes_append, Text.bytes_append]
      rcases h with rfl | h
      · show offset + l.blank.bytes + l.source.bytes ≤ _
        omega
      · have hle := within_spansFrom rest _ span h
        omega

/-- Where a character of `a ++ b` stands: in `a`, or in `b` behind all of `a`. -/
lemma append_eq_append_cons {a b before after : Text} {c : Char}
    (h : a ++ b = before ++ c :: after) :
    (∃ more, a = before ++ c :: more) ∨ ∃ front, before = a ++ front ∧ b = front ++ c :: after := by
  rcases List.append_eq_append_iff.mp h with ⟨front, hbefore, hb⟩ | ⟨more, ha, hc⟩
  · exact Or.inr ⟨front, hbefore, hb⟩
  · cases more with
    | nil =>
        refine Or.inr ⟨[], ?_, ?_⟩
        · rw [ha, List.append_nil, List.append_nil]
        · exact hc.symm
    | cons d more =>
        simp only [List.cons_append, List.cons.injEq] at hc
        exact Or.inl ⟨more, by rw [ha, hc.1]⟩

/-- A character that lies in no span stands in the white space between two lexemes, or behind the
last one. -/
lemma outside_spansFrom {tail : Text} {c : Char} (htail : tail.isBlank = true) :
    ∀ (ls : List Lexeme) (offset : Nat) (before after : Text),
      (∀ l ∈ ls, l.blank.isBlank = true) →
      ls.flatMap Lexeme.text ++ tail = before ++ c :: after →
      (∀ span ∈ spansFrom offset ls, ¬ span.covers (offset + before.bytes)) → isBlank c = true
  | [], offset, before, after, _, h, _ => by
      rw [List.flatMap_nil, List.nil_append] at h
      refine List.all_eq_true.mp htail c ?_
      rw [h]
      exact List.mem_append_right _ List.mem_cons_self
  | l :: rest, offset, before, after, hblank, h, hout => by
      rw [List.flatMap_cons, Lexeme.text, List.append_assoc, List.append_assoc] at h
      simp only [spansFrom, List.mem_cons, forall_eq_or_imp] at hout
      obtain ⟨hfirst, hout⟩ := hout
      rcases append_eq_append_cons h with ⟨more, hb⟩ | ⟨front, rfl, hfront⟩
      · have hl := hblank l List.mem_cons_self
        rw [hb] at hl
        exact List.all_eq_true.mp hl c (List.mem_append_right _ List.mem_cons_self)
      rcases append_eq_append_cons hfront with ⟨more, hs⟩ | ⟨front', rfl, hrest⟩
      · -- the character would lie in the span of this lexeme
        refine absurd ⟨?_, ?_⟩ hfirst
        · show offset + l.blank.bytes ≤ offset + (l.blank ++ front).bytes
          rw [Text.bytes_append]
          omega
        · show offset + (l.blank ++ front).bytes < offset + l.blank.bytes + l.source.bytes
          have hpos := c.utf8Size_pos
          rw [hs, Text.bytes_append, Text.bytes_append, Text.bytes_cons]
          omega
      · refine outside_spansFrom htail rest (offset + l.blank.bytes + l.source.bytes) front' after
          (fun l hl => hblank l (List.mem_cons_of_mem _ hl)) hrest fun span hspan => ?_
        have hnot := hout span hspan
        rw [Text.bytes_append, Text.bytes_append, ← Nat.add_assoc, ← Nat.add_assoc] at hnot
        exact hnot

lemma filter_flatMap_text : ∀ ls : List Lexeme, (∀ l ∈ ls, l.blank.isBlank = true) →
    (ls.flatMap Lexeme.text).filter (! isBlank ·) = (ls.flatMap Lexeme.source).filter (! isBlank ·)
  | [], _ => rfl
  | l :: rest, hblank => by
      have hl : l.blank.filter (! isBlank ·) = [] := by
        rw [List.filter_eq_nil_iff]
        intro c hc
        rw [List.all_eq_true.mp (hblank l List.mem_cons_self) c hc]
        exact Bool.false_ne_true
      rw [List.flatMap_cons, List.flatMap_cons, Lexeme.text, List.filter_append,
        List.filter_append, List.filter_append, hl, List.nil_append,
        filter_flatMap_text rest fun l hl => hblank l (List.mem_cons_of_mem _ hl)]

/-! ## The spans of a text -/

lemma map_source_eq (s : Text) :
    (scan s).lexemes.map Lexeme.source = (tokens s).map Token.text := by
  rw [tokens, List.map_map]
  exact List.map_congr_left fun l hl => source_eq_text s l hl

/-- **Reading tokens loses nothing**, whatever the text. -/
theorem tokens_lossless (s : Text) : Lossless s (spans s) (tokens s) where
  slices := by
    have h := map_slice_spansFrom (scan s).trailing (scan s).lexemes []
    rw [List.nil_append, scan_append] at h
    have hsome : (scan s).lexemes.map (fun l => some l.source)
        = (tokens s).map fun t => some t.text := by
      rw [tokens, List.map_map]
      exact List.map_congr_left fun l hl => congrArg some (source_eq_text s l hl)
    rw [← hsome]
    exact h
  nonempty := nonempty_spansFrom _ 0 (source_ne_nil s)
  ordered := ordered_spansFrom _ 0
  within := fun span hspan => by
    have hle := within_spansFrom (scan s).lexemes 0 span hspan
    have happ := congrArg Text.bytes (scan_append s)
    rw [Text.bytes_append] at happ
    omega
  outside := fun before c after h hout => by
    rw [← scan_append s] at h
    refine outside_spansFrom (trailing_isBlank s) _ 0 before after (blank_isBlank s) h ?_
    rw [Nat.zero_add]
    exact hout
  visible := by
    have htrail : (scan s).trailing.filter (! isBlank ·) = [] := by
      rw [List.filter_eq_nil_iff]
      intro c hc
      rw [List.all_eq_true.mp (trailing_isBlank s) c hc]
      exact Bool.false_ne_true
    have hsource : (tokens s).flatMap Token.text = (scan s).lexemes.flatMap Lexeme.source := by
      rw [List.flatMap_def, List.flatMap_def, map_source_eq]
    conv_rhs => rw [← scan_append s, List.filter_append, htrail, List.append_nil]
    rw [hsource, filter_flatMap_text _ (blank_isBlank s)]

end SqlFragments
