import SqlFragments.Text.Basic

/-!
# Quoted runs

A quoted run opens with `'`, `"` or a backtick and ends at the next quote of the same kind that
is not written twice; a run that never ends reaches to the end of the text.  A text is cut into
quoted runs and the plain stretches between them.

* `takeQuoted`: the rest of a run behind its opening quote
* `Piece`, `pieces`: a text as plain and quoted pieces
* `quotedSpans`: where the quoted runs of a text lie, in bytes
-/

namespace SqlFragments

/-- A range of bytes, without its end. -/
structure Span where
  start : Nat
  stop : Nat
deriving DecidableEq, Repr

/-- Whether a character opens a quoted run. -/
def isQuote (c : Char) : Bool :=
  c == '\'' || c == '"' || c == '\x60'

/-- What follows an opening quote `q`, cut behind the closing quote.  A quote written twice
belongs to the run; without a closing quote the run takes all of the text. -/
def takeQuoted (q : Char) : Text → Text × Text
  | [] => ([], [])
  | [c] => ([c], [])
  | c :: d :: rest =>
    if c = q then
      if d = q then (c :: d :: (takeQuoted q rest).1, (takeQuoted q rest).2)
      else ([c], d :: rest)
    else (c :: (takeQuoted q (d :: rest)).1, (takeQuoted q (d :: rest)).2)

/-- **Nothing is lost** when a run is cut off. -/
theorem takeQuoted_append (q : Char) (s : Text) :
    (takeQuoted q s).1 ++ (takeQuoted q s).2 = s := by
  fun_induction takeQuoted q s <;> simp_all

/-- The rest behind a run is no longer than the text. -/
theorem takeQuoted_length_le (q : Char) (s : Text) :
    (takeQuoted q s).2.length ≤ s.length := by
  have h := congrArg List.length (takeQuoted_append q s)
  simp only [List.length_append] at h
  omega

/-- A stretch of text that is quoted or holds no quote. -/
inductive Piece where
  | plain (text : Text)
  | quoted (text : Text)
deriving DecidableEq, Repr

/-- The characters of a piece, quotes included. -/
def Piece.text : Piece → Text
  | plain text => text
  | quoted text => text

/-- One more plain character in front of some pieces. -/
def consPlain (c : Char) : List Piece → List Piece
  | .plain text :: rest => .plain (c :: text) :: rest
  | ps => .plain [c] :: ps

/-- A text cut at its quoted runs. -/
def pieces (s : Text) : List Piece :=
  match s with
  | [] => []
  | c :: rest =>
    if isQuote c then .quoted (c :: (takeQuoted c rest).1) :: pieces (takeQuoted c rest).2
    else consPlain c (pieces rest)
termination_by s.length
decreasing_by
  · have := takeQuoted_length_le c rest
    simp only [List.length_cons]
    omega
  · simp

/-- The spans of the quoted pieces, the first piece starting at `offset`. -/
def quotedSpansFrom (offset : Nat) : List Piece → List Span
  | [] => []
  | .plain text :: rest => quotedSpansFrom (offset + text.bytes) rest
  | .quoted text :: rest =>
    ⟨offset, offset + text.bytes⟩ :: quotedSpansFrom (offset + text.bytes) rest

/-- The byte spans of the quoted runs of a text. -/
def quotedSpans (s : Text) : List Span :=
  quotedSpansFrom 0 (pieces s)

end SqlFragments
