import SqlFragments.Text.Basic
import SqlFragments.Text.WordChar

/-!
# Folded letters and runs of word characters

SQL words are recognised in any case.  Besides the ASCII capitals, two characters fold to ASCII
letters: the long s `ſ` and the Kelvin sign.  A word stands for itself only as a maximal run of
word characters.

* `Text.folded`: a text with its letters folded to lower-case ASCII where they can be
* `Run`, `runs`: a text as maximal runs of word characters and of other characters
-/

namespace SqlFragments

/-- The ASCII letter that a character folds to, or the character itself. -/
def foldChar (c : Char) : Char :=
  if c.toNat = 0x17F then 's'
  else if c.toNat = 0x212A then 'k'
  else c.toLower

/-- A text with every character folded. -/
def Text.folded (s : Text) : Text :=
  s.map foldChar

/-- A maximal run of word characters, or of characters that are none. -/
inductive Run where
  | word (text : Text)
  | gap (text : Text)
deriving DecidableEq, Repr

def Run.text : Run → Text
  | word text => text
  | gap text => text

/-- One more character in front of some runs: it joins the first run if that is of its kind. -/
def consRun (c : Char) (rs : List Run) : List Run :=
  if isWordChar c then
    match rs with
    | .word text :: rest => .word (c :: text) :: rest
    | rs => .word [c] :: rs
  else
    match rs with
    | .gap text :: rest => .gap (c :: text) :: rest
    | rs => .gap [c] :: rs

/-- A text cut between word characters and others. -/
def runs : Text → List Run
  | [] => []
  | c :: rest => consRun c (runs rest)

end SqlFragments
