import SqlFragments.Text.Basic
import SqlFragments.Text.CaseTable

/-!
# Lower case

Full lower-casing of a text, as Unicode defines it.  Two characters are not mapped one by one:
`İ` becomes two characters, and a capital sigma becomes the final form `ς` at the end of a word
and `σ` elsewhere.

* `lowerChar`: the lower-case form of a character apart from its place
* `endsWord`: whether a sigma between two texts ends a word
* `Text.lower`: the lower-case form of a text
-/

namespace SqlFragments

def isCased (c : Char) : Bool :=
  if c.toNat < 128 then c.isAlpha else CodePoint.inRanges casedRanges c

/-- Whether the search for the neighbouring cased character passes over a character. -/
def isCaseIgnorable (c : Char) : Bool :=
  if c.toNat < 128 then c == '\'' || c == '.' || c == ':' || c == '^' || c == '\x60'
  else CodePoint.inRanges caseIgnorableRanges c

/-- The lower-case form of a character, wherever it stands. -/
def lowerChar (c : Char) : Text :=
  if c.toNat < 128 then [c.toLower]
  else if c.toNat = 0x130 then ['i', Char.ofNat 0x307]
  else
    match lowerRanges.find? (·.contains c.toNat) with
    | some r => [Char.ofNat (c.toNat + r.shift).toNat]
    | none => [c]

/-- Whether the first character that is not ignorable has a case. -/
def meetsCased (s : Text) : Bool :=
  match s.dropWhile isCaseIgnorable with
  | c :: _ => isCased c
  | [] => false

/-- A sigma ends a word when a cased character comes before it and none after it; `before` is
given last character first. -/
def endsWord (before after : Text) : Bool :=
  meetsCased before && !meetsCased after

/-- Lower-casing behind `before`, which is given last character first. -/
def lowerFrom (before : Text) : Text → Text
  | [] => []
  | c :: rest =>
    (if c.toNat = 0x3A3 then [Char.ofNat (if endsWord before rest then 0x3C2 else 0x3C3)]
     else lowerChar c) ++ lowerFrom (c :: before) rest

/-- The lower-case form of a text. -/
def Text.lower (s : Text) : Text :=
  lowerFrom [] s

end SqlFragments
