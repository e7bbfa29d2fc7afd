import SqlFragments.Token.Basic

/-!
# Writing tokens

Tokens are written with one space between them, except where SQL is read more easily without:
inside parentheses, in front of commas, behind function names, around `::`, and behind the sign
of a number.

* `needsSpace`: whether two neighbouring tokens are kept apart
* `isSign`: whether a `-` or `+` is the sign of what follows
* `render`: the text of a list of tokens
-/

namespace SqlFragments

/-- Whether a token is the cast operator. -/
def Token.isCast : Token → Bool
  | .operator op => op == [':', ':']
  | _ => false

/-- Whether a space stands between two neighbouring tokens. -/
def needsSpace (previous current : Token) : Bool :=
  match previous, current with
  | _, .rightParen => false
  | _, .comma => false
  | .leftParen, _ => false
  | .function _, .leftParen => false
  | _, _ => !previous.isCast && !current.isCast

/-- A `-` or `+` is a sign when no operand comes before it: at the start, behind an opening
parenthesis, a comma, an operator or a keyword. -/
def isSign (previous : Option Token) (current : Token) : Bool :=
  match current with
  | .operator op =>
    (op == ['-'] || op == ['+']) &&
      match previous with
      | none | some .leftParen | some .comma | some (.operator _) | some (.keyword _) => true
      | _ => false
  | _ => false

/-- The tokens that follow `previous`; no space stands behind a sign. -/
def renderAfter (previous : Token) (sign : Bool) : List Token → Text
  | [] => []
  | t :: rest =>
    (if !sign && needsSpace previous t then [' '] else []) ++ t.text ++
      renderAfter t (isSign (some previous) t) rest

/-- Tokens as a text. -/
def render : List Token → Text
  | [] => []
  | t :: rest => t.text ++ renderAfter t (isSign none t) rest

end SqlFragments
