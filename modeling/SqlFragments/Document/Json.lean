import SqlFragments.Text.Basic

/-!
# Writing JSON

* `Json.text`: a text in quotes
* `Json.texts`: a list of texts, without blanks
-/

namespace SqlFragments.Json

def hexDigit (n : Nat) : Char :=
  Nat.digitChar n

/-- A character within quotes.  Quotes, backslashes and control characters are escaped, in the
shortest way there is. -/
def escaped (c : Char) : Text :=
  match c with
  | '"' => ['\\', '"']
  | '\\' => ['\\', '\\']
  | '\x08' => ['\\', 'b']
  | '\t' => ['\\', 't']
  | '\n' => ['\\', 'n']
  | '\x0c' => ['\\', 'f']
  | '\r' => ['\\', 'r']
  | c =>
    if c.toNat < 32 then
      ['\\', 'u', '0', '0', hexDigit (c.toNat / 16), hexDigit (c.toNat % 16)]
    else [c]

/-- A text in quotes. -/
def text (s : Text) : Text :=
  '"' :: s.flatMap escaped ++ ['"']

def texts (items : List Text) : Text :=
  '[' :: Text.join [','] (items.map text) ++ [']']

end SqlFragments.Json
