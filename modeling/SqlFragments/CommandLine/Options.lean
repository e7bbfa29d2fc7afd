import SqlFragments.Text.Basic

/-!
# Options of a command line

A command line mixes options with other words.  An option has a long name, written `--name`, and
perhaps a short one, written `-n`; short options without values may share one hyphen.  The value
of an option is attached to its name or is the next word.

* `OptionRule`: an option that a command takes
* `Given`, `Stop`: what has been given, and why the reading stops early
* `Rules.scan`: the options and other words of a command line
-/

namespace SqlFragments

/-- How many values an option takes. -/
inductive Arity where
  /-- None: the option is a switch. -/
  | none
  | one
  /-- One each time it is given. -/
  | many
deriving DecidableEq, Repr

/-- An option that a command takes; `accepts` tells which values are good. -/
structure OptionRule where
  short : Option Char
  long : Text
  arity : Arity
  accepts : Text → Bool

/-- What a command takes: its options, the number of other words if that is bounded, the commands
that may follow, and whether it tells its version. -/
structure Rules where
  options : List OptionRule
  words : Option Nat
  commands : List Text
  versioned : Bool

/-- What has been given: options with their values, and other words. -/
structure Given where
  options : List (Text × Text)
  words : List Text
deriving DecidableEq, Repr

/-- Why the reading of a command line stops early. -/
inductive Stop where
  /-- The command line is wrong. -/
  | usage (problem : String)
  | version
  | help
deriving DecidableEq, Repr

/-- A command and the words behind it. -/
abbrev Following := Option (Text × List Text)

namespace Given

def values (g : Given) (long : String) : List Text :=
  (g.options.filter fun o => o.1 == long.toList).map Prod.snd

def value (g : Given) (long : String) : Option Text :=
  (g.values long).head?

def has (g : Given) (long : String) : Bool :=
  !(g.values long).isEmpty

end Given

namespace OptionRule

/-- What has been given, with one more value of an option. -/
def add (r : OptionRule) (value : Text) (g : Given) : Except Stop Given :=
  if r.arity != .many && g.options.any (fun o => o.1 == r.long) then
    .error (.usage "an option cannot be used multiple times")
  else if r.arity != .none && !r.accepts value then .error (.usage "invalid value for an option")
  else .ok { g with options := g.options ++ [(r.long, value)] }

end OptionRule

namespace Rules

/-- A text cut at its first equals sign. -/
def cutAtEquals (s : Text) : Text × Option Text :=
  match s.dropWhile (· != '=') with
  | [] => (s, none)
  | _ :: value => (s.takeWhile (· != '='), some value)

/-- What a long option does, given its name and the value attached to it: what has been given
with it, and the option if its value is still to come. -/
def long (rules : Rules) (g : Given) (name : Text) (attached : Option Text) :
    Except Stop (Given × Option OptionRule) :=
  match rules.options.find? (fun r => r.long == name), attached with
  | some r, some value =>
    if r.arity = .none then .error (.usage "a switch takes no value")
    else (r.add value g).map fun g => (g, none)
  | some r, none =>
    if r.arity = .none then (r.add [] g).map fun g => (g, none) else .ok (g, some r)
  | none, none =>
    if name = "help".toList then .error .help
    else if name = "version".toList && rules.versioned then .error .version
    else .error (.usage "unexpected option")
  | none, some _ => .error (.usage "unexpected option")

/-- What short options behind one hyphen do. -/
def short (rules : Rules) (g : Given) : Text → Except Stop (Given × Option OptionRule)
  | [] => .ok (g, none)
  | c :: rest =>
    match rules.options.find? fun r => r.short == some c with
    | some r =>
      if r.arity = .none then do
        let g ← r.add [] g
        short rules g rest
      else
        match rest with
        | [] => .ok (g, some r)
        | '=' :: value => (r.add value g).map fun g => (g, none)
        | value => (r.add value g).map fun g => (g, none)
    | none =>
      if c = 'h' then .error .help
      else if c = 'V' && rules.versioned then .error .version
      else .error (.usage "unexpected option")

/-- One more word that is no option. -/
def word (rules : Rules) (g : Given) (w : Text) : Except Stop Given :=
  if rules.words.any (g.words.length ≥ ·) then .error (.usage "unexpected argument")
  else .ok { g with words := g.words ++ [w] }

/-- Whether a word is written like an option. -/
def looksLikeOption : Text → Bool
  | '-' :: _ :: _ => true
  | _ => false

/-- The options and other words of a command line, up to the first word that is a command.
`pending` is an option that waits for its value. -/
def scanFrom (rules : Rules) (g : Given) (pending : Option OptionRule) :
    List Text → Except Stop (Given × Following)
  | [] => if pending.isSome then .error (.usage "an option lacks its value") else .ok (g, none)
  | w :: rest =>
    match pending with
    | some r =>
      if looksLikeOption w then .error (.usage "an option lacks its value")
      else do
        let g ← r.add w g
        scanFrom rules g none rest
    | none =>
      match w with
      | ['-', '-'] => do
        let g ← rest.foldlM (word rules) g
        return (g, none)
      | '-' :: '-' :: name => do
        let (name, attached) := cutAtEquals name
        let (g, pending) ← long rules g name attached
        scanFrom rules g pending rest
      | '-' :: c :: cs => do
        let (g, pending) ← short rules g (c :: cs)
        scanFrom rules g pending rest
      | w =>
        if rules.commands.contains w then .ok (g, some (w, rest))
        else do
          let g ← word rules g w
          scanFrom rules g none rest

/-- The options and other words of a command line, up to the first word that is a command. -/
def scan (rules : Rules) (words : List Text) : Except Stop (Given × Following) :=
  scanFrom rules ⟨[], []⟩ none words

end Rules

end SqlFragments
