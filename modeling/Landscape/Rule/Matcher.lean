import Landscape.Pattern.OfExpr
import Landscape.Rule.Error
import Landscape.Text.Lower

namespace Landscape

/-!
# Names and the terms that match them

A term after `re:` is a regular expression, to be found anywhere in a name. A term with a
star is a glob: a star takes any run of characters within a line, every other character
takes itself in any case, and nothing is left over. Any other term is the name itself up
to lower case, and an empty one matches every name.
-/

open Text

inductive Matcher where
  | any
  | exact (name : String)
  /-- A pattern and the regular expression that writes it. -/
  | pattern (source : String) (p : Pattern)
  deriving DecidableEq

/-! ## Globs -/

namespace Glob

/-- The characters that a regular expression writes behind a backslash. -/
def isSpecial (c : Char) : Bool :=
  ['\\', '.', '+', '*', '?', '(', ')', '|', '[', ']', '{', '}', '^', '$', '#', '&', '-',
    '~'].contains c

/-- A character of a glob as a regular expression writes it. -/
def charSource (c : Char) : List Char :=
  if c = '*' then ['.', '*'] else if isSpecial c then ['\\', c] else [c]

/-- The regular expression with the meaning of a glob. -/
def source (glob : List Char) : List Char :=
  "(?i)^".toList ++ glob.flatMap charSource ++ ['$']

end Glob

/-! ## Terms -/

/-- Read a regular expression that takes letters in any case. -/
def Pattern.ofTerm (s : List Char) : Except RuleError Pattern :=
  match Pattern.ofText ("(?i)".toList ++ s) with
  | .ok p => .ok p
  | .error e => .error (.invalidRegex (String.ofList s) e.message)

/-- Read the regular expression of a glob. -/
def Pattern.ofGlob (glob : List Char) : Except RuleError Pattern :=
  match Pattern.ofText (Glob.source glob) with
  | .ok p => .ok p
  | .error e => .error (.invalidGlob (String.ofList glob) e.message)

namespace Matcher

/-- Read a term; blanks at its ends do not count. -/
def ofTerm (term : List Char) : Except RuleError Matcher :=
  let term := trim term
  if term.isEmpty then .ok any
  else
    match after? ['r', 'e', ':'] term with
    | some rest => do
        let p ← Pattern.ofTerm rest
        return pattern (String.ofList ("(?i)".toList ++ rest)) p
    | none =>
        if term.contains '*' then do
          let p ← Pattern.ofGlob term
          return pattern (String.ofList (Glob.source term)) p
        else .ok (exact (String.ofList term))

def accepts (m : Matcher) (name : String) : Bool :=
  match m with
  | any => true
  | exact expected => sameLower name.toList expected.toList
  | pattern _ p => p.occursIn name.toList

def acceptsSome (m : Matcher) (names : List String) : Bool := names.any m.accepts

end Matcher

end Landscape
