import Landscape.History
import Landscape.PathGlob.Reader
import Landscape.Rule.Matcher
import Landscape.Rule.Term

namespace Landscape

/-!
# Rules on files

A term on files gives an id, a regular expression to be found in the path, or a path glob. A
glob without a slash may also take the last part of the path alone.
-/

open Text

inductive FileTest where
  | any
  | not (t : FileTest)
  | id (i : FileId)
  /-- A pattern and the regular expression that writes it. -/
  | pattern (source : String) (p : Pattern)
  | glob (text : String) (g : PathGlob) (baseName : Bool)
  | ignored

namespace FileTest

/-- Read a test without `!` from a text without blanks at its ends. -/
def ofAtom (t : List Char) : Except RuleError FileTest :=
  if t.isEmpty then .ok any
  else
    match after? ['i', 'd', ':'] t, after? ['r', 'e', ':'] t with
    | some value, _ => id <$> Term.readId t value
    | none, some rest => do
        let p ← Pattern.ofTerm rest
        return pattern (String.ofList ("(?i)".toList ++ rest)) p
    | none, none =>
        let text := String.ofList t
        match PathGlob.ofText t with
        | .ok g => .ok (glob text g (!t.contains '/'))
        | .error f => .error (.invalidGlob text (f.report text))

def ofText : List Char → Except RuleError FileTest := Term.ofText not ofAtom

def holds (f : SourceFile) : FileTest → Bool
  | any => true
  | not t => !holds f t
  | id i => f.id = i
  | pattern _ p => p.occursIn f.path.toList
  | glob _ g baseName => g.accepts f.path.toList || (baseName && g.accepts f.name.toList)
  | ignored => f.ignored

end FileTest

abbrev FileRule := Formula (Leaf FileTest)

namespace FileRule

def ofText (policy : Policy) (rule : List Char) : Except RuleError FileRule :=
  Leaf.formulaOfRule FileTest.ofText policy rule

def dropIgnored : FileRule := .leaf ⟨.ignored, .excluding⟩

def verdict (r : FileRule) (f : SourceFile) : Verdict :=
  Formula.verdict (Leaf.verdict (FileTest.holds f)) r

def keeps (r : FileRule) (f : SourceFile) : Bool :=
  Formula.keeps Leaf.policy (Leaf.verdict (FileTest.holds f)) r

def select (r : FileRule) (files : List SourceFile) : List SourceFile := files.filter r.keeps

end FileRule

end Landscape
