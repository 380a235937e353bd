import Landscape.Text.Blank

namespace Landscape

/-!
# Regular expressions as written

The syntax tree of a regular expression, before flags and names in it are given their
meaning, and what can be wrong with one.
-/

inductive PatternError where
  | classEscapeInvalid
  | classRangeInvalid
  | classRangeLiteral
  | classUnclosed
  | decimalInvalid
  | escapeHexEmpty
  | escapeHexInvalid
  | escapeHexInvalidDigit
  | escapeUnexpectedEnd
  | escapeUnrecognized
  | flagDanglingNegation
  | flagDuplicate
  | flagRepeatedNegation
  | flagUnexpectedEnd
  | flagUnrecognized
  | groupNameDuplicate
  | groupNameEmpty
  | groupNameInvalid
  | groupNameUnexpectedEnd
  | groupUnclosed
  | groupUnopened
  | nestedTooDeep (limit : Nat)
  | repetitionCountInvalid
  | repetitionCountEmpty
  | repetitionCountUnclosed
  | repetitionMissing
  | wordEdgeUnclosed
  | wordEdgeUnrecognized
  | wordEdgeUnexpectedEnd
  | propertyInvalid
  | backreference
  | lookAround
  | unicodeNotAllowed
  | invalidUtf8
  | propertyNotFound
  | propertyValueNotFound
  | tooLarge (limit : Nat)
  deriving DecidableEq, Repr

def PatternError.message : PatternError → String
  | classEscapeInvalid => "invalid escape sequence found in character class"
  | classRangeInvalid => "invalid character class range, the start must be <= the end"
  | classRangeLiteral => "invalid range boundary, must be a literal"
  | classUnclosed => "unclosed character class"
  | decimalInvalid => "decimal literal invalid"
  | escapeHexEmpty => "hexadecimal literal empty"
  | escapeHexInvalid => "hexadecimal literal is not a Unicode scalar value"
  | escapeHexInvalidDigit => "invalid hexadecimal digit"
  | escapeUnexpectedEnd =>
      "incomplete escape sequence, reached end of pattern prematurely"
  | escapeUnrecognized => "unrecognized escape sequence"
  | flagDanglingNegation => "dangling flag negation operator"
  | flagDuplicate => "duplicate flag"
  | flagRepeatedNegation => "flag negation operator repeated"
  | flagUnexpectedEnd => "expected flag but got end of regex"
  | flagUnrecognized => "unrecognized flag"
  | groupNameDuplicate => "duplicate capture group name"
  | groupNameEmpty => "empty capture group name"
  | groupNameInvalid => "invalid capture group character"
  | groupNameUnexpectedEnd => "unclosed capture group name"
  | groupUnclosed => "unclosed group"
  | groupUnopened => "unopened group"
  | nestedTooDeep limit =>
      "exceed the maximum number of nested parentheses/brackets (" ++ toString limit ++ ")"
  | repetitionCountInvalid => "invalid repetition count range, the start must be <= the end"
  | repetitionCountEmpty => "repetition quantifier expects a valid decimal"
  | repetitionCountUnclosed => "unclosed counted repetition"
  | repetitionMissing => "repetition operator missing expression"
  | wordEdgeUnclosed =>
      "special word boundary assertion is either unclosed or contains an invalid character"
  | wordEdgeUnrecognized =>
      "unrecognized special word boundary assertion, valid choices are: start, end, " ++
        "start-half or end-half"
  | wordEdgeUnexpectedEnd =>
      "found either the beginning of a special word boundary or a bounded repetition on a " ++
        "\\b with an opening brace, but no closing brace"
  | propertyInvalid => "invalid Unicode character class"
  | backreference => "backreferences are not supported"
  | lookAround => "look-around, including look-ahead and look-behind, is not supported"
  | unicodeNotAllowed => "Unicode not allowed here"
  | invalidUtf8 => "pattern can match invalid UTF-8"
  | propertyNotFound => "Unicode property not found"
  | propertyValueNotFound => "Unicode property value not found"
  | tooLarge limit => "Compiled regex exceeds size limit of " ++ toString limit ++ " bytes."

namespace Expr

inductive Flag where
  | ignoreCase
  | multiLine
  | dotAll
  | swapGreed
  | unicode
  | anyLine
  | freeSpacing
  deriving DecidableEq, Repr

def Flag.ofChar? : Char → Option Flag
  | 'i' => some .ignoreCase
  | 'm' => some .multiLine
  | 's' => some .dotAll
  | 'U' => some .swapGreed
  | 'u' => some .unicode
  | 'R' => some .anyLine
  | 'x' => some .freeSpacing
  | _ => none

abbrev FlagChange := List (Flag × Bool)

/-- A character as it is written; `byte` if by exactly two hexadecimal digits. -/
structure Literal where
  char : Char
  byte : Bool
  deriving DecidableEq, Repr

inductive AsciiClass where
  | alnum | alpha | ascii | blank | cntrl | digit | graph | lower | print | punct | space
  | upper | word | xdigit
  deriving DecidableEq, Repr

def AsciiClass.ofName? : String → Option AsciiClass
  | "alnum" => some alnum
  | "alpha" => some alpha
  | "ascii" => some ascii
  | "blank" => some blank
  | "cntrl" => some cntrl
  | "digit" => some digit
  | "graph" => some graph
  | "lower" => some lower
  | "print" => some print
  | "punct" => some punct
  | "space" => some space
  | "upper" => some upper
  | "word" => some word
  | "xdigit" => some xdigit
  | _ => none

inductive ShortClass where
  | digit | space | word
  deriving DecidableEq, Repr

inductive PropertyQuery where
  | named (name : List Char)
  | valued (name value : List Char)
  deriving DecidableEq, Repr

inductive SetOp where
  | inter | diff | symmDiff
  deriving DecidableEq, Repr

end Expr

/-- What stands between the brackets of a class. -/
inductive ClassExpr where
  | nothing
  | literal (l : Expr.Literal)
  | range (lo hi : Expr.Literal)
  | ascii (k : Expr.AsciiClass) (negated : Bool)
  | short (k : Expr.ShortClass) (negated : Bool)
  | property (q : Expr.PropertyQuery) (negated : Bool)
  | union (a b : ClassExpr)
  | combine (op : Expr.SetOp) (a b : ClassExpr)
  | bracketed (negated : Bool) (a : ClassExpr)
  deriving DecidableEq, Repr

inductive Expr where
  | empty
  | flags (fs : Expr.FlagChange)
  | literal (l : Expr.Literal)
  | dot
  | lineStart
  | lineEnd
  | textStart
  | textEnd
  | wordBoundary
  | noWordBoundary
  | wordStart
  | wordEnd
  | wordStartHalf
  | wordEndHalf
  | short (k : Expr.ShortClass) (negated : Bool)
  | property (q : Expr.PropertyQuery) (negated : Bool)
  | bracketed (negated : Bool) (a : ClassExpr)
  | seq (a b : Expr)
  | alt (a b : Expr)
  | times (a : Expr) (least : Nat) (most : Option Nat) (lazy : Bool)
  /-- A group; `kept` if what it matches is recorded. -/
  | group (kept : Bool) (fs : Expr.FlagChange) (a : Expr)
  deriving DecidableEq, Repr

namespace ClassExpr

/-- How deep brackets, unions and operations are nested; a chain of unions counts once. -/
def depth (inUnion : Bool) : ClassExpr → Nat
  | union a b => (if inUnion then 0 else 1) + max (depth true a) (depth true b)
  | combine _ a b => 1 + max (depth false a) (depth false b)
  | bracketed _ a => 1 + depth false a
  | _ => 0

end ClassExpr

namespace Expr

inductive Chain where
  | none | seq | alt
  deriving DecidableEq, Repr

/-- How deep groups, repetitions, classes, sequences and choices are nested; a chain of
sequences or of choices counts once. -/
def depth (chain : Chain) : Expr → Nat
  | .seq a b => (if chain = .seq then 0 else 1) + max (depth .seq a) (depth .seq b)
  | .alt a b => (if chain = .alt then 0 else 1) + max (depth .alt a) (depth .alt b)
  | .times a _ _ _ => 1 + depth .none a
  | .group _ _ a => 1 + depth .none a
  | .bracketed _ a => 1 + a.depth false
  | _ => 0

/-- The expressions one after the other, given from the last to the first. -/
def sequenceOf : List Expr → Expr
  | [] => empty
  | [e] => e
  | e :: es => es.foldl (fun rest a => seq a rest) e

/-- The choice between the expressions, given from the last to the first. -/
def choiceOf : List Expr → Expr
  | [] => empty
  | [e] => e
  | e :: es => es.foldl (fun rest a => alt a rest) e

end Expr

end Landscape
