import Landscape.Text.Quoted

namespace Landscape.Json

/-!
# What can be wrong with a document

A document may end early, may be no JSON, or may be JSON that does not fit what is read from
it. Every failure is at a place, counted in bytes from the beginning.
-/

/-- What a document holds where something else is expected. -/
inductive Found where
  | null
  | bool (b : Bool)
  | integer (n : Int)
  | float (digits : String)
  | text (s : String)
  | sequence
  | map
  deriving DecidableEq, Repr

def Found.message : Found → String
  | null => "null"
  | bool b => "boolean `" ++ (if b then "true" else "false") ++ "`"
  | integer n => "integer `" ++ toString n ++ "`"
  | float digits => "floating point `" ++ digits ++ "`"
  | text s => "string " ++ Text.inMessage s
  | sequence => "sequence"
  | map => "map"

inductive Cause where
  | endInList
  | endInObject
  | endInText
  | endInValue
  | colonMissing
  | listCommaMissing
  | objectCommaMissing
  | identMissing
  | valueMissing
  | invalidEscape
  | invalidNumber
  | numberOutOfRange
  | loneSurrogate
  | unpairedSurrogate
  | controlCharacter
  | keyNotText
  | trailingComma
  | trailingCharacters
  | invalidType (found : Found) (expected : String)
  | invalidValue (found : Found) (expected : String)
  /-- A record written as an array of too few elements. -/
  | invalidLength (length : Nat) (record : String) (fields : Nat)
  | unknownVariant (name : String) (known : List String)
  | unknownField (name : String) (known : List String)
  | missingField (name : String)
  | duplicateField (name : String)
  deriving DecidableEq, Repr

/-- Whether a document ends early, is no JSON, or does not fit. -/
inductive Category where
  | early
  | form
  | data
  deriving DecidableEq, Repr

namespace Cause

def category : Cause → Category
  | endInList | endInObject | endInText | endInValue => .early
  | invalidType .. | invalidValue .. | invalidLength .. | unknownVariant .. | unknownField ..
  | missingField _ | duplicateField _ => .data
  | _ => .form

def named (s : String) : String := "`" ++ s ++ "`"

def oneOf : List String → String
  | [] => "there are none"
  | [a] => "expected " ++ named a
  | [a, b] => "expected " ++ named a ++ " or " ++ named b
  | names => "expected one of " ++ String.intercalate ", " (names.map named)

def message : Cause → String
  | endInList => "EOF while parsing a list"
  | endInObject => "EOF while parsing an object"
  | endInText => "EOF while parsing a string"
  | endInValue => "EOF while parsing a value"
  | colonMissing => "expected `:`"
  | listCommaMissing => "expected `,` or `]`"
  | objectCommaMissing => "expected `,` or `\x7d`"
  | identMissing => "expected ident"
  | valueMissing => "expected value"
  | invalidEscape => "invalid escape"
  | invalidNumber => "invalid number"
  | numberOutOfRange => "number out of range"
  | loneSurrogate => "lone leading surrogate in hex escape"
  | unpairedSurrogate => "unexpected end of hex escape"
  | controlCharacter => "control character (\\u0000-\\u001F) found while parsing a string"
  | keyNotText => "key must be a string"
  | trailingComma => "trailing comma"
  | trailingCharacters => "trailing characters"
  | invalidType found expected =>
      "invalid type: " ++ found.message ++ ", expected " ++ expected
  | invalidValue found expected =>
      "invalid value: " ++ found.message ++ ", expected " ++ expected
  | invalidLength length record fields =>
      "invalid length " ++ Nat.repr length ++ ", expected struct " ++ record ++ " with " ++
        Nat.repr fields ++ (if fields = 1 then " element" else " elements")
  | unknownVariant name known => "unknown variant " ++ named name ++ ", " ++ oneOf known
  | unknownField name known => "unknown field " ++ named name ++ ", " ++ oneOf known
  | missingField name => "missing field " ++ named name
  | duplicateField name => "duplicate field " ++ named name

end Cause

structure Failure where
  cause : Cause
  /-- The number of bytes before the place. -/
  place : Nat
  deriving DecidableEq, Repr

namespace Failure

/-- The line and the column of a place: the bytes before it are counted, and a line feed begins
a new line. -/
def position (text : List Char) (place : Nat) : Nat × Nat :=
  let rec go (line column left : Nat) : List Char → Nat × Nat
    | [] => (line, column)
    | c :: cs =>
        if left = 0 then (line, column)
        else if c = '\n' then go (line + 1) 0 (left - 1) cs
        else if left < c.utf8Size then (line, column + left)
        else go line (column + c.utf8Size) (left - c.utf8Size) cs
  go 1 0 place text

/-- The message with the line and the column in the text. -/
def report (text : List Char) (f : Failure) : String :=
  let (line, column) := position text f.place
  f.cause.message ++ " at line " ++ Nat.repr line ++ " column " ++ Nat.repr column

end Failure

end Landscape.Json
