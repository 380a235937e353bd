import Landscape.Json.Number

namespace Landscape.Json

/-!
# Values and how they are printed

A value is printed over several lines, two blanks for each level. An object is printed in the
order of its members.
-/

inductive Value where
  | null
  | bool (b : Bool)
  | integer (n : Int)
  | double (negative : Bool) (x : Decimal.Double)
  | text (s : String)
  | list (vs : List Value)
  | object (ms : List (String × Value))
  deriving Inhabited

namespace Value

def nat (n : Nat) : Value := integer n

/-- A line feed and the blanks of a level. -/
def newLine (level : Nat) : List Char := '\n' :: List.replicate (2 * level) ' '

mutual

/-- The text of a value that stands at a level. -/
def print (level : Nat) : Value → List Char
  | null => "null".toList
  | bool b => if b then "true".toList else "false".toList
  | integer n => (toString n).toList
  | double negative x => (Decimal.Layout.standard.text negative x).toList
  | text s => Text.inDocument s
  | list [] => ['[', ']']
  | list (v :: vs) =>
      '[' :: newLine (level + 1) ++ v.print (level + 1) ++ printItems (level + 1) vs ++
        newLine level ++ [']']
  | object [] => ['{', '}']
  | object (m :: ms) =>
      '{' :: newLine (level + 1) ++ printMember (level + 1) m ++ printMembers (level + 1) ms ++
        newLine level ++ ['}']

def printItems (level : Nat) : List Value → List Char
  | [] => []
  | v :: vs => ',' :: newLine level ++ v.print level ++ printItems level vs

def printMember (level : Nat) : String × Value → List Char
  | (k, v) => Text.inDocument k ++ [':', ' '] ++ v.print level

def printMembers (level : Nat) : List (String × Value) → List Char
  | [] => []
  | m :: ms => ',' :: newLine level ++ printMember level m ++ printMembers level ms

end

/-- The text of a whole document, with a line feed at its end. -/
def toText (v : Value) : String := String.ofList (v.print 0 ++ ['\n'])

/-! ## Members of an object -/

/-- A member that is always written. -/
def member (name : String) (v : Value) : List (String × Value) := [(name, v)]

/-- A member that is written if there is a value. -/
def memberIf {α : Type} (name : String) (a : Option α) (f : α → Value) : List (String × Value) :=
  match a with
  | none => []
  | some a => [(name, f a)]

/-- A member that is written unless the list is empty. -/
def memberList {α : Type} (name : String) (as : List α) (f : α → Value) : List (String × Value) :=
  if as.isEmpty then [] else [(name, list (as.map f))]

/-- An object with a text under each key. -/
def ofTexts (m : List (String × String)) : Value := object (m.map fun e => (e.1, text e.2))

end Value

end Landscape.Json
