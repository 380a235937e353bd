import Landscape.PathGlob.Basic

namespace Landscape.PathGlob

/-!
# Reading a path glob

The text is cut into marks: literals, stars, classes and the marks of groups. Where the text
goes wrong the marks end in the fault, so a fault that lies further left is met first. Then
double stars get their meaning from their neighbours and groups are nested.
-/

/-! ## Marks -/

inductive Mark where
  | literal (c : Char)
  /-- A literal behind a backslash. -/
  | escaped (c : Char)
  | anyByte
  | star
  | comma
  | opening
  | closing
  | byteClass (negated : Bool) (ranges : List (Char × Char))
  | broken (fault : Fault)
  deriving DecidableEq, Repr

namespace Mark

/-- The mark is the single character `c` of the text. -/
def isChar (c : Char) : Mark → Bool
  | literal d => d = c
  | star => c = '*'
  | comma => c = ','
  | opening => c = '{'
  | closing => c = '}'
  | _ => false

def lastChar : Mark → Char
  | literal c => c
  | escaped c => c
  | anyByte => '?'
  | star => '*'
  | comma => ','
  | opening => '{'
  | closing => '}'
  | byteClass _ _ => ']'
  | broken _ => ' '

end Mark

/-- A class that is being read; the ranges are in reverse. -/
structure OpenClass where
  negated : Bool
  /-- Nothing is read, a negation mark apart. -/
  fresh : Bool
  /-- A hyphen waits for the end of its range. -/
  hyphen : Bool
  ranges : List (Char × Char)

namespace OpenClass

def start : OpenClass := ⟨false, true, false, []⟩

/-- Read one character, which is not the end of the class. -/
def add (k : OpenClass) (c : Char) : Except Fault OpenClass :=
  if k.fresh then .ok { k with fresh := false, ranges := (c, c) :: k.ranges }
  else if k.hyphen then
    match k.ranges with
    | [] => .ok { k with hyphen := false }
    | (lo, _) :: rs =>
        if c < lo then .error (.invalidRange lo c)
        else .ok { k with hyphen := false, ranges := (lo, c) :: rs }
  else if c = '-' then .ok { k with hyphen := true }
  else .ok { k with ranges := (c, c) :: k.ranges }

/-- The class at its end, where a waiting hyphen stands for itself. -/
def close (k : OpenClass) : Mark :=
  let ranges := if k.hyphen then ('-', '-') :: k.ranges else k.ranges
  .byteClass k.negated ranges.reverse

end OpenClass

def charMark : Char → Mark
  | '?' => .anyByte
  | '*' => .star
  | ',' => .comma
  | '{' => .opening
  | '}' => .closing
  | c => .literal c

/-- The marks of a text, inside a class or not. -/
def marks : Option OpenClass → List Char → List Mark
  | none, [] => []
  | some _, [] => [.broken .unclosedClass]
  | none, ['\\'] => [.broken .danglingEscape]
  | none, '\\' :: c :: cs => .escaped c :: marks none cs
  | none, ['['] => [.broken .unclosedClass]
  | none, '[' :: c :: cs =>
      if c = '!' ∨ c = '^' then marks (some { OpenClass.start with negated := true }) cs
      else
        match OpenClass.start.add c with
        | .ok k => marks (some k) cs
        | .error f => [.broken f]
  | none, c :: cs => charMark c :: marks none cs
  | some k, c :: cs =>
      if c = ']' && !k.fresh then k.close :: marks none cs
      else
        match k.add c with
        | .ok k => marks (some k) cs
        | .error f => [.broken f]

/-! ## Nesting -/

/-- Groups that are being read: the alternatives so far and the tokens before the group. -/
abbrev OpenGroups := List (List (List Token) × List Token)

/-- A glob that is being read; all lists are in reverse. -/
structure Draft where
  here : List Token
  groups : OpenGroups

namespace Draft

def push (d : Draft) (t : Token) : Draft := { d with here := t :: d.here }

def openGroup (d : Draft) : Draft := ⟨[], ([], d.here) :: d.groups⟩

/-- A comma parts alternatives inside a group and is itself outside. -/
def comma (d : Draft) : Draft :=
  match d.groups with
  | [] => d.push (.literal ',')
  | (done, before) :: gs => ⟨[], (d.here.reverse :: done, before) :: gs⟩

def closeGroup (d : Draft) : Except Fault Draft :=
  match d.groups with
  | [] => .error .unopenedGroup
  | (done, before) :: gs => .ok ⟨.group (d.here.reverse :: done).reverse :: before, gs⟩

/-- Put directories in the place of the last token, unless it is of such a kind itself. -/
def join (d : Draft) (t : Token) : Draft :=
  match d.here with
  | .leadingDirs :: _ => d
  | .trailingPath :: _ => d
  | _ :: ts => { d with here := t :: ts }
  | [] => d.push t

/-- What a double star does between the character `prev` and the mark `next`; the second part
says whether it takes a slash that follows. -/
def doubleStar (d : Draft) (prev : Option Char) (next : Option Mark) : Draft × Bool :=
  let slashNext := next.any (Mark.isChar '/')
  let inGroup := !d.groups.isEmpty
  if d.here.isEmpty then
    if next.isNone || slashNext then (d.push .leadingDirs, true)
    else ((d.push .segment).push .segment, false)
  else if prev = some '/' || (inGroup && (prev = some ',' || prev = some '{')) then
    if next.isNone || (inGroup && next.any fun m => m.isChar ',' || m.isChar '}') then
      (d.join .trailingPath, false)
    else if slashNext then (d.join .innerDirs, true)
    else ((d.push .segment).push .segment, false)
  else ((d.push .segment).push .segment, false)

/-- Read marks on, after the character `prev`. -/
def read (d : Draft) (prev : Option Char) : List Mark → Except Fault Draft
  | [] => .ok d
  | .star :: .star :: ms =>
      match d.doubleStar prev ms.head? with
      | (d, true) => read d (some '/') ms.tail
      | (d, false) => read d (some '*') ms
  | m :: ms =>
      match m with
      | .literal c | .escaped c => read (d.push (.literal c)) (some m.lastChar) ms
      | .anyByte => read (d.push .anyByte) (some m.lastChar) ms
      | .star => read (d.push .segment) (some m.lastChar) ms
      | .comma => read d.comma (some m.lastChar) ms
      | .opening => read d.openGroup (some m.lastChar) ms
      | .closing => do
          let d ← d.closeGroup
          read d (some m.lastChar) ms
      | .byteClass negated ranges => read (d.push (.byteClass negated ranges)) (some m.lastChar) ms
      | .broken f => .error f
  termination_by ms => ms.length

end Draft

def ofText (s : List Char) : Except Fault PathGlob := do
  let d ← Draft.read ⟨[], []⟩ none (marks none s)
  if d.groups.isEmpty then return ⟨d.here.reverse⟩
  else throw .unclosedGroup

/-- The message on a glob that cannot be read. -/
def Fault.report (glob : String) (f : Fault) : String :=
  "error parsing glob '" ++ glob ++ "': " ++ f.message

end Landscape.PathGlob
