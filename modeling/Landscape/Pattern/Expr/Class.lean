import Landscape.Pattern.Expr.Escape

namespace Landscape.Expr

/-!
# Classes in brackets

A class is read from its opening bracket to the bracket that closes it. Open classes and
operations that wait for their right side are kept on a stack.
-/

open Text

/-- What waits while a class is read. -/
inductive ClassFrame where
  /-- A class inside another one, whose items so far are `outer`. -/
  | opened (outer : ClassExpr) (negated : Bool)
  | operation (op : SetOp) (left : ClassExpr)

def addItem (items item : ClassExpr) : ClassExpr :=
  if items = .nothing then item else .union items item

/-- The items with the operation that waited for them. -/
def closeOperation (items : ClassExpr) : List ClassFrame → ClassExpr × List ClassFrame
  | .operation op left :: frames => (.combine op left items, frames)
  | frames => (items, frames)

/-- A beginning of a class: whether it is negated, and the characters that stand for
themselves only at the beginning. -/
def openClass (free : Bool) (s : List Char) :
    Except PatternError (Bool × ClassExpr × List Char) :=
  let (negated, s) :=
    match skip free s with
    | '^' :: cs => (true, skip free cs)
    | s => (false, s)
  let (dashes, rest) := spanParts free (· = '-') false s
  let items := dashes.foldl (fun items c => addItem items (.literal ⟨c, false⟩)) .nothing
  match rest with
  | [] => .error .classUnclosed
  | ']' :: cs =>
      if dashes.isEmpty then
        match skip free cs with
        | [] => .error .classUnclosed
        | rest => .ok (negated, .literal ⟨']', false⟩, rest)
      else .ok (negated, items, rest)
  | rest => .ok (negated, items, rest)

/-- An ASCII class by name, after its opening bracket. -/
def asciiClass? (s : List Char) : Option (ClassExpr × List Char) :=
  match s with
  | ':' :: cs =>
      let (negated, cs) :=
        match cs with
        | '^' :: cs => (true, cs)
        | cs => (false, cs)
      match cs.span (· ≠ ':') with
      | (name, ':' :: ']' :: rest) =>
          (AsciiClass.ofName? (String.ofList name)).map fun k => (.ascii k negated, rest)
      | _ => none
  | _ => none

def classPart (free : Bool) : List Char → Except PatternError (Expr × List Char)
  | [] => .error .classUnclosed
  | '\\' :: cs => escape free cs
  | c :: cs => .ok (.literal ⟨c, false⟩, cs)

def itemOfPart : Expr → Except PatternError ClassExpr
  | .literal l => .ok (.literal l)
  | .short k negated => .ok (.short k negated)
  | .property q negated => .ok (.property q negated)
  | _ => .error .classEscapeInvalid

def literalOfPart : Expr → Except PatternError Literal
  | .literal l => .ok l
  | _ => .error .classRangeLiteral

/-- The text beyond blanks and at most one number sign. The words of a comment stay. -/
def pastSpacing (s : List Char) : List Char :=
  match s.dropWhile isBlank with
  | '#' :: cs => cs.dropWhile isBlank
  | s => s

/-- Whether a hyphen that precedes `s` stands for itself or for a difference. In free spacing
this is judged by the first word of a comment, if one follows. -/
def hyphenIsItem (free : Bool) (s : List Char) : Bool :=
  match if free then pastSpacing s else s with
  | ']' :: _ | '-' :: _ => true
  | _ => false

def classItem (free : Bool) (s : List Char) : Except PatternError (ClassExpr × List Char) := do
  let (part, rest) ← classPart free s
  match skip free rest with
  | [] => .error .classUnclosed
  | '-' :: cs =>
      if hyphenIsItem free cs then
        return (← itemOfPart part, '-' :: cs)
      else
        match skip free cs with
        | [] => .error .classUnclosed
        | cs =>
            let (upper, rest) ← classPart free cs
            let lo ← literalOfPart part
            let hi ← literalOfPart upper
            if lo.char.toNat ≤ hi.char.toNat then .ok (.range lo hi, rest)
            else .error .classRangeInvalid
  | rest => return (← itemOfPart part, rest)

def setOp? : List Char → Option (SetOp × List Char)
  | '&' :: '&' :: cs => some (.inter, cs)
  | '-' :: '-' :: cs => some (.diff, cs)
  | '~' :: '~' :: cs => some (.symmDiff, cs)
  | _ => none

/-- One step inside a class: either the outermost class closes, or there is more to read. -/
inductive ClassStep where
  | done (negated : Bool) (a : ClassExpr) (rest : List Char)
  | more (items : ClassExpr) (frames : List ClassFrame) (rest : List Char)

def classStep (free : Bool) (items : ClassExpr) (frames : List ClassFrame) (s : List Char) :
    Except PatternError ClassStep :=
  match skip free s with
  | [] => .error .classUnclosed
  | '[' :: cs =>
      match asciiClass? cs with
      | some (item, rest) => .ok (.more (addItem items item) frames rest)
      | none => do
          let (negated, inner, rest) ← openClass free cs
          .ok (.more inner (.opened items negated :: frames) rest)
  | ']' :: cs =>
      match closeOperation items frames with
      | (a, .opened outer negated :: frames) =>
          if frames.isEmpty then .ok (.done negated a cs)
          else .ok (.more (addItem outer (.bracketed negated a)) frames cs)
      | _ => .error .classUnclosed
  | s =>
      match setOp? s with
      | some (op, rest) =>
          let (left, frames) := closeOperation items frames
          .ok (.more .nothing (.operation op left :: frames) rest)
      | none => do
          let (item, rest) ← classItem free s
          .ok (.more (addItem items item) frames rest)

/-- Read on until the outermost class closes. Each step shortens the text. -/
def readClass (free : Bool) (items : ClassExpr) (frames : List ClassFrame) (s : List Char) :
    Except PatternError (Expr × List Char) :=
  match classStep free items frames s with
  | .error e => .error e
  | .ok (.done negated a rest) => .ok (.bracketed negated a, rest)
  | .ok (.more items frames rest) =>
      if rest.length < s.length then readClass free items frames rest
      else .error .classUnclosed
termination_by s.length

/-- The class whose opening bracket has been read. -/
def bracketClass (free : Bool) (s : List Char) : Except PatternError (Expr × List Char) := do
  let (negated, items, rest) ← openClass free s
  readClass free items [.opened .nothing negated] rest

end Landscape.Expr
